import Clawbernetes.ClawProto.Selector
import Mathlib.Data.List.Lex
import Mathlib.Data.String.Basic

/-!
# Selector expressions of CEL

The expressions that the documentation of `GpuRequirement::selector` allows: comparisons,
`contains`, `!` and `&&` over literals and the variables `device.index`, `device.name`,
`device.memory_mib` and `device.uuid`. An expression has a text, with any blanks around its binary
operators and with parentheses where an operator binds more tightly than its operand, and a value at
every device.

The literals are decimal numbers and quoted texts. A quoted text stands for the characters between
its marks, which is what it means in CEL as long as it has no escape sequences.
-/

set_option autoImplicit false
set_option relaxedAutoImplicit false

namespace Clawbernetes.ClawProto.Cel

open GpuSelector Library.Decimals

/-! ### Syntax -/

/-- The whitespace of CEL. -/
def blanks : List Char := [' ', '\t', '\n', '\r', Char.ofNat 12]

/-- Any amount of whitespace. -/
structure Blank where
  text : List Char
  blank : ∀ character ∈ text, character ∈ blanks

/-- The comparison operators. -/
inductive Comparison where
  | eq
  | ne
  | lt
  | le
  | gt
  | ge
  deriving DecidableEq

/-- A decimal number. -/
structure Numeral where
  negative : Bool
  digits : List Char
  nonempty : digits ≠ []
  allDigits : AllDigits digits

/-- A text between quotation marks. -/
structure Literal where
  mark : Char
  content : List Char
  isMark : isQuote mark = true
  closed : mark ∉ content

/-- The terms that stand for numbers. -/
inductive IntTerm where
  | index
  | memoryMib
  | numeral (number : Numeral)

/-- The terms that stand for texts. -/
inductive TextTerm where
  | name
  | uuid
  | quoted (literal : Literal)

/-- The expressions that stand for truth values. -/
inductive Expr where
  | constant (value : Bool)
  | compareInts (operator : Comparison) (left : IntTerm) (before after : Blank) (right : IntTerm)
  | compareTexts (operator : Comparison) (left : TextTerm) (before after : Blank) (right : TextTerm)
  | compareBools (operator : Comparison) (left : Expr) (before after : Blank) (right : Expr)
  | contains (receiver argument : TextTerm)
  | not (operand : Expr)
  | and (left : Expr) (before after : Blank) (right : Expr)
  | paren (inner : Expr)

/-! ### Texts -/

/-- The sign of an operator. -/
def Comparison.text : Comparison → List Char
  | eq => ['=', '=']
  | ne => ['!', '=']
  | lt => ['<']
  | le => ['<', '=']
  | gt => ['>']
  | ge => ['>', '=']

/-- An operator with the blanks around it. -/
def Comparison.between (operator : Comparison) (before after : Blank) : List Char :=
  before.text ++ (operator.text ++ after.text)

/-- A number with its sign. -/
def Numeral.text (number : Numeral) : List Char :=
  (if number.negative then ['-'] else []) ++ number.digits

/-- A text with its marks. -/
def Literal.text (literal : Literal) : List Char :=
  literal.mark :: (literal.content ++ [literal.mark])

/-- The text of a term for a number. -/
def IntTerm.text : IntTerm → List Char
  | index => "device.index".toList
  | memoryMib => "device.memory_mib".toList
  | numeral number => number.text

/-- The text of a term for a text. -/
def TextTerm.text : TextTerm → List Char
  | name => "device.name".toList
  | uuid => "device.uuid".toList
  | quoted literal => literal.text

namespace Expr

/-- The text of a constant. -/
def constantText (value : Bool) : List Char := if value then "true".toList else "false".toList

/-- The expression is an operand of any operator as it stands. -/
def isAtomic : Expr → Bool
  | constant _ | contains _ _ | not _ | paren _ => true
  | compareInts .. | compareTexts .. | compareBools .. | and .. => false

/-- A text in parentheses unless the expression is atomic. -/
def enclose (atomic : Bool) (text : List Char) : List Char :=
  if atomic then text else '(' :: (text ++ [')'])

/-- The text of an expression. -/
def text : Expr → List Char
  | constant value => constantText value
  | compareInts operator left before after right =>
    left.text ++ (operator.between before after ++ right.text)
  | compareTexts operator left before after right =>
    left.text ++ (operator.between before after ++ right.text)
  | compareBools operator left before after right =>
    enclose left.isAtomic left.text ++
      (operator.between before after ++ enclose right.isAtomic right.text)
  | contains receiver argument =>
    (receiver.text ++ ".contains".toList) ++ ('(' :: (argument.text ++ [')']))
  | not operand => '!' :: enclose operand.isAtomic operand.text
  | and left before after right =>
    left.text ++ (before.text ++ ('&' :: '&' :: (after.text ++ right.text)))
  | paren inner => '(' :: (inner.text ++ [')'])

/-- The operands of the outermost conjunction. -/
def conjuncts : Expr → List Expr
  | and left _ _ right => left.conjuncts ++ right.conjuncts
  | expr => [expr]

end Expr

/-! ### Values -/

/-- A GPU with its identifier, as a selector may ask for it. -/
structure Device extends GpuCapability where
  uuid : String

/-- The comparison of two values. -/
def Comparison.holds {Value : Type} [LinearOrder Value] (operator : Comparison)
    (left right : Value) : Bool :=
  match operator with
  | eq => left = right
  | ne => left ≠ right
  | lt => left < right
  | le => left ≤ right
  | gt => right < left
  | ge => right ≤ left

/-- The number that the digits stand for. -/
def Numeral.magnitude (number : Numeral) : ℕ := digitsValue number.digits

/-- The number with its sign. -/
def Numeral.value (number : Numeral) : ℤ :=
  if number.negative then -number.magnitude else number.magnitude

/-- The value of a term for a number. -/
def IntTerm.value (device : Device) : IntTerm → ℤ
  | index => device.index.toNat
  | memoryMib => device.memoryMib.toNat
  | numeral number => number.value

/-- The value of a term for a text. -/
def TextTerm.value (device : Device) : TextTerm → List Char
  | name => device.name.toList
  | uuid => device.uuid.toList
  | quoted literal => literal.content

/-- The value of an expression. -/
def Expr.value (device : Device) : Expr → Bool
  | constant value => value
  | compareInts operator left _ _ right => operator.holds (left.value device) (right.value device)
  | compareTexts operator left _ _ right => operator.holds (left.value device) (right.value device)
  | compareBools operator left _ _ right => operator.holds (left.value device) (right.value device)
  | contains receiver argument => argument.value device <:+: receiver.value device
  | not operand => !operand.value device
  | and left _ _ right => left.value device && right.value device
  | paren inner => inner.value device

/-- An expression is true when its conjuncts are. -/
theorem Expr.value_eq_true_iff (device : Device) (expr : Expr) :
    expr.value device = true ↔ ∀ conjunct ∈ expr.conjuncts, conjunct.value device = true := by
  induction expr with
  | and left before after right hleft hright =>
    rw [value, Bool.and_eq_true, hleft, hright, conjuncts, List.forall_mem_append]
  | _ => simp only [conjuncts, List.forall_mem_singleton]

end Clawbernetes.ClawProto.Cel
