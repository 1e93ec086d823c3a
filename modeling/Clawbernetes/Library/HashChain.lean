import Mathlib.Data.List.Basic
import Mathlib.Data.List.Induction

/-!
# Hash-linked lists

A list of entries is linked when each entry names the digest of the entry before it, and the first
one names none (`Linked`). Two facts carry every use of such a list. An entry that names the digest
of the last one can be appended (`linked_concat_iff`), and the digest of the last entry determines
the whole list: walking back along the links, two linked lists of one length with the same last
digest agree in all that the digests determine (`map_view_eq_of_linked`). Which parts of an entry a
digest determines is a parameter, the view; entries with the same views cannot be told apart by the
links (`linked_of_map_eq`, `map_eq_of_map_view_eq`).

A list of blocks is hashed into such a chain by joining every block with the digest before it
(`chainedInputs`). The digests determine the blocks, when a join determines its block and there is
no collision between inputs at the same place (`eq_of_map_chainedInputs_eq`).
-/

set_option autoImplicit false
set_option relaxedAutoImplicit false

namespace Library.HashChain

variable {Entry Digest View : Type*} {digest : Entry → Digest} {link : Entry → Option Digest}
  {view : Entry → View}

/-- Every entry names the digest of the entry before it, the first one the prior digest. -/
def Linked (digest : Entry → Digest) (link : Entry → Option Digest) :
    Option Digest → List Entry → Prop
  | _, [] => True
  | prior, entry :: rest => link entry = prior ∧ Linked digest link (some (digest entry)) rest

/-- The digest that the next entry has to name. -/
def headDigest (digest : Entry → Digest) (prior : Option Digest) (entries : List Entry) :
    Option Digest :=
  (entries.getLast?.map digest).or prior

/-- The next entry of a longer list names the digest that it names behind the first entry. -/
theorem headDigest_cons (prior : Option Digest) (entry : Entry) (rest : List Entry) :
    headDigest digest prior (entry :: rest) = headDigest digest (some (digest entry)) rest := by
  unfold headDigest
  rw [List.getLast?_cons]
  cases rest.getLast? with
  | none => rfl
  | some last => rfl

/-- A list is linked with one more entry exactly when the entry names the last digest. -/
theorem linked_concat_iff {prior : Option Digest} {entries : List Entry} {entry : Entry} :
    Linked digest link prior (entries ++ [entry]) ↔
      Linked digest link prior entries ∧ link entry = headDigest digest prior entries := by
  induction entries generalizing prior with
  | nil => exact and_comm
  | cons first rest ih =>
    rw [List.cons_append, Linked, ih, Linked, headDigest_cons, and_assoc]

/-- Being linked depends on the digests and the links of the entries only. -/
theorem linked_of_map_eq {first second : List Entry} {prior : Option Digest}
    (hdigests : first.map digest = second.map digest) (hlinks : first.map link = second.map link)
    (hfirst : Linked digest link prior first) : Linked digest link prior second := by
  induction first generalizing second prior with
  | nil => rw [List.map_eq_nil_iff.mp hdigests.symm]; trivial
  | cons entry rest ih =>
    cases second with
    | nil => cases hdigests
    | cons other others =>
      rw [List.map_cons, List.map_cons, List.cons.injEq] at hdigests hlinks
      refine ⟨hlinks.1.symm.trans hfirst.1, ?_⟩
      rw [← hdigests.1]
      exact ih hdigests.2 hlinks.2 hfirst.2

/-- What the views of entries determine agrees where the views agree. -/
theorem map_eq_of_map_view_eq {Part : Type*} {part : Entry → Part} {first second : List Entry}
    (hpart : ∀ entry other, view entry = view other → part entry = part other)
    (hview : first.map view = second.map view) : first.map part = second.map part := by
  induction first generalizing second with
  | nil => rw [List.map_eq_nil_iff.mp hview.symm]
  | cons entry rest ih =>
    cases second with
    | nil => cases hview
    | cons other others =>
      rw [List.map_cons, List.map_cons, List.cons.injEq] at hview
      rw [List.map_cons, List.map_cons, hpart entry other hview.1, ih hview.2]

/-- Two linked lists of one length that end in entries of one digest agree in what the digests
determine, when the digest of an entry determines its view and its link. -/
theorem map_view_eq_of_linked {first second : List Entry} (hlength : first.length = second.length)
    (hfirst : Linked digest link none first) (hsecond : Linked digest link none second)
    (hlast : first.getLast?.map digest = second.getLast?.map digest)
    (hdetermines : ∀ pair ∈ first.zip second, digest pair.1 = digest pair.2 →
      view pair.1 = view pair.2 ∧ link pair.1 = link pair.2) :
    first.map view = second.map view := by
  -- backwards along the links: the last digests are equal, so are the links, the digests before
  induction first using List.reverseRecOn generalizing second with
  | nil => rw [List.eq_nil_of_length_eq_zero hlength.symm]
  | append_singleton first entry ih =>
    rcases List.eq_nil_or_concat second with rfl | ⟨second, other, rfl⟩
    · simp at hlength
    simp only [List.concat_eq_append] at hlength hsecond hlast hdetermines ⊢
    rw [List.length_append, List.length_append] at hlength
    have hsame : first.length = second.length := Nat.add_right_cancel hlength
    rw [List.zip_append hsame] at hdetermines
    rw [List.getLast?_concat, List.getLast?_concat] at hlast
    obtain ⟨hview, hlink⟩ := hdetermines (entry, other)
      (List.mem_append_right _ List.mem_cons_self) (Option.some.inj hlast)
    obtain ⟨hfirst, hentry⟩ := linked_concat_iff.mp hfirst
    obtain ⟨hsecond, hother⟩ := linked_concat_iff.mp hsecond
    rw [hentry, hother, headDigest, headDigest, Option.or_none, Option.or_none] at hlink
    rw [List.map_append, List.map_append, ih hsame hfirst hsecond hlink fun pair hpair ↦
      hdetermines pair (List.mem_append_left _ hpair)]
    rw [List.map_singleton, List.map_singleton, hview]

/-! ### Chains of blocks -/

section Blocks

variable {Block Input : Type*} {hash : Input → Digest} {join : Option Digest → Block → Input}

/-- The inputs that are hashed for a list of blocks: every block joined with the digest before
it. -/
def chainedInputs (hash : Input → Digest) (join : Option Digest → Block → Input) :
    Option Digest → List Block → List Input
  | _, [] => []
  | prior, block :: rest =>
    join prior block :: chainedInputs hash join (some (hash (join prior block))) rest

/-- There is one input for each block. -/
@[simp] theorem length_chainedInputs (prior : Option Digest) (blocks : List Block) :
    (chainedInputs hash join prior blocks).length = blocks.length := by
  induction blocks generalizing prior with
  | nil => rfl
  | cons block rest ih => rw [chainedInputs, List.length_cons, ih, List.length_cons]

/-- One block more is joined with the last digest. -/
theorem chainedInputs_concat (prior : Option Digest) (blocks : List Block) (block : Block) :
    chainedInputs hash join prior (blocks ++ [block]) = chainedInputs hash join prior blocks ++
      [join (headDigest hash prior (chainedInputs hash join prior blocks)) block] := by
  induction blocks generalizing prior with
  | nil => rfl
  | cons first rest ih =>
    rw [List.cons_append, chainedInputs, ih, chainedInputs, headDigest_cons, List.cons_append]

/-- The digests of a chain determine its blocks, without a collision between the inputs at one
place. -/
theorem eq_of_map_chainedInputs_eq (hjoin : ∀ prior, Function.Injective (join prior))
    {first second : List Block} {prior : Option Digest}
    (hseparated : ∀ pair ∈ (chainedInputs hash join prior first).zip
      (chainedInputs hash join prior second), hash pair.1 = hash pair.2 → pair.1 = pair.2)
    (hdigests : (chainedInputs hash join prior first).map hash =
      (chainedInputs hash join prior second).map hash) : first = second := by
  induction first generalizing second prior with
  | nil =>
    have hlength := congrArg List.length hdigests
    rw [List.length_map, List.length_map, length_chainedInputs, length_chainedInputs] at hlength
    exact (List.eq_nil_of_length_eq_zero hlength.symm).symm
  | cons block rest ih =>
    cases second with
    | nil => cases hdigests
    | cons other others =>
      rw [chainedInputs, chainedInputs, List.map_cons, List.map_cons, List.cons.injEq] at hdigests
      rw [chainedInputs, chainedInputs, List.zip_cons_cons, List.forall_mem_cons] at hseparated
      obtain rfl := hjoin prior (hseparated.1 hdigests.1)
      rw [ih hseparated.2 hdigests.2]

end Blocks

end Library.HashChain
