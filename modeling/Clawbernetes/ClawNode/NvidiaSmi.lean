import Clawbernetes.ClawProto.SelectorReading
import Clawbernetes.Library.Separators

/-!
# The GPUs of a node

`GpuManager` of `gpu.rs` detects the GPUs of a node by what `nvidia-smi` prints: a line for each,
with its fields between commas and blanks. A line with fewer than four fields is passed over, and a
number that cannot be read is zero.

`detected_readable` says which GPUs can come out of this: those whose texts are trimmed and have
neither a comma with a blank behind it nor a line feed. These are read back as they are printed, and
no others are.
-/

set_option autoImplicit false
set_option relaxedAutoImplicit false

namespace Clawbernetes.ClawNode

open ClawProto (isWhitespace)
open ClawProto.GpuSelector (trim)
open Library.Decimals Library.Separators Library.TextSearch

/-- `GpuInfo`. -/
structure GpuInfo where
  index : UInt32
  name : String
  uuid : String
  memoryTotalMb : UInt64
  pciBusId : Option String
  deriving DecidableEq

/-- `GpuManager`. -/
structure GpuManager where
  gpus : List GpuInfo
  nvidiaAvailable : Bool
  deriving DecidableEq

namespace GpuManager

/-- The number of a field, which is zero when it cannot be read. -/
def numberOf (bound : ℕ) (field : List Char) : ℕ := (parseUnsigned bound (trim field)).getD 0

/-- The text of a field. -/
def textOf (field : List Char) : String := String.ofList (trim field)

/-- The GPU of a line with at least four fields. -/
def parseLine (line : List Char) : Option GpuInfo :=
  match splitPair ',' ' ' line with
  | index :: name :: uuid :: memoryTotal :: rest => some
    { index := UInt32.ofNat (numberOf (2 ^ 32) index)
      name := textOf name
      uuid := textOf uuid
      memoryTotalMb := UInt64.ofNat (numberOf (2 ^ 64) memoryTotal)
      pciBusId := rest.head?.map textOf }
  | _ => none

/-- The loop of `GpuManager::detect_nvidia_gpus` over the lines of the output. -/
def detectNvidiaGpus (stdout : List Char) : List GpuInfo := (lines stdout).filterMap parseLine

/-- `GpuManager::detect_gpus`, for the output of the program, or none when it cannot be run or
fails. -/
def detectGpus (stdout : Option (List Char)) : GpuManager :=
  match stdout with
  | some stdout => ⟨detectNvidiaGpus stdout, true⟩
  | none => ⟨[], false⟩

/-! ### Fields that are read back -/

/-- The text of a field that is read as it is. -/
structure Clean (text : List Char) : Prop where
  trimmed : trim text = text
  separator : ¬ [',', ' '] <:+: text
  feed : lineFeed ∉ text

/-- The texts of a GPU. -/
def texts (gpu : GpuInfo) : List String := gpu.name :: gpu.uuid :: gpu.pciBusId.toList

/-- The texts of a GPU are read as they are. -/
def Readable (gpu : GpuInfo) : Prop := ∀ text ∈ texts gpu, Clean text.toList

/-- The fields of a GPU as `nvidia-smi` prints them. -/
def printedFields (gpu : GpuInfo) : List (List Char) :=
  [(toString gpu.index.toNat).toList, gpu.name.toList, gpu.uuid.toList,
    (toString gpu.memoryTotalMb.toNat).toList] ++ gpu.pciBusId.toList.map String.toList

/-- A line for each GPU. -/
def printed (gpus : List GpuInfo) : List Char :=
  gpus.flatMap fun gpu ↦ joinPair ',' ' ' (printedFields gpu) ++ [lineFeed]

/-- The digits of a number are read as they are. -/
theorem clean_decimal (number : ℕ) : Clean (toString number).toList := by
  have hdigits : (toString number).toList = Nat.toDigits 10 number := Nat.toList_repr
  have hall : AllDigits (toString number).toList := by
    rw [hdigits]
    exact allDigits_toDigits number
  have hvisible : ∀ character ∈ (toString number).toList, isWhitespace character = false :=
    fun character hmem ↦ ClawProto.Cel.isWhitespace_of_isDigit (hall character hmem)
  have hne : (toString number).toList ≠ [] := by
    rw [hdigits]
    exact Nat.toDigits_ne_nil
  constructor
  · obtain ⟨first, rest, htext⟩ := List.exists_cons_of_ne_nil hne
    have hbegins : Begins (fun character ↦ isWhitespace character = false)
        (toString number).toList :=
      ⟨first, rest, htext, hvisible first (htext ▸ List.mem_cons_self)⟩
    exact trimmed_of_begins_of_ends hbegins (ends_of_forall hne hvisible)
  · intro hinfix
    have hmem : ',' ∈ (toString number).toList := hinfix.subset List.mem_cons_self
    exact hall.not_mem rfl hmem
  · exact hall.not_mem rfl

/-- The digits of a number below the bound are read as it. -/
theorem numberOf_decimal {bound number : ℕ} (hnumber : number < bound) :
    numberOf bound (toString number).toList = number := by
  have hdigits : (toString number).toList = Nat.toDigits 10 number := Nat.toList_repr
  have hparse : parseUnsigned bound (toString number).toList = some number := by
    refine parseUnsigned_eq_some_iff.mpr ⟨_, .inl rfl, ?_, ?_, ?_, hnumber⟩
    · rw [hdigits]
      exact Nat.toDigits_ne_nil
    · rw [hdigits]
      exact allDigits_toDigits number
    · rw [hdigits, digitsValue_toDigits]
  rw [numberOf, (clean_decimal number).trimmed, hparse, Option.getD_some]

/-- A text that is clean is read as it is. -/
theorem textOf_clean {text : String} (hclean : Clean text.toList) : textOf text.toList = text := by
  rw [textOf, hclean.trimmed, String.ofList_toList]

/-- A part of a line is clean once it is trimmed. -/
theorem clean_textOf {line : List Char} (hfeed : lineFeed ∉ line) {part : List Char}
    (hpart : part ∈ splitPair ',' ' ' line) : Clean (textOf part).toList := by
  rw [textOf, String.toList_ofList]
  have hpiece : trim part <:+: part := trimmed_infix isWhitespace part
  constructor
  · exact trimmed_trimmed isWhitespace part
  · exact fun hseparator ↦ not_infix_of_mem_splitPair part hpart (hseparator.trans hpiece)
  · have hline : part <:+: line := by
      rw [← joinPair_splitPair line]
      exact infix_joinPair_of_mem hpart
    exact fun hmem ↦ hfeed (hline.subset (hpiece.subset hmem))

/-- The GPU of a line has clean texts. -/
theorem readable_of_parseLine {line : List Char} (hfeed : lineFeed ∉ line) {gpu : GpuInfo}
    (hgpu : parseLine line = some gpu) : Readable gpu := by
  unfold parseLine at hgpu
  split at hgpu
  · rename_i index name uuid memoryTotal rest hparts
    obtain rfl := Option.some.inj hgpu
    have hclean : ∀ part ∈ index :: name :: uuid :: memoryTotal :: rest,
        Clean (textOf part).toList := fun part hpart ↦ clean_textOf hfeed (hparts ▸ hpart)
    have hbus : ∀ text ∈ (rest.head?.map textOf).toList, Clean text.toList := by
      intro text htext
      obtain ⟨part, hpart, rfl⟩ := Option.map_eq_some_iff.mp (Option.mem_toList.mp htext)
      exact hclean part (by simp [List.mem_of_head? hpart])
    exact List.forall_mem_cons.mpr ⟨hclean name (by simp),
      List.forall_mem_cons.mpr ⟨hclean uuid (by simp), hbus⟩⟩
  · cases hgpu

/-- The fields of a readable GPU are clean. -/
theorem clean_printedFields {gpu : GpuInfo} (hreadable : Readable gpu) :
    ∀ field ∈ printedFields gpu, Clean field := by
  obtain ⟨hname, hrest⟩ := List.forall_mem_cons.mp hreadable
  obtain ⟨huuid, hbus⟩ := List.forall_mem_cons.mp hrest
  simp only [printedFields, List.cons_append, List.nil_append, List.forall_mem_cons, List.mem_map]
  refine ⟨clean_decimal _, hname, huuid, clean_decimal _, ?_⟩
  rintro _ ⟨bus, hmem, rfl⟩
  exact hbus bus hmem

/-- The line of a readable GPU is read back. -/
theorem parseLine_printed {gpu : GpuInfo} (hreadable : Readable gpu) :
    parseLine (joinPair ',' ' ' (printedFields gpu)) = some gpu := by
  obtain ⟨hname, hrest⟩ := List.forall_mem_cons.mp hreadable
  obtain ⟨huuid, hbus⟩ := List.forall_mem_cons.mp hrest
  have hsplit : splitPair ',' ' ' (joinPair ',' ' ' (printedFields gpu)) = printedFields gpu :=
    splitPair_joinPair (by decide) (List.cons_ne_nil _ _)
      fun field hfield ↦ (clean_printedFields hreadable field hfield).separator
  have hbusText : ((gpu.pciBusId.toList.map String.toList).head?).map textOf = gpu.pciBusId := by
    cases hfound : gpu.pciBusId with
    | none => rfl
    | some bus =>
      have hclean : Clean bus.toList := hbus bus (by simp [hfound])
      exact congrArg some (textOf_clean hclean)
  rw [parseLine, hsplit]
  simp only [printedFields, List.cons_append, List.nil_append,
    numberOf_decimal gpu.index.toNat_lt, numberOf_decimal gpu.memoryTotalMb.toNat_lt,
    textOf_clean hname, textOf_clean huuid, hbusText, UInt32.ofNat_toNat, UInt64.ofNat_toNat]

/-- The line of a readable GPU is a line. -/
theorem line_printed {gpu : GpuInfo} (hreadable : Readable gpu) :
    lineFeed ∉ joinPair ',' ' ' (printedFields gpu) ∧
      withoutReturn (joinPair ',' ' ' (printedFields gpu)) =
        joinPair ',' ' ' (printedFields gpu) := by
  have hclean := clean_printedFields hreadable
  constructor
  · intro hfeed
    rcases mem_joinPair hfeed with hcomma | hblank | ⟨field, hfield, hmem⟩
    · cases hcomma
    · cases hblank
    · exact (hclean field hfield).feed hmem
  · refine if_neg fun hreturn ↦ ?_
    rcases getLast?_joinPair hreturn with hblank | ⟨field, hfield, hlast⟩
    · cases hblank
    · rw [← (hclean field hfield).trimmed] at hlast
      cases not_of_getLast?_trimmed hlast

/-- Readable GPUs that are printed, each on its line, are detected again. -/
theorem detectNvidiaGpus_printed {gpus : List GpuInfo} (hreadable : ∀ gpu ∈ gpus, Readable gpu) :
    detectNvidiaGpus (printed gpus) = gpus := by
  have hlines := lines_flatMap (gpus.map fun gpu ↦ joinPair ',' ' ' (printedFields gpu)) <| by
    intro line hline
    obtain ⟨gpu, hgpu, rfl⟩ := List.mem_map.mp hline
    exact line_printed (hreadable gpu hgpu)
  rw [List.flatMap_map] at hlines
  rw [detectNvidiaGpus, printed, hlines, List.filterMap_map]
  have hread : ∀ gpu ∈ gpus,
      (parseLine ∘ fun gpu ↦ joinPair ',' ' ' (printedFields gpu)) gpu = some gpu :=
    fun gpu hgpu ↦ parseLine_printed (hreadable gpu hgpu)
  rw [List.filterMap_congr hread]
  exact List.filterMap_some

/-- Every GPU that is detected has texts that are trimmed and have neither a comma with a blank
behind it nor a line feed, whatever is printed. GPUs are detected as they are printed, each on its
line, if and only if all of them are such GPUs. -/
theorem detected_readable :
    (∀ stdout, ∀ gpu ∈ (detectGpus stdout).gpus, Readable gpu) ∧
    ∀ gpus, (detectGpus (some (printed gpus))).gpus = gpus ↔ ∀ gpu ∈ gpus, Readable gpu := by
  have hall : ∀ stdout, ∀ gpu ∈ (detectGpus stdout).gpus, Readable gpu := by
    intro stdout gpu hgpu
    cases stdout with
    | none => cases hgpu
    | some stdout =>
      obtain ⟨line, hline, hparse⟩ := List.mem_filterMap.mp hgpu
      exact readable_of_parseLine (not_mem_of_mem_lines line hline) hparse
  refine ⟨hall, fun gpus ↦ ⟨fun hsame gpu hgpu ↦ ?_, detectNvidiaGpus_printed⟩⟩
  rw [← hsame] at hgpu
  exact hall _ gpu hgpu

end GpuManager

end Clawbernetes.ClawNode
