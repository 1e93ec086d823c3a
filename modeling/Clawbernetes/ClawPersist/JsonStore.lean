import Clawbernetes.Library.Bytes
import Clawbernetes.Library.FiniteTable
import Mathlib.Data.List.Induction

/-!
# The JSON files of the node state

`JsonStore` of `claw-persist` keeps one map in one file. `save` serialises the map and writes the
text with `std::fs::write`, which truncates the file and then writes the bytes; `load` answers a
file that is missing, is not UTF-8 or does not parse with the empty map.

The text of a map is serde_json's. A `Codec` is its two functions at one type of records, and
`Codec.Faithful` is what is asked of them for one map: the complete text is read back, up to the
order of the entries, and no proper prefix of it is accepted.

A crash ends a sequence of writes anywhere. `crash_safety_iff` says what is loaded afterwards: the
map of the last completed save or the map being saved exactly when the crash does not fall between
the truncation and the last byte, unless one of the two is empty, and the empty map otherwise.
-/

set_option autoImplicit false
set_option relaxedAutoImplicit false

namespace Clawbernetes.ClawPersist

open Library.Bytes Library.FiniteTable

variable {Record : Type*}

/-- The two maps have the same records, in any order. -/
def SameRecords (first second : Table String Record) : Prop :=
  first.entries.Perm second.entries

/-- `serde_json::to_string_pretty` and `serde_json::from_str` for maps of one type of records. -/
structure Codec (Record : Type*) where
  toStringPretty : Table String Record → String
  fromStr : String → Option (Table String Record)

/-- The complete text of a map is read back, and its proper prefixes are rejected. -/
structure Codec.Faithful (codec : Codec Record) (data : Table String Record) : Prop where
  roundTrip : ∃ parsed, codec.fromStr (codec.toStringPretty data) = some parsed ∧
    SameRecords parsed data
  rejects : ∀ text, utf8Bytes text <+: utf8Bytes (codec.toStringPretty data) →
    text ≠ codec.toStringPretty data → codec.fromStr text = none

/-- The content of a file, when there is one. -/
abbrev File := Option (List UInt8)

/-- `std::fs::read_to_string`. -/
def readToString (file : File) : Option String :=
  file.bind fun bytes ↦ String.fromUTF8? bytes.toByteArray

/-- `JsonStore::load`. -/
def load (codec : Codec Record) (file : File) : Table String Record :=
  match readToString file with
  | none => ∅
  | some content => (codec.fromStr content).getD ∅

/-- One step of a write, between which the process can stop. -/
inductive DiskStep where
  | truncate
  | append (chunk : List UInt8)

/-- The file after a step. -/
def DiskStep.perform (file : File) : DiskStep → File
  | .truncate => some []
  | .append chunk => some (file.getD [] ++ chunk)

/-- A call of `JsonStore::save`: the map, and the chunks in which its text is written. -/
structure Save (codec : Codec Record) where
  data : Table String Record
  chunks : List (List UInt8)
  flatten_chunks : chunks.flatten = utf8Bytes (codec.toStringPretty data)

/-- The steps of a save: `std::fs::write` truncates the file and writes the chunks. -/
def Save.steps {codec : Codec Record} (save : Save codec) : List DiskStep :=
  .truncate :: save.chunks.map .append

/-- The file after the steps that were performed. -/
def fileAfter (start : File) (performed : List DiskStep) : File :=
  performed.foldl DiskStep.perform start

/-- After `written` steps the file is truncated and the last byte of the text is not written. -/
def Save.Torn {codec : Codec Record} (save : Save codec) (written : ℕ) : Prop :=
  0 < written ∧
    (save.chunks.take (written - 1)).flatten.length <
      (utf8Bytes (codec.toStringPretty save.data)).length

/-- The map of the last completed save, or what the file held before the first one. -/
def lastSaved (codec : Codec Record) (start : File) (completed : List (Save codec)) :
    Table String Record :=
  match completed.getLast? with
  | none => load codec start
  | some save => save.data

/-! ### What is in the file -/

/-- A text is read back from its bytes. -/
theorem readToString_utf8Bytes (text : String) :
    readToString (some (utf8Bytes text)) = some text := by
  have hbytes : (utf8Bytes text).toByteArray = text.toUTF8 := by
    refine ByteArray.ext ?_
    rw [List.data_toByteArray]
    exact Array.toArray_toList
  change String.fromUTF8? (utf8Bytes text).toByteArray = some text
  rw [hbytes, String.fromUTF8?, String.toUTF8_eq_toByteArray, dif_pos text.isValidUTF8]
  rfl

/-- What is read from a file is the text whose bytes it holds. -/
theorem utf8Bytes_of_readToString {bytes : List UInt8} {text : String}
    (hread : readToString (some bytes) = some text) : utf8Bytes text = bytes := by
  change String.fromUTF8? bytes.toByteArray = some text at hread
  rw [String.fromUTF8?] at hread
  split_ifs at hread with hvalid
  obtain rfl := Option.some_inj.mp hread
  exact List.toList_data_toByteArray

/-- Steps that follow others are performed on the file the others leave. -/
theorem fileAfter_concat (start : File) (earlier later : List DiskStep) :
    fileAfter start (earlier ++ later) = fileAfter (fileAfter start earlier) later :=
  List.foldl_append

/-- Chunks are written behind what the file holds. -/
theorem fileAfter_append (chunks : List (List UInt8)) :
    ∀ bytes : List UInt8,
      fileAfter (some bytes) (chunks.map .append) = some (bytes ++ chunks.flatten) := by
  induction chunks with
  | nil => intro bytes; simp [fileAfter]
  | cons chunk rest ih =>
    intro bytes
    change fileAfter (some (bytes ++ chunk)) (rest.map .append) = _
    rw [ih, List.flatten_cons, List.append_assoc]

/-- After the truncation and some chunks, the file holds these chunks. -/
theorem fileAfter_take {codec : Codec Record} (start : File) (save : Save codec) (count : ℕ) :
    fileAfter start (save.steps.take (count + 1)) = some (save.chunks.take count).flatten := by
  unfold Save.steps
  rw [List.take_succ_cons, ← List.map_take]
  exact fileAfter_append (save.chunks.take count) []

/-- A completed save leaves the text of its map. -/
theorem fileAfter_steps {codec : Codec Record} (start : File) (save : Save codec) :
    fileAfter start save.steps = some (utf8Bytes (codec.toStringPretty save.data)) := by
  rw [← save.flatten_chunks]
  exact fileAfter_append save.chunks []

/-- Completed saves leave the text of the last map. -/
theorem fileAfter_completed {codec : Codec Record} (start : File) (completed : List (Save codec)) :
    fileAfter start (completed.flatMap Save.steps) =
      match completed.getLast? with
      | none => start
      | some save => some (utf8Bytes (codec.toStringPretty save.data)) := by
  induction completed using List.reverseRecOn with
  | nil => rfl
  | append_singleton earlier save _ =>
    rw [List.flatMap_append, List.flatMap_singleton, List.getLast?_concat, fileAfter_concat]
    exact fileAfter_steps _ save

/-! ### What is loaded -/

/-- The complete text of a map is loaded as the map. -/
theorem load_complete {codec : Codec Record} {data : Table String Record}
    (hfaithful : codec.Faithful data) :
    SameRecords (load codec (some (utf8Bytes (codec.toStringPretty data)))) data := by
  obtain ⟨parsed, hparsed, hsame⟩ := hfaithful.roundTrip
  unfold load
  rw [readToString_utf8Bytes]
  change SameRecords ((codec.fromStr (codec.toStringPretty data)).getD ∅) data
  rw [hparsed]
  exact hsame

/-- A torn text is loaded as the empty map. -/
theorem load_torn {codec : Codec Record} {data : Table String Record} {bytes : List UInt8}
    (hfaithful : codec.Faithful data) (hbegins : bytes <+: utf8Bytes (codec.toStringPretty data))
    (hshort : bytes.length < (utf8Bytes (codec.toStringPretty data)).length) :
    load codec (some bytes) = ∅ := by
  unfold load
  cases hread : readToString (some bytes) with
  | none => rfl
  | some content =>
    have hbytes := utf8Bytes_of_readToString hread
    have hrejected : codec.fromStr content = none := by
      refine hfaithful.rejects content (by rwa [hbytes]) fun hsame ↦ ?_
      rw [← hsame, hbytes] at hshort
      exact lt_irrefl _ hshort
    change (codec.fromStr content).getD ∅ = ∅
    rw [hrejected]
    rfl

/-- The completed saves are loaded as the last map. -/
theorem load_completed {codec : Codec Record} {start : File} {completed : List (Save codec)}
    (hfaithful : ∀ save ∈ completed, codec.Faithful save.data) :
    SameRecords (load codec (fileAfter start (completed.flatMap Save.steps)))
      (lastSaved codec start completed) := by
  rw [fileAfter_completed]
  unfold lastSaved
  cases hlast : completed.getLast? with
  | none => exact List.Perm.refl _
  | some save => exact load_complete (hfaithful save (List.mem_of_getLast? hlast))

/-- The empty map has the records of the empty map only. -/
theorem sameRecords_empty_iff (data : Table String Record) : SameRecords ∅ data ↔ data = ∅ := by
  constructor
  · intro hsame
    exact AList.ext (List.nil_perm.mp hsame)
  · rintro rfl
    exact List.Perm.refl _

/-- What is in the file after the truncation and some chunks is a prefix of the text. -/
theorem flatten_take_begins {codec : Codec Record} (save : Save codec) (count : ℕ) :
    (save.chunks.take count).flatten <+: utf8Bytes (codec.toStringPretty save.data) := by
  rw [← save.flatten_chunks]
  refine ⟨(save.chunks.drop count).flatten, ?_⟩
  rw [← List.flatten_append, List.take_append_drop]

/-- A crash that does not tear the current save leaves the last completed map or the one being
saved. -/
theorem load_of_not_torn {codec : Codec Record} {start : File} {completed : List (Save codec)}
    {current : Save codec} {written : ℕ}
    (hfaithful : ∀ save ∈ completed ++ [current], codec.Faithful save.data)
    (hwhole : ¬ current.Torn written) :
    let loaded :=
      load codec (fileAfter start (completed.flatMap Save.steps ++ current.steps.take written))
    SameRecords loaded (lastSaved codec start completed) ∨ SameRecords loaded current.data := by
  intro loaded
  cases written with
  | zero =>
    refine Or.inl ?_
    have hcompleted : SameRecords (load codec (fileAfter start (completed.flatMap Save.steps)))
        (lastSaved codec start completed) :=
      load_completed fun save hsave ↦ hfaithful save (List.mem_append_left [current] hsave)
    rwa [← List.append_nil (completed.flatMap Save.steps)] at hcompleted
  | succ count =>
    refine Or.inr ?_
    have hlength : (utf8Bytes (codec.toStringPretty current.data)).length ≤
        (current.chunks.take count).flatten.length := by
      by_contra hshort
      exact hwhole ⟨Nat.succ_pos count, Nat.not_le.mp hshort⟩
    have hbytes : (current.chunks.take count).flatten =
        utf8Bytes (codec.toStringPretty current.data) :=
      (flatten_take_begins current count).eq_of_length_le hlength
    have hloaded := load_complete (hfaithful current (by simp))
    rwa [← hbytes, ← fileAfter_take (fileAfter start (completed.flatMap Save.steps)),
      ← fileAfter_concat] at hloaded

/-- A crash that tears the current save loses everything. -/
theorem load_of_torn {codec : Codec Record} {start : File} {performed : List DiskStep}
    {current : Save codec} {written : ℕ} (hfaithful : codec.Faithful current.data)
    (htorn : current.Torn written) :
    load codec (fileAfter start (performed ++ current.steps.take written)) = ∅ := by
  obtain ⟨hpositive, hshort⟩ := htorn
  obtain ⟨count, rfl⟩ := Nat.exists_eq_succ_of_ne_zero hpositive.ne'
  rw [fileAfter_concat, fileAfter_take]
  exact load_torn hfaithful (flatten_take_begins current count) hshort

/-- After every sequence of completed saves and a crash at any step of another, the map loaded is
that of the last completed save or the one being saved if and only if the crash does not fall
between the truncation and the last byte, or one of the two maps is empty. A crash between them
loses everything: the empty map is loaded. -/
theorem crash_safety_iff (codec : Codec Record) (start : File) (completed : List (Save codec))
    (current : Save codec) (written : ℕ)
    (hfaithful : ∀ save ∈ completed ++ [current], codec.Faithful save.data) :
    let last := lastSaved codec start completed
    let loaded :=
      load codec (fileAfter start (completed.flatMap Save.steps ++ current.steps.take written))
    (SameRecords loaded last ∨ SameRecords loaded current.data ↔
        ¬ current.Torn written ∨ last = ∅ ∨ current.data = ∅) ∧
      (current.Torn written → loaded = ∅) := by
  intro last loaded
  have htorn : current.Torn written → loaded = ∅ := load_of_torn (hfaithful current (by simp))
  refine ⟨?_, htorn⟩
  by_cases hcrash : current.Torn written
  · rw [htorn hcrash, sameRecords_empty_iff, sameRecords_empty_iff]
    exact (or_iff_right (not_not_intro hcrash)).symm
  · exact iff_of_true (load_of_not_torn hfaithful hcrash) (Or.inl hcrash)

/-- The map with one key. -/
def oneKey (value : String) : Table String String :=
  AList.singleton "key1" value

/-- The text of the empty map. -/
def emptyText : String := "\x7b\x7d"

/-- The text of the map with one key, whose value needs no escapes. -/
def oneKeyText (value : String) : String :=
  "\x7b\n  \"key1\": \"" ++ value ++ "\"\n\x7d"

/-- serde_json on the empty map and on the maps with the one key and the value `first` or
`second`. -/
def sampleCodec : Codec String where
  toStringPretty data :=
    match data.lookup "key1" with
    | some value => oneKeyText value
    | none => emptyText
  fromStr text :=
    if text = oneKeyText "first" then some (oneKey "first")
    else if text = oneKeyText "second" then some (oneKey "second")
    else if text = emptyText then some ∅
    else none

/-- The save of the map of a value in one chunk. -/
def sampleSave (value : String) : Save sampleCodec where
  data := oneKey value
  chunks := [utf8Bytes (sampleCodec.toStringPretty (oneKey value))]
  flatten_chunks := by simp

/-- The sample codec is faithful on the maps of the two values. -/
theorem sampleCodec_faithful {value : String} (hvalue : value = "first" ∨ value = "second") :
    sampleCodec.Faithful (oneKey value) := by
  refine ⟨⟨oneKey value, ?_, List.Perm.refl _⟩, fun text hbegins hne ↦ ?_⟩
  · rcases hvalue with rfl | rfl <;> rfl
  · have hother : ∀ other, other = oneKeyText "first" ∨ other = oneKeyText "second" ∨
        other = emptyText → utf8Bytes other <+: utf8Bytes (oneKeyText value) →
          other = oneKeyText value := by
      rcases hvalue with rfl | rfl <;> rintro other (rfl | rfl | rfl) <;> decide +kernel
    have hnone : ∀ other, other = oneKeyText "first" ∨ other = oneKeyText "second" ∨
        other = emptyText → text ≠ other := by
      rintro other hknown rfl
      exact hne (hother text hknown hbegins)
    change (if text = oneKeyText "first" then _ else _) = none
    rw [if_neg (hnone _ (Or.inl rfl)), if_neg (hnone _ (Or.inr (Or.inl rfl))),
      if_neg (hnone _ (Or.inr (Or.inr rfl)))]

/-- The equivalence applies to a crash after the truncation of the second of two saves. -/
theorem crash_safety_iff_sample :
    let last := lastSaved sampleCodec none [sampleSave "first"]
    let loaded := load sampleCodec (fileAfter none
      ([sampleSave "first"].flatMap Save.steps ++ (sampleSave "second").steps.take 1))
    (SameRecords loaded last ∨ SameRecords loaded (oneKey "second") ↔
        ¬ (sampleSave "second").Torn 1 ∨ last = ∅ ∨ oneKey "second" = ∅) ∧
      ((sampleSave "second").Torn 1 → loaded = ∅) :=
  crash_safety_iff sampleCodec none [sampleSave "first"] (sampleSave "second") 1 (by
    intro save hsave
    have hcases : save = sampleSave "first" ∨ save = sampleSave "second" := by simpa using hsave
    rcases hcases with rfl | rfl
    · exact sampleCodec_faithful (Or.inl rfl)
    · exact sampleCodec_faithful (Or.inr rfl))

/-- A crash after the truncation of the second save loses the map of the first one. -/
theorem crash_loses_last_save :
    let loaded := load sampleCodec (fileAfter none
      ([sampleSave "first"].flatMap Save.steps ++ (sampleSave "second").steps.take 1))
    ¬ (SameRecords loaded (oneKey "first") ∨ SameRecords loaded (oneKey "second")) := by
  intro loaded
  have hempty : loaded = ∅ :=
    load_of_torn (sampleCodec_faithful (Or.inr rfl)) ⟨Nat.one_pos, by decide +kernel⟩
  rw [hempty, sameRecords_empty_iff, sameRecords_empty_iff]
  rintro (hfirst | hsecond)
  · exact absurd (congrArg (fun data ↦ data.lookup "key1") hfirst) (by decide +kernel)
  · exact absurd (congrArg (fun data ↦ data.lookup "key1") hsecond) (by decide +kernel)

end Clawbernetes.ClawPersist
