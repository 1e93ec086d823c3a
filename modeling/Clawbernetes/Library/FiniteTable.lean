import Mathlib.Data.List.AList
import Mathlib.Data.List.Induction
import Mathlib.Algebra.BigOperators.Group.List.Basic
import Mathlib.Tactic.Ring

/-!
# Finite tables

A finite table is an association list without repeated keys, Mathlib's `AList` at a constant
family: the model of a hash map, whose order of entries carries no meaning. Mathlib has lookup,
insertion and erasure. This module adds what programs over hash maps need beside them: `total`, the
sum of a weight over the values, and the laws of `AList.replace`, the in-place change of a present
value, summed up in `Rewrites`. `sift` drops entries and changes the values of those that stay, as
`retain` and a loop over the values do, `flatten` lists the items of a table of lists,
`increment` and `decrement` keep a table of counts that has no zeros, and `Inverts` is the law of a
reverse index.

The order of entries is kept out of every statement. `perm_lookup_cons_erase` splits a present
entry off a table up to permutation, and the laws of `total` follow from it.
-/

set_option autoImplicit false
set_option relaxedAutoImplicit false

namespace Library.FiniteTable

/-- A finite table from keys to values. -/
abbrev Table (Key Value : Type*) := AList fun _ : Key ↦ Value

variable {Key Value : Type*} [DecidableEq Key]

/-! ### Splitting off one entry -/

/-- A present entry is one entry of the table beside the table without its key. -/
theorem perm_lookup_cons_erase {table : Table Key Value} {key : Key} {value : Value}
    (hpresent : table.lookup key = some value) :
    table.entries.Perm (⟨key, value⟩ :: (table.erase key).entries) := by
  have hmem : (⟨key, value⟩ : Sigma fun _ : Key ↦ Value) ∈ table.entries :=
    AList.mem_lookup_iff.mp hpresent
  have hkeys : key ∈ table.entries.keys := List.mem_keys_of_mem hmem
  obtain ⟨other, before, after, hbefore, hentries, herase⟩ := List.exists_of_kerase hkeys
  have hother : other = value := by
    have hsame : (⟨key, other⟩ : Sigma fun _ : Key ↦ Value) ∈ table.entries := by
      rw [hentries]
      simp
    exact table.nodupKeys.eq_of_mk_mem hsame hmem
  subst hother
  change table.entries.Perm (⟨key, other⟩ :: List.kerase key table.entries)
  rw [herase]
  rw [hentries]
  exact List.perm_middle

/-- Erasing an absent key changes nothing. -/
theorem erase_of_lookup_none {table : Table Key Value} {key : Key}
    (habsent : table.lookup key = none) : table.erase key = table :=
  AList.ext (List.kerase_of_notMem_keys (AList.lookup_eq_none.mp habsent))

/-- Erasing the only key leaves nothing. -/
theorem erase_singleton (key : Key) (value : Value) :
    (AList.singleton key value : Table Key Value).erase key = ∅ :=
  AList.ext (List.kerase_cons_eq rfl)

/-- What is found after an erasure is a value of another key. -/
theorem lookup_erase_cases {table : Table Key Value} {key other : Key} {found : Value}
    (hfound : (table.erase key).lookup other = some found) :
    other ≠ key ∧ table.lookup other = some found := by
  by_cases hother : other = key
  · subst hother
    rw [AList.lookup_erase] at hfound
    cases hfound
  · rw [AList.lookup_erase_ne hother] at hfound
    exact ⟨hother, hfound⟩

/-- What holds of all entries holds of them after the value of one key has changed, when it holds of
the new value. -/
theorem forall_lookup_of_changed {table after : Table Key Value} {holds : Key → Value → Prop}
    (hall : ∀ key value, table.lookup key = some value → holds key value) {key : Key}
    {value : Value} (hchanged : after.lookup key = some value)
    (hothers : ∀ other, other ≠ key → after.lookup other = table.lookup other)
    (hnew : holds key value) (other : Key) (found : Value)
    (hfound : after.lookup other = some found) : holds other found := by
  by_cases hother : other = key
  · rw [hother, hchanged] at hfound
    rw [hother, ← Option.some_inj.mp hfound]
    exact hnew
  · rw [hothers other hother] at hfound
    exact hall other found hfound

/-- What holds of all entries holds of them after an insertion exactly when it holds of the new
one. -/
theorem forall_lookup_insert_iff {table : Table Key Value} {holds : Key → Value → Prop}
    (hall : ∀ key value, table.lookup key = some value → holds key value) {key : Key}
    {value : Value} :
    (∀ other found, (table.insert key value).lookup other = some found → holds other found) ↔
      holds key value :=
  ⟨fun hafter ↦ hafter key value (AList.lookup_insert table),
    forall_lookup_of_changed hall (AList.lookup_insert table) fun _ hne ↦
      AList.lookup_insert_ne hne⟩

/-- What holds of all entries holds of them after an erasure. -/
theorem forall_lookup_erase {table : Table Key Value} {holds : Key → Value → Prop}
    (hall : ∀ key value, table.lookup key = some value → holds key value) (key : Key) (other : Key)
    (found : Value) (hfound : (table.erase key).lookup other = some found) : holds other found :=
  hall other found (lookup_erase_cases hfound).2

/-- Erasing some keys leaves what is found at the others. -/
theorem lookup_foldl_erase (keys : List Key) (table : Table Key Value) (key : Key) :
    (keys.foldl (fun table key ↦ table.erase key) table).lookup key =
      if key ∈ keys then none else table.lookup key := by
  induction keys generalizing table with
  | nil => rfl
  | cons first rest ih =>
    rw [List.foldl_cons, ih]
    by_cases hfirst : key = first
    · subst hfirst
      rw [AList.lookup_erase, ite_self, if_pos List.mem_cons_self]
    · rw [AList.lookup_erase_ne hfirst]
      simp only [List.mem_cons, hfirst, false_or]

/-! ### The total of a weight over the values -/

/-- The sum of a weight over the values of a table. -/
def total (weight : Value → ℕ) (table : Table Key Value) : ℕ :=
  (table.entries.map fun entry ↦ weight entry.2).sum

omit [DecidableEq Key] in
/-- The empty table has total zero. -/
@[simp] theorem total_empty (weight : Value → ℕ) : total weight (∅ : Table Key Value) = 0 :=
  rfl

omit [DecidableEq Key] in
/-- The total does not depend on the order of the entries. -/
theorem total_of_perm (weight : Value → ℕ) {first second : Table Key Value}
    (hperm : first.entries.Perm second.entries) : total weight first = total weight second := by
  unfold total
  exact (hperm.map fun entry ↦ weight entry.2).sum_eq

/-- A present value contributes its weight beside the rest of the table. -/
theorem total_of_lookup (weight : Value → ℕ) {table : Table Key Value} {key : Key}
    {value : Value} (hpresent : table.lookup key = some value) :
    total weight table = weight value + total weight (table.erase key) := by
  have hperm := (perm_lookup_cons_erase hpresent).map fun entry ↦ weight entry.2
  rw [total, hperm.sum_eq]
  rfl

/-- The weight of a present value is at most the total. -/
theorem weight_le_total (weight : Value → ℕ) {table : Table Key Value} {key : Key}
    {value : Value} (hpresent : table.lookup key = some value) :
    weight value ≤ total weight table := by
  rw [total_of_lookup weight hpresent]
  exact Nat.le_add_right _ _

/-- Insertion puts the new value beside the table without the key. -/
theorem total_insert (weight : Value → ℕ) (table : Table Key Value) (key : Key) (value : Value) :
    total weight (table.insert key value) = weight value + total weight (table.erase key) :=
  rfl

/-- Insertion at an absent key adds the weight of the new value. -/
theorem total_insert_of_none (weight : Value → ℕ) {table : Table Key Value} {key : Key}
    (habsent : table.lookup key = none) (value : Value) :
    total weight (table.insert key value) = total weight table + weight value := by
  rw [total_insert, erase_of_lookup_none habsent, Nat.add_comm]

/-- Insertion at a present key exchanges the weight of the old value for that of the new one. -/
theorem total_insert_of_some (weight : Value → ℕ) {table : Table Key Value} {key : Key}
    {old : Value} (hpresent : table.lookup key = some old) (value : Value) :
    total weight (table.insert key value) + weight old = total weight table + weight value := by
  rw [total_insert, total_of_lookup weight hpresent]
  ring

/-- Insertion adds at most the weight of the new value. -/
theorem total_insert_le (weight : Value → ℕ) (table : Table Key Value) (key : Key)
    (value : Value) :
    total weight (table.insert key value) ≤ total weight table + weight value := by
  cases hlookup : table.lookup key with
  | none => exact (total_insert_of_none weight hlookup value).le
  | some old => exact (Nat.le_add_right _ _).trans (total_insert_of_some weight hlookup value).le

/-- Erasing different keys takes the present values that pass a test out of the count of these. -/
theorem total_foldl_erase_add (test : Value → Bool) (keys : List Key) :
    ∀ {table : Table Key Value}, keys.Nodup →
      total (fun value ↦ (test value).toNat) (keys.foldl (fun table key ↦ table.erase key) table) +
        (keys.filterMap fun key ↦ table.lookup key).countP test =
          total (fun value ↦ (test value).toNat) table := by
  induction keys with
  | nil => intro _ _; rfl
  | cons key rest ih =>
    intro table hnodup
    rw [List.nodup_cons] at hnodup
    have hothers : (rest.filterMap fun other ↦ (table.erase key).lookup other) =
        rest.filterMap fun other ↦ table.lookup other := by
      apply List.filterMap_congr
      intro other hother
      exact AList.lookup_erase_ne fun hsame ↦ hnodup.1 (hsame ▸ hother)
    have hrest := @ih (table.erase key) hnodup.2
    rw [hothers] at hrest
    rw [List.foldl_cons, List.filterMap_cons]
    cases hlookup : table.lookup key with
    | none =>
      rw [erase_of_lookup_none hlookup] at hrest ⊢
      exact hrest
    | some value =>
      have hfirst := total_of_lookup (fun value ↦ (test value).toNat) hlookup
      have hsingle : (if test value = true then 1 else 0) = (test value).toNat := by
        cases test value <;> rfl
      rw [List.countP_cons, hsingle]
      omega

/-! ### Changing a present value in place -/

/-- Replacing a present value is insertion up to the order of the entries. -/
theorem perm_replace_insert {table : Table Key Value} {key : Key} (hpresent : key ∈ table)
    (value : Value) :
    (table.replace key value).entries.Perm (table.insert key value).entries := by
  obtain ⟨entries, hnodup⟩ := table
  change (List.kreplace key value entries).Perm (⟨key, value⟩ :: List.kerase key entries)
  have hkeys : key ∈ entries.keys := hpresent
  clear hpresent
  induction entries with
  | nil => simp at hkeys
  | cons entry rest ih =>
    rw [List.nodupKeys_cons] at hnodup
    by_cases hkey : key = entry.1
    · have hhead : List.kreplace key value (entry :: rest) = ⟨key, value⟩ :: rest :=
        List.lookmap_cons_some _ _ (if_pos hkey)
      rw [hhead, List.kerase_cons_eq hkey]
    · have htail : List.kreplace key value (entry :: rest) =
          entry :: List.kreplace key value rest :=
        List.lookmap_cons_none _ _ (if_neg hkey)
      rw [htail, List.kerase_cons_ne hkey]
      have hrest : key ∈ rest.keys := by
        rw [List.keys_cons, List.mem_cons] at hkeys
        exact hkeys.resolve_left hkey
      exact ((ih hnodup.2 hrest).cons entry).trans (List.Perm.swap _ _ _)

/-- The lookup of a replaced key. -/
theorem lookup_replace {table : Table Key Value} {key : Key} (hpresent : key ∈ table)
    (value : Value) : (table.replace key value).lookup key = some value := by
  rw [AList.perm_lookup (perm_replace_insert hpresent value), AList.lookup_insert]

/-- Replacement at one key is not seen at another. -/
theorem lookup_replace_ne {table : Table Key Value} {key other : Key} (hne : other ≠ key)
    (value : Value) : (table.replace key value).lookup other = table.lookup other := by
  by_cases hpresent : key ∈ table
  · rw [AList.perm_lookup (perm_replace_insert hpresent value), AList.lookup_insert_ne hne]
  · have hsame : table.replace key value = table := by
      have hentries : ∀ stored : Value,
          (⟨key, stored⟩ : Sigma fun _ : Key ↦ Value) ∉ table.entries :=
        fun stored hmem ↦ hpresent (List.mem_keys_of_mem hmem)
      exact AList.ext (List.kreplace_of_forall_not (β := fun _ ↦ Value) key value hentries)
    rw [hsame]

/-- What holds of all entries holds of them after a value was replaced exactly when it holds of the
new one. -/
theorem forall_lookup_replace_iff {table : Table Key Value} {holds : Key → Value → Prop} {key : Key}
    {old value : Value} (hpresent : table.lookup key = some old)
    (hall : ∀ key value, table.lookup key = some value → holds key value) :
    (∀ other found, (table.replace key value).lookup other = some found → holds other found) ↔
      holds key value := by
  have hkey : key ∈ table := AList.lookup_isSome.mp (by rw [hpresent]; rfl)
  exact ⟨fun hafter ↦ hafter key value (lookup_replace hkey value),
    forall_lookup_of_changed hall (lookup_replace hkey value) fun _ hne ↦
      lookup_replace_ne hne value⟩

/-- Writing a present value back changes nothing. -/
theorem replace_self {table : Table Key Value} {key : Key} {value : Value}
    (hpresent : table.lookup key = some value) : table.replace key value = table :=
  AList.ext (List.kreplace_self table.nodupKeys (AList.mem_lookup_iff.mp hpresent))

/-- Replacement exchanges the weight of the old value for that of the new one. -/
theorem total_replace (weight : Value → ℕ) {table : Table Key Value} {key : Key} {old : Value}
    (hpresent : table.lookup key = some old) (value : Value) :
    total weight (table.replace key value) + weight old = total weight table + weight value := by
  have hmem : key ∈ table := AList.lookup_isSome.mp (by rw [hpresent]; rfl)
  rw [total_of_perm weight (perm_replace_insert hmem value), total_insert_of_some weight hpresent]

/-- One present value of a table is exchanged for another and every other key is left alone. -/
structure Rewrites (table updated : Table Key Value) (key : Key) (old value : Value) : Prop where
  before : table.lookup key = some old
  after : updated.lookup key = some value
  others : ∀ other, other ≠ key → updated.lookup other = table.lookup other
  total : ∀ weight : Value → ℕ,
    total weight updated + weight old = total weight table + weight value

/-- Replacement exchanges one present value. -/
theorem rewrites_replace {table : Table Key Value} {key : Key} {old : Value}
    (hpresent : table.lookup key = some old) (value : Value) :
    Rewrites table (table.replace key value) key old value where
  before := hpresent
  after := lookup_replace (AList.lookup_isSome.mp (by rw [hpresent]; rfl)) value
  others := fun _ hother ↦ lookup_replace_ne hother value
  total := fun weight ↦ total_replace weight hpresent value

/-- Two exchanges at one key are one exchange. -/
theorem Rewrites.trans {table updated last : Table Key Value} {key : Key}
    {old middle value : Value} (hfirst : Rewrites table updated key old middle)
    (hsecond : Rewrites updated last key middle value) : Rewrites table last key old value where
  before := hfirst.before
  after := hsecond.after
  others := fun other hother ↦ (hsecond.others other hother).trans (hfirst.others other hother)
  total := fun weight ↦ by
    have htotalFirst := hfirst.total weight
    have htotalSecond := hsecond.total weight
    omega

/-! ### Collecting entries -/

/-- The table collected from a list of entries. A later entry of a key replaces an earlier one. -/
def collect (items : List (Key × Value)) : Table Key Value :=
  items.foldl (fun table item ↦ table.insert item.1 item.2) ∅

/-- Collecting one entry more inserts it. -/
theorem collect_concat (items : List (Key × Value)) (last : Key × Value) :
    collect (items ++ [last]) = (collect items).insert last.1 last.2 :=
  List.foldl_concat _ _ _ _

/-- Entries with different keys are all collected. -/
theorem perm_entries_collect {items : List (Key × Value)} (hnodup : (items.map Prod.fst).Nodup) :
    (collect items).entries.Perm (items.map fun item ↦ ⟨item.1, item.2⟩) := by
  induction items using List.reverseRecOn with
  | nil => exact List.Perm.refl _
  | append_singleton items last ih =>
    rw [List.map_append, List.nodup_append] at hnodup
    have hperm := ih hnodup.1
    have hfresh : last.1 ∉ collect items := by
      intro hmem
      obtain ⟨entry, hentry, hkey⟩ := List.mem_map.mp
        ((hperm.map Sigma.fst).mem_iff.mp (AList.mem_keys.mpr hmem))
      obtain ⟨item, hitem, rfl⟩ := List.mem_map.mp hentry
      exact hnodup.2.2 item.1 (List.mem_map_of_mem hitem) last.1 (by simp) hkey
    rw [collect_concat, AList.insert_of_notMem hfresh, List.map_append]
    exact ((hperm.cons _).trans (List.perm_append_singleton _ _).symm)

/-- What is found in a collected table is an entry that was collected. -/
theorem mem_of_lookup_collect {items : List (Key × Value)} {key : Key} {value : Value}
    (hlookup : (collect items).lookup key = some value) : (key, value) ∈ items := by
  induction items using List.reverseRecOn with
  | nil => cases hlookup
  | append_singleton items last ih =>
    rw [collect_concat] at hlookup
    by_cases hkey : key = last.1
    · rw [hkey, AList.lookup_insert] at hlookup
      obtain rfl := Option.some_inj.mp hlookup
      rw [hkey]
      exact List.mem_append_right items List.mem_cons_self
    · rw [AList.lookup_insert_ne hkey] at hlookup
      exact List.mem_append_left _ (ih hlookup)

/-- The key of every collected entry is found. -/
theorem exists_lookup_collect {items : List (Key × Value)} {key : Key}
    (hkey : key ∈ items.map Prod.fst) : ∃ value, (collect items).lookup key = some value := by
  induction items using List.reverseRecOn with
  | nil => cases hkey
  | append_singleton items last ih =>
    rw [collect_concat]
    by_cases hlast : key = last.1
    · exact ⟨last.2, by rw [hlast, AList.lookup_insert]⟩
    · rw [AList.lookup_insert_ne hlast]
      apply ih
      rw [List.map_append, List.mem_append] at hkey
      exact hkey.resolve_right fun hmem ↦ hlast (List.mem_singleton.mp hmem)

/-- What is found in a collected table is the last entry of its key. -/
theorem lookup_collect_eq_some_iff {items : List (Key × Value)} {key : Key} {value : Value} :
    (collect items).lookup key = some value ↔
      ∃ front back, items = front ++ (key, value) :: back ∧ ∀ item ∈ back, item.1 ≠ key := by
  constructor
  · intro hlookup
    induction items using List.reverseRecOn with
    | nil => cases hlookup
    | append_singleton items last ih =>
      rw [collect_concat] at hlookup
      by_cases hkey : key = last.1
      · rw [hkey, AList.lookup_insert] at hlookup
        obtain rfl := Option.some_inj.mp hlookup
        exact ⟨items, [], by rw [hkey], fun item hitem ↦ absurd hitem List.not_mem_nil⟩
      · rw [AList.lookup_insert_ne hkey] at hlookup
        obtain ⟨front, back, rfl, hback⟩ := ih hlookup
        refine ⟨front, back ++ [last], by simp, fun item hitem ↦ ?_⟩
        rcases List.mem_append.mp hitem with hbefore | hlast
        · exact hback item hbefore
        · rw [List.mem_singleton.mp hlast]
          exact Ne.symm hkey
  · rintro ⟨front, back, rfl, hback⟩
    induction back using List.reverseRecOn with
    | nil => rw [collect_concat, AList.lookup_insert]
    | append_singleton back last ih =>
      have hlast : last.1 ≠ key := hback last (by simp)
      rw [← List.cons_append, ← List.append_assoc, collect_concat,
        AList.lookup_insert_ne (Ne.symm hlast)]
      exact ih fun item hitem ↦ hback item (List.mem_append_left _ hitem)

/-- Of entries with different keys every one is found. -/
theorem lookup_collect_of_nodup {items : List (Key × Value)} (hnodup : (items.map Prod.fst).Nodup)
    {key : Key} {value : Value} :
    (collect items).lookup key = some value ↔ (key, value) ∈ items := by
  rw [← Option.mem_def, AList.mem_lookup_iff, (perm_entries_collect hnodup).mem_iff, List.mem_map]
  constructor
  · rintro ⟨item, hitem, hsame⟩
    cases hsame
    exact hitem
  · exact fun hitem ↦ ⟨(key, value), hitem, rfl⟩

/-- A loop that inserts items into an empty part of the state collects them there. -/
theorem foldl_insert_part {State Item : Type*} (withPart : Table Key Value → State)
    (insert : State → Key → Value → State)
    (hinsert : ∀ part key value, insert (withPart part) key value =
      withPart (part.insert key value)) (key : Item → Key) (value : Item → Value)
    (items : List Item) {state : State} (hstate : state = withPart ∅) :
    items.foldl (fun state item ↦ insert state (key item) (value item)) state =
      withPart (collect (items.map fun item ↦ (key item, value item))) := by
  rw [hstate, collect, List.foldl_map]
  exact List.foldl_hom withPart fun part item ↦ hinsert part (key item) (value item)

/-- The table that is collected from the entries of another one, as they are walked. -/
def refill (table : Table Key Value) : Table Key Value :=
  collect (table.entries.map fun entry ↦ (entry.1, entry.2))

/-- A table that is collected from the entries of another one has these entries. -/
theorem perm_entries_refill (table : Table Key Value) :
    (refill table).entries.Perm table.entries := by
  have hkeys : ((table.entries.map fun entry ↦ (entry.1, entry.2)).map Prod.fst).Nodup := by
    rw [List.map_map]
    exact table.nodupKeys
  have hcollected := perm_entries_collect hkeys
  rw [List.map_map] at hcollected
  exact hcollected.trans (List.Perm.of_eq (List.map_id table.entries))

/-! ### Dropping entries and changing values -/

omit [DecidableEq Key] in
/-- Changing or dropping entries keeps the order of the keys. -/
theorem keys_filterMap_sublist (change : Key → Value → Option Value)
    (entries : List (Sigma fun _ : Key ↦ Value)) :
    (entries.filterMap fun entry ↦
      (change entry.1 entry.2).map (Sigma.mk (β := fun _ ↦ Value) entry.1)).keys.Sublist
        entries.keys := by
  induction entries with
  | nil => simp
  | cons entry rest ih =>
    cases hchange : change entry.1 entry.2 with
    | none =>
      simp only [List.filterMap_cons, hchange, Option.map_none, List.keys_cons]
      exact ih.cons _
    | some value =>
      simp only [List.filterMap_cons, hchange, Option.map_some, List.keys_cons]
      exact ih.cons_cons _

/-- Every entry of the table is dropped or stays under its key with a new value. -/
def sift (change : Key → Value → Option Value) (table : Table Key Value) : Table Key Value where
  entries := table.entries.filterMap fun entry ↦
    (change entry.1 entry.2).map (Sigma.mk (β := fun _ ↦ Value) entry.1)
  nodupKeys := by exact (keys_filterMap_sublist change table.entries).nodup table.nodupKeys

omit [DecidableEq Key] in
/-- The keys of a sifted table are some of the keys. -/
theorem keys_sift_sublist (change : Key → Value → Option Value) (table : Table Key Value) :
    (sift change table).keys.Sublist table.keys :=
  keys_filterMap_sublist change table.entries

omit [DecidableEq Key] in
/-- The entries of a sifted table. -/
theorem mem_entries_sift {change : Key → Value → Option Value} {table : Table Key Value}
    {key : Key} {value : Value} :
    (⟨key, value⟩ : Sigma fun _ : Key ↦ Value) ∈ (sift change table).entries ↔
      ∃ old, (⟨key, old⟩ : Sigma fun _ : Key ↦ Value) ∈ table.entries ∧
        change key old = some value := by
  unfold sift
  simp only [List.mem_filterMap, Option.map_eq_some_iff]
  constructor
  · rintro ⟨⟨found, old⟩, hmem, kept, hchange, hentry⟩
    cases hentry
    exact ⟨old, hmem, hchange⟩
  · rintro ⟨old, hmem, hchange⟩
    exact ⟨⟨key, old⟩, hmem, value, hchange, rfl⟩

/-- The lookup of a sifted table is the change of the lookup. -/
theorem lookup_sift (change : Key → Value → Option Value) (table : Table Key Value) (key : Key) :
    (sift change table).lookup key = (table.lookup key).bind (change key) := by
  apply Option.ext
  intro value
  rw [← Option.mem_def, AList.mem_lookup_iff, mem_entries_sift, Option.bind_eq_some_iff]
  simp only [← AList.mem_lookup_iff, Option.mem_def]

/-- `HashMap::retain`: the entries of which the test is true. -/
def retain (test : Key → Value → Bool) (table : Table Key Value) : Table Key Value :=
  sift (fun key value ↦ if test key value then some value else none) table

/-! ### Tables of lists -/

section Lists

variable {Item : Type*}

/-- The items of all the lists of a table. -/
def flatten (table : Table Key (List Item)) : List Item :=
  table.entries.flatMap fun entry ↦ entry.2

/-- The items under a key, none when the key is absent. -/
def itemsAt (table : Table Key (List Item)) (key : Key) : List Item :=
  (table.lookup key).getD []

/-- The items of which the test is true, without the keys that are left with none. -/
def keepItems (test : Item → Bool) (table : Table Key (List Item)) : Table Key (List Item) :=
  sift (fun _ items ↦ if items.filter test = [] then none else some (items.filter test)) table

/-- The items under a written key. -/
@[simp] theorem itemsAt_insert_self (table : Table Key (List Item)) (key : Key)
    (items : List Item) : itemsAt (table.insert key items) key = items := by
  unfold itemsAt
  rw [AList.lookup_insert]
  rfl

/-- Writing one key is not seen at another. -/
theorem itemsAt_insert_of_ne {key other : Key} (hne : other ≠ key)
    (table : Table Key (List Item)) (items : List Item) :
    itemsAt (table.insert key items) other = itemsAt table other := by
  unfold itemsAt
  rw [AList.lookup_insert_ne hne]

/-- An item with a new label, added to the items of a key, keeps the labels of each key's items
distinct. -/
theorem nodup_map_itemsAt_insert {Label : Type*} (label : Item → Label)
    {table : Table Key (List Item)} {key : Key} {item : Item}
    (hlabels : ∀ other, ((itemsAt table other).map label).Nodup)
    (hnew : ∀ old ∈ itemsAt table key, label old ≠ label item) (other : Key) :
    ((itemsAt (table.insert key (itemsAt table key ++ [item])) other).map label).Nodup := by
  by_cases hkey : other = key
  · subst hkey
    rw [itemsAt_insert_self, List.map_append, List.map_singleton, List.nodup_append]
    refine ⟨hlabels other, List.nodup_singleton _, ?_⟩
    intro first hfirst last hlast
    obtain ⟨old, hold, rfl⟩ := List.mem_map.mp hfirst
    rw [List.mem_singleton.mp hlast]
    exact hnew old hold
  · rw [itemsAt_insert_of_ne hkey]
    exact hlabels other

/-- There is nothing under an erased key. -/
@[simp] theorem itemsAt_erase_self (table : Table Key (List Item)) (key : Key) :
    itemsAt (table.erase key) key = [] := by
  unfold itemsAt
  rw [AList.lookup_erase]
  rfl

/-- Erasing one key is not seen at another. -/
theorem itemsAt_erase_of_ne {key other : Key} (hne : other ≠ key)
    (table : Table Key (List Item)) :
    itemsAt (table.erase key) other = itemsAt table other := by
  unfold itemsAt
  rw [AList.lookup_erase_ne hne]

/-- The items that are kept under a key. -/
@[simp] theorem itemsAt_keepItems (test : Item → Bool) (table : Table Key (List Item))
    (key : Key) : itemsAt (keepItems test table) key = (itemsAt table key).filter test := by
  unfold itemsAt keepItems
  rw [lookup_sift]
  cases table.lookup key with
  | none => rfl
  | some items =>
    rw [Option.bind_some]
    split_ifs with hempty
    · exact hempty.symm
    · rfl

/-- The items of a table are those under its keys. -/
theorem mem_flatten {table : Table Key (List Item)} {item : Item} :
    item ∈ flatten table ↔ ∃ key, item ∈ itemsAt table key := by
  unfold flatten itemsAt
  rw [List.mem_flatMap]
  constructor
  · rintro ⟨⟨key, items⟩, hentry, hitem⟩
    have hlookup : table.lookup key = some items := AList.mem_lookup_iff.mpr hentry
    refine ⟨key, ?_⟩
    rw [hlookup]
    exact hitem
  · rintro ⟨key, hitem⟩
    cases hlookup : table.lookup key with
    | none =>
      rw [hlookup] at hitem
      simp at hitem
    | some items =>
      rw [hlookup] at hitem
      exact ⟨⟨key, items⟩, AList.mem_lookup_iff.mp hlookup, hitem⟩

omit [DecidableEq Key] in
/-- The number of items is the total length of the lists. -/
theorem length_flatten (table : Table Key (List Item)) :
    (flatten table).length = total List.length table := by
  unfold flatten total
  rw [List.length_flatMap]

/-- The labels of the items do not repeat when they do not repeat under any key and differ between
keys. -/
theorem nodup_map_flatten {Label : Type*} (label : Item → Label) {table : Table Key (List Item)}
    (hkey : ∀ key, ((itemsAt table key).map label).Nodup)
    (hbetween : ∀ first second, first ≠ second → ∀ item ∈ itemsAt table first,
      ∀ other ∈ itemsAt table second, label item ≠ label other) :
    ((flatten table).map label).Nodup := by
  have hitems : ∀ entry ∈ table.entries, itemsAt table entry.1 = entry.2 := by
    rintro ⟨key, items⟩ hentry
    have hlookup : table.lookup key = some items := AList.mem_lookup_iff.mpr hentry
    unfold itemsAt
    rw [hlookup]
    rfl
  unfold flatten
  rw [List.map_flatMap, List.nodup_flatMap]
  constructor
  · intro entry hentry
    rw [← hitems entry hentry]
    exact hkey entry.1
  · have hkeys : table.entries.Pairwise fun first second ↦ first.1 ≠ second.1 :=
      List.pairwise_map.mp table.nodupKeys
    refine hkeys.imp_of_mem ?_
    intro first second hfirst hsecond hne
    refine List.disjoint_left.mpr ?_
    intro found hleft hright
    obtain ⟨item, hitem, rfl⟩ := List.mem_map.mp hleft
    obtain ⟨other, hother, hsame⟩ := List.mem_map.mp hright
    rw [← hitems first hfirst] at hitem
    rw [← hitems second hsecond] at hother
    exact hbetween first.1 second.1 hne item hitem other hother hsame.symm

end Lists

/-! ### Tables of counts -/

section Counts

/-- The count under a key, zero when the key is absent. -/
def countAt (table : Table Key ℕ) (key : Key) : ℕ := (table.lookup key).getD 0

/-- One more under a key. -/
def increment (table : Table Key ℕ) (key : Key) : Table Key ℕ :=
  table.insert key (countAt table key + 1)

/-- One less under a present key, which goes when nothing is left. -/
def decrement (table : Table Key ℕ) (key : Key) : Table Key ℕ :=
  match table.lookup key with
  | none => table
  | some count => if count - 1 = 0 then table.erase key else table.replace key (count - 1)

/-- The counts after an increment. -/
theorem countAt_increment (table : Table Key ℕ) (key other : Key) :
    countAt (increment table key) other = countAt table other + if other = key then 1 else 0 := by
  unfold increment
  by_cases hkey : other = key
  · subst hkey
    rw [if_pos rfl, countAt, AList.lookup_insert]
    rfl
  · rw [if_neg hkey, countAt, AList.lookup_insert_ne hkey]
    rfl

/-- The counts after a decrement. -/
theorem countAt_decrement (table : Table Key ℕ) (key other : Key) :
    countAt (decrement table key) other = countAt table other - if other = key then 1 else 0 := by
  unfold decrement
  cases hlookup : table.lookup key with
  | none =>
    by_cases hkey : other = key
    · subst hkey
      simp [countAt, hlookup]
    · rw [if_neg hkey]
      rfl
  | some count =>
    have hpresent : key ∈ table := AList.lookup_isSome.mp (by rw [hlookup]; rfl)
    show countAt
      (if count - 1 = 0 then table.erase key else table.replace key (count - 1)) other = _
    by_cases hkey : other = key
    · subst hkey
      rw [if_pos rfl]
      split_ifs with hlast
      · simp [countAt, hlookup, hlast]
      · simp [countAt, hlookup, lookup_replace hpresent]
    · rw [if_neg hkey, Nat.sub_zero]
      split_ifs
      · rw [countAt, AList.lookup_erase_ne hkey]
        rfl
      · rw [countAt, lookup_replace_ne hkey]
        rfl

end Counts

/-! ### Reverse indexes -/

section Index

variable [DecidableEq Value] {index : Table Value Key} {assigned : Key → Option Value} {key : Key}
  {value : Value}

/-- The table finds the key that a value is assigned to, where there is one. -/
def Inverts (index : Table Value Key) (assigned : Key → Option Value) : Prop :=
  ∀ value key, index.lookup value = some key ↔ assigned key = some value

omit [DecidableEq Key] in
/-- A value that has a reverse index is assigned once. -/
theorem Inverts.key_unique (hinverts : Inverts index assigned) {first second : Key}
    (hfirst : assigned first = some value) (hsecond : assigned second = some value) :
    first = second := by
  have hfound := (hinverts value first).mpr hfirst
  rw [(hinverts value second).mpr hsecond] at hfound
  exact (Option.some_inj.mp hfound).symm

/-- A fresh value is assigned to a key that had none. -/
theorem Inverts.insert (hinverts : Inverts index assigned) (hkey : assigned key = none)
    (hvalue : ∀ other, assigned other ≠ some value) :
    Inverts (index.insert value key) (Function.update assigned key (some value)) := by
  intro found other
  by_cases hother : other = key
  · subst hother
    rw [Function.update_self]
    by_cases hfound : found = value
    · rw [hfound, AList.lookup_insert]
      exact iff_of_true rfl rfl
    · rw [AList.lookup_insert_ne hfound, hinverts, hkey]
      exact iff_of_false (Option.some_ne_none found).symm
        fun hsame ↦ hfound (Option.some_inj.mp hsame).symm
  · rw [Function.update_of_ne hother]
    by_cases hfound : found = value
    · rw [hfound, AList.lookup_insert]
      exact iff_of_false (fun hsame ↦ hother (Option.some_inj.mp hsame).symm) (hvalue other)
    · rw [AList.lookup_insert_ne hfound, hinverts]

/-- The value of a key is taken back. -/
theorem Inverts.erase (hinverts : Inverts index assigned) (hkey : assigned key = some value) :
    Inverts (index.erase value) (Function.update assigned key none) := by
  intro found other
  by_cases hfound : found = value
  · rw [hfound, AList.lookup_erase]
    refine iff_of_false (Option.some_ne_none other).symm fun hother ↦ ?_
    by_cases hsame : other = key
    · rw [hsame, Function.update_self] at hother
      exact (Option.some_ne_none value).symm hother
    · rw [Function.update_of_ne hsame] at hother
      exact hsame (hinverts.key_unique hother hkey)
  · rw [AList.lookup_erase_ne hfound, hinverts]
    by_cases hsame : other = key
    · rw [hsame, Function.update_self, hkey]
      exact iff_of_false (fun hvalue ↦ hfound (Option.some_inj.mp hvalue).symm)
        (Option.some_ne_none found).symm
    · rw [Function.update_of_ne hsame]

end Index

end Library.FiniteTable
