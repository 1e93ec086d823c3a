import Mathlib.Data.List.Sort
import Mathlib.Data.List.TakeWhile

/-!
# Insertion into a sorted list by binary search

A binary search in a sorted list of keys returns an index of an equal key when there is one, any of
them, and otherwise the point at which the key can be inserted. `BinarySearch` is a search with this
contract and nothing else. Whatever index such a search returns, inserting an item there keeps a
list sorted by its keys (`pairwise_insertSorted`) and adds exactly the item
(`perm_insertSorted`). `BinarySearch.leftmost` is one such search. The items of one key stay in the
order of their insertions exactly if each is inserted behind those with its key
(`filter_insertSorted_iff`), which the contract does not promise.

The stable sort of a list restores an order that was lost: `stableSort_arrangements_iff` says which
lists are the sort of all their arrangements. It begins with the first of the items with the least
key (`isFirstMin_of_head_stableSort`).
-/

set_option autoImplicit false
set_option relaxedAutoImplicit false

namespace Library.SortedInsert

variable {Key : Type*} [LinearOrder Key]

/-- A search in sorted lists: `Except.ok` is an index of an equal key, `Except.error` the insertion
point when there is none. -/
structure BinarySearch (Key : Type*) [LinearOrder Key] where
  search : List Key → Key → Except ℕ ℕ
  found : ∀ {keys : List Key} {key : Key} {index : ℕ}, keys.Pairwise (· ≤ ·) →
    search keys key = .ok index → keys[index]? = some key
  missing : ∀ {keys : List Key} {key : Key} {index : ℕ}, keys.Pairwise (· ≤ ·) →
    search keys key = .error index → index ≤ keys.length ∧
      (∀ smaller ∈ keys.take index, smaller < key) ∧ ∀ larger ∈ keys.drop index, key < larger

namespace BinarySearch

/-- The index to insert at. -/
def position (search : BinarySearch Key) (keys : List Key) (key : Key) : ℕ :=
  match search.search keys key with
  | .ok index => index
  | .error index => index

/-- The keys before the index are not larger and those from it on are not smaller. -/
theorem position_spec (search : BinarySearch Key) {keys : List Key}
    (hsorted : keys.Pairwise (· ≤ ·)) (key : Key) :
    search.position keys key ≤ keys.length ∧
      (∀ smaller ∈ keys.take (search.position keys key), smaller ≤ key) ∧
      ∀ larger ∈ keys.drop (search.position keys key), key ≤ larger := by
  unfold position
  cases hsearch : search.search keys key with
  | error index =>
    obtain ⟨hlength, hsmaller, hlarger⟩ := search.missing hsorted hsearch
    exact ⟨hlength, fun smaller hmem ↦ (hsmaller smaller hmem).le,
      fun larger hmem ↦ (hlarger larger hmem).le⟩
  | ok index =>
    have hfound := search.found hsorted hsearch
    obtain ⟨hindex, hkey⟩ := List.getElem?_eq_some_iff.mp hfound
    refine ⟨hindex.le, ?_, ?_⟩
    · intro smaller hmem
      have hsplit := hsorted
      rw [← List.take_append_drop index keys, List.pairwise_append] at hsplit
      refine hsplit.2.2 smaller hmem key ?_
      rw [List.drop_eq_getElem_cons hindex, hkey]
      exact List.mem_cons_self
    · intro larger hmem
      have htail : (keys.drop index).Pairwise (· ≤ ·) := hsorted.sublist (List.drop_sublist _ _)
      rw [List.drop_eq_getElem_cons hindex, hkey] at hmem htail
      obtain rfl | hmem := List.mem_cons.mp hmem
      · exact le_refl _
      · exact (List.pairwise_cons.mp htail).1 larger hmem

/-- The search that returns the first index whose key is not smaller. -/
def leftmost : BinarySearch Key where
  search keys key :=
    if key ∈ keys then .ok (keys.idxOf key)
    else .error (keys.takeWhile fun smaller ↦ smaller < key).length
  found := by
    intro keys key index _ hsearch
    split_ifs at hsearch with hmem
    cases hsearch
    exact List.getElem?_idxOf hmem
  missing := by
    intro keys key index hsorted hsearch
    split_ifs at hsearch with hmem
    cases hsearch
    set smaller := keys.takeWhile fun smaller ↦ smaller < key with hsmaller
    set larger := keys.dropWhile fun smaller ↦ smaller < key with hlarger
    have hsplit : smaller ++ larger = keys := List.takeWhile_append_dropWhile
    have htake : keys.take smaller.length = smaller := by
      rw [← hsplit]
      exact List.take_left
    have hdrop : keys.drop smaller.length = larger := by
      rw [← hsplit]
      exact List.drop_left
    rw [htake, hdrop]
    refine ⟨?_, ?_, ?_⟩
    · rw [← hsplit, List.length_append]
      exact Nat.le_add_right _ _
    · intro other hother
      have hbelow := List.mem_takeWhile_imp hother
      simpa using hbelow
    · intro other hother
      -- the first key that is not smaller is larger, and the others follow it
      have hkeys : other ∈ keys := by
        rw [← hsplit]
        exact List.mem_append_right _ hother
      have hne : other ≠ key := fun hsame ↦ hmem (hsame ▸ hkeys)
      refine lt_of_le_of_ne ?_ (Ne.symm hne)
      cases hcases : larger with
      | nil =>
        rw [hcases] at hother
        cases hother
      | cons first rest =>
        have hfirst : key ≤ first := by
          have hnot := List.head?_dropWhile_not (fun smaller ↦ decide (smaller < key)) keys
          rw [← hlarger, hcases] at hnot
          simpa using hnot
        have htail : larger.Pairwise (· ≤ ·) := by
          rw [← hsplit, List.pairwise_append] at hsorted
          exact hsorted.2.1
        rw [hcases] at htail hother
        obtain rfl | hother := List.mem_cons.mp hother
        · exact hfirst
        · exact hfirst.trans ((List.pairwise_cons.mp htail).1 other hother)

end BinarySearch

section Insertion

variable {Item : Type*} (key : Item → Key)

/-- The item is inserted at the index that a search for its key returns. -/
def insertSorted (search : BinarySearch Key) (items : List Item) (item : Item) : List Item :=
  items.insertIdx (search.position (items.map key) (key item)) item

/-- The items are sorted by their keys. -/
def SortedBy (items : List Item) : Prop :=
  items.Pairwise fun first second ↦ key first ≤ key second

variable {key}

/-- The keys of items that are sorted by them are sorted. -/
theorem SortedBy.keys {items : List Item} (hsorted : SortedBy key items) :
    (items.map key).Pairwise (· ≤ ·) := List.pairwise_map.mpr hsorted

/-- Insertion splits a list at the index. -/
theorem insertIdx_eq_append {items : List Item} {index : ℕ} (hindex : index ≤ items.length)
    (item : Item) : items.insertIdx index item = items.take index ++ item :: items.drop index := by
  induction items generalizing index with
  | nil =>
    obtain rfl : index = 0 := by simpa using hindex
    rfl
  | cons head rest ih =>
    cases index with
    | zero => rfl
    | succ index =>
      rw [List.insertIdx_succ_cons, ih (by simpa using hindex)]
      rfl

/-- Insertion keeps a list sorted. -/
theorem pairwise_insertSorted (search : BinarySearch Key) {items : List Item}
    (hsorted : SortedBy key items) (item : Item) :
    SortedBy key (insertSorted key search items item) := by
  obtain ⟨hlength, hsmaller, hlarger⟩ := search.position_spec hsorted.keys (key item)
  unfold insertSorted
  set index := search.position (items.map key) (key item)
  rw [List.length_map] at hlength
  have hbefore : ∀ smaller ∈ items.take index, key smaller ≤ key item := by
    intro smaller hmem
    refine hsmaller (key smaller) ?_
    rw [← List.map_take]
    exact List.mem_map_of_mem hmem
  have hafter : ∀ larger ∈ items.drop index, key item ≤ key larger := by
    intro larger hmem
    refine hlarger (key larger) ?_
    rw [← List.map_drop]
    exact List.mem_map_of_mem hmem
  rw [insertIdx_eq_append hlength]
  unfold SortedBy
  rw [List.pairwise_append, List.pairwise_cons]
  refine ⟨hsorted.sublist (List.take_sublist _ _),
    ⟨hafter, hsorted.sublist (List.drop_sublist _ _)⟩, ?_⟩
  intro smaller hmem other hother
  obtain rfl | hother := List.mem_cons.mp hother
  · exact hbefore smaller hmem
  · exact (hbefore smaller hmem).trans (hafter other hother)

/-- Insertion adds the item. -/
theorem perm_insertSorted (search : BinarySearch Key) {items : List Item}
    (hsorted : SortedBy key items) (item : Item) :
    (insertSorted key search items item).Perm (item :: items) := by
  obtain ⟨hlength, _, _⟩ := search.position_spec hsorted.keys (key item)
  rw [List.length_map] at hlength
  exact List.perm_insertIdx item items hlength

/-- An item can move from the front of a list to its end exactly if all others are equal to it. -/
theorem cons_eq_concat_iff {items : List Item} {item : Item} :
    item :: items = items ++ [item] ↔ ∀ other ∈ items, other = item := by
  induction items with
  | nil => exact iff_of_true rfl nofun
  | cons first rest ih =>
    rw [List.cons_append, List.cons.injEq, List.forall_mem_cons, eq_comm]
    constructor
    · rintro ⟨rfl, hrest⟩
      exact ⟨rfl, ih.mp hrest⟩
    · rintro ⟨rfl, hrest⟩
      exact ⟨rfl, ih.mpr hrest⟩

variable (key) in
/-- The item is inserted behind the items with its key, or before equal ones only. -/
def InsertedBehind (search : BinarySearch Key) (items : List Item) (item : Item) : Prop :=
  ∀ later ∈ items.drop (search.position (items.map key) (key item)),
    key later = key item → later = item

/-- Insertion keeps the items of every key in the order in which they came exactly if the item is
inserted behind those with its key. -/
theorem filter_insertSorted_iff (search : BinarySearch Key) {items : List Item}
    (hsorted : SortedBy key items) (item : Item) :
    (∀ shared, (insertSorted key search items item).filter (fun other ↦ key other = shared) =
        (items ++ [item]).filter fun other ↦ key other = shared) ↔
      InsertedBehind key search items item := by
  obtain ⟨hlength, -, -⟩ := search.position_spec hsorted.keys (key item)
  rw [List.length_map] at hlength
  unfold insertSorted InsertedBehind
  rw [insertIdx_eq_append hlength]
  set index := search.position (items.map key) (key item)
  have hitems : items = items.take index ++ items.drop index :=
    (List.take_append_drop index items).symm
  have hown : ((items.take index ++ item :: items.drop index).filter
        (fun other ↦ key other = key item) =
      (items ++ [item]).filter fun other ↦ key other = key item) ↔
        ∀ later ∈ items.drop index, key later = key item → later = item := by
    conv_lhs => rhs; rw [hitems]
    rw [List.append_assoc, List.filter_append, List.filter_append, List.append_cancel_left_eq,
      List.filter_append, List.filter_cons, if_pos (decide_eq_true rfl), List.filter_cons,
      if_pos (decide_eq_true rfl), List.filter_nil, cons_eq_concat_iff]
    simp only [List.mem_filter, decide_eq_true_eq, and_imp]
  constructor
  · exact fun hall ↦ hown.mp (hall (key item))
  · intro hbehind shared
    by_cases hshared : key item = shared
    · rw [← hshared]
      exact hown.mpr hbehind
    · -- the items of another key are the same with and without the new one
      have hskipped : (item :: items.drop index).filter (fun other ↦ key other = shared) =
          (items.drop index).filter fun other ↦ key other = shared := by
        rw [List.filter_cons, if_neg (by simpa using hshared)]
      have hnew : [item].filter (fun other ↦ key other = shared) = [] := by
        rw [List.filter_cons, if_neg (by simpa using hshared), List.filter_nil]
      rw [List.filter_append, hskipped, ← List.filter_append, List.take_append_drop,
        List.filter_append, hnew, List.append_nil]

/-- Two sorted lists of the same items have the same keys in the same order. -/
theorem SortedBy.map_eq_of_perm {first second : List Item} (hfirst : SortedBy key first)
    (hsecond : SortedBy key second) (hperm : first.Perm second) :
    first.map key = second.map key :=
  (hperm.map key).eq_of_pairwise' hfirst.keys hsecond.keys

end Insertion

section StableSort

variable {Item : Type*} (key : Item → Key)

/-- The stable sort by a key: items with equal keys stay in the order they had. -/
def stableSort (items : List Item) : List Item :=
  items.mergeSort fun first second ↦ decide (key first ≤ key second)

variable {key}

/-- Sorting rearranges. -/
theorem perm_stableSort (items : List Item) : (stableSort key items).Perm items :=
  List.mergeSort_perm _ _

/-- The sort is sorted. -/
theorem sortedBy_stableSort (items : List Item) : SortedBy key (stableSort key items) := by
  have hsorted : (stableSort key items).Pairwise
      (fun first second ↦ decide (key first ≤ key second) = true) := by
    refine List.pairwise_mergeSort ?_ ?_ items
    · intro first second third hfirst hsecond
      rw [decide_eq_true_eq] at hfirst hsecond ⊢
      exact hfirst.trans hsecond
    · intro first second
      rw [Bool.or_eq_true, decide_eq_true_eq, decide_eq_true_eq]
      exact le_total _ _
  exact hsorted.imp fun hle ↦ of_decide_eq_true hle

/-- The items of one key stand in the sort as they stand in the list. -/
theorem filter_stableSort (items : List Item) (shared : Key) :
    (stableSort key items).filter (fun item ↦ key item = shared) =
      items.filter fun item ↦ key item = shared := by
  have hpairwise : (items.filter fun item ↦ key item = shared).Pairwise
      (fun first second ↦ decide (key first ≤ key second) = true) := by
    refine List.pairwise_iff_forall_sublist.mpr fun {first second} hpair ↦ ?_
    have hmem : second ∈ [first, second] := List.mem_cons_of_mem first (List.mem_singleton_self _)
    have hfirst := (List.mem_filter.mp (hpair.subset List.mem_cons_self)).2
    have hsecond := (List.mem_filter.mp (hpair.subset hmem)).2
    rw [decide_eq_true_eq] at hfirst hsecond ⊢
    rw [hfirst, hsecond]
  have hsublist : (items.filter fun item ↦ key item = shared).Sublist (stableSort key items) := by
    refine List.sublist_mergeSort ?_ ?_ hpairwise List.filter_sublist
    · intro first second third hfirst hsecond
      rw [decide_eq_true_eq] at hfirst hsecond ⊢
      exact hfirst.trans hsecond
    · intro first second
      rw [Bool.or_eq_true, decide_eq_true_eq, decide_eq_true_eq]
      exact le_total _ _
  have hfiltered := hsublist.filter fun item ↦ decide (key item = shared)
  rw [List.filter_filter] at hfiltered
  simp only [Bool.and_self] at hfiltered
  exact (hfiltered.eq_of_length
    ((perm_stableSort items).filter fun item ↦ decide (key item = shared)).length_eq.symm).symm

/-- The item is the first of those with the least key. -/
def IsFirstMin (key : Item → Key) (items : List Item) (item : Item) : Prop :=
  ∃ before after, items = before ++ item :: after ∧
    (∀ earlier ∈ before, key item < key earlier) ∧ ∀ later ∈ after, key item ≤ key later

/-- The sort begins with the first item of those with the least key. -/
theorem isFirstMin_of_head_stableSort {items : List Item} {first : Item}
    (hfirst : (stableSort key items).head? = some first) : IsFirstMin key items first := by
  obtain ⟨rest, hsort⟩ := List.head?_eq_some_iff.mp hfirst
  have hsorted : (stableSort key items).Pairwise (fun first second ↦ key first ≤ key second) :=
    sortedBy_stableSort items
  rw [hsort] at hsorted
  have hleast : ∀ item ∈ items, key first ≤ key item := by
    intro item hitem
    have hperm : (stableSort key items).Perm items := perm_stableSort items
    have hmem := hperm.mem_iff.mpr hitem
    rw [hsort] at hmem
    rcases List.mem_cons.mp hmem with rfl | hrest
    · exact le_refl _
    · exact (List.pairwise_cons.mp hsorted).1 item hrest
  -- the items of its key stand in the sort as in the list, so it is the first of them there
  have hequal : (stableSort key items).filter (fun item ↦ key item = key first) =
      items.filter fun item ↦ key item = key first := filter_stableSort items (key first)
  rw [hsort, List.filter_cons, if_pos (decide_eq_true rfl)] at hequal
  obtain ⟨before, after, rfl, hbefore, -, -⟩ := List.filter_eq_cons_iff.mp hequal.symm
  refine ⟨before, after, rfl, fun earlier hearlier ↦ ?_, fun later hlater ↦ ?_⟩
  · have hne := hbefore earlier hearlier
    rw [decide_eq_true_eq] at hne
    exact lt_of_le_of_ne (hleast earlier (List.mem_append_left _ hearlier)) (Ne.symm hne)
  · exact hleast later (List.mem_append_right _ (List.mem_cons_of_mem _ hlater))

/-- A sort has a first item when there are items. -/
theorem head_stableSort_eq_none_iff {items : List Item} :
    (stableSort key items).head? = none ↔ items = [] := by
  rw [List.head?_eq_none_iff]
  exact ⟨fun hnil ↦ ((perm_stableSort items).symm.trans (List.Perm.of_eq hnil)).eq_nil,
    fun hnil ↦ ((perm_stableSort items).trans (List.Perm.of_eq hnil)).eq_nil⟩

/-- A list is the stable sort of all its arrangements if and only if it is sorted and items with
equal keys are equal. -/
theorem stableSort_arrangements_iff {items : List Item} :
    (∀ arrangement : List Item, arrangement.Perm items → stableSort key arrangement = items) ↔
      SortedBy key items ∧
        ∀ first ∈ items, ∀ second ∈ items, key first = key second → first = second := by
  constructor
  · intro hrestored
    refine ⟨?_, fun first hfirst second hsecond hkeys ↦ ?_⟩
    · rw [← hrestored items (List.Perm.refl _)]
      exact sortedBy_stableSort items
    · -- Put any item of the key in front: it is the first of its key in the sort, and so in the
      -- list.
      have hhead : ∀ item ∈ items, key item = key first →
          (items.filter fun other ↦ key other = key first).head? = some item := by
        intro item hitem hkey
        obtain ⟨before, after, hsplit⟩ := List.append_of_mem hitem
        have hperm : (item :: (before ++ after)).Perm items := by
          rw [hsplit]
          exact List.perm_middle.symm
        rw [← hrestored _ hperm, filter_stableSort, List.filter_cons_of_pos (by simpa using hkey)]
        rfl
      exact Option.some_inj.mp
        ((hhead first hfirst rfl).symm.trans (hhead second hsecond hkeys.symm))
  · rintro ⟨hsorted, hties⟩ arrangement hperm
    have hsame : (stableSort key arrangement).Perm items := (perm_stableSort _).trans hperm
    have hrestored : (stableSort key arrangement).Pairwise
        (fun first second ↦ key first ≤ key second) := sortedBy_stableSort arrangement
    refine List.Perm.eq_of_pairwise ?_ hrestored hsorted hsame
    intro first second hfirst hsecond hle hge
    exact hties first (hsame.mem_iff.mp hfirst) second hsecond (le_antisymm hle hge)

end StableSort

end Library.SortedInsert
