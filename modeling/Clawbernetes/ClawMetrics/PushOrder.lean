import Clawbernetes.ClawMetrics.MetricStore
import Clawbernetes.Library.LastMaximum

/-!
# The order of pushes with one timestamp

The last value of a metric, `last_value` of `query.rs` and a query with `Aggregation::Last`, is the
value of the last point of the series in the range. Which of several points with the greatest
timestamp that is depends on where `push` inserts a point whose timestamp is in the series already,
and a binary search promises nothing about it. It finds one of the equal timestamps, and the new
point is inserted before the point that was found.

`KeepsPushOrder` says that a series holds the points of every timestamp in the order in which they
were pushed, and `ReportsLatest` that the last value is that of the point pushed last among those
with the greatest timestamp. A run has both in all its states exactly if every push inserts its
point behind those with its timestamp (`latest_reported_iff`), which it does only if every point
that it is put in front of is the same point again.
-/

set_option autoImplicit false
set_option relaxedAutoImplicit false

namespace Clawbernetes.ClawMetrics

open Library.FiniteTable Library.SortedInsert Library.LastMaximum

/-! ### The last value -/

namespace TimeRange

/-- `TimeRange::last_millis` at a reading of the clock, an `i64` difference that wraps. -/
def lastMillis (now millis : ℤ) : TimeRange := ⟨Int.bmod (now - millis) (2 ^ 64), now⟩

/-- `TimeRange::last_seconds`. -/
def lastSeconds (now seconds : ℤ) : TimeRange := lastMillis now (Int.bmod (seconds * 1000) (2 ^ 64))

/-- `TimeRange::last_minutes`. -/
def lastMinutes (now minutes : ℤ) : TimeRange := lastSeconds now (Int.bmod (minutes * 60) (2 ^ 64))

/-- `TimeRange::last_hours`. -/
def lastHours (now hours : ℤ) : TimeRange := lastMinutes now (Int.bmod (hours * 60) (2 ^ 64))

end TimeRange

variable {Value : Type*}

namespace MetricStore

/-- `last_value`. The clock is read for the range, and again by the query. -/
def lastValue (arithmetic : FloatArithmetic Value) (store : MetricStore Value)
    (rangeNow queryNow : ℤ) (name : MetricName) : Option Value :=
  match store.query arithmetic queryNow name (.lastHours rangeNow 24) (some .last) with
  | .ok points => points.head?.map MetricPoint.value
  | .error _ => none

/-! ### What the order of pushes is for -/

/-- The points of the range that the series should hold, in the order in which they were pushed. -/
def pushedInRange (store : MetricStore Value) (name : MetricName) (range : TimeRange)
    (history : List (StoreEvent Value)) : List (MetricPoint Value) :=
  (accounted store.retentionMillis name history).filter fun point ↦ range.contains point.timestamp

/-- The series holds the points of every timestamp in the order in which they were pushed. -/
def KeepsPushOrder (store : MetricStore Value) (name : MetricName)
    (history : List (StoreEvent Value)) : Prop :=
  ∀ timestamp, (store.series name).filter (fun point ↦ point.timestamp = timestamp) =
    (accounted store.retentionMillis name history).filter fun point ↦ point.timestamp = timestamp

/-- The last value of every range, and that of the last day, is the value of the point that was
pushed last among those with the greatest timestamp in the range. -/
structure ReportsLatest (arithmetic : FloatArithmetic Value) (store : MetricStore Value)
    (name : MetricName) (history : List (StoreEvent Value)) : Prop where
  query : ∀ now range point,
    IsLastMax MetricPoint.timestamp (store.pushedInRange name range history) point →
      store.query arithmetic now name range (some .last) = .ok [.new point.timestamp point.value]
  lastValue : ∀ rangeNow now point,
    IsLastMax MetricPoint.timestamp
        (store.pushedInRange name (.lastHours rangeNow 24) history) point →
      store.lastValue arithmetic rangeNow now name = some point.value

variable {search : BinarySearch ℤ} {store : MetricStore Value} {name : MetricName}
  {history : List (StoreEvent Value)}

/-- A query for the last value takes it from the last point in the range. -/
theorem query_last_eq (arithmetic : FloatArithmetic Value) (now : ℤ) {range : TimeRange}
    {point : MetricPoint Value} (hlast : (store.queried name range).getLast? = some point) :
    store.query arithmetic now name range (some .last) =
      .ok [.new point.timestamp point.value] := by
  obtain ⟨front, hfront⟩ := List.getLast?_eq_some_iff.mp hlast
  have hlookup : (store.data.lookup name).isNone = false := by
    cases hcases : store.data.lookup name with
    | none =>
      have hempty : store.queried name range = [] := by
        unfold queried series itemsAt
        rw [hcases]
        rfl
      rw [hempty] at hlast
      cases hlast
    | some points => rfl
  have hvalues : Aggregation.apply arithmetic .last
      ((store.queried name range).map fun point ↦ point.value) = some point.value := by
    have hmapped : ((store.queried name range).map fun point ↦ point.value).getLast? =
        some point.value := by
      rw [List.getLast?_map, hlast]
      rfl
    cases hcases : (store.queried name range).map fun point ↦ point.value with
    | nil =>
      rw [hcases] at hmapped
      cases hmapped
    | cons first rest =>
      rw [hcases] at hmapped
      exact hmapped
  unfold query
  rw [hlookup, if_neg Bool.false_ne_true]
  dsimp only
  rw [hvalues, hlast]
  rfl

/-- A series in the order of its pushes reports the point pushed last. -/
theorem KeepsPushOrder.reportsLatest (horder : store.KeepsPushOrder name history)
    (hsorted : SortedBy MetricPoint.timestamp (store.series name))
    (arithmetic : FloatArithmetic Value) : store.ReportsLatest arithmetic name history := by
  have hqueried : ∀ range timestamp,
      (store.queried name range).filter (fun point ↦ point.timestamp = timestamp) =
        (store.pushedInRange name range history).filter
          fun point ↦ point.timestamp = timestamp := by
    intro range timestamp
    unfold queried pushedInRange
    rw [List.filter_comm, horder timestamp, List.filter_comm]
  have hlast : ∀ range point,
      IsLastMax MetricPoint.timestamp (store.pushedInRange name range history) point →
        (store.queried name range).getLast? = some point := by
    intro range point hpoint
    have hmax : IsLastMax MetricPoint.timestamp (store.queried name range) point := by
      obtain ⟨hgreatest, hlatest⟩ := isLastMax_iff.mp hpoint
      refine isLastMax_iff.mpr ⟨fun other hother ↦ hgreatest other ?_, ?_⟩
      · have hown : other ∈ (store.queried name range).filter
            fun point ↦ point.timestamp = other.timestamp :=
          List.mem_filter.mpr ⟨hother, decide_eq_true rfl⟩
        rw [hqueried] at hown
        exact (List.mem_filter.mp hown).1
      · rw [hqueried]
        exact hlatest
    cases hcases : (store.queried name range).getLast? with
    | none =>
      rw [List.getLast?_eq_none_iff] at hcases
      have hmem := hmax.mem
      rw [hcases] at hmem
      cases hmem
    | some last =>
      have hsublist : SortedBy MetricPoint.timestamp (store.queried name range) :=
        hsorted.sublist List.filter_sublist
      rw [(isLastMax_of_sorted hsublist hcases).unique hmax]
  refine ⟨fun now range point hpoint ↦ query_last_eq arithmetic now (hlast range point hpoint), ?_⟩
  intro rangeNow now point hpoint
  unfold lastValue
  rw [query_last_eq arithmetic now (hlast _ point hpoint)]
  rfl

/-! ### What a push does to the order -/

/-- The push inserts its point behind those that are kept with its timestamp, or before equal points
only. -/
def PushesBehind (search : BinarySearch ℤ) (store : MetricStore Value) (now : ℤ)
    (name : MetricName) (point : MetricPoint Value) : Prop :=
  InsertedBehind MetricPoint.timestamp search
    ((store.series name).filter fun kept ↦ store.cutoff now ≤ kept.timestamp) point

/-- Among the points that an event leaves in a series, those of one timestamp are in the order of
their pushes if they were before. -/
theorem KeepsPushOrder.filter_spares (horder : store.KeepsPushOrder name history)
    (event : StoreEvent Value) (timestamp : ℤ) :
    ((store.series name).filter fun point ↦ event.spares store.retentionMillis name point).filter
        (fun point ↦ point.timestamp = timestamp) =
      ((accounted store.retentionMillis name history).filter
        fun point ↦ event.spares store.retentionMillis name point).filter
          fun point ↦ point.timestamp = timestamp := by
  rw [List.filter_comm, horder timestamp, List.filter_comm]

/-- After a push the series is in the order of its pushes exactly if the point was inserted behind
those with its timestamp. -/
theorem keepsPushOrder_push_iff (hsorted : SortedBy MetricPoint.timestamp (store.series name))
    (horder : store.KeepsPushOrder name history) (now : ℤ) (point : MetricPoint Value) :
    (store.apply search (.push now name point)).KeepsPushOrder name
        (history ++ [.push now name point]) ↔ store.PushesBehind search now name point := by
  have hkept : SortedBy MetricPoint.timestamp
      ((store.series name).filter fun kept ↦ store.cutoff now ≤ kept.timestamp) :=
    hsorted.sublist List.filter_sublist
  have hspares : (fun kept : MetricPoint Value ↦ (StoreEvent.push now name point).spares
      store.retentionMillis name kept) = fun kept ↦ decide (store.cutoff now ≤ kept.timestamp) := by
    funext kept
    change (decide (name ≠ name) || decide (store.cutoff now ≤ kept.timestamp)) = _
    rw [decide_eq_false (not_not_intro rfl), Bool.false_or]
  have hseries : (store.apply search (.push now name point)).series name =
      insertSorted MetricPoint.timestamp search
        ((store.series name).filter fun kept ↦ store.cutoff now ≤ kept.timestamp) point :=
    itemsAt_insert_self _ _ _
  have hpushed : (StoreEvent.push now name point).pushed name = [point] := if_pos rfl
  have hfiltered := horder.filter_spares (.push now name point)
  rw [hspares] at hfiltered
  rw [PushesBehind, ← filter_insertSorted_iff search hkept point]
  refine forall_congr' fun timestamp ↦ ?_
  rw [hseries, retentionMillis_apply, accounted_concat, hpushed, hspares, List.filter_append,
    List.filter_append, hfiltered]

/-- An event that pushes nothing to a series leaves the points it spares, as they are. -/
theorem series_apply_of_pushed {event : StoreEvent Value} (hnothing : event.pushed name = []) :
    (store.apply search event).series name =
      (store.series name).filter fun point ↦ event.spares store.retentionMillis name point := by
  cases event with
  | push now other point =>
    have hname : other ≠ name := by
      rintro rfl
      rw [StoreEvent.pushed, if_pos rfl] at hnothing
      cases hnothing
    have hseries : (store.apply search (.push now other point)).series name = store.series name :=
      itemsAt_insert_of_ne (Ne.symm hname) _ _
    rw [hseries]
    simp [StoreEvent.spares, hname]
  | expire now => exact itemsAt_keepItems _ _ _
  | remove other =>
    by_cases hname : other = name
    · subst hname
      have hseries : (store.apply search (.remove other)).series other = [] :=
        itemsAt_erase_self _ _
      rw [hseries]
      simp [StoreEvent.spares]
    · have hseries : (store.apply search (.remove other)).series name = store.series name :=
        itemsAt_erase_of_ne (Ne.symm hname) _
      rw [hseries]
      simp [StoreEvent.spares, hname]
  | clear =>
    have hseries : (store.apply search .clear).series name = [] := rfl
    rw [hseries]
    simp [StoreEvent.spares]

/-- An event that pushes nothing to a series keeps the order of its pushes. -/
theorem KeepsPushOrder.apply_of_pushed (horder : store.KeepsPushOrder name history)
    {event : StoreEvent Value} (hnothing : event.pushed name = []) :
    (store.apply search event).KeepsPushOrder name (history ++ [event]) := by
  intro timestamp
  rw [series_apply_of_pushed hnothing, retentionMillis_apply, accounted_concat, hnothing,
    List.append_nil]
  exact horder.filter_spares event timestamp

/-- A run keeps the order of the pushes in all its states exactly if every push inserts its point
behind those with its timestamp. -/
theorem keepsPushOrder_foldl_iff (search : BinarySearch ℤ) (retention : ℕ) (name : MetricName)
    (events : List (StoreEvent Value)) :
    (∀ reached, reached <+: events →
      (reached.foldl (apply search) (new retention)).KeepsPushOrder name reached) ↔
    ∀ earlier now point later, events = earlier ++ .push now name point :: later →
      (earlier.foldl (apply search) (new retention)).PushesBehind search now name point := by
  constructor
  · rintro horder earlier now point later rfl
    have hearlier := horder earlier (List.prefix_append _ _)
    have hpushed := horder (earlier ++ [.push now name point])
      ⟨later, by rw [List.append_assoc, List.singleton_append]⟩
    rw [List.foldl_concat] at hpushed
    exact (keepsPushOrder_push_iff (series_foldl_apply search retention name earlier).1 hearlier
      now point).mp hpushed
  · intro hbehind reached
    induction reached using List.reverseRecOn with
    | nil => exact fun _ timestamp ↦ rfl
    | append_singleton reached event ih =>
      intro hprefix
      have horder := ih ((List.prefix_append _ _).trans hprefix)
      rw [List.foldl_concat]
      cases hpushed : event.pushed name with
      | nil => exact horder.apply_of_pushed hpushed
      | cons first rest =>
        cases event with
        | push now other point =>
          by_cases hname : other = name
          · subst hname
            obtain ⟨later, rfl⟩ := hprefix
            refine (keepsPushOrder_push_iff
              (series_foldl_apply search retention other reached).1 horder now point).mpr ?_
            refine hbehind reached now point later ?_
            rw [List.append_assoc, List.singleton_append]
          · rw [StoreEvent.pushed, if_neg hname] at hpushed
            cases hpushed
        | expire now => cases hpushed
        | remove other => cases hpushed
        | clear => cases hpushed

/-- In every state of a run the series holds the points of every timestamp in the order in which
they were pushed, and the last value is that of the point pushed last among those with the greatest
timestamp in the range, if and only if every push to the series finds no point behind the place of
insertion that has its timestamp and is another point. -/
theorem latest_reported_iff (search : BinarySearch ℤ) (arithmetic : FloatArithmetic Value)
    (retention : ℕ) (name : MetricName) (events : List (StoreEvent Value)) :
    (∀ reached, reached <+: events →
      let store := reached.foldl (apply search) (new retention)
      store.KeepsPushOrder name reached ∧ store.ReportsLatest arithmetic name reached) ↔
    ∀ earlier now point later, events = earlier ++ .push now name point :: later →
      (earlier.foldl (apply search) (new retention)).PushesBehind search now name point := by
  rw [← keepsPushOrder_foldl_iff search retention name events]
  constructor
  · exact fun hall reached hprefix ↦ (hall reached hprefix).1
  · intro horder reached hprefix
    have hsorted := (series_foldl_apply search retention name reached).1
    exact ⟨horder reached hprefix, (horder reached hprefix).reportsLatest hsorted arithmetic⟩

/-- Two pushes in one millisecond. -/
def sameMillisecond : List (StoreEvent ℕ) :=
  [.push 10000 exampleName (.new 10000 1), .push 10000 exampleName (.new 10000 2)]

/-- Of two points pushed in one millisecond the first is reported. -/
theorem first_of_two_is_reported :
    let store := sameMillisecond.foldl (apply .leftmost) (new (3600 * 10 ^ 9))
    store.lastValue exampleArithmetic 10000 10000 exampleName = some 1 ∧
      ¬ store.KeepsPushOrder exampleName sameMillisecond ∧
      ¬ store.ReportsLatest exampleArithmetic exampleName sameMillisecond := by
  intro store
  have hvalue : store.lastValue exampleArithmetic 10000 10000 exampleName = some 1 := by
    decide +kernel
  have hreports : ¬ store.ReportsLatest exampleArithmetic exampleName sameMillisecond := by
    intro hreports
    have hlatest := hreports.lastValue 10000 10000 (.new 10000 2)
      ⟨[.new 10000 1], [], rfl, by decide, nofun⟩
    rw [hvalue] at hlatest
    cases hlatest
  refine ⟨hvalue, fun horder ↦ hreports ?_, hreports⟩
  exact horder.reportsLatest (series_foldl_apply _ _ _ _).1 exampleArithmetic

end MetricStore

end Clawbernetes.ClawMetrics
