import Clawbernetes.Library.FiniteTable
import Clawbernetes.Library.SortedInsert
import Mathlib.Data.List.Induction

/-!
# The metric store

`storage.rs` and the types of `types.rs` it uses. A series is a list of points in the order of their
timestamps. A push drops the points of its series that are older than the retention period and
inserts the new point at the place a binary search finds; `expire_old_data` drops the old points of
every series. Nothing else expires a point: a query only filters.

`accounted` says what a series should hold, from the history alone: the points pushed to it since it
was last removed, without those that were older than the cutoff of a later push to the series or of
a later `expire_old_data`. Every series is sorted and holds exactly these (`series_accounted`), and
a batch leaves what its points leave one by one. A query finds no point older than the retention
period exactly when every such point was dropped by something else (`freshQuery_iff_expired`), and
`stale_point_is_returned` is a query that does.
-/

set_option autoImplicit false
set_option relaxedAutoImplicit false

namespace Clawbernetes.ClawMetrics

open Library.FiniteTable Library.SortedInsert

/-! ### Names, points and aggregations -/

/-- The errors of the metrics that the modelled calls return. -/
inductive MetricsError where
  | invalidMetricName (reason : String)
  | metricNotFound (name : String)
  deriving DecidableEq

/-- `MetricName::MAX_LENGTH`, in bytes. -/
def maxNameLength : ℕ := 256

/-- The checks of `MetricName::new`. -/
def validateName (text : String) : Except MetricsError Unit :=
  if text.isEmpty then .error (.invalidMetricName "metric name cannot be empty")
  else if maxNameLength < text.utf8ByteSize then
    .error (.invalidMetricName
      ("metric name exceeds maximum length of " ++ toString maxNameLength ++ " characters"))
  else if text.toList.head?.any fun char ↦ !char.isAlpha && char != '_' then
    .error (.invalidMetricName "metric name must start with a letter or underscore")
  else
    match text.toList.find? fun char ↦ !char.isAlphanum && char != '_' && char != ':' with
    | some char => .error (.invalidMetricName
        ("invalid character '" ++ char.toString ++ "' in metric name"))
    | none => .ok ()

/-- `MetricName`: a text that passed the checks. -/
structure MetricName where
  text : String
  valid : validateName text = .ok ()
  deriving DecidableEq

/-- `MetricPoint`. The values are floating-point numbers, which the store only moves and hands to an
aggregation. -/
structure MetricPoint (Value : Type*) where
  timestamp : ℤ
  value : Value
  labels : Table String String

/-- `MetricPoint::new`. -/
def MetricPoint.new {Value : Type*} (timestamp : ℤ) (value : Value) : MetricPoint Value :=
  ⟨timestamp, value, ∅⟩

/-- `TimeRange`, both ends included. -/
structure TimeRange where
  start : ℤ
  end_ : ℤ
  deriving DecidableEq

/-- `TimeRange::contains`. -/
def TimeRange.contains (range : TimeRange) (timestamp : ℤ) : Bool :=
  range.start ≤ timestamp && timestamp ≤ range.end_

/-- `Aggregation`. -/
inductive Aggregation where
  | sum
  | avg
  | min
  | max
  | last
  | count
  deriving DecidableEq

/-- The arithmetic of floating-point numbers that the aggregations use. -/
structure FloatArithmetic (Value : Type*) where
  zero : Value
  add : Value → Value → Value
  div : Value → Value → Value
  min : Value → Value → Value
  max : Value → Value → Value
  ofNat : ℕ → Value

/-- `Aggregation::apply`. -/
def Aggregation.apply {Value : Type*} (arithmetic : FloatArithmetic Value)
    (aggregation : Aggregation) : List Value → Option Value
  | [] => none
  | first :: rest =>
    let sum := (first :: rest).foldl arithmetic.add arithmetic.zero
    let count := arithmetic.ofNat (first :: rest).length
    match aggregation with
    | .sum => some sum
    | .avg => some (arithmetic.div sum count)
    | .min => some (rest.foldl arithmetic.min first)
    | .max => some (rest.foldl arithmetic.max first)
    | .last => (first :: rest).getLast?
    | .count => some count

/-! ### The store -/

/-- The cutoff of a retention at a reading of the clock, an `i64` difference that wraps. -/
def cutoffAt (retentionMillis now : ℤ) : ℤ := Int.bmod (now - retentionMillis) (2 ^ 64)

/-- `MetricStore`. -/
structure MetricStore (Value : Type*) where
  retentionMillis : ℤ
  data : Table MetricName (List (MetricPoint Value))

variable {Value : Type*}

namespace MetricStore

/-- `MetricStore::new`, from a retention in nanoseconds. The milliseconds are cast to an `i64`. -/
def new (retention : ℕ) : MetricStore Value := ⟨Int.bmod (retention / 10 ^ 6) (2 ^ 64), ∅⟩

/-- The cutoff at a reading of the clock. -/
def cutoff (store : MetricStore Value) (now : ℤ) : ℤ := cutoffAt store.retentionMillis now

/-- The points of a series, none when it is absent. -/
def series (store : MetricStore Value) (name : MetricName) : List (MetricPoint Value) :=
  itemsAt store.data name

/-- `MetricStore::push`. -/
def push (search : BinarySearch ℤ) (store : MetricStore Value) (now : ℤ) (name : MetricName)
    (point : MetricPoint Value) : MetricStore Value :=
  let kept := (store.series name).filter fun kept ↦ store.cutoff now ≤ kept.timestamp
  { store with data :=
      store.data.insert name (insertSorted MetricPoint.timestamp search kept point) }

/-- `MetricStore::push_batch`: the loop over the batch, with one reading of the clock. -/
def pushBatch (search : BinarySearch ℤ) (store : MetricStore Value) (now : ℤ)
    (metrics : List (MetricName × MetricPoint Value)) : MetricStore Value :=
  metrics.foldl (fun store metric ↦ store.push search now metric.1 metric.2) store

/-- `MetricStore::remove_metric`. -/
def removeMetric (store : MetricStore Value) (name : MetricName) : MetricStore Value × Bool :=
  ({ store with data := store.data.erase name }, (store.data.lookup name).isSome)

/-- `MetricStore::clear`. -/
def clear (store : MetricStore Value) : MetricStore Value := { store with data := ∅ }

/-- `MetricStore::expire_old_data`. -/
def expireOldData (store : MetricStore Value) (now : ℤ) : MetricStore Value :=
  { store with data := keepItems (fun point ↦ store.cutoff now ≤ point.timestamp) store.data }

/-- The points that a query returns or aggregates: those of the series in the range. -/
def queried (store : MetricStore Value) (name : MetricName) (range : TimeRange) :
    List (MetricPoint Value) :=
  (store.series name).filter fun point ↦ range.contains point.timestamp

/-- `MetricStore::query`. -/
def query (arithmetic : FloatArithmetic Value) (store : MetricStore Value) (now : ℤ)
    (name : MetricName) (range : TimeRange) (aggregation : Option Aggregation) :
    Except MetricsError (List (MetricPoint Value)) :=
  if (store.data.lookup name).isNone then .error (.metricNotFound name.text)
  else
    let filtered := store.queried name range
    match aggregation with
    | none => .ok filtered
    | some aggregation =>
      match aggregation.apply arithmetic (filtered.map fun point ↦ point.value) with
      | none => .ok []
      | some result =>
        let timestamp := (filtered.getLast?.map fun point ↦ point.timestamp).getD now
        .ok [.new timestamp result]

end MetricStore

/-- The calls that change the store, with the reading of the clock where they take one. -/
inductive StoreCall (Value : Type*) where
  | push (now : ℤ) (name : MetricName) (point : MetricPoint Value)
  | pushBatch (now : ℤ) (metrics : List (MetricName × MetricPoint Value))
  | expireOldData (now : ℤ)
  | removeMetric (name : MetricName)
  | clear

namespace MetricStore

/-- The store after a call. -/
def after (search : BinarySearch ℤ) (store : MetricStore Value) :
    StoreCall Value → MetricStore Value
  | .push now name point => store.push search now name point
  | .pushBatch now metrics => store.pushBatch search now metrics
  | .expireOldData now => store.expireOldData now
  | .removeMetric name => (store.removeMetric name).1
  | .clear => store.clear

end MetricStore

/-! ### The account of a series -/

/-- What a call does to the series, one point at a time. -/
inductive StoreEvent (Value : Type*) where
  | push (now : ℤ) (name : MetricName) (point : MetricPoint Value)
  | expire (now : ℤ)
  | remove (name : MetricName)
  | clear

/-- The events of a call. -/
def StoreCall.events : StoreCall Value → List (StoreEvent Value)
  | .push now name point => [.push now name point]
  | .pushBatch now metrics => metrics.map fun metric ↦ .push now metric.1 metric.2
  | .expireOldData now => [.expire now]
  | .removeMetric name => [.remove name]
  | .clear => [.clear]

/-- The event leaves a point of the series in place: the series is not removed, and the point is not
older than the cutoff of a push to the series or of an expiry. -/
def StoreEvent.spares (retentionMillis : ℤ) (name : MetricName) (point : MetricPoint Value) :
    StoreEvent Value → Bool
  | .push now other _ => other ≠ name || cutoffAt retentionMillis now ≤ point.timestamp
  | .expire now => cutoffAt retentionMillis now ≤ point.timestamp
  | .remove other => other ≠ name
  | .clear => false

/-- The point that an event pushes to the series. -/
def StoreEvent.pushed (name : MetricName) : StoreEvent Value → List (MetricPoint Value)
  | .push _ other point => if other = name then [point] else []
  | _ => []

/-- The points pushed to a series and spared by every later event. -/
def accounted (retentionMillis : ℤ) (name : MetricName) :
    List (StoreEvent Value) → List (MetricPoint Value)
  | [] => []
  | event :: later =>
    (event.pushed name).filter
        (fun point ↦ later.all fun event ↦ event.spares retentionMillis name point) ++
      accounted retentionMillis name later

namespace MetricStore

variable {search : BinarySearch ℤ} {store : MetricStore Value} {name : MetricName}

/-- The store after an event. -/
def apply (search : BinarySearch ℤ) (store : MetricStore Value) :
    StoreEvent Value → MetricStore Value
  | .push now name point => store.push search now name point
  | .expire now => store.expireOldData now
  | .remove name => (store.removeMetric name).1
  | .clear => store.clear

/-- A call is its events one after the other. -/
theorem after_eq_foldl_apply (search : BinarySearch ℤ) (store : MetricStore Value)
    (call : StoreCall Value) :
    store.after search call = call.events.foldl (apply search) store := by
  cases call with
  | push now name point => rfl
  | pushBatch now metrics =>
    show metrics.foldl _ store = (metrics.map _).foldl _ store
    rw [List.foldl_map]
    rfl
  | expireOldData now => rfl
  | removeMetric name => rfl
  | clear => rfl

/-- A run is the events of its calls one after the other. -/
theorem foldl_after_eq (search : BinarySearch ℤ) (store : MetricStore Value)
    (calls : List (StoreCall Value)) :
    calls.foldl (after search) store =
      (calls.flatMap StoreCall.events).foldl (apply search) store := by
  induction calls generalizing store with
  | nil => rfl
  | cons call rest ih =>
    rw [List.foldl_cons, List.flatMap_cons, List.foldl_append, ih, after_eq_foldl_apply]

/-- No event changes the retention. -/
theorem retentionMillis_apply (event : StoreEvent Value) :
    (store.apply search event).retentionMillis = store.retentionMillis := by
  cases event <;> rfl

/-- A series after a push to it is sorted, and holds the points not older than the cutoff and the
point pushed. -/
theorem series_push (search : BinarySearch ℤ)
    (hsorted : SortedBy MetricPoint.timestamp (store.series name)) (now : ℤ)
    (point : MetricPoint Value) :
    SortedBy MetricPoint.timestamp ((store.push search now name point).series name) ∧
      ((store.push search now name point).series name).Perm
        ((store.series name).filter (fun kept ↦ store.cutoff now ≤ kept.timestamp) ++ [point]) := by
  have hkept : SortedBy MetricPoint.timestamp
      ((store.series name).filter fun kept ↦ store.cutoff now ≤ kept.timestamp) :=
    hsorted.sublist List.filter_sublist
  have hseries : (store.push search now name point).series name =
      insertSorted MetricPoint.timestamp search
        ((store.series name).filter fun kept ↦ store.cutoff now ≤ kept.timestamp) point :=
    itemsAt_insert_self _ _ _
  rw [hseries]
  refine ⟨pairwise_insertSorted search hkept point, ?_⟩
  exact (perm_insertSorted search hkept point).trans (List.perm_append_singleton _ _).symm

/-- The series after an event is sorted, and holds the points the event spares and the point it
pushes. -/
theorem series_apply (search : BinarySearch ℤ)
    (hsorted : SortedBy MetricPoint.timestamp (store.series name))
    (event : StoreEvent Value) :
    SortedBy MetricPoint.timestamp ((store.apply search event).series name) ∧
      ((store.apply search event).series name).Perm
        ((store.series name).filter (fun point ↦ event.spares store.retentionMillis name point) ++
          event.pushed name) := by
  cases event with
  | push now other point =>
    by_cases hname : other = name
    · subst hname
      simp only [StoreEvent.spares, StoreEvent.pushed, ne_eq, not_true_eq_false, decide_false,
        Bool.false_or, if_true]
      exact series_push search hsorted now point
    · have hseries : (store.apply search (.push now other point)).series name =
          store.series name := itemsAt_insert_of_ne (Ne.symm hname) _ _
      rw [hseries]
      refine ⟨hsorted, ?_⟩
      simp [StoreEvent.spares, StoreEvent.pushed, hname]
  | expire now =>
    have hseries : (store.apply search (.expire now)).series name =
        (store.series name).filter fun point ↦ store.cutoff now ≤ point.timestamp :=
      itemsAt_keepItems _ _ _
    rw [hseries]
    refine ⟨hsorted.sublist List.filter_sublist, ?_⟩
    have hpushed : StoreEvent.pushed name (.expire now : StoreEvent Value) = [] := rfl
    rw [hpushed, List.append_nil]
    exact List.Perm.refl _
  | remove other =>
    by_cases hname : other = name
    · subst hname
      have hseries : (store.apply search (.remove other)).series other = [] :=
        itemsAt_erase_self _ _
      rw [hseries]
      exact ⟨List.Pairwise.nil, by simp [StoreEvent.spares, StoreEvent.pushed]⟩
    · have hseries : (store.apply search (.remove other)).series name = store.series name :=
        itemsAt_erase_of_ne (Ne.symm hname) _
      rw [hseries]
      exact ⟨hsorted, by simp [StoreEvent.spares, StoreEvent.pushed, hname]⟩
  | clear =>
    have hseries : (store.apply search .clear).series name = [] := rfl
    rw [hseries]
    exact ⟨List.Pairwise.nil, by simp [StoreEvent.spares, StoreEvent.pushed]⟩

/-- The account after one more event. -/
theorem accounted_concat (retentionMillis : ℤ) (events : List (StoreEvent Value))
    (event : StoreEvent Value) :
    accounted retentionMillis name (events ++ [event]) =
      (accounted retentionMillis name events).filter
          (fun point ↦ event.spares retentionMillis name point) ++
        event.pushed name := by
  induction events with
  | nil => simp [accounted]
  | cons first rest ih =>
    rw [List.cons_append, accounted, accounted, ih, List.filter_append, List.filter_filter,
      List.append_assoc]
    congr 1
    apply List.filter_congr
    intro point _
    rw [List.all_append, List.all_cons, List.all_nil, Bool.and_true, Bool.and_comm]

/-- A series of an empty store is sorted and holds what its history accounts for, after every run of
events. -/
theorem series_foldl_apply (search : BinarySearch ℤ) (retention : ℕ) (name : MetricName)
    (events : List (StoreEvent Value)) :
    let store := events.foldl (apply search) (new retention)
    SortedBy MetricPoint.timestamp (store.series name) ∧
      (store.series name).Perm (accounted store.retentionMillis name events) := by
  induction events using List.reverseRecOn with
  | nil => exact ⟨List.Pairwise.nil, List.Perm.nil⟩
  | append_singleton events event ih =>
    obtain ⟨hsorted, hperm⟩ := ih
    rw [List.foldl_concat]
    obtain ⟨hsortedAfter, hpermAfter⟩ := series_apply search hsorted event
    refine ⟨hsortedAfter, ?_⟩
    rw [retentionMillis_apply, accounted_concat]
    exact hpermAfter.trans ((hperm.filter _).append_right _)

/-- Two stores whose series are sorted and hold the same points. -/
structure SamePoints (first second : MetricStore Value) : Prop where
  retention : first.retentionMillis = second.retentionMillis
  first_sorted : ∀ name, SortedBy MetricPoint.timestamp (first.series name)
  second_sorted : ∀ name, SortedBy MetricPoint.timestamp (second.series name)
  perm : ∀ name, (first.series name).Perm (second.series name)

/-- Stores with the same points have them after the same event, whichever searches they use. -/
theorem SamePoints.apply {first second : MetricStore Value} (hsame : SamePoints first second)
    (search other : BinarySearch ℤ) (event : StoreEvent Value) :
    SamePoints (first.apply search event) (second.apply other event) where
  retention := by rw [retentionMillis_apply, retentionMillis_apply, hsame.retention]
  first_sorted := fun name ↦ (series_apply search (hsame.first_sorted name) event).1
  second_sorted := fun name ↦ (series_apply other (hsame.second_sorted name) event).1
  perm := by
    intro name
    refine (series_apply search (hsame.first_sorted name) event).2.trans ?_
    refine List.Perm.trans ?_ (series_apply other (hsame.second_sorted name) event).2.symm
    rw [hsame.retention]
    exact ((hsame.perm name).filter _).append_right _

/-- Stores with the same points have them after the same events. -/
theorem SamePoints.foldl_apply (search other : BinarySearch ℤ) (events : List (StoreEvent Value)) :
    ∀ {first second : MetricStore Value}, SamePoints first second →
      SamePoints (events.foldl (MetricStore.apply search) first)
        (events.foldl (MetricStore.apply other) second) := by
  induction events with
  | nil => exact fun hsame ↦ hsame
  | cons event rest ih => exact fun hsame ↦ ih (hsame.apply search other event)

/-- After every run of calls every series is sorted and holds the points pushed to it since its last
removal, without those older than the cutoff of a later push to the series or expiry; and a batch
leaves the timestamps and the points that its elements leave one by one at the same reading. -/
theorem series_accounted (search other : BinarySearch ℤ) (retention : ℕ)
    (calls : List (StoreCall Value)) (name : MetricName) :
    let store := calls.foldl (after search) (new retention)
    SortedBy MetricPoint.timestamp (store.series name) ∧
    (store.series name).Perm
      (accounted store.retentionMillis name (calls.flatMap StoreCall.events)) ∧
    ∀ (now : ℤ) (metrics : List (MetricName × MetricPoint Value)),
      let batch := store.pushBatch search now metrics
      let single := metrics.foldl (fun store metric ↦ store.push other now metric.1 metric.2) store
      (batch.series name).map MetricPoint.timestamp =
          (single.series name).map MetricPoint.timestamp ∧
        (batch.series name).Perm (single.series name) := by
  intro store
  have hstore : store =
      (calls.flatMap StoreCall.events).foldl (apply search) (new retention) :=
    foldl_after_eq search (new retention) calls
  have hsorted : ∀ name, SortedBy MetricPoint.timestamp (store.series name) := by
    intro name
    rw [hstore]
    exact (series_foldl_apply search retention name _).1
  refine ⟨hsorted name, ?_, ?_⟩
  · rw [hstore]
    exact (series_foldl_apply search retention name _).2
  · intro now metrics batch single
    have hsame : SamePoints batch single := by
      have hevents := SamePoints.foldl_apply search other
        (metrics.map fun metric ↦ StoreEvent.push now metric.1 metric.2)
        ⟨rfl, hsorted, hsorted, fun name ↦ List.Perm.refl _⟩
      rwa [List.foldl_map, List.foldl_map] at hevents
    exact ⟨(hsame.first_sorted name).map_eq_of_perm (hsame.second_sorted name) (hsame.perm name),
      hsame.perm name⟩

/-! ### Queries -/

/-- A point is accounted for when it was pushed to the series and every later event spared it. -/
theorem mem_accounted_iff {retentionMillis : ℤ} {events : List (StoreEvent Value)}
    {point : MetricPoint Value} :
    point ∈ accounted retentionMillis name events ↔
      ∃ earlier now later, events = earlier ++ .push now name point :: later ∧
        ∀ event ∈ later, event.spares retentionMillis name point = true := by
  induction events with
  | nil => simp [accounted]
  | cons event rest ih =>
    rw [accounted, List.mem_append, ih, List.mem_filter, List.all_eq_true]
    constructor
    · rintro (⟨hpushed, hspared⟩ | ⟨earlier, now, later, rfl, hspared⟩)
      · cases event with
        | push now other pushed =>
          simp only [StoreEvent.pushed] at hpushed
          split_ifs at hpushed with hname
          · subst hname
            rw [List.mem_singleton] at hpushed
            subst hpushed
            exact ⟨[], now, rest, rfl, hspared⟩
          · cases hpushed
        | expire now => cases hpushed
        | remove other => cases hpushed
        | clear => cases hpushed
      · exact ⟨event :: earlier, now, later, rfl, hspared⟩
    · rintro ⟨earlier, now, later, hevents, hspared⟩
      cases earlier with
      | nil =>
        rw [List.nil_append, List.cons.injEq] at hevents
        obtain ⟨rfl, rfl⟩ := hevents
        exact Or.inl ⟨by simp [StoreEvent.pushed], hspared⟩
      | cons first earlier =>
        rw [List.cons_append, List.cons.injEq] at hevents
        obtain ⟨rfl, rfl⟩ := hevents
        exact Or.inr ⟨earlier, now, later, rfl, hspared⟩

/-- Every point that a query returns or aggregates is within the retention period. -/
def FreshQuery (arithmetic : FloatArithmetic Value) (store : MetricStore Value) (now : ℤ)
    (name : MetricName) (range : TimeRange) (aggregation : Option Aggregation) : Prop :=
  ∀ points, store.query arithmetic now name range aggregation = .ok points →
    (∀ point ∈ points, store.cutoff now ≤ point.timestamp) ∧
      ∀ point ∈ store.queried name range, store.cutoff now ≤ point.timestamp

/-- A query is fresh when the points of the series in its range are. -/
theorem freshQuery_iff (arithmetic : FloatArithmetic Value) (store : MetricStore Value) (now : ℤ)
    (name : MetricName) (range : TimeRange) (aggregation : Option Aggregation) :
    store.FreshQuery arithmetic now name range aggregation ↔
      ∀ point ∈ store.queried name range, store.cutoff now ≤ point.timestamp := by
  unfold FreshQuery query
  cases hlookup : store.data.lookup name with
  | none =>
    have hempty : store.queried name range = [] := by
      unfold queried series itemsAt
      rw [hlookup]
      rfl
    rw [hempty]
    simp
  | some points =>
    simp only [Option.isNone_some, Bool.false_eq_true, if_false]
    cases aggregation with
    | none =>
      simp only [Except.ok.injEq]
      exact ⟨fun hfresh ↦ (hfresh _ rfl).2, fun hfresh _ hpoints ↦ hpoints ▸ ⟨hfresh, hfresh⟩⟩
    | some aggregation =>
      dsimp only
      cases hresult : aggregation.apply arithmetic
          ((store.queried name range).map fun point ↦ point.value) with
      | none =>
        simp only [Except.ok.injEq]
        refine ⟨fun hfresh ↦ (hfresh _ rfl).2, fun hfresh _ hpoints ↦ ⟨?_, hfresh⟩⟩
        rw [← hpoints]
        exact fun _ hpoint ↦ absurd hpoint List.not_mem_nil
      | some result =>
        simp only [Except.ok.injEq]
        refine ⟨fun hfresh ↦ (hfresh _ rfl).2, fun hfresh _ hpoints ↦ ⟨?_, hfresh⟩⟩
        rw [← hpoints]
        intro point hpoint
        rw [List.mem_singleton] at hpoint
        subst hpoint
        -- there is a result only when there are points, and the last of them gives the timestamp
        cases hlast : (store.queried name range).getLast? with
        | none =>
          rw [List.getLast?_eq_none_iff] at hlast
          rw [hlast] at hresult
          cases hresult
        | some last => exact hfresh last (List.mem_of_getLast? hlast)

/-- After a run, a query at a reading of the clock returns and aggregates no point older than the
retention period if and only if every point of its range that was pushed to the series and is too
old at the reading was removed with the series, or was too old already for a later push to the
series or expiry. -/
theorem freshQuery_iff_expired (search : BinarySearch ℤ) (arithmetic : FloatArithmetic Value)
    (retention : ℕ) (calls : List (StoreCall Value)) (name : MetricName) (range : TimeRange)
    (aggregation : Option Aggregation) (now : ℤ) :
    let store := calls.foldl (after search) (new retention)
    store.FreshQuery arithmetic now name range aggregation ↔
      ∀ earlier pushedAt point later,
        calls.flatMap StoreCall.events = earlier ++ .push pushedAt name point :: later →
        range.contains point.timestamp = true → point.timestamp < store.cutoff now →
        ∃ event ∈ later, event.spares store.retentionMillis name point = false := by
  intro store
  have hstore : store =
      (calls.flatMap StoreCall.events).foldl (apply search) (new retention) :=
    foldl_after_eq search (new retention) calls
  have hmem : ∀ point, point ∈ store.series name ↔
      point ∈ accounted store.retentionMillis name (calls.flatMap StoreCall.events) := by
    intro point
    rw [hstore]
    exact (series_foldl_apply search retention name _).2.mem_iff
  rw [freshQuery_iff]
  constructor
  · intro hfresh earlier pushedAt point later hevents hrange hold
    by_contra hnone
    have hspared : ∀ event ∈ later, event.spares store.retentionMillis name point = true := by
      intro event hevent
      by_contra hdropped
      exact hnone ⟨event, hevent, eq_false_of_ne_true hdropped⟩
    refine absurd (hfresh point ?_) (not_le.mpr hold)
    refine List.mem_filter.mpr ⟨(hmem point).mpr (mem_accounted_iff.mpr ?_), hrange⟩
    exact ⟨earlier, pushedAt, later, hevents, hspared⟩
  · intro hremoved point hpoint
    obtain ⟨hseries, hrange⟩ := List.mem_filter.mp hpoint
    obtain ⟨earlier, pushedAt, later, hevents, hspared⟩ :=
      mem_accounted_iff.mp ((hmem point).mp hseries)
    by_contra hold
    obtain ⟨event, hevent, hdropped⟩ :=
      hremoved earlier pushedAt point later hevents hrange (not_le.mp hold)
    rw [hspared event hevent] at hdropped
    cases hdropped

/-- A metric name. -/
def exampleName : MetricName := ⟨"gpu_utilization", by decide +kernel⟩

/-- Whole numbers for the values. -/
def exampleArithmetic : FloatArithmetic ℕ := ⟨0, (· + ·), (· / ·), Nat.min, Nat.max, id⟩

/-- With a retention of one second, a point that is pushed and not followed by another push is
returned ten seconds later. -/
theorem stale_point_is_returned :
    ¬ MetricStore.FreshQuery exampleArithmetic
      ([.push 10000 exampleName (.new 10000 42)].foldl (after .leftmost) (new (10 ^ 9)))
      20000 exampleName ⟨0, 20000⟩ none := by
  rw [freshQuery_iff]
  intro hfresh
  have hold := hfresh (.new 10000 42) List.mem_cons_self
  revert hold
  decide +kernel

end MetricStore

end Clawbernetes.ClawMetrics
