import Clawbernetes.ClawMetrics.PushOrder
import Clawbernetes.Library.CheckedWords

/-!
# Look-back windows

The functions of `query.rs` and the handlers of `metrics_cmd.rs` that look back from the reading of
a clock: by a number of minutes, which a remote caller chooses, or by a duration. The start of the
window is computed in `i64`, by two products and a difference that nothing checks, and a duration is
cast to an `i64` first.

Every one of these functions reads the series of its metric through the window alone: its answer is
a function of the points considered (`minutesAnswered_of_considered`,
`durationAnswered_of_considered`). `look_back_exact_iff` says for which look-backs these are the
points of the last milliseconds, however the program is built.
-/

set_option autoImplicit false
set_option relaxedAutoImplicit false

namespace Clawbernetes.ClawMetrics

open Library.FiniteTable Library.SortedInsert Library.CheckedWords

/-! ### The window -/

/-- `Duration`, in nanoseconds. The seconds are a `u64`. -/
structure Duration where
  nanos : ℕ
  bound : nanos < 2 ^ 64 * 10 ^ 9

namespace Duration

/-- `Duration::MAX`. -/
def max : Duration := ⟨2 ^ 64 * 10 ^ 9 - 1, by decide⟩

/-- `Duration::as_millis`, a `u128`. -/
def asMillis (duration : Duration) : ℤ := (duration.nanos / 10 ^ 6 : ℕ)

/-- `duration_to_millis`, whose cast keeps the lower 64 bits. -/
def toMillis (duration : Duration) : ℤ := duration.asMillis.bmod (2 ^ 64)

end Duration

namespace TimeRange

variable (overflowChecks : Bool)

/-- `TimeRange::last_millis` at a reading of the clock, with the panic of a build that checks for
overflow. -/
def checkedLastMillis (now millis : ℤ) : Option TimeRange :=
  (signed overflowChecks 64 (now - millis)).map fun start ↦ ⟨start, now⟩

/-- `TimeRange::last_seconds`, with its panic. -/
def checkedLastSeconds (now seconds : ℤ) : Option TimeRange :=
  (signed overflowChecks 64 (seconds * 1000)).bind (checkedLastMillis overflowChecks now)

/-- `TimeRange::last_minutes`, with its panic. -/
def checkedLastMinutes (now minutes : ℤ) : Option TimeRange :=
  (signed overflowChecks 64 (minutes * 60)).bind (checkedLastSeconds overflowChecks now)

/-- A timestamp in a range is not before its start. -/
theorem start_le_of_contains {range : TimeRange} {timestamp : ℤ}
    (hcontains : range.contains timestamp = true) : range.start ≤ timestamp :=
  of_decide_eq_true (Bool.and_eq_true_iff.mp hcontains).1

end TimeRange

/-- How far to look back: the minutes of `metrics.query` and `events.query`, or the duration of the
functions of `query.rs`. -/
inductive LookBack where
  | rangeMinutes (minutes : Int64)
  | duration (length : Duration)

namespace LookBack

/-- The look-back in whole milliseconds. -/
def millis : LookBack → ℤ
  | rangeMinutes minutes => minutes.toInt * 60 * 1000
  | duration length => length.asMillis

/-- The range that is computed from a look-back. -/
def range (overflowChecks : Bool) (now : ℤ) : LookBack → Option TimeRange
  | rangeMinutes minutes => TimeRange.checkedLastMinutes overflowChecks now minutes.toInt
  | duration length => TimeRange.checkedLastMillis overflowChecks now length.toMillis

end LookBack

/-! ### The functions that look back -/

variable {Value : Type*}

/-- The arithmetic of floating-point numbers that the functions use beside the aggregations. -/
structure QueryArithmetic (Value : Type*) extends FloatArithmetic Value where
  sub : Value → Value → Value
  ofInt : ℤ → Value
  nonpositive : Value → Bool
  toU64 : Value → ℕ

/-- The text of an error. -/
def MetricsError.toText : MetricsError → String
  | invalidMetricName reason => "invalid metric name: " ++ reason
  | metricNotFound name => "metric not found: " ++ name

namespace MetricStore

variable (overflowChecks : Bool) (arithmetic : QueryArithmetic Value) (store : MetricStore Value)
  (rangeNow queryNow : ℤ) (name : MetricName)

/-- The common body of the functions that aggregate over a duration. The clock is read for the range
and again by the query. -/
def valueOver (aggregation : Aggregation) (duration : Duration) : Option (Option Value) :=
  (TimeRange.checkedLastMillis overflowChecks rangeNow duration.toMillis).map fun range ↦
    match store.query arithmetic.toFloatArithmetic queryNow name range (some aggregation) with
    | .ok points => points.head?.map MetricPoint.value
    | .error _ => none

/-- `average_over`. -/
def averageOver (duration : Duration) : Option (Option Value) :=
  store.valueOver overflowChecks arithmetic rangeNow queryNow name .avg duration

/-- `max_over`. -/
def maxOver (duration : Duration) : Option (Option Value) :=
  store.valueOver overflowChecks arithmetic rangeNow queryNow name .max duration

/-- `min_over`. -/
def minOver (duration : Duration) : Option (Option Value) :=
  store.valueOver overflowChecks arithmetic rangeNow queryNow name .min duration

/-- `sum_over`. -/
def sumOver (duration : Duration) : Option (Option Value) :=
  store.valueOver overflowChecks arithmetic rangeNow queryNow name .sum duration

/-- `count_over`. -/
def countOver (duration : Duration) : Option (Option ℕ) :=
  (store.valueOver overflowChecks arithmetic rangeNow queryNow name .count duration).map
    (Option.map arithmetic.toU64)

end MetricStore

/-- The rate of change over some points, from the first and the last of them. -/
def rateOf (overflowChecks : Bool) (arithmetic : QueryArithmetic Value)
    (points : List (MetricPoint Value)) : Option (Option Value) :=
  if points.length < 2 then some none
  else
    match points.head?, points.getLast? with
    | some first, some last =>
      (signed overflowChecks 64 (last.timestamp - first.timestamp)).map fun difference ↦
        let timeDiffSeconds :=
          arithmetic.div (arithmetic.ofInt difference) (arithmetic.ofNat 1000)
        if arithmetic.nonpositive timeDiffSeconds then none
        else some (arithmetic.div (arithmetic.sub last.value first.value) timeDiffSeconds)
    | _, _ => some none

/-- `rate`. -/
def MetricStore.rate (overflowChecks : Bool) (arithmetic : QueryArithmetic Value)
    (store : MetricStore Value) (rangeNow queryNow : ℤ) (name : MetricName)
    (duration : Duration) : Option (Option Value) :=
  (TimeRange.checkedLastMillis overflowChecks rangeNow duration.toMillis).bind fun range ↦
    match store.query arithmetic.toFloatArithmetic queryNow name range none with
    | .ok points => rateOf overflowChecks arithmetic points
    | .error _ => some none

/-- The points that an aggregation leaves, one with its result or none. -/
def aggregated (arithmetic : QueryArithmetic Value) (now : ℤ) (aggregation : Option Aggregation)
    (points : List (MetricPoint Value)) : List (MetricPoint Value) :=
  match aggregation with
  | none => points
  | some aggregation =>
    match aggregation.apply arithmetic.toFloatArithmetic (points.map MetricPoint.value) with
    | none => []
    | some result => [.new ((points.getLast?.map MetricPoint.timestamp).getD now) result]

/-- `QueryBuilder`. -/
structure QueryBuilder (Value : Type*) where
  store : MetricStore Value
  name : MetricName
  range : Option TimeRange := none
  aggregation : Option Aggregation := none
  labelFilters : List (String × String) := []

namespace QueryBuilder

/-- `QueryBuilder::last`. -/
def last (overflowChecks : Bool) (rangeNow : ℤ) (builder : QueryBuilder Value)
    (duration : Duration) : Option (QueryBuilder Value) :=
  (TimeRange.checkedLastMillis overflowChecks rangeNow duration.toMillis).map fun range ↦
    { builder with range := some range }

/-- The point passes the label filters. -/
def passes (builder : QueryBuilder Value) (point : MetricPoint Value) : Bool :=
  builder.labelFilters.all fun filter ↦ point.labels.lookup filter.1 = some filter.2

/-- What is done with the points of a query. -/
def finish (arithmetic : QueryArithmetic Value) (queryNow : ℤ) (builder : QueryBuilder Value)
    (points : List (MetricPoint Value)) : List (MetricPoint Value) :=
  aggregated arithmetic queryNow builder.aggregation (points.filter builder.passes)

/-- `QueryBuilder::execute`. Without a range it looks back one hour. -/
def execute (arithmetic : QueryArithmetic Value) (rangeNow queryNow : ℤ)
    (builder : QueryBuilder Value) : Except MetricsError (List (MetricPoint Value)) :=
  let range := builder.range.getD (.lastHours rangeNow 1)
  (builder.store.query arithmetic.toFloatArithmetic queryNow builder.name range none).map
    (builder.finish arithmetic queryNow)

end QueryBuilder

/-! ### The commands -/

/-- `MetricName::new`. -/
def MetricName.new (text : String) : Except MetricsError MetricName :=
  match hvalid : validateName text with
  | .ok () => .ok ⟨text, hvalid⟩
  | .error error => .error error

/-- `parse_aggregation`. -/
def parseAggregation (toLowercase : String → String) (text : String) :
    Except String Aggregation :=
  match toLowercase text with
  | "sum" => .ok .sum
  | "avg" => .ok .avg
  | "average" => .ok .avg
  | "min" => .ok .min
  | "max" => .ok .max
  | "last" => .ok .last
  | "count" => .ok .count
  | _ => .error ("unknown aggregation: " ++ text ++ " (use sum/avg/min/max/last/count)")

/-- `MetricsQueryParams`. -/
structure MetricsQueryParams where
  name : String
  rangeMinutes : Option Int64
  aggregation : Option String

/-- The reply to `metrics.query`. -/
structure MetricsQueryReply (Value : Type*) where
  name : String
  count : ℕ
  points : List (MetricPoint Value)

/-- `handle_metrics_query`. The name is checked before the range is computed, and the aggregation
after it. -/
def handleMetricsQuery (overflowChecks : Bool) (toLowercase : String → String)
    (arithmetic : QueryArithmetic Value) (store : MetricStore Value) (rangeNow queryNow : ℤ)
    (params : MetricsQueryParams) : Option (Except String (MetricsQueryReply Value)) :=
  match MetricName.new params.name with
  | .error error => some (.error ("invalid metric name: " ++ error.toText))
  | .ok name =>
    let minutes := (params.rangeMinutes.getD 60).toInt
    (TimeRange.checkedLastMinutes overflowChecks rangeNow minutes).map fun range ↦
      match params.aggregation.mapM (parseAggregation toLowercase) with
      | .error error => .error error
      | .ok aggregation =>
        match store.query arithmetic.toFloatArithmetic queryNow name range aggregation with
        | .error error => .error ("query failed: " ++ error.toText)
        | .ok points => .ok ⟨params.name, points.length, points⟩

/-- `EventsQueryParams`, with the values that are taken when the JSON is not of this form. -/
structure EventsQueryParams where
  severity : Option String := none
  source : Option String := none
  rangeMinutes : Option Int64 := none
  limit : Option ℕ := none

/-- An event of the reply to `events.query`. -/
structure Event where
  timestamp : ℤ
  source : String
  severity : String
  message : String

/-- The metric that holds the events. -/
def eventsName : MetricName := ⟨"_events", by decide +kernel⟩

/-- A label of a point, empty when it is absent. -/
def MetricPoint.labelOrEmpty (point : MetricPoint Value) (key : String) : String :=
  (point.labels.lookup key).getD ""

/-- The point has the label with the value asked for, if one is. -/
def MetricPoint.hasLabel (point : MetricPoint Value) (key : String) (asked : Option String) :
    Bool :=
  asked.all fun value ↦ point.labels.lookup key = some value

/-- The events of some points, the latest first. -/
def EventsQueryParams.events (params : EventsQueryParams) (points : List (MetricPoint Value)) :
    List Event :=
  let events := ((points.filter (·.hasLabel "severity" params.severity)).filter
    (·.hasLabel "source" params.source)).map fun point ↦
      ⟨point.timestamp, point.labelOrEmpty "source", point.labelOrEmpty "severity",
        point.labelOrEmpty "message"⟩
  match params.limit with
  | none => events.reverse
  | some limit => events.reverse.take limit

/-- `handle_events_query`, from the parameters if they could be read. The count of the reply is the
length of the list. -/
def handleEventsQuery (overflowChecks : Bool) (arithmetic : QueryArithmetic Value)
    (store : MetricStore Value) (rangeNow queryNow : ℤ) (params : Option EventsQueryParams) :
    Option (List Event) :=
  let params := params.getD {}
  let minutes := (params.rangeMinutes.getD 60).toInt
  (TimeRange.checkedLastMinutes overflowChecks rangeNow minutes).map fun range ↦
    match store.query arithmetic.toFloatArithmetic queryNow eventsName range none with
    | .ok points => params.events points
    | .error _ => params.events ([] : List (MetricPoint Value))

/-! ### The points considered -/

/-- The points that a look-back considers, those of the series in the range. -/
def MetricStore.considered (overflowChecks : Bool) (store : MetricStore Value) (now : ℤ)
    (name : MetricName) (lookBack : LookBack) : Option (List (MetricPoint Value)) :=
  (lookBack.range overflowChecks now).map (store.queried name)

/-- The reply to `metrics.query` from the points considered. -/
def MetricsQueryParams.reply (toLowercase : String → String) (arithmetic : QueryArithmetic Value)
    (store : MetricStore Value) (queryNow : ℤ) (name : MetricName) (params : MetricsQueryParams)
    (points : List (MetricPoint Value)) : Except String (MetricsQueryReply Value) :=
  match params.aggregation.mapM (parseAggregation toLowercase) with
  | .error error => .error error
  | .ok aggregation =>
    if (store.data.lookup name).isNone then
      .error ("query failed: " ++ (MetricsError.metricNotFound name.text).toText)
    else
      let answer := aggregated arithmetic queryNow aggregation points
      .ok ⟨params.name, answer.length, answer⟩

section Reads

variable {overflowChecks : Bool} {arithmetic : QueryArithmetic Value} {store : MetricStore Value}
  {rangeNow queryNow : ℤ} {name : MetricName}

/-- A query aggregates the points of the series in the range. -/
theorem MetricStore.query_eq (range : TimeRange) (aggregation : Option Aggregation) :
    store.query arithmetic.toFloatArithmetic queryNow name range aggregation =
      if (store.data.lookup name).isNone then .error (.metricNotFound name.text)
      else .ok (aggregated arithmetic queryNow aggregation (store.queried name range)) := by
  unfold query
  cases habsent : (store.data.lookup name).isNone with
  | true => rfl
  | false =>
    rw [if_neg Bool.false_ne_true, if_neg Bool.false_ne_true]
    cases aggregation with
    | none => rfl
    | some aggregation =>
      unfold aggregated
      dsimp only
      cases aggregation.apply arithmetic.toFloatArithmetic
        ((store.queried name range).map MetricPoint.value) <;> rfl

/-- A series that is absent has no points in any range. -/
theorem MetricStore.queried_of_absent (habsent : (store.data.lookup name).isNone = true)
    (range : TimeRange) : store.queried name range = [] := by
  have hseries : store.series name = [] := by
    unfold MetricStore.series itemsAt
    rw [Option.isNone_iff_eq_none.mp habsent]
    rfl
  rw [MetricStore.queried, hseries, List.filter_nil]

/-- The first value of an aggregated list is the result. -/
theorem head_aggregated (aggregation : Aggregation) (points : List (MetricPoint Value)) :
    (aggregated arithmetic queryNow (some aggregation) points).head?.map MetricPoint.value =
      aggregation.apply arithmetic.toFloatArithmetic (points.map MetricPoint.value) := by
  unfold aggregated
  dsimp only
  cases aggregation.apply arithmetic.toFloatArithmetic (points.map MetricPoint.value) <;> rfl

/-- The functions that aggregate read the points considered. -/
theorem MetricStore.valueOver_eq (aggregation : Aggregation) (duration : Duration) :
    store.valueOver overflowChecks arithmetic rangeNow queryNow name aggregation duration =
      (store.considered overflowChecks rangeNow name (.duration duration)).map fun points ↦
        aggregation.apply arithmetic.toFloatArithmetic (points.map MetricPoint.value) := by
  unfold valueOver considered LookBack.range
  rw [Option.map_map]
  congr 1
  funext range
  rw [query_eq, Function.comp_apply]
  cases habsent : (store.data.lookup name).isNone with
  | true =>
    rw [store.queried_of_absent habsent]
    rfl
  | false => exact head_aggregated aggregation (store.queried name range)

/-- The rate is that of the points considered. -/
theorem MetricStore.rate_eq (duration : Duration) :
    store.rate overflowChecks arithmetic rangeNow queryNow name duration =
      (store.considered overflowChecks rangeNow name (.duration duration)).bind
        (rateOf overflowChecks arithmetic) := by
  unfold rate considered LookBack.range
  rw [Option.bind_map]
  congr 1
  funext range
  rw [query_eq, Function.comp_apply]
  cases habsent : (store.data.lookup name).isNone with
  | true =>
    rw [store.queried_of_absent habsent]
    rfl
  | false => rfl

/-- A query of a builder that looks back reads the points considered. -/
theorem QueryBuilder.execute_last_eq (builder : QueryBuilder Value) (executeNow : ℤ)
    (duration : Duration) :
    (builder.last overflowChecks rangeNow duration).map (execute arithmetic executeNow queryNow) =
      (builder.store.considered overflowChecks rangeNow builder.name (.duration duration)).map
        fun points ↦
          if (builder.store.data.lookup builder.name).isNone then
            .error (.metricNotFound builder.name.text)
          else .ok (builder.finish arithmetic queryNow points) := by
  unfold last MetricStore.considered LookBack.range
  rw [Option.map_map, Option.map_map]
  congr 1
  funext range
  simp only [Function.comp_apply, execute, Option.getD_some, MetricStore.query_eq]
  cases habsent : (builder.store.data.lookup builder.name).isNone <;> rfl

/-- The reply to a query of a metric is taken from the points considered. -/
theorem handleMetricsQuery_eq (toLowercase : String → String) {params : MetricsQueryParams}
    (hname : MetricName.new params.name = .ok name) :
    handleMetricsQuery overflowChecks toLowercase arithmetic store rangeNow queryNow params =
      (store.considered overflowChecks rangeNow name
        (.rangeMinutes (params.rangeMinutes.getD 60))).map
          (params.reply toLowercase arithmetic store queryNow name) := by
  unfold handleMetricsQuery MetricStore.considered LookBack.range
  rw [hname, Option.map_map]
  dsimp only
  congr 1
  funext range
  rw [Function.comp_apply, MetricsQueryParams.reply]
  cases params.aggregation.mapM (parseAggregation toLowercase) with
  | error error => rfl
  | ok aggregation =>
    dsimp only
    rw [MetricStore.query_eq]
    cases habsent : (store.data.lookup name).isNone <;> rfl

/-- The events of a query are those of the points considered. -/
theorem handleEventsQuery_eq (params : Option EventsQueryParams) :
    handleEventsQuery overflowChecks arithmetic store rangeNow queryNow params =
      (store.considered overflowChecks rangeNow eventsName
        (.rangeMinutes ((params.getD {}).rangeMinutes.getD 60))).map (params.getD {}).events := by
  unfold handleEventsQuery MetricStore.considered LookBack.range
  rw [Option.map_map]
  dsimp only
  congr 1
  funext range
  rw [MetricStore.query_eq, Function.comp_apply]
  cases habsent : (store.data.lookup eventsName).isNone with
  | true =>
    rw [store.queried_of_absent habsent]
    rfl
  | false => rfl

/-- The commands that look back by minutes answer from these points. -/
structure MinutesAnswered (overflowChecks : Bool) (arithmetic : QueryArithmetic Value)
    (store : MetricStore Value) (rangeNow queryNow : ℤ) (name : MetricName) (minutes : Int64)
    (points : List (MetricPoint Value)) : Prop where
  metricsQuery : ∀ toLowercase params, MetricName.new params.name = .ok name →
    params.rangeMinutes.getD 60 = minutes →
      handleMetricsQuery overflowChecks toLowercase arithmetic store rangeNow queryNow params =
        some (params.reply toLowercase arithmetic store queryNow name points)
  eventsQuery : name = eventsName → ∀ params, (params.getD {}).rangeMinutes.getD 60 = minutes →
    handleEventsQuery overflowChecks arithmetic store rangeNow queryNow params =
      some ((params.getD {}).events points)

/-- The functions that look back by a duration answer from these points. -/
structure DurationAnswered (overflowChecks : Bool) (arithmetic : QueryArithmetic Value)
    (store : MetricStore Value) (rangeNow queryNow : ℤ) (name : MetricName) (length : Duration)
    (points : List (MetricPoint Value)) : Prop where
  averageOver : store.averageOver overflowChecks arithmetic rangeNow queryNow name length =
    some (Aggregation.avg.apply arithmetic.toFloatArithmetic (points.map MetricPoint.value))
  maxOver : store.maxOver overflowChecks arithmetic rangeNow queryNow name length =
    some (Aggregation.max.apply arithmetic.toFloatArithmetic (points.map MetricPoint.value))
  minOver : store.minOver overflowChecks arithmetic rangeNow queryNow name length =
    some (Aggregation.min.apply arithmetic.toFloatArithmetic (points.map MetricPoint.value))
  sumOver : store.sumOver overflowChecks arithmetic rangeNow queryNow name length =
    some (Aggregation.sum.apply arithmetic.toFloatArithmetic (points.map MetricPoint.value))
  countOver : store.countOver overflowChecks arithmetic rangeNow queryNow name length =
    some ((Aggregation.count.apply arithmetic.toFloatArithmetic
      (points.map MetricPoint.value)).map arithmetic.toU64)
  rate : ∃ answer, rateOf overflowChecks arithmetic points = some answer ∧
    store.rate overflowChecks arithmetic rangeNow queryNow name length = some answer
  last : ∀ (builder : QueryBuilder Value) (executeNow : ℤ), builder.store = store →
    builder.name = name →
      (builder.last overflowChecks rangeNow length).map
          (QueryBuilder.execute arithmetic executeNow queryNow) =
        some (if (store.data.lookup name).isNone then .error (.metricNotFound name.text)
          else .ok (builder.finish arithmetic queryNow points))

/-- The commands answer from the points considered. -/
theorem minutesAnswered_of_considered {minutes : Int64} {points : List (MetricPoint Value)}
    (hconsidered : store.considered overflowChecks rangeNow name (.rangeMinutes minutes) =
      some points) :
    MinutesAnswered overflowChecks arithmetic store rangeNow queryNow name minutes points where
  metricsQuery := by
    rintro toLowercase params hname rfl
    rw [handleMetricsQuery_eq toLowercase hname, hconsidered, Option.map_some]
  eventsQuery := by
    rintro rfl params rfl
    rw [handleEventsQuery_eq, hconsidered, Option.map_some]

/-- The functions answer from the points considered, if their rate can be computed. -/
theorem durationAnswered_of_considered {length : Duration} {points : List (MetricPoint Value)}
    (hconsidered : store.considered overflowChecks rangeNow name (.duration length) = some points)
    (hrate : (rateOf overflowChecks arithmetic points).isSome) :
    DurationAnswered overflowChecks arithmetic store rangeNow queryNow name length points := by
  have hvalue : ∀ aggregation,
      store.valueOver overflowChecks arithmetic rangeNow queryNow name aggregation length =
        some (aggregation.apply arithmetic.toFloatArithmetic (points.map MetricPoint.value)) := by
    intro aggregation
    rw [MetricStore.valueOver_eq, hconsidered, Option.map_some]
  refine ⟨hvalue .avg, hvalue .max, hvalue .min, hvalue .sum, ?_, ?_, ?_⟩
  · rw [MetricStore.countOver, hvalue, Option.map_some]
  · obtain ⟨answer, hanswer⟩ := Option.isSome_iff_exists.mp hrate
    refine ⟨answer, hanswer, ?_⟩
    rw [MetricStore.rate_eq, hconsidered, Option.bind_some, hanswer]
  · rintro builder executeNow rfl rfl
    rw [QueryBuilder.execute_last_eq, hconsidered, Option.map_some]

end Reads

/-! ### Exact windows -/

/-- A reading of the clock, in milliseconds since 1970. -/
structure Clock where
  now : ℤ
  nonneg : 0 ≤ now
  fits : FitsSigned 64 now

/-- The timestamps of the store are values of an `i64`. -/
def MetricStore.HoldsI64 (store : MetricStore Value) : Prop :=
  ∀ name, ∀ point ∈ store.series name, FitsSigned 64 point.timestamp

namespace LookBack

/-- The points of a series within the look-back. -/
def window (clock : Clock) (lookBack : LookBack) (store : MetricStore Value) (name : MetricName) :
    List (MetricPoint Value) :=
  (store.series name).filter fun point ↦
    clock.now - lookBack.millis ≤ point.timestamp ∧ point.timestamp ≤ clock.now

/-- Nothing panics, and the points considered are those within the look-back. -/
def WindowExact (Value : Type*) (clock : Clock) (lookBack : LookBack) : Prop :=
  ∀ (overflowChecks : Bool) (store : MetricStore Value), store.HoldsI64 → ∀ name,
    store.considered overflowChecks clock.now name lookBack =
      some (lookBack.window clock store name)

/-- The functions that take such a look-back answer from these points. -/
def Answered (overflowChecks : Bool) (arithmetic : QueryArithmetic Value)
    (store : MetricStore Value) (rangeNow queryNow : ℤ) (name : MetricName) (lookBack : LookBack)
    (points : List (MetricPoint Value)) : Prop :=
  match lookBack with
  | rangeMinutes minutes =>
    MinutesAnswered overflowChecks arithmetic store rangeNow queryNow name minutes points
  | duration length =>
    DurationAnswered overflowChecks arithmetic store rangeNow queryNow name length points

/-- A look-back does what it says: its window is exact, every function answers from the points in
the window and does not panic, and no longer look-back whose window is exact considers fewer
points. -/
structure Exact (arithmetic : QueryArithmetic Value) (clock : Clock) (lookBack : LookBack) :
    Prop where
  window : lookBack.WindowExact Value clock
  never_fewer : ∀ longer : LookBack, longer.WindowExact Value clock →
    lookBack.millis ≤ longer.millis → ∀ store : MetricStore Value, store.HoldsI64 →
      ∀ (overflowChecks : Bool) name, ∃ fewer more,
        store.considered overflowChecks clock.now name lookBack = some fewer ∧
          store.considered overflowChecks clock.now name longer = some more ∧ fewer.Sublist more
  answered : ∀ (overflowChecks : Bool) (store : MetricStore Value), store.HoldsI64 →
    ∀ queryNow name, lookBack.Answered overflowChecks arithmetic store clock.now queryNow name
      (lookBack.window clock store name)

/-- The milliseconds of the look-back and the start of the window are values of an `i64`. -/
def Fits (clock : Clock) (lookBack : LookBack) : Prop :=
  FitsSigned 64 lookBack.millis ∧ FitsSigned 64 (clock.now - lookBack.millis)

instance (clock : Clock) (lookBack : LookBack) : Decidable (lookBack.Fits clock) :=
  inferInstanceAs (Decidable (_ ∧ _))

@[simp] theorem millis_rangeMinutes (minutes : Int64) :
    (rangeMinutes minutes).millis = minutes.toInt * 60 * 1000 := rfl

@[simp] theorem millis_duration (length : Duration) : (duration length).millis = length.asMillis :=
  rfl

variable {clock : Clock} {lookBack : LookBack}

/-- A look-back that fits gives its exact range in both builds. -/
theorem Fits.range_eq (hfits : lookBack.Fits clock) (overflowChecks : Bool) :
    lookBack.range overflowChecks clock.now =
      some ⟨clock.now - lookBack.millis, clock.now⟩ := by
  obtain ⟨hmillis, hstart⟩ := hfits
  cases lookBack with
  | rangeMinutes minutes =>
    rw [millis_rangeMinutes] at *
    have hseconds : FitsSigned 64 (minutes.toInt * 60) := by
      unfold FitsSigned at *
      omega
    rw [range, TimeRange.checkedLastMinutes, signed_of_fits _ hseconds, Option.bind_some,
      TimeRange.checkedLastSeconds, signed_of_fits _ hmillis, Option.bind_some,
      TimeRange.checkedLastMillis, signed_of_fits _ hstart, Option.map_some]
  | duration length =>
    rw [millis_duration] at *
    rw [range, Duration.toMillis, hmillis.bmod_eq, TimeRange.checkedLastMillis,
      signed_of_fits _ hstart, Option.map_some]

/-- The window of a look-back that fits is exact. -/
theorem Fits.windowExact (hfits : lookBack.Fits clock) (Value : Type*) :
    lookBack.WindowExact Value clock := by
  intro overflowChecks store _ name
  rw [MetricStore.considered, hfits.range_eq, Option.map_some]
  congr 1
  refine List.filter_congr fun point _ ↦ ?_
  rw [TimeRange.contains, Bool.decide_and]

/-- An exact window has every timestamp of an `i64` within the look-back, and no other. -/
theorem WindowExact.contains_iff (hexact : lookBack.WindowExact Value clock) (value : Value)
    {overflowChecks : Bool} {range : TimeRange}
    (hrange : lookBack.range overflowChecks clock.now = some range) {timestamp : ℤ}
    (htimestamp : FitsSigned 64 timestamp) :
    range.contains timestamp = true ↔
      clock.now - lookBack.millis ≤ timestamp ∧ timestamp ≤ clock.now := by
  -- a store to which one point was pushed, with this timestamp
  let point : MetricPoint Value := .new timestamp value
  let store := (MetricStore.new 0).push .leftmost 0 eventsName point
  have hseries : store.series eventsName = [point] := itemsAt_insert_self _ _ _
  have hholds : store.HoldsI64 := by
    intro name kept hkept
    by_cases hname : name = eventsName
    · rw [hname, hseries, List.mem_singleton] at hkept
      rw [hkept]
      exact htimestamp
    · have habsent : store.series name = [] := itemsAt_insert_of_ne hname _ _
      rw [habsent] at hkept
      cases hkept
  have hconsidered := hexact overflowChecks store hholds eventsName
  rw [MetricStore.considered, hrange, Option.map_some, Option.some_inj, MetricStore.queried, window,
    hseries] at hconsidered
  have hmem := iff_of_eq (congrArg (point ∈ ·) hconsidered)
  simp only [List.mem_filter, List.mem_singleton, true_and, decide_eq_true_eq] at hmem
  exact hmem

/-- Milliseconds that do not fit into an `i64` are cast to a negative number, or to one that is too
small by at least `2 ^ 64`. -/
theorem toMillis_of_not_fits {length : Duration} (hfits : ¬ FitsSigned 64 length.asMillis) :
    length.toMillis < 0 ∨ 0 ≤ length.toMillis ∧ length.toMillis + 2 ^ 64 ≤ length.asMillis := by
  have hnonneg : 0 ≤ length.asMillis := Int.natCast_nonneg _
  have hleast : -2 ^ 63 ≤ length.toMillis := Int.le_bmod (by decide)
  have hgreatest : length.toMillis < 2 ^ 63 := Int.bmod_lt (by decide)
  obtain ⟨factor, hfactor⟩ : ((2 ^ 64 : ℕ) : ℤ) ∣ length.asMillis - length.toMillis :=
    Int.dvd_self_sub_bmod
  unfold FitsSigned at hfits
  push_cast at hfactor
  omega

/-- The cast of a duration whose window is exact does not wrap. -/
theorem WindowExact.fits_asMillis {length : Duration}
    (hexact : (duration length).WindowExact Value clock) (value : Value) {overflowChecks : Bool}
    (hrange : (duration length).range overflowChecks clock.now =
      some ⟨clock.now - length.toMillis, clock.now⟩) : FitsSigned 64 length.asMillis := by
  have hnow := clock.nonneg
  have hnonneg : 0 ≤ length.asMillis := Int.natCast_nonneg _
  by_contra hwraps
  obtain hnegative | ⟨hcast, hsmall⟩ := toMillis_of_not_fits hwraps
  · -- the window starts after the reading of the clock, and has not even that
    have hwithin : clock.now - length.asMillis ≤ clock.now := by omega
    have hcontains := (hexact.contains_iff value hrange clock.fits).mpr ⟨hwithin, le_rfl⟩
    have hstart : clock.now - length.toMillis ≤ clock.now :=
      TimeRange.start_le_of_contains hcontains
    omega
  · -- the window starts too late for the least timestamp
    have hleast : FitsSigned 64 (-2 ^ 63) := ⟨by decide, by decide⟩
    have hlatest : 2 * clock.now < 2 ^ 64 := clock.fits.2
    have hwithin : clock.now - length.asMillis ≤ -2 ^ 63 := by omega
    have hcontains := (hexact.contains_iff value hrange hleast).mpr ⟨hwithin, by omega⟩
    have hstart : clock.now - length.toMillis ≤ -2 ^ 63 :=
      TimeRange.start_le_of_contains hcontains
    have hgreatest : length.toMillis < 2 ^ 63 := Int.bmod_lt (by decide)
    omega

/-- A look-back whose window is exact fits. -/
theorem WindowExact.fits (hexact : lookBack.WindowExact Value clock) (value : Value) :
    lookBack.Fits clock := by
  -- the build with overflow checks computes a range
  have hempty := hexact true (MetricStore.new 0) (fun _ _ hpoint ↦ by cases hpoint) eventsName
  obtain ⟨range, hrange, -⟩ := Option.map_eq_some_iff.mp hempty
  cases lookBack with
  | rangeMinutes minutes =>
    -- none of the three operations overflowed
    obtain ⟨seconds, hseconds, hrest⟩ := Option.bind_eq_some_iff.mp hrange
    obtain ⟨-, rfl⟩ := signed_true_eq_some_iff.mp hseconds
    obtain ⟨millis, hmillis, hlast⟩ := Option.bind_eq_some_iff.mp hrest
    obtain ⟨hfits, rfl⟩ := signed_true_eq_some_iff.mp hmillis
    obtain ⟨start, hstart, -⟩ := Option.map_eq_some_iff.mp hlast
    exact ⟨hfits, (signed_true_eq_some_iff.mp hstart).1⟩
  | duration length =>
    obtain ⟨start, hstart, rfl⟩ := Option.map_eq_some_iff.mp hrange
    obtain ⟨-, rfl⟩ := signed_true_eq_some_iff.mp hstart
    have hcast := hexact.fits_asMillis value hrange
    have hnonneg : 0 ≤ length.asMillis := Int.natCast_nonneg _
    have hnow := clock.nonneg
    have hclock := clock.fits
    refine ⟨hcast, ?_⟩
    rw [millis_duration]
    unfold FitsSigned at *
    omega

/-- Of two exact windows the longer has all points of the shorter. -/
theorem window_sublist {longer : LookBack} (hle : lookBack.millis ≤ longer.millis)
    (store : MetricStore Value) (name : MetricName) :
    (lookBack.window clock store name).Sublist (longer.window clock store name) := by
  refine List.monotone_filter_right _ fun point hpoint ↦ ?_
  rw [decide_eq_true_eq] at hpoint ⊢
  exact ⟨by omega, hpoint.2⟩

/-- The difference of two timestamps in the window of a duration that fits is one of an `i64`. -/
theorem Fits.rateOf_isSome {length : Duration} (hfits : (duration length).Fits clock)
    (overflowChecks : Bool) (arithmetic : QueryArithmetic Value) (store : MetricStore Value)
    (name : MetricName) :
    (rateOf overflowChecks arithmetic ((duration length).window clock store name)).isSome := by
  have hnonneg : 0 ≤ length.asMillis := Int.natCast_nonneg _
  have hmillis := hfits.1
  rw [millis_duration] at hmillis
  have hwindow : ∀ point ∈ (duration length).window clock store name,
      clock.now - length.asMillis ≤ point.timestamp ∧ point.timestamp ≤ clock.now := by
    intro point hpoint
    exact of_decide_eq_true (List.mem_filter.mp hpoint).2
  unfold rateOf
  split_ifs with hfew
  · rfl
  · split
    · next first last hfirst hlast =>
      obtain ⟨hfirstLow, hfirstHigh⟩ := hwindow first (List.mem_of_mem_head? hfirst)
      obtain ⟨hlastLow, hlastHigh⟩ := hwindow last (List.mem_of_getLast? hlast)
      have hdifference : FitsSigned 64 (last.timestamp - first.timestamp) := by
        unfold FitsSigned at *
        omega
      rw [signed_of_fits overflowChecks hdifference]
      rfl
    · rfl

/-- A look-back does what it says, in every store and for every metric, if and only if its
milliseconds and the start of the window are values of an `i64`. -/
theorem look_back_exact_iff (arithmetic : QueryArithmetic Value) (clock : Clock)
    (lookBack : LookBack) : lookBack.Exact arithmetic clock ↔ lookBack.Fits clock := by
  refine ⟨fun hexact ↦ hexact.window.fits arithmetic.zero, fun hfits ↦ ?_⟩
  have hwindow := hfits.windowExact Value
  refine ⟨hwindow, ?_, ?_⟩
  · intro longer hlonger hle store hholds overflowChecks name
    exact ⟨_, _, hwindow overflowChecks store hholds name, hlonger overflowChecks store hholds name,
      window_sublist hle store name⟩
  · intro overflowChecks store hholds queryNow name
    have hconsidered := hwindow overflowChecks store hholds name
    cases lookBack with
    | rangeMinutes minutes => exact minutesAnswered_of_considered hconsidered
    | duration length =>
      exact durationAnswered_of_considered hconsidered
        (hfits.rateOf_isSome overflowChecks arithmetic store name)

/-- Whole numbers for the values. -/
def exampleQueries : QueryArithmetic ℕ where
  toFloatArithmetic := MetricStore.exampleArithmetic
  sub := (· - ·)
  ofInt := Int.toNat
  nonpositive := (· = 0)
  toU64 := id

/-- The last minute counts the point that was just pushed, and the longest duration does not. A
query for the greatest number of minutes panics in a build with overflow checks, and in one without
them has no points. -/
theorem longest_look_backs_see_nothing :
    let clock : Clock := ⟨10000, by decide, by decide⟩
    let store := (MetricStore.new (3600 * 10 ^ 9)).push .leftmost clock.now MetricStore.exampleName
      (.new 10000 1)
    let minute : Duration := ⟨60 * 10 ^ 9, by decide⟩
    let countOver := fun overflowChecks ↦
      store.countOver overflowChecks exampleQueries clock.now clock.now MetricStore.exampleName
    let reply := fun overflowChecks ↦
      handleMetricsQuery overflowChecks id exampleQueries store clock.now clock.now
        ⟨"gpu_utilization", some Int64.maxValue, none⟩
    (∀ overflowChecks, countOver overflowChecks minute = some (some 1)) ∧
      (∀ overflowChecks, countOver overflowChecks Duration.max = some none) ∧
      (reply true).isNone ∧
      (reply false).map (Except.map MetricsQueryReply.count) = some (.ok 0) ∧
      ¬ (duration Duration.max).Exact exampleQueries clock ∧
      ¬ (rangeMinutes Int64.maxValue).Exact exampleQueries clock := by
  intro clock store minute countOver reply
  refine ⟨by decide +kernel, by decide +kernel, by decide +kernel, by decide +kernel, ?_, ?_⟩
  · intro hexact
    have hfits := hexact.window.fits 0
    revert hfits
    decide +kernel
  · intro hexact
    have hfits := hexact.window.fits 0
    revert hfits
    decide +kernel

end LookBack

end Clawbernetes.ClawMetrics
