import Mathlib.Data.Int.Notation
import Mathlib.Data.List.Basic
import Mathlib.Tactic.Common

/-!
# The status of a workload

`WorkloadStatus` of `workload.rs` and `WorkloadState` of `types.rs`. A transition is checked against
the table of valid ones and stamps the status with the time of the first entry to `Running` and of
the entry to a terminal state. No transition leaves a terminal state, so the second stamp is written
at most once, and the first is kept by the transition from `Running` to itself. `Recorded` ties the
stamps to the readings of the clock along a run, and `lifecycle_of_pending` reads the life of a
workload off it: the stamps, their order, absorption in the terminal states and the effect of a
rejected transition.
-/

set_option autoImplicit false
set_option relaxedAutoImplicit false

namespace Clawbernetes.ClawProto

/-- `WorkloadState`. -/
inductive WorkloadState where
  | pending
  | starting
  | running
  | stopping
  | stopped
  | completed
  | failed
  deriving DecidableEq

namespace WorkloadState

/-- `WorkloadState::is_terminal`. -/
def isTerminal : WorkloadState → Bool
  | .completed | .failed | .stopped => true
  | _ => false

/-- The display of a state. -/
def display : WorkloadState → String
  | .pending => "pending"
  | .starting => "starting"
  | .running => "running"
  | .stopping => "stopping"
  | .stopped => "stopped"
  | .completed => "completed"
  | .failed => "failed"

end WorkloadState

/-- `is_valid_transition`. -/
def isValidTransition : WorkloadState → WorkloadState → Bool
  | .pending, .starting | .pending, .failed | .pending, .stopped | .pending, .pending => true
  | .starting, .running | .starting, .failed | .starting, .stopped => true
  | .running, .stopping | .running, .completed | .running, .failed | .running, .running => true
  | .stopping, .stopped | .stopping, .failed => true
  | _, _ => false

/-- The error of a transition, `ProtoError::Validation`. -/
inductive ProtoError where
  | validation (message : String)
  deriving DecidableEq

/-- `WorkloadStatus`. Times are nanoseconds of the wall clock. -/
structure WorkloadStatus where
  state : WorkloadState
  startedAt : Option ℤ
  finishedAt : Option ℤ
  exitCode : Option Int32
  gpuIds : List UInt32
  deriving DecidableEq

namespace WorkloadStatus

/-- `WorkloadStatus::pending`. -/
def pending : WorkloadStatus := ⟨.pending, none, none, none, []⟩

/-- The times that a valid transition stamps. -/
def stamp (status : WorkloadStatus) (now : ℤ) : WorkloadState → WorkloadStatus
  | .running =>
    if status.startedAt.isNone then { status with startedAt := some now } else status
  | .completed | .failed | .stopped => { status with finishedAt := some now }
  | _ => status

/-- `WorkloadStatus::transition_to`. -/
def transitionTo (status : WorkloadStatus) (now : ℤ) (newState : WorkloadState) :
    WorkloadStatus × Except ProtoError Unit :=
  if isValidTransition status.state newState = false then
    (status, .error (.validation ("invalid state transition from " ++ status.state.display ++
      " to " ++ newState.display)))
  else ({ status.stamp now newState with state := newState }, .ok ())

/-- `WorkloadStatus::duration`. -/
def duration (status : WorkloadStatus) : Option ℤ :=
  match status.startedAt, status.finishedAt with
  | some start, some finish => some (finish - start)
  | _, _ => none

end WorkloadStatus

/-- A requested transition, with the reading of the clock at the call. -/
structure TransitionRequest where
  now : ℤ
  newState : WorkloadState
  deriving DecidableEq

namespace WorkloadStatus

/-- The status after a request. -/
def after (status : WorkloadStatus) (request : TransitionRequest) : WorkloadStatus :=
  (status.transitionTo request.now request.newState).1

/-- The readings at which a run of requests enters `Running`. -/
def runningEntries : WorkloadStatus → List TransitionRequest → List ℤ
  | _, [] => []
  | status, request :: rest =>
    if isValidTransition status.state request.newState = true ∧ request.newState = .running then
      request.now :: runningEntries (status.after request) rest
    else runningEntries (status.after request) rest

variable {status : WorkloadStatus} {now : ℤ} {newState : WorkloadState}

/-! ### One transition -/

/-- An entry to a terminal state stamps the end. -/
theorem stamp_of_isTerminal (hterminal : newState.isTerminal = true) :
    status.stamp now newState = { status with finishedAt := some now } := by
  cases newState with
  | completed => rfl
  | failed => rfl
  | stopped => rfl
  | pending => cases hterminal
  | starting => cases hterminal
  | running => cases hterminal
  | stopping => cases hterminal

/-- An entry to any other state than `Running` stamps nothing. -/
theorem stamp_of_not_isTerminal (hterminal : ¬ newState.isTerminal = true)
    (hrunning : newState ≠ .running) : status.stamp now newState = status := by
  cases newState with
  | completed => exact absurd rfl hterminal
  | failed => exact absurd rfl hterminal
  | stopped => exact absurd rfl hterminal
  | pending => rfl
  | starting => rfl
  | running => exact absurd rfl hrunning
  | stopping => rfl

/-- A rejected transition changes nothing. -/
theorem transitionTo_of_error {error : ProtoError}
    (hrejected : (status.transitionTo now newState).2 = .error error) :
    (status.transitionTo now newState).1 = status := by
  unfold transitionTo at hrejected ⊢
  split_ifs at hrejected ⊢ with hvalid
  rfl

/-- No transition leaves a terminal state. -/
theorem isValidTransition_of_isTerminal {state : WorkloadState}
    (hterminal : state.isTerminal = true)
    (newState : WorkloadState) : isValidTransition state newState = false := by
  cases state with
  | completed => rfl
  | failed => rfl
  | stopped => rfl
  | pending => cases hterminal
  | starting => cases hterminal
  | running => cases hterminal
  | stopping => cases hterminal

/-- A request changes nothing in a terminal state. -/
theorem after_of_isTerminal (hterminal : status.state.isTerminal = true)
    (request : TransitionRequest) : status.after request = status := by
  unfold after transitionTo
  rw [if_pos (isValidTransition_of_isTerminal hterminal request.newState)]

/-- Terminal states are absorbing. -/
theorem foldl_after_of_isTerminal (hterminal : status.state.isTerminal = true)
    (requests : List TransitionRequest) : requests.foldl after status = status := by
  induction requests with
  | nil => rfl
  | cons request rest ih => rw [List.foldl_cons, after_of_isTerminal hterminal, ih]

/-- A request is rejected, or it enters the state that it asks for with the stamps of that state. -/
theorem after_cases (status : WorkloadStatus) (request : TransitionRequest) :
    (isValidTransition status.state request.newState = false ∧ status.after request = status) ∨
    (isValidTransition status.state request.newState = true ∧
      status.after request =
        { status.stamp request.now request.newState with state := request.newState }) := by
  unfold after transitionTo
  cases hvalid : isValidTransition status.state request.newState with
  | false => exact Or.inl ⟨rfl, rfl⟩
  | true => exact Or.inr ⟨rfl, rfl⟩

/-- A valid transition starts in a state that is not terminal. -/
theorem isTerminal_eq_false_of_isValidTransition {state newState : WorkloadState}
    (hvalid : isValidTransition state newState = true) : state.isTerminal = false := by
  by_contra hterminal
  rw [Bool.not_eq_false] at hterminal
  rw [isValidTransition_of_isTerminal hterminal newState] at hvalid
  cases hvalid

/-! ### Runs -/

/-- The stamps of a status after the entries to `Running` and the last reading of a run. -/
structure Recorded (entries : List ℤ) (last : ℤ) (status : WorkloadStatus) : Prop where
  finished : status.finishedAt.isSome = status.state.isTerminal
  started : status.startedAt = entries.head?
  started_le : ∀ start, status.startedAt = some start → start ≤ last
  ordered : ∀ start finish, status.startedAt = some start → status.finishedAt = some finish →
    start ≤ finish

variable {entries : List ℤ} {last : ℤ}

/-- The record of a later reading. -/
theorem Recorded.mono (hrecorded : Recorded entries last status) (hle : last ≤ now) :
    Recorded entries now status where
  finished := hrecorded.finished
  started := hrecorded.started
  started_le := fun start hstart ↦ Int.le_trans (hrecorded.started_le start hstart) hle
  ordered := hrecorded.ordered

/-- The entry of a request to `Running`. -/
def entryOf (status : WorkloadStatus) (request : TransitionRequest) : List ℤ :=
  if isValidTransition status.state request.newState = true ∧ request.newState = .running then
    [request.now]
  else []

/-- The entries of a run are those of its first request and of the rest. -/
theorem runningEntries_cons (status : WorkloadStatus) (request : TransitionRequest)
    (rest : List TransitionRequest) :
    runningEntries status (request :: rest) =
      status.entryOf request ++ runningEntries (status.after request) rest := by
  rw [runningEntries, entryOf]
  split_ifs
  · rfl
  · rfl

/-- A request keeps the record. -/
theorem Recorded.after (hrecorded : Recorded entries last status) {request : TransitionRequest}
    (hle : last ≤ request.now) :
    Recorded (entries ++ status.entryOf request) request.now (status.after request) := by
  have hnow := hrecorded.mono hle
  obtain ⟨hinvalid, hafter⟩ | ⟨hvalid, hafter⟩ := after_cases status request
  · have hentry : status.entryOf request = [] := if_neg (by simp [hinvalid])
    rw [hafter, hentry, List.append_nil]
    exact hnow
  have hunfinished : status.finishedAt = none := by
    have hfinished := hrecorded.finished
    rw [isTerminal_eq_false_of_isValidTransition hvalid] at hfinished
    simpa using hfinished
  rw [hafter]
  by_cases hrunning : request.newState = .running
  · have hentry : status.entryOf request = [request.now] := if_pos ⟨hvalid, hrunning⟩
    rw [hentry, hrunning]
    cases hstart : status.startedAt with
    | none =>
      -- the first entry
      have hempty : entries = [] := by
        have hstarted := hrecorded.started
        rw [hstart] at hstarted
        exact List.head?_eq_none_iff.mp hstarted.symm
      subst hempty
      refine ⟨?_, ?_, ?_, ?_⟩ <;> simp [stamp, hstart, hunfinished, WorkloadState.isTerminal]
    | some start =>
      have hstarted := hrecorded.started
      rw [hstart] at hstarted
      have hhead : (entries ++ [request.now]).head? = some start := by
        rw [List.head?_append, ← hstarted]
        rfl
      have hbefore := hnow.started_le start hstart
      refine ⟨?_, ?_, ?_, ?_⟩ <;>
        simp [stamp, hstart, hunfinished, WorkloadState.isTerminal, hhead, hbefore]
  · have hentry : status.entryOf request = [] := if_neg (by simp [hrunning])
    rw [hentry, List.append_nil]
    by_cases hterminal : request.newState.isTerminal = true
    · rw [stamp_of_isTerminal hterminal]
      refine ⟨hterminal.symm, hnow.started, hnow.started_le, ?_⟩
      intro start finish hstart hfinish
      rw [← Option.some.inj hfinish]
      exact hnow.started_le start hstart
    · rw [stamp_of_not_isTerminal hterminal hrunning]
      refine ⟨?_, hnow.started, hnow.started_le, hnow.ordered⟩
      rw [hunfinished]
      exact (eq_false_of_ne_true hterminal).symm

/-- A run keeps the record. -/
theorem Recorded.run : ∀ {requests : List TransitionRequest} {status : WorkloadStatus}
    {entries : List ℤ} {last : ℤ}, Recorded entries last status →
      (requests.Pairwise fun first second ↦ first.now ≤ second.now) →
      (∀ request ∈ requests, last ≤ request.now) →
      ∃ later, Recorded (entries ++ runningEntries status requests) later
        (requests.foldl WorkloadStatus.after status) := by
  intro requests
  induction requests with
  | nil =>
    intro status entries last hrecorded _ _
    exact ⟨last, by rwa [runningEntries, List.append_nil]⟩
  | cons request rest ih =>
    intro status entries last hrecorded hclock hlast
    obtain ⟨hfirst, hrest⟩ := List.pairwise_cons.mp hclock
    have hnext := hrecorded.after (hlast request List.mem_cons_self)
    obtain ⟨later, hlater⟩ := ih hnext hrest hfirst
    refine ⟨later, ?_⟩
    rw [runningEntries_cons, ← List.append_assoc, List.foldl_cons]
    exact hlater

/-- A request ends in `Running` from another state exactly when it enters it. -/
theorem entryOf_ne_nil_iff (hstate : status.state ≠ .running) (request : TransitionRequest) :
    status.entryOf request ≠ [] ↔ (status.after request).state = .running := by
  unfold entryOf
  obtain ⟨hinvalid, hafter⟩ | ⟨hvalid, hafter⟩ := after_cases status request
  · rw [hafter]
    simp [hinvalid, hstate]
  · rw [hafter]
    simp [hvalid]

/-- A run from another state has entries to `Running` exactly when it passes through it. -/
theorem runningEntries_ne_nil_iff : ∀ {requests : List TransitionRequest}
    {status : WorkloadStatus}, status.state ≠ .running →
      (runningEntries status requests ≠ [] ↔
        ∃ done, done <+: requests ∧ (done.foldl WorkloadStatus.after status).state = .running) := by
  intro requests
  induction requests with
  | nil =>
    intro status hstate
    simpa [runningEntries] using hstate
  | cons request rest ih =>
    intro status hstate
    have hentry := entryOf_ne_nil_iff hstate request
    rw [runningEntries_cons]
    by_cases hrunning : (status.after request).state = .running
    · refine iff_of_true ?_ ⟨[request], by simp, hrunning⟩
      intro hempty
      exact hentry.mpr hrunning (List.append_eq_nil_iff.mp hempty).1
    · have hnone : status.entryOf request = [] := by
        by_contra hsome
        exact hrunning (hentry.mp hsome)
      rw [hnone, List.nil_append, ih hrunning]
      constructor
      · rintro ⟨done, hdone, hend⟩
        exact ⟨request :: done, (List.prefix_cons_inj request).mpr hdone, hend⟩
      · rintro ⟨done, hdone, hend⟩
        cases done with
        | nil => exact absurd hend hstate
        | cons first done =>
          rw [List.cons_prefix_cons] at hdone
          obtain ⟨rfl, hdone⟩ := hdone
          exact ⟨done, hdone, hend⟩

/-- A pending status has the record of no entries. -/
theorem recorded_pending (last : ℤ) : Recorded [] last pending where
  finished := rfl
  started := rfl
  started_le start hstart := absurd hstart (by simp [pending])
  ordered start finish hstart := absurd hstart (by simp [pending])

/-- A recorded status has not been running for a negative time. -/
theorem Recorded.duration_nonneg (hrecorded : Recorded entries last status) {length : ℤ}
    (hduration : status.duration = some length) : 0 ≤ length := by
  unfold duration at hduration
  split at hduration
  · next start finish hstart hfinish =>
    have hordered := hrecorded.ordered start finish hstart hfinish
    rw [← Option.some.inj hduration]
    omega
  · cases hduration

/-- Readings that do not decrease are all at or after some reading. -/
theorem exists_le_now {requests : List TransitionRequest}
    (hclock : requests.Pairwise fun first second ↦ first.now ≤ second.now) :
    ∃ last : ℤ, ∀ request ∈ requests, last ≤ request.now := by
  cases requests with
  | nil => exact ⟨0, fun _ hrequest ↦ absurd hrequest List.not_mem_nil⟩
  | cons request rest =>
    refine ⟨request.now, fun other hother ↦ ?_⟩
    obtain rfl | hother := List.mem_cons.mp hother
    · exact Int.le_refl _
    · exact (List.pairwise_cons.mp hclock).1 other hother

/-- After every run of requests at non-decreasing readings of the clock from a pending status: the
status is finished exactly in a terminal state; it is started exactly when the run passed through
`Running`, at the reading of the first entry; it is not finished before it is started; a terminal
state is never left; and a rejected transition changes nothing. -/
theorem lifecycle_of_pending (requests : List TransitionRequest)
    (hclock : requests.Pairwise fun first second ↦ first.now ≤ second.now) :
    let status := requests.foldl after pending
    (status.finishedAt.isSome = true ↔ status.state.isTerminal = true) ∧
    (status.startedAt.isSome = true ↔
      ∃ done, done <+: requests ∧ (done.foldl after pending).state = .running) ∧
    status.startedAt = (runningEntries pending requests).head? ∧
    (∀ start finish, status.startedAt = some start → status.finishedAt = some finish →
      start ≤ finish) ∧
    (∀ length, status.duration = some length → 0 ≤ length) ∧
    (status.state.isTerminal = true → ∀ later : List TransitionRequest,
      later.foldl after status = status) ∧
    ∀ now newState error, (status.transitionTo now newState).2 = .error error →
      (status.transitionTo now newState).1 = status := by
  intro status
  obtain ⟨last, hlast⟩ := exists_le_now hclock
  obtain ⟨_, hrecorded⟩ := (recorded_pending last).run hclock hlast
  rw [List.nil_append] at hrecorded
  refine ⟨?_, ?_, hrecorded.started, hrecorded.ordered, ?_, ?_, ?_⟩
  · rw [hrecorded.finished]
  · have hvisited : runningEntries pending requests ≠ [] ↔
        ∃ done, done <+: requests ∧ (done.foldl after pending).state = .running :=
      runningEntries_ne_nil_iff (by decide)
    rw [← hvisited, hrecorded.started, List.isSome_head?]
  · exact fun _ hduration ↦ hrecorded.duration_nonneg hduration
  · exact fun hterminal later ↦ foldl_after_of_isTerminal hterminal later
  · exact fun _ _ _ hrejected ↦ transitionTo_of_error hrejected

/-- A workload that starts, runs, is told to run again, and completes. -/
theorem lifecycle_of_pending_example :
    let status := [⟨1, .starting⟩, ⟨2, .running⟩, ⟨3, .starting⟩, ⟨4, .running⟩,
      ⟨9, .completed⟩].foldl after pending
    status.startedAt = some 2 ∧ ∀ length, status.duration = some length → 0 ≤ length := by
  have hlifecycle := lifecycle_of_pending [⟨1, .starting⟩, ⟨2, .running⟩, ⟨3, .starting⟩,
    ⟨4, .running⟩, ⟨9, .completed⟩] (by decide)
  exact ⟨hlifecycle.2.2.1, hlifecycle.2.2.2.2.1⟩

end WorkloadStatus

end Clawbernetes.ClawProto
