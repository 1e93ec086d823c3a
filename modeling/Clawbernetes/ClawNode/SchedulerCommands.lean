import Clawbernetes.ClawProto.WorkloadSpec
import Clawbernetes.ClawScheduler.Alerts
import Clawbernetes.ClawScheduler.Stores

/-!
# The scheduler stores of a node and the commands that use them

`SchedulerStores` holds the five stores of `claw-scheduler` that a node keeps. They are changed by
the stores' own operations (`StoreCall`) and by the commands of `job_cmd.rs`, `metrics_cmd.rs` and
`namespace_cmd.rs` (`Command`), which are modelled from their parsed parameters on; a reply is
whether the command succeeded, its error otherwise, since the rest repeats the parameters. Saves are
taken to succeed.

`transparent_step_iff` says which single operations keep the stores such that nothing is lost when
they are opened again from their state files, and `restart_transparent_iff` says it of whole runs:
no taint may be accepted, nothing may be written through `get_mut` that the operation does not save
itself, and every audit entry has to continue the log.
-/

set_option autoImplicit false
set_option relaxedAutoImplicit false

namespace Clawbernetes.ClawNode

open Library.FiniteTable Library.Runs ClawPersist ClawScheduler

variable {Value : Type*} [LinearOrder Value]

/-- The stores of a node that schedule its work. -/
structure SchedulerStores (Value : Type*) where
  alerts : AlertStore Value
  jobs : JobStore
  crons : CronStore
  namespaces : NamespaceStore
  audit : AuditStore

namespace SchedulerStores

/-- The stores of a node without state files. -/
def fresh : SchedulerStores Value where
  alerts := SnapshotStore.fresh
  jobs := SnapshotStore.fresh
  crons := SnapshotStore.fresh
  namespaces := ⟨SnapshotStore.fresh, []⟩
  audit := ⟨[], ∅⟩

/-! ### The operations of the stores -/

/-- An operation of one of the stores. -/
inductive StoreCall (Value : Type*) where
  | alertCreate (rule : AlertRule Value)
  | alertGetMut (name : String) (change : AlertRule Value → AlertRule Value)
  | alert (call : AlertCall Value)
  | jobCreate (entry : JobEntry)
  | jobGetMut (name : String) (change : JobEntry → JobEntry)
  | jobDelete (name : String)
  | jobUpdate
  | cronCreate (entry : CronEntry)
  | cronGetMut (name : String) (change : CronEntry → CronEntry)
  | cronUpdate
  | namespaceCreate (entry : NamespaceEntry)
  | namespaceGetMut (name : String) (change : NamespaceEntry → NamespaceEntry)
  | namespaceUpdate
  | taintsPush (taint : TaintEntry)
  | auditRecord (entry : AuditEntry)

/-- The stores after an operation of one of them. -/
def storeCall (stores : SchedulerStores Value) : StoreCall Value → SchedulerStores Value
  | .alertCreate rule => { stores with alerts := (AlertStore.create stores.alerts rule).2 }
  | .alertGetMut name change => { stores with alerts := stores.alerts.mutate name change }
  | .alert call => { stores with alerts := AlertStore.call stores.alerts call }
  | .jobCreate entry => { stores with jobs := (stores.jobs.create true "job" entry.name entry).2 }
  | .jobGetMut name change => { stores with jobs := stores.jobs.mutate name change }
  | .jobDelete name => { stores with jobs := (stores.jobs.delete true "job" name).2 }
  | .jobUpdate => { stores with jobs := stores.jobs.snapshot true }
  | .cronCreate entry =>
    { stores with crons := (stores.crons.create true "cron" entry.name entry).2 }
  | .cronGetMut name change => { stores with crons := stores.crons.mutate name change }
  | .cronUpdate => { stores with crons := stores.crons.snapshot true }
  | .namespaceCreate entry =>
    { stores with
      namespaces.namespaces :=
        (stores.namespaces.namespaces.create true "namespace" entry.name entry).2 }
  | .namespaceGetMut name change =>
    { stores with namespaces.namespaces := stores.namespaces.namespaces.mutate name change }
  | .namespaceUpdate =>
    { stores with namespaces.namespaces := stores.namespaces.namespaces.snapshot true }
  | .taintsPush taint =>
    { stores with namespaces.taints := stores.namespaces.taints ++ [taint] }
  | .auditRecord entry => { stores with audit := stores.audit.record entry }

end SchedulerStores

/-! ### The commands -/

/-- `AlertCreateParams`. -/
structure AlertCreateParams (Value : Type*) where
  name : String
  metric : String
  condition : String
  threshold : Value

/-- `AlertAcknowledgeParams`. -/
structure AlertAcknowledgeParams where
  alertId : Option String
  name : Option String

/-- `JobCreateParams`, with the defaults of `default_one` and `default_backoff`. -/
structure JobCreateParams where
  name : String
  image : String
  command : List String := []
  completions : UInt32 := 1
  parallelism : UInt32 := 1
  backoffLimit : UInt32 := 3

/-- `CronCreateParams`. -/
structure CronCreateParams where
  name : String
  schedule : String
  image : String
  command : List String := []

/-- `QuotaParams`, and the quotas of `NamespaceSetQuotaParams`. -/
structure QuotaParams where
  cpu : Option ℚ := none
  memory : Option UInt64 := none
  gpus : Option UInt32 := none
  storage : Option UInt64 := none

/-- `NamespaceCreateParams`. -/
structure NamespaceCreateParams where
  name : String
  quotas : QuotaParams := {}
  labels : Table String String := ∅

/-- `NodeTaintParams`. -/
structure NodeTaintParams where
  key : String
  value : String := ""
  effect : String

namespace SchedulerStores

/-- `handle_alerts_create`. -/
def handleAlertsCreate (stores : SchedulerStores Value) (params : AlertCreateParams Value)
    (now : ℤ) : Except String Unit × SchedulerStores Value :=
  if params.condition ∉ ["above", "below"] then
    (.error "condition must be 'above' or 'below'", stores)
  else
    let (result, alerts) := AlertStore.create stores.alerts
      ⟨params.name, params.metric, params.condition, params.threshold, .ok, now, now⟩
    (result, { stores with alerts := alerts })

/-- `handle_alerts_acknowledge`. -/
def handleAlertsAcknowledge (stores : SchedulerStores Value) (params : AlertAcknowledgeParams)
    (now : ℤ) : Except String Unit × SchedulerStores Value :=
  match params.name.or params.alertId with
  | none => (.error "name or alertId required", stores)
  | some name =>
    let (result, alerts) := AlertStore.acknowledge stores.alerts name now
    (result, { stores with alerts := alerts })

/-- `evaluate_alerts`: every rule is evaluated on the last value of its metric, when there is
one. -/
def evaluateAlerts (stores : SchedulerStores Value) (lastValue : String → Option Value) (now : ℤ) :
    SchedulerStores Value :=
  let named := stores.alerts.records.entries.map fun entry ↦ (entry.2.name, entry.2.metric)
  { stores with
    alerts := named.foldl
      (fun alerts rule ↦
        match lastValue rule.2 with
        | none => alerts
        | some value => (AlertStore.evaluate alerts rule.1 value now).2)
      stores.alerts }

/-- `handle_job_create`. -/
def handleJobCreate (stores : SchedulerStores Value) (params : JobCreateParams) (now : ℤ) :
    Except String Unit × SchedulerStores Value :=
  let entry : JobEntry :=
    ⟨params.name, params.image, params.command, params.completions, 0, 0, params.parallelism,
      params.backoffLimit, [], "running", now, none⟩
  let (result, jobs) := stores.jobs.create true "job" entry.name entry
  (result, { stores with jobs := jobs })

/-- `handle_job_delete`, less the stop of the job's containers. -/
def handleJobDelete (stores : SchedulerStores Value) (name : String) :
    Except String Unit × SchedulerStores Value :=
  let (result, jobs) := stores.jobs.delete true "job" name
  (result, { stores with jobs := jobs })

/-- `validate_cron_expression`: five fields between white space. -/
def validateCronExpression (expression : String) : Except String Unit :=
  if ((expression.toList.splitOnP ClawProto.isWhitespace).filter (· ≠ [])).length ≠ 5 then
    .error "cron expression must have 5 fields: minute hour day-of-month month day-of-week"
  else .ok ()

/-- `handle_cron_create`. -/
def handleCronCreate (stores : SchedulerStores Value) (params : CronCreateParams) (now : ℤ) :
    Except String Unit × SchedulerStores Value :=
  match validateCronExpression params.schedule with
  | .error message => (.error message, stores)
  | .ok () =>
    let entry : CronEntry :=
      ⟨params.name, params.schedule, params.image, params.command, false, none, none, now⟩
    let (result, crons) := stores.crons.create true "cron" entry.name entry
    (result, { stores with crons := crons })

/-- A command that writes to a cron entry and saves it. -/
def changeCron (stores : SchedulerStores Value) (name : String) (change : CronEntry → CronEntry) :
    Except String Unit × SchedulerStores Value :=
  match stores.crons.get name with
  | none => (.error (notFound "cron" name), stores)
  | some _ => (.ok (), { stores with crons := (stores.crons.mutate name change).snapshot true })

/-- `handle_cron_suspend`. -/
def handleCronSuspend (stores : SchedulerStores Value) (name : String) :
    Except String Unit × SchedulerStores Value :=
  stores.changeCron name fun cron ↦ { cron with suspended := true }

/-- `handle_cron_resume`. -/
def handleCronResume (stores : SchedulerStores Value) (name : String) :
    Except String Unit × SchedulerStores Value :=
  stores.changeCron name fun cron ↦ { cron with suspended := false }

/-- `handle_cron_trigger`: a job from the cron's template, under a name with the seconds of the
clock, and then the time of the run. -/
def handleCronTrigger (stores : SchedulerStores Value) (name : String) (now : ℤ) :
    Except String Unit × SchedulerStores Value :=
  match stores.crons.get name with
  | none => (.error (notFound "cron" name), stores)
  | some cron =>
    let entry : JobEntry :=
      ⟨name ++ "-manual-" ++ toString (now / 10 ^ 9), cron.image, cron.command, 1, 0, 0, 1, 3, [],
        "running", now, none⟩
    match stores.jobs.create true "job" entry.name entry with
    | (.error message, _) => (.error message, stores)
    | (.ok (), jobs) =>
      { stores with jobs := jobs }.changeCron name fun cron ↦ { cron with lastRun := some now }

/-- `handle_namespace_create`. -/
def handleNamespaceCreate (stores : SchedulerStores Value) (params : NamespaceCreateParams)
    (now : ℤ) : Except String Unit × SchedulerStores Value :=
  let quotas : ResourceQuota :=
    ⟨params.quotas.cpu, params.quotas.memory, params.quotas.gpus, params.quotas.storage⟩
  let (result, namespaces) := stores.namespaces.namespaces.create true "namespace" params.name
    ⟨params.name, quotas, params.labels, now⟩
  (result, { stores with namespaces.namespaces := namespaces })

/-- `handle_namespace_set_quota`: the quotas that are given replace those of the namespace. -/
def handleNamespaceSetQuota (stores : SchedulerStores Value) (name : String)
    (params : QuotaParams) : Except String Unit × SchedulerStores Value :=
  let change (entry : NamespaceEntry) : NamespaceEntry :=
    { entry with
      quotas :=
        ⟨params.cpu.or entry.quotas.maxCpu, params.memory.or entry.quotas.maxMemoryMb,
          params.gpus.or entry.quotas.maxGpus, params.storage.or entry.quotas.maxStorageGb⟩ }
  match stores.namespaces.namespaces.get name with
  | none => (.error (notFound "namespace" name), stores)
  | some _ =>
    (.ok (), { stores with
      namespaces.namespaces := (stores.namespaces.namespaces.mutate name change).snapshot true })

/-- The effects that `handle_node_taint` accepts. -/
def taintEffects : List String := ["NoSchedule", "PreferNoSchedule", "NoExecute"]

/-- `handle_node_taint`. The taint is added to the list, and no snapshot is taken. -/
def handleNodeTaint (stores : SchedulerStores Value) (params : NodeTaintParams) :
    Except String Unit × SchedulerStores Value :=
  if params.effect ∉ taintEffects then
    (.error "effect must be one of: NoSchedule, PreferNoSchedule, NoExecute", stores)
  else
    (.ok (), { stores with
      namespaces.taints :=
        stores.namespaces.taints ++ [⟨params.key, params.value, params.effect⟩] })

end SchedulerStores

/-- A command that changes the scheduler stores. -/
inductive SchedulerCommand (Value : Type*) where
  | alertsCreate (params : AlertCreateParams Value) (now : ℤ)
  | alertsAcknowledge (params : AlertAcknowledgeParams) (now : ℤ)
  | evaluateAlerts (lastValue : String → Option Value) (now : ℤ)
  | jobCreate (params : JobCreateParams) (now : ℤ)
  | jobDelete (name : String)
  | cronCreate (params : CronCreateParams) (now : ℤ)
  | cronTrigger (name : String) (now : ℤ)
  | cronSuspend (name : String)
  | cronResume (name : String)
  | namespaceCreate (params : NamespaceCreateParams) (now : ℤ)
  | namespaceSetQuota (name : String) (params : QuotaParams)
  | nodeTaint (params : NodeTaintParams)

namespace SchedulerStores

/-- The stores after a command. -/
def command (stores : SchedulerStores Value) : SchedulerCommand Value → SchedulerStores Value
  | .alertsCreate params now => (stores.handleAlertsCreate params now).2
  | .alertsAcknowledge params now => (stores.handleAlertsAcknowledge params now).2
  | .evaluateAlerts lastValue now => stores.evaluateAlerts lastValue now
  | .jobCreate params now => (stores.handleJobCreate params now).2
  | .jobDelete name => (stores.handleJobDelete name).2
  | .cronCreate params now => (stores.handleCronCreate params now).2
  | .cronTrigger name now => (stores.handleCronTrigger name now).2
  | .cronSuspend name => (stores.handleCronSuspend name).2
  | .cronResume name => (stores.handleCronResume name).2
  | .namespaceCreate params now => (stores.handleNamespaceCreate params now).2
  | .namespaceSetQuota name params => (stores.handleNamespaceSetQuota name params).2
  | .nodeTaint params => (stores.handleNodeTaint params).2

/-- An operation of a store or a command. -/
inductive Operation (Value : Type*) where
  | store (call : StoreCall Value)
  | command (command : SchedulerCommand Value)

/-- The stores after an operation. -/
def step (stores : SchedulerStores Value) : Operation Value → SchedulerStores Value
  | .store call => stores.storeCall call
  | .command command => stores.command command

/-! ### What a restart keeps -/

/-- Nothing is lost when the stores are opened again from their state files. -/
structure Transparent (stores : SchedulerStores Value) : Prop where
  alerts : stores.alerts.Transparent
  jobs : stores.jobs.Transparent
  crons : stores.crons.Transparent
  namespaces : stores.namespaces.Transparent
  audit : stores.audit.Transparent

/-- What is written through a reference leaves the record as it was. -/
def Unwritten {Record : Type*} (store : SnapshotStore Record) (name : String)
    (change : Record → Record) : Prop :=
  ∀ record, store.get name = some record → change record = record

/-- The operation reaches the state files: no taint is accepted, nothing is written through
`get_mut` alone, and an audit entry continues the log. -/
def Reaches (stores : SchedulerStores Value) : Operation Value → Prop
  | .store (.alertGetMut name change) => Unwritten stores.alerts name change
  | .store (.jobGetMut name change) => Unwritten stores.jobs name change
  | .store (.cronGetMut name change) => Unwritten stores.crons name change
  | .store (.namespaceGetMut name change) =>
    Unwritten stores.namespaces.namespaces name change
  | .store (.taintsPush _) => False
  | .store (.auditRecord entry) => AuditStore.Continues stores.audit.entries entry
  | .command (.nodeTaint params) => params.effect ∉ taintEffects
  | _ => True

omit [LinearOrder Value] in
/-- Stores without state files are transparent. -/
theorem transparent_fresh : (fresh : SchedulerStores Value).Transparent where
  alerts := SnapshotStore.transparent_fresh
  jobs := SnapshotStore.transparent_fresh
  crons := SnapshotStore.transparent_fresh
  namespaces := (NamespaceStore.transparent_iff _).mpr ⟨SnapshotStore.transparent_fresh, rfl⟩
  audit := AuditStore.transparent_empty

/-- An evaluation or an acknowledgement ends with a snapshot or changes nothing. -/
theorem transparent_alertCall {alerts : AlertStore Value} (htransparent : alerts.Transparent)
    (call : AlertCall Value) : (AlertStore.call alerts call).Transparent := by
  have henter : ∀ name rule state now,
      (AlertStore.enter alerts name rule state now).Transparent :=
    fun _ _ _ _ ↦ SnapshotStore.transparent_snapshot _
  cases call with
  | evaluate name value now =>
    simp only [AlertStore.call, AlertStore.evaluate]
    cases alerts.get name with
    | none => exact htransparent
    | some rule =>
      dsimp only
      split_ifs
      · exact henter _ _ _ _
      · exact henter _ _ _ _
      · exact htransparent
  | acknowledge name now =>
    simp only [AlertStore.call, AlertStore.acknowledge]
    cases alerts.get name with
    | none => exact htransparent
    | some rule =>
      dsimp only
      split_ifs
      · exact htransparent
      · exact henter _ _ _ _

/-- Evaluating all rules keeps the alerts transparent. -/
theorem transparent_evaluateAlerts {stores : SchedulerStores Value}
    (htransparent : stores.alerts.Transparent) (lastValue : String → Option Value) (now : ℤ) :
    (stores.evaluateAlerts lastValue now).alerts.Transparent := by
  unfold evaluateAlerts
  generalize stores.alerts.records.entries.map _ = named
  generalize stores.alerts = alerts at htransparent
  induction named generalizing alerts with
  | nil => exact htransparent
  | cons rule rest ih =>
    refine ih _ ?_
    dsimp only
    cases lastValue rule.2 with
    | none => exact htransparent
    | some value => exact transparent_alertCall htransparent (.evaluate rule.1 value now)

omit [LinearOrder Value] in
/-- A command that writes to a cron entry saves it. -/
theorem transparent_changeCron {stores : SchedulerStores Value} (htransparent : stores.Transparent)
    (name : String) (change : CronEntry → CronEntry) :
    (stores.changeCron name change).2.Transparent := by
  unfold changeCron
  cases stores.crons.get name with
  | none => exact htransparent
  | some cron => exact { htransparent with crons := SnapshotStore.transparent_snapshot _ }

omit [LinearOrder Value] in
/-- Namespaces that stay transparent without taints. -/
theorem transparent_namespaces {namespaces : NamespaceStore} (htransparent : namespaces.Transparent)
    {changed : SnapshotStore NamespaceEntry} (hchanged : changed.Transparent) :
    ({ namespaces with namespaces := changed } : NamespaceStore).Transparent :=
  (NamespaceStore.transparent_iff _).mpr
    ⟨hchanged, ((NamespaceStore.transparent_iff _).mp htransparent).2⟩

omit [LinearOrder Value] in
/-- Stores whose namespaces were exchanged for transparent ones. -/
theorem Transparent.withNamespaces {stores : SchedulerStores Value}
    (htransparent : stores.Transparent) {changed : SnapshotStore NamespaceEntry}
    (hchanged : changed.Transparent) :
    ({ stores with namespaces.namespaces := changed } : SchedulerStores Value).Transparent :=
  { htransparent with namespaces := transparent_namespaces htransparent.namespaces hchanged }

omit [LinearOrder Value] in
/-- The namespaces of transparent stores are transparent. -/
theorem Transparent.snapshotNamespaces {stores : SchedulerStores Value}
    (htransparent : stores.Transparent) : stores.namespaces.namespaces.Transparent :=
  ((NamespaceStore.transparent_iff _).mp htransparent.namespaces).1

omit [LinearOrder Value] in
/-- A taint that is added is lost. -/
theorem not_transparent_taint (namespaces : NamespaceStore) (taint : TaintEntry) :
    ¬ NamespaceStore.Transparent { namespaces with taints := namespaces.taints ++ [taint] } := by
  rw [NamespaceStore.transparent_iff]
  rintro ⟨-, htaints⟩
  exact List.append_ne_nil_of_right_ne_nil _ (List.cons_ne_nil taint []) htaints

/-- An operation of a store keeps the stores transparent if and only if it reaches the state
files. -/
theorem transparent_storeCall_iff {stores : SchedulerStores Value}
    (htransparent : stores.Transparent) (call : StoreCall Value) :
    (stores.storeCall call).Transparent ↔ stores.Reaches (.store call) := by
  cases call with
  | alertCreate rule =>
    exact iff_of_true { htransparent with
      alerts := SnapshotStore.transparent_create htransparent.alerts _ _ _ } trivial
  | alert call =>
    exact iff_of_true { htransparent with
      alerts := transparent_alertCall htransparent.alerts call } trivial
  | jobCreate entry =>
    exact iff_of_true { htransparent with
      jobs := SnapshotStore.transparent_create htransparent.jobs _ _ _ } trivial
  | jobDelete name =>
    exact iff_of_true { htransparent with
      jobs := SnapshotStore.transparent_delete htransparent.jobs _ _ } trivial
  | jobUpdate =>
    exact iff_of_true { htransparent with jobs := SnapshotStore.transparent_snapshot _ } trivial
  | cronCreate entry =>
    exact iff_of_true { htransparent with
      crons := SnapshotStore.transparent_create htransparent.crons _ _ _ } trivial
  | cronUpdate =>
    exact iff_of_true { htransparent with crons := SnapshotStore.transparent_snapshot _ } trivial
  | namespaceCreate entry =>
    exact iff_of_true (htransparent.withNamespaces
      (SnapshotStore.transparent_create htransparent.snapshotNamespaces _ _ _)) trivial
  | namespaceUpdate =>
    exact iff_of_true (htransparent.withNamespaces (SnapshotStore.transparent_snapshot _)) trivial
  | alertGetMut name change =>
    have hwritten := SnapshotStore.transparent_mutate_iff htransparent.alerts name change
    exact ⟨fun hafter ↦ hwritten.mp hafter.alerts,
      fun hunwritten ↦ { htransparent with alerts := hwritten.mpr hunwritten }⟩
  | jobGetMut name change =>
    have hwritten := SnapshotStore.transparent_mutate_iff htransparent.jobs name change
    exact ⟨fun hafter ↦ hwritten.mp hafter.jobs,
      fun hunwritten ↦ { htransparent with jobs := hwritten.mpr hunwritten }⟩
  | cronGetMut name change =>
    have hwritten := SnapshotStore.transparent_mutate_iff htransparent.crons name change
    exact ⟨fun hafter ↦ hwritten.mp hafter.crons,
      fun hunwritten ↦ { htransparent with crons := hwritten.mpr hunwritten }⟩
  | namespaceGetMut name change =>
    have hwritten :=
      SnapshotStore.transparent_mutate_iff htransparent.snapshotNamespaces name change
    exact ⟨fun hafter ↦ hwritten.mp hafter.snapshotNamespaces,
      fun hunwritten ↦ htransparent.withNamespaces (hwritten.mpr hunwritten)⟩
  | taintsPush taint =>
    exact iff_of_false (fun hafter ↦ not_transparent_taint _ taint hafter.namespaces) not_false
  | auditRecord entry =>
    have hrecord := AuditStore.transparent_record_iff htransparent.audit entry
    exact ⟨fun hafter ↦ hrecord.mp hafter.audit,
      fun hcontinues ↦ { htransparent with audit := hrecord.mpr hcontinues }⟩

section Handlers

variable {stores : SchedulerStores Value}

omit [LinearOrder Value] in
/-- `handle_alerts_create` saves the rule that it accepts. -/
theorem transparent_handleAlertsCreate (htransparent : stores.Transparent)
    (params : AlertCreateParams Value) (now : ℤ) :
    (stores.handleAlertsCreate params now).2.Transparent := by
  unfold handleAlertsCreate
  by_cases hcondition : params.condition ∈ ["above", "below"]
  · rw [if_neg (not_not_intro hcondition)]
    exact { htransparent with
      alerts := SnapshotStore.transparent_create htransparent.alerts _ _ _ }
  · rw [if_pos hcondition]
    exact htransparent

/-- `handle_alerts_acknowledge` saves the rule that it acknowledges. -/
theorem transparent_handleAlertsAcknowledge (htransparent : stores.Transparent)
    (params : AlertAcknowledgeParams) (now : ℤ) :
    (stores.handleAlertsAcknowledge params now).2.Transparent := by
  unfold handleAlertsAcknowledge
  cases params.name.or params.alertId with
  | none => exact htransparent
  | some name =>
    exact { htransparent with
      alerts := transparent_alertCall htransparent.alerts (.acknowledge name now) }

omit [LinearOrder Value] in
/-- `handle_cron_create` saves the entry that it accepts. -/
theorem transparent_handleCronCreate (htransparent : stores.Transparent)
    (params : CronCreateParams) (now : ℤ) :
    (stores.handleCronCreate params now).2.Transparent := by
  unfold handleCronCreate
  cases validateCronExpression params.schedule with
  | error message => exact htransparent
  | ok _ =>
    exact { htransparent with
      crons := SnapshotStore.transparent_create htransparent.crons _ _ _ }

omit [LinearOrder Value] in
/-- `handle_cron_trigger` saves the job and the time of the run. -/
theorem transparent_handleCronTrigger (htransparent : stores.Transparent) (name : String)
    (now : ℤ) : (stores.handleCronTrigger name now).2.Transparent := by
  unfold handleCronTrigger
  cases stores.crons.get name with
  | none => exact htransparent
  | some cron =>
    dsimp only
    split
    · exact htransparent
    · rename_i jobs hcreated
      have hjobs : jobs.Transparent :=
        SnapshotStore.transparent_of_create htransparent.jobs hcreated
      have hstores : ({ stores with jobs := jobs } : SchedulerStores Value).Transparent :=
        { htransparent with jobs := hjobs }
      exact transparent_changeCron hstores _ _

omit [LinearOrder Value] in
/-- `handle_namespace_set_quota` saves the quotas. -/
theorem transparent_handleNamespaceSetQuota (htransparent : stores.Transparent) (name : String)
    (params : QuotaParams) : (stores.handleNamespaceSetQuota name params).2.Transparent := by
  unfold handleNamespaceSetQuota
  dsimp only
  cases stores.namespaces.namespaces.get name with
  | none => exact htransparent
  | some entry => exact htransparent.withNamespaces (SnapshotStore.transparent_snapshot _)

omit [LinearOrder Value] in
/-- `handle_node_taint` does not save the taint that it accepts. -/
theorem transparent_handleNodeTaint_iff (htransparent : stores.Transparent)
    (params : NodeTaintParams) :
    (stores.handleNodeTaint params).2.Transparent ↔ params.effect ∉ taintEffects := by
  unfold handleNodeTaint
  by_cases heffect : params.effect ∈ taintEffects
  · rw [if_neg (not_not_intro heffect)]
    exact iff_of_false (fun hafter ↦ not_transparent_taint _ _ hafter.namespaces)
      (not_not_intro heffect)
  · rw [if_pos heffect]
    exact iff_of_true htransparent heffect

/-- A command keeps the stores transparent if and only if it does not accept a taint. -/
theorem transparent_command_iff (htransparent : stores.Transparent)
    (command : SchedulerCommand Value) :
    (stores.command command).Transparent ↔ stores.Reaches (.command command) := by
  cases command with
  | alertsCreate params now =>
    exact iff_of_true (transparent_handleAlertsCreate htransparent params now) trivial
  | alertsAcknowledge params now =>
    exact iff_of_true (transparent_handleAlertsAcknowledge htransparent params now) trivial
  | evaluateAlerts lastValue now =>
    exact iff_of_true { htransparent with
      alerts := transparent_evaluateAlerts htransparent.alerts lastValue now } trivial
  | jobCreate params now =>
    exact iff_of_true { htransparent with
      jobs := SnapshotStore.transparent_create htransparent.jobs _ _ _ } trivial
  | jobDelete name =>
    exact iff_of_true { htransparent with
      jobs := SnapshotStore.transparent_delete htransparent.jobs _ _ } trivial
  | cronCreate params now =>
    exact iff_of_true (transparent_handleCronCreate htransparent params now) trivial
  | cronTrigger name now =>
    exact iff_of_true (transparent_handleCronTrigger htransparent name now) trivial
  | cronSuspend name => exact iff_of_true (transparent_changeCron htransparent _ _) trivial
  | cronResume name => exact iff_of_true (transparent_changeCron htransparent _ _) trivial
  | namespaceCreate params now =>
    exact iff_of_true (htransparent.withNamespaces
      (SnapshotStore.transparent_create htransparent.snapshotNamespaces _ _ _)) trivial
  | namespaceSetQuota name params =>
    exact iff_of_true (transparent_handleNamespaceSetQuota htransparent name params) trivial
  | nodeTaint params => exact transparent_handleNodeTaint_iff htransparent params

end Handlers

/-- One operation keeps the stores transparent if and only if it reaches the state files. -/
theorem transparent_step_iff {stores : SchedulerStores Value} (htransparent : stores.Transparent)
    (operation : Operation Value) :
    (stores.step operation).Transparent ↔ stores.Reaches operation := by
  cases operation with
  | store call => exact transparent_storeCall_iff htransparent call
  | command command => exact transparent_command_iff htransparent command

/-- Along every run of operations and commands, the stores opened from the state files are at every
point the stores of the node if and only if they are at its start and every operation of the run
reaches the state files. Stores without state files are a start of this kind. -/
theorem restart_transparent_iff (start : SchedulerStores Value)
    (operations : List (Operation Value)) :
    (Always step Transparent start operations ↔
        start.Transparent ∧ Throughout step Reaches start operations) ∧
      (fresh : SchedulerStores Value).Transparent := by
  refine ⟨⟨fun halways ↦ ?_, fun hreaches ↦ ?_⟩, transparent_fresh⟩
  · have hstart := halways [] List.nil_prefix
    exact ⟨hstart, (always_iff_throughout hstart fun _ operation hstores ↦
      transparent_step_iff hstores operation).mp halways⟩
  · exact (always_iff_throughout hreaches.1 fun _ operation hstores ↦
      transparent_step_iff hstores operation).mpr hreaches.2

/-- A taint is lost by a restart, and two audit entries recorded against the order of their
timestamps change places. -/
theorem restart_loses_taints_and_order :
    ¬ Always step Transparent (fresh : SchedulerStores ℕ)
        [.command (.nodeTaint ⟨"gpu", "", "NoSchedule"⟩)] ∧
      ¬ Always step Transparent (fresh : SchedulerStores ℕ)
        [.store (.auditRecord ⟨"admin", "create", "job", "ok", 2⟩),
          .store (.auditRecord ⟨"admin", "delete", "job", "ok", 1⟩)] := by
  refine ⟨fun halways ↦ ?_, fun halways ↦ ?_⟩
  · exact not_transparent_taint _ _ halways.last.namespaces
  · have horder := ((AuditStore.transparent_iff _).mp halways.last.audit).2
    have hsorted := List.rel_of_pairwise_cons horder.1 (List.mem_singleton_self _)
    exact absurd hsorted (by decide)

end SchedulerStores

end Clawbernetes.ClawNode
