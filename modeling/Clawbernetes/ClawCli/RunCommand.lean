import Clawbernetes.ClawCli.GatewayConnection
import Clawbernetes.Library.Results

/-!
# Running a workload from the command line

`RunCommand` of `run.rs`. Its arguments become a specification, which is sent to the gateway behind
a greeting, and the identifier of the workload is in the second text that comes back. Other frames
than texts are passed over here.

`run_outcome` says when the command succeeds, what it writes then, and when it has sent the
specification. It may fail after that, and the workload may then be running all the same.
`submitted_spec` is what is sent for any arguments: the last value of each variable, the number of
the GPUs in the place of their indices, and when the gateway can accept it.
-/

set_option autoImplicit false
set_option relaxedAutoImplicit false

namespace Clawbernetes.ClawCli

open ClawProto (WorkloadSpec validateImage validateEnvKey maxMemoryMb maxGpuCount)
open Library.Bytes Library.FiniteTable Library.Results
open MoltAttestation (Uuid)

variable {records : Records}

/-! ### The specification -/

/-- `RunArgs`. -/
structure RunArgs where
  image : String
  command : List String
  gpus : List UInt32
  env : List String
  memory : Option UInt64
  detach : Bool

/-- `WorkloadSpec` of `run.rs`. -/
structure RunSpec where
  image : String
  command : Option (List String)
  gpuIndices : List UInt32
  env : List (String × String)
  memoryLimitMib : Option UInt64

/-- A variable of the arguments, cut at its first equals sign. -/
def parseVariable (text : String) : Except CliError (String × String) :=
  match splitOnce '=' text with
  | none => .error (.invalidArgument
      ("invalid environment variable format: " ++ text ++ ", expected KEY=VALUE"))
  | some pair => .ok pair

/-- `RunCommand::build_workload_spec`. -/
def buildWorkloadSpec (args : RunArgs) : Except CliError RunSpec :=
  if args.image = "" then .error (.invalidArgument "image name cannot be empty")
  else do
    let env ← args.env.mapM parseVariable
    .ok ⟨args.image, if args.command = [] then none else some args.command, args.gpus, env,
      args.memory⟩

/-- `RunCommand::to_proto_spec`. -/
def toProtoSpec (spec : RunSpec) : WorkloadSpec where
  image := spec.image
  command := spec.command.getD []
  env := collect spec.env
  gpuCount := UInt32.ofNat spec.gpuIndices.length
  memoryMb := spec.memoryLimitMib.getD 512
  cpuCores := 1
  scheduling := ⟨none, none⟩

/-! ### The submission -/

/-- What the web socket does: it is opened and takes the two messages, or not, and the items of its
stream come in. -/
structure Transport (records : Records) where
  opened : Except String Unit
  helloSent : Except String Unit
  startSent : Except String Unit
  incoming : List (Except String (Frame records))

/-- `read_text_message`, with what comes in afterwards. A text is given by what it is read as. -/
def readTextMessage : List (Except String (Frame records)) →
    Except CliError (Except String (CliResponse records)) × List (Except String (Frame records))
  | [] => (.error (.connection "gateway connection closed"), [])
  | .ok (.text response) :: rest => (.ok response, rest)
  | .ok .close :: rest => (.error (.connection "gateway closed connection unexpectedly"), rest)
  | .ok .binary :: rest => readTextMessage rest
  | .ok .other :: rest => readTextMessage rest
  | .error error :: rest => (.error (.connection ("WebSocket error: " ++ error)), rest)

/-- What `submit_workload` makes of the first text. -/
def greeted : Except CliError (Except String (CliResponse records)) → Except CliError Unit
  | .error error => .error error
  | .ok (.error error) => .error (.protocol ("failed to parse welcome: " ++ error))
  | .ok (.ok (.welcome ..)) => .ok ()
  | .ok (.ok (.error code message _)) => .error (.gateway code message)
  | .ok (.ok _) => .error (.protocol "expected Welcome response from gateway")

/-- What `submit_workload` makes of the second text. -/
def started (debug : CliResponse records → String) :
    Except CliError (Except String (CliResponse records)) → Except CliError String
  | .error error => .error error
  | .ok (.error error) => .error (.protocol ("failed to parse response: " ++ error))
  | .ok (.ok (.workloadStarted workloadId _)) => .ok workloadId.display
  | .ok (.ok (.error code message _)) => .error (.gateway code message)
  | .ok (.ok other) => .error (.protocol ("unexpected response: " ++ debug other))

/-- `RunCommand::submit_workload`, with the messages that are sent. -/
def submitWorkload (debug : CliResponse records → String) (version : String)
    (transport : Transport records) (spec : RunSpec) : Except CliError String × List CliMessage :=
  match transport.opened with
  | .error error => (.error (.connection ("failed to connect to gateway: " ++ error)), [])
  | .ok () =>
    match transport.helloSent with
    | .error error => (.error (.connection ("failed to send hello: " ++ error)), [])
    | .ok () =>
      let hello := CliMessage.helloOf version
      let (first, rest) := readTextMessage transport.incoming
      match greeted first with
      | .error error => (.error error, [hello])
      | .ok () =>
        match transport.startSent with
        | .error error => (.error (.connection ("failed to send start: " ++ error)), [hello])
        | .ok () => (started debug (readTextMessage rest).1,
            [hello, .startWorkload none (toProtoSpec spec)])

/-- `RunResult`. -/
structure RunResult where
  workloadId : String
  message : String
  detached : Bool
  deriving DecidableEq

/-- The result that `execute` writes for a workload. -/
def RunResult.of (detach : Bool) (workloadId : String) : RunResult where
  workloadId := workloadId
  message := if detach then "Workload submitted"
    else "Workload running (attached mode not yet implemented)"
  detached := detach

/-- The address is that of a web socket. -/
def UrlValid (gatewayUrl : String) : Prop :=
  "ws://".toList <+: gatewayUrl.toList ∨ "wss://".toList <+: gatewayUrl.toList

instance (gatewayUrl : String) : Decidable (UrlValid gatewayUrl) :=
  inferInstanceAs (Decidable (_ ∨ _))

/-- The first part of `RunCommand::execute`: the result that it writes, with the messages that are
sent. -/
def resultToWrite (debug : CliResponse records → String) (version gatewayUrl : String)
    (transport : Transport records) (args : RunArgs) :
    Except CliError RunResult × List CliMessage :=
  if UrlValid gatewayUrl then
    match buildWorkloadSpec args with
    | .error error => (.error error, [])
    | .ok spec =>
      let (result, sent) := submitWorkload debug version transport spec
      (result.map (RunResult.of args.detach), sent)
  else (.error (.config ("invalid gateway URL: " ++ gatewayUrl ++
    ", must start with ws:// or wss://")), [])

/-! ### The output -/

/-- `Format`. -/
inductive Format where
  | table
  | json
  deriving DecidableEq

/-- A writer takes all bytes, or it fails with an error when so many have been written. -/
inductive Writer where
  | unlimited
  | failsAfter (count : ℕ) (error : String)

/-- `write_all` of a text behind what has been written, with what has been written then. -/
def Writer.writeAll (writer : Writer) (written : List UInt8) (text : String) :
    Except String Unit × List UInt8 :=
  let bytes := written ++ utf8Bytes text
  match writer with
  | .unlimited => (.ok (), bytes)
  | .failsAfter count error =>
    if bytes.length ≤ count then (.ok (), bytes) else (.error error, bytes.take count)

/-- `RunResult::write_table`. Writing the lines one after the other is the same as writing them at
once. -/
def RunResult.tableText (result : RunResult) : String :=
  if result.detached then
    "✓ " ++ result.message ++ "\n  Workload ID: " ++ result.workloadId ++
      "\n\nView logs: clawbernetes logs " ++ result.workloadId ++ "\n"
  else result.message ++ "\nWorkload ID: " ++ result.workloadId ++ "\n"

/-- `serde_json::to_writer_pretty`. Neither an identifier nor a message has a character that JSON
escapes. -/
def RunResult.jsonText (result : RunResult) : String :=
  "\x7b\n  \"workload_id\": \"" ++ result.workloadId ++
    "\",\n  \"message\": \"" ++ result.message ++
    "\",\n  \"detached\": " ++ (if result.detached then "true" else "false") ++ "\n\x7d"

/-- `OutputFormat::write`, with what has been written. -/
def Format.write (format : Format) (writer : Writer) (result : RunResult) :
    Except CliError Unit × List UInt8 :=
  match format with
  | .table =>
    let (outcome, written) := writer.writeAll [] result.tableText
    (outcome.mapError .io, written)
  | .json =>
    match writer.writeAll [] result.jsonText with
    | (.error error, written) =>
      (.error (.format ("JSON serialization failed: " ++ error)), written)
    | (.ok (), written) =>
      let (outcome, all) := writer.writeAll written "\n"
      (outcome.mapError .io, all)

/-- What the command does: its result, the messages that it sends and the bytes that it writes. -/
structure RunOutcome where
  result : Except CliError Unit
  sent : List CliMessage
  written : List UInt8

/-- `RunCommand::execute`. -/
def execute (debug : CliResponse records → String) (version gatewayUrl : String)
    (transport : Transport records) (format : Format) (writer : Writer) (args : RunArgs) :
    RunOutcome :=
  match resultToWrite debug version gatewayUrl transport args with
  | (.error error, sent) => ⟨.error error, sent, []⟩
  | (.ok result, sent) =>
    let (outcome, written) := format.write writer result
    ⟨outcome, sent, written⟩

/-! ### When a specification is built -/

/-- The text sets the key to the value: it is cut at its first equals sign. -/
def Sets (text key value : String) : Prop := splitOnce '=' text = some (key, value)

instance (text key value : String) : Decidable (Sets text key value) :=
  inferInstanceAs (Decidable (_ = _))

/-- A variable is accepted exactly when it can be cut. -/
theorem parseVariable_eq_ok_iff {text : String} {pair : String × String} :
    parseVariable text = .ok pair ↔ Sets text pair.1 pair.2 := by
  unfold parseVariable Sets
  cases splitOnce '=' text with
  | none => exact iff_of_false nofun nofun
  | some found =>
    constructor
    · exact fun hok ↦ congrArg some (Except.ok.inj hok)
    · exact fun hsome ↦ congrArg Except.ok (Option.some.inj hsome)

/-- A text with an equals sign is cut. -/
theorem exists_sets_iff {text : String} :
    (∃ key value, Sets text key value) ↔ '=' ∈ text.toList := by
  unfold Sets splitOnce
  split_ifs with hmem
  · exact iff_of_true ⟨_, _, rfl⟩ hmem
  · exact iff_of_false (by rintro ⟨key, value, hnone⟩; cases hnone) hmem

/-- The arguments are those of a specification. -/
def ArgsValid (args : RunArgs) : Prop := args.image ≠ "" ∧ ∀ text ∈ args.env, '=' ∈ text.toList

instance (args : RunArgs) : Decidable (ArgsValid args) :=
  inferInstanceAs (Decidable (_ ∧ _))

/-- The specification that is built has the variables of the arguments, cut one by one. -/
theorem buildWorkloadSpec_eq_ok_iff {args : RunArgs} {spec : RunSpec} :
    buildWorkloadSpec args = .ok spec ↔ args.image ≠ "" ∧
      List.Forall₂ (fun text pair ↦ Sets text pair.1 pair.2) args.env spec.env ∧
      spec = ⟨args.image, if args.command = [] then none else some args.command, args.gpus,
        spec.env, args.memory⟩ := by
  rw [buildWorkloadSpec, check_eq_ok_iff, bind_eq_ok_iff]
  refine and_congr_right fun _ ↦ ?_
  simp only [mapM_eq_ok_iff, parseVariable_eq_ok_iff]
  constructor
  · rintro ⟨env, henv, hspec⟩
    obtain rfl := Except.ok.inj hspec
    exact ⟨henv, rfl⟩
  · rintro ⟨henv, hspec⟩
    exact ⟨spec.env, henv, congrArg Except.ok hspec.symm⟩

/-- A specification is built exactly from arguments that are those of one. -/
theorem exists_buildWorkloadSpec_iff {args : RunArgs} :
    (∃ spec, buildWorkloadSpec args = .ok spec) ↔ ArgsValid args := by
  have hall : (∃ env : List (String × String),
      List.Forall₂ (fun text pair ↦ Sets text pair.1 pair.2) args.env env) ↔
        ∀ text ∈ args.env, '=' ∈ text.toList := by
    rw [exists_forall₂_iff]
    refine forall₂_congr fun text _ ↦ ?_
    rw [Prod.exists, exists_sets_iff]
  rw [ArgsValid, ← hall]
  simp only [buildWorkloadSpec_eq_ok_iff]
  constructor
  · rintro ⟨spec, himage, henv, -⟩
    exact ⟨himage, spec.env, henv⟩
  · rintro ⟨himage, env, henv⟩
    exact ⟨⟨args.image, if args.command = [] then none else some args.command, args.gpus, env,
      args.memory⟩, himage, henv, rfl⟩

/-! ### What is sent and what comes back -/

/-- The next text is a response, and these items come in behind it. -/
def NextText (items : List (Except String (Frame records)))
    (response : Except String (CliResponse records))
    (rest : List (Except String (Frame records))) : Prop :=
  ∃ skipped, items = skipped ++ .ok (.text response) :: rest ∧
    ∀ item ∈ skipped, item = .ok .binary ∨ item = .ok .other

/-- A text is read when only frames that are passed over come before it. -/
theorem readTextMessage_eq_ok_iff {items rest : List (Except String (Frame records))}
    {response : Except String (CliResponse records)} :
    readTextMessage items = (.ok response, rest) ↔ NextText items response rest := by
  have hpassed : ∀ {item : Except String (Frame records)}
      {items : List (Except String (Frame records))}, item = .ok .binary ∨ item = .ok .other →
      (NextText (item :: items) response rest ↔ NextText items response rest) := by
    intro item items hitem
    constructor
    · rintro ⟨skipped, hitems, hskipped⟩
      cases skipped with
      | nil =>
        obtain ⟨rfl, -⟩ := List.cons.inj hitems
        rcases hitem with hitem | hitem <;> cases hitem
      | cons first skipped =>
        exact ⟨skipped, (List.cons.inj hitems).2, (List.forall_mem_cons.mp hskipped).2⟩
    · rintro ⟨skipped, rfl, hskipped⟩
      exact ⟨item :: skipped, rfl, List.forall_mem_cons.mpr ⟨hitem, hskipped⟩⟩
  have hstops : ∀ {item : Except String (Frame records)}
      {items : List (Except String (Frame records))}, item ≠ .ok .binary → item ≠ .ok .other →
      (NextText (item :: items) response rest ↔ item = .ok (.text response) ∧ items = rest) := by
    intro item items hbinary hother
    constructor
    · rintro ⟨skipped, hitems, hskipped⟩
      cases skipped with
      | nil => exact List.cons.inj hitems
      | cons first skipped =>
        obtain ⟨rfl, -⟩ := List.cons.inj hitems
        exact ((List.forall_mem_cons.mp hskipped).1.elim hbinary hother).elim
    · rintro ⟨rfl, rfl⟩
      exact ⟨[], rfl, fun item hitem ↦ absurd hitem List.not_mem_nil⟩
  fun_induction readTextMessage items with
  | case1 => exact iff_of_false nofun (by rintro ⟨skipped, hitems, -⟩; simp at hitems)
  | case2 found behind =>
    refine Iff.trans ?_ (hstops (by simp) (by simp)).symm
    rw [Prod.mk.injEq, Except.ok.injEq, Except.ok.injEq, Frame.text.injEq]
  | case3 behind =>
    refine Iff.trans ?_ (hstops (by simp) (by simp)).symm
    exact iff_of_false (by simp) (by simp)
  | case4 behind ih => exact ih.trans (hpassed (.inl rfl)).symm
  | case5 behind ih => exact ih.trans (hpassed (.inr rfl)).symm
  | case6 behind error =>
    refine Iff.trans ?_ (hstops (by simp) (by simp)).symm
    exact iff_of_false (by simp) (by simp)

/-- The message that starts the workload goes out: everything before it succeeds, and the first text
is a welcome. -/
def StartSent (gatewayUrl : String) (transport : Transport records) (args : RunArgs)
    (rest : List (Except String (Frame records))) : Prop :=
  (UrlValid gatewayUrl ∧ ArgsValid args) ∧ (transport.opened = .ok () ∧
    transport.helloSent = .ok () ∧ transport.startSent = .ok ()) ∧
    ∃ serverVersion protocolVersion,
      NextText transport.incoming (.ok (.welcome serverVersion protocolVersion)) rest

/-- The first text is a welcome exactly when the greeting succeeds. -/
theorem greeted_eq_ok_iff {items rest : List (Except String (Frame records))}
    (hrest : (readTextMessage items).2 = rest) :
    greeted (readTextMessage items).1 = .ok () ↔
      ∃ serverVersion protocolVersion,
        NextText items (.ok (.welcome serverVersion protocolVersion)) rest := by
  have hread : ∀ response, NextText items response rest ↔
      (readTextMessage items).1 = .ok response := by
    intro response
    rw [← readTextMessage_eq_ok_iff, Prod.ext_iff]
    exact and_iff_left hrest
  simp only [hread]
  cases (readTextMessage items).1 with
  | error error => exact iff_of_false nofun (by rintro ⟨_, _, hok⟩; cases hok)
  | ok response =>
    cases response with
    | error error => exact iff_of_false nofun (by rintro ⟨_, _, hok⟩; cases hok)
    | ok response => cases response <;> simp [greeted]

/-- The submission starts a workload, which is the one that the second text names, when all of it
succeeds. -/
theorem started_eq_ok_iff {debug : CliResponse records → String} {workloadId : String}
    {read : Except CliError (Except String (CliResponse records))} :
    started debug read = .ok workloadId ↔ ∃ id nodeId,
      read = .ok (.ok (.workloadStarted id nodeId)) ∧ workloadId = id.display := by
  cases read with
  | error error => exact iff_of_false nofun (by rintro ⟨_, _, hok, -⟩; cases hok)
  | ok response =>
    cases response with
    | error error => exact iff_of_false nofun (by rintro ⟨_, _, hok, -⟩; cases hok)
    | ok response => cases response <;> simp [started, eq_comm]

/-- What a submission does: it sends the specification and goes on with what comes in behind the
welcome, or it fails and sends no more than the greeting. -/
theorem submitWorkload_cases (debug : CliResponse records → String) (version : String)
    (transport : Transport records) (spec : RunSpec) :
    (∃ rest, ((transport.opened = .ok () ∧ transport.helloSent = .ok () ∧
          transport.startSent = .ok ()) ∧
        ∃ serverVersion protocolVersion,
          NextText transport.incoming (.ok (.welcome serverVersion protocolVersion)) rest) ∧
      submitWorkload debug version transport spec = (started debug (readTextMessage rest).1,
        [.helloOf version, .startWorkload none (toProtoSpec spec)])) ∨
    ((∀ rest, ¬ ((transport.opened = .ok () ∧ transport.helloSent = .ok () ∧
          transport.startSent = .ok ()) ∧
        ∃ serverVersion protocolVersion,
          NextText transport.incoming (.ok (.welcome serverVersion protocolVersion)) rest)) ∧
      ∃ error sent, submitWorkload debug version transport spec = (.error error, sent) ∧
        ∀ message ∈ sent, message = .helloOf version) := by
  cases hopened : transport.opened with
  | error error =>
    refine .inr ⟨fun rest hsent ↦ ?_, _, [], by simp only [submitWorkload, hopened]; rfl, ?_⟩
    · cases hsent.1.1
    · exact fun message hmessage ↦ absurd hmessage List.not_mem_nil
  | ok opened =>
    cases hhello : transport.helloSent with
    | error error =>
      refine .inr ⟨fun rest hsent ↦ ?_, _, [],
        by simp only [submitWorkload, hopened, hhello]; rfl, ?_⟩
      · cases hsent.1.2.1
      · exact fun message hmessage ↦ absurd hmessage List.not_mem_nil
    | ok hello =>
      have honly : ∀ message ∈ [CliMessage.helloOf version], message = .helloOf version :=
        fun message hmessage ↦ List.mem_singleton.mp hmessage
      cases hgreeted : greeted (readTextMessage transport.incoming).1 with
      | error error =>
        refine .inr ⟨fun rest hsent ↦ ?_, _, _,
          by simp only [submitWorkload, hopened, hhello, hgreeted]; rfl, honly⟩
        obtain ⟨-, serverVersion, protocolVersion, hnext⟩ := hsent
        rw [readTextMessage_eq_ok_iff.mpr hnext] at hgreeted
        cases hgreeted
      | ok greeting =>
        cases hstart : transport.startSent with
        | error error =>
          refine .inr ⟨fun rest hsent ↦ ?_, _, _,
            by simp only [submitWorkload, hopened, hhello, hgreeted, hstart]; rfl, honly⟩
          cases hsent.1.2.2
        | ok start =>
          have hwelcome := (greeted_eq_ok_iff rfl).mp hgreeted
          refine .inl ⟨_, ⟨⟨rfl, rfl, rfl⟩, hwelcome⟩, ?_⟩
          simp only [submitWorkload, hopened, hhello, hgreeted, hstart]

/-- What the command does: it sends the specification that is built from its arguments and goes on
with what comes in behind the welcome, or it fails and sends no more than the greeting. -/
theorem resultToWrite_cases (debug : CliResponse records → String) (version gatewayUrl : String)
    (transport : Transport records) (args : RunArgs) :
    (∃ spec rest, StartSent gatewayUrl transport args rest ∧ buildWorkloadSpec args = .ok spec ∧
      resultToWrite debug version gatewayUrl transport args =
        ((started debug (readTextMessage rest).1).map (RunResult.of args.detach),
          [.helloOf version, .startWorkload none (toProtoSpec spec)])) ∨
    ((∀ rest, ¬ StartSent gatewayUrl transport args rest) ∧ ∃ error sent,
      resultToWrite debug version gatewayUrl transport args = (.error error, sent) ∧
        ∀ message ∈ sent, message = .helloOf version) := by
  by_cases hurl : UrlValid gatewayUrl
  swap
  · refine .inr ⟨fun rest hsent ↦ hurl hsent.1.1, _, [], if_neg hurl, ?_⟩
    exact fun message hmessage ↦ absurd hmessage List.not_mem_nil
  cases hbuild : buildWorkloadSpec args with
  | error error =>
    have hargs : ¬ ArgsValid args := by
      intro hvalid
      obtain ⟨spec, hspec⟩ := exists_buildWorkloadSpec_iff.mpr hvalid
      rw [hbuild] at hspec
      cases hspec
    refine .inr ⟨fun rest hsent ↦ hargs hsent.1.2, error, [], ?_, ?_⟩
    · simp only [resultToWrite, if_pos hurl, hbuild]
    · exact fun message hmessage ↦ absurd hmessage List.not_mem_nil
  | ok spec =>
    have hvalid : UrlValid gatewayUrl ∧ ArgsValid args :=
      ⟨hurl, exists_buildWorkloadSpec_iff.mp ⟨spec, hbuild⟩⟩
    have hresult : resultToWrite debug version gatewayUrl transport args =
        ((submitWorkload debug version transport spec).1.map (RunResult.of args.detach),
          (submitWorkload debug version transport spec).2) := by
      simp only [resultToWrite, if_pos hurl, hbuild]
    rw [hresult]
    rcases submitWorkload_cases debug version transport spec with
      ⟨rest, hsent, hsubmit⟩ | ⟨hnot, error, sent, hsubmit, honly⟩
    · rw [hsubmit]
      exact .inl ⟨spec, rest, ⟨hvalid, hsent⟩, rfl, rfl⟩
    · rw [hsubmit]
      exact .inr ⟨fun rest hsent ↦ hnot rest hsent.2, error, sent, rfl, honly⟩

/-- Only one list of items can come in behind the welcome. -/
theorem StartSent.rest_eq {gatewayUrl : String} {transport : Transport records} {args : RunArgs}
    {rest other : List (Except String (Frame records))}
    (hsent : StartSent gatewayUrl transport args rest)
    (hother : StartSent gatewayUrl transport args other) : rest = other := by
  obtain ⟨-, -, _, _, hnext⟩ := hsent
  obtain ⟨-, -, _, _, hagain⟩ := hother
  have hread := readTextMessage_eq_ok_iff.mpr hnext
  rw [readTextMessage_eq_ok_iff.mpr hagain] at hread
  exact (Prod.mk.inj hread).2.symm

/-- The writer takes the bytes, and does not fail before they are all written. -/
def Writer.Takes (writer : Writer) (bytes : List UInt8) : Prop :=
  match writer with
  | .unlimited => True
  | .failsAfter count _ => bytes.length ≤ count

/-- The bytes of a result in a format. -/
def Format.bytes (format : Format) (result : RunResult) : List UInt8 :=
  match format with
  | .table => utf8Bytes result.tableText
  | .json => utf8Bytes result.jsonText ++ utf8Bytes "\n"

/-- What a writer takes, it takes from the front. -/
theorem Writer.Takes.of_append {writer : Writer} {front behind : List UInt8}
    (htakes : writer.Takes (front ++ behind)) : writer.Takes front := by
  cases writer with
  | unlimited => trivial
  | failsAfter count error =>
    exact (List.prefix_append front behind).length_le.trans htakes

/-- A text is written when the writer takes it behind what has been written. -/
theorem writeAll_eq_ok_iff {writer : Writer} {written all : List UInt8} {text : String} :
    writer.writeAll written text = (.ok (), all) ↔
      writer.Takes (written ++ utf8Bytes text) ∧ all = written ++ utf8Bytes text := by
  unfold Writer.Takes Writer.writeAll
  cases writer with
  | unlimited => simp [eq_comm]
  | failsAfter count error =>
    dsimp only
    split_ifs with hroom
    · rw [and_iff_right hroom, Prod.mk.injEq, and_iff_right rfl, eq_comm]
    · exact iff_of_false (by simp) fun htakes ↦ hroom htakes.1

/-- A result is written when the writer takes its bytes. -/
theorem write_eq_ok_iff {format : Format} {writer : Writer} {result : RunResult}
    {written : List UInt8} :
    format.write writer result = (.ok (), written) ↔
      writer.Takes (format.bytes result) ∧ written = format.bytes result := by
  have hmap : ∀ {outcome : Except String Unit × List UInt8},
      (outcome.1.mapError CliError.io, outcome.2) = (.ok (), written) ↔
        outcome = (.ok (), written) := by
    rintro ⟨_ | _, part⟩ <;> simp [Except.mapError]
  cases format with
  | table =>
    rw [Format.write, hmap, writeAll_eq_ok_iff, List.nil_append]
    rfl
  | json =>
    unfold Format.write Format.bytes
    dsimp only
    rcases hfirst : writer.writeAll [] result.jsonText with ⟨_ | _, part⟩
    · refine iff_of_false (by simp) ?_
      rintro ⟨htakes, -⟩
      have hfront := writeAll_eq_ok_iff.mpr
        ⟨(List.nil_append (utf8Bytes result.jsonText)).symm ▸ htakes.of_append, rfl⟩
      rw [hfirst] at hfront
      cases hfront
    · dsimp only
      rw [hmap, writeAll_eq_ok_iff, (writeAll_eq_ok_iff.mp hfirst).2, List.nil_append]

section Outcome

variable (debug : CliResponse records → String) (version gatewayUrl : String)
  (transport : Transport records) (format : Format) (writer : Writer) (args : RunArgs)

/-- The result that is written is that of the workload that was started. -/
theorem resultToWrite_eq_ok_iff (result : RunResult) :
    (resultToWrite debug version gatewayUrl transport args).1 = .ok result ↔
      ∃ rest last workloadId nodeId, StartSent gatewayUrl transport args rest ∧
        NextText rest (.ok (.workloadStarted workloadId nodeId)) last ∧
        result = .of args.detach workloadId.display := by
  rcases resultToWrite_cases debug version gatewayUrl transport args with
    ⟨spec, rest, hstart, -, hresult⟩ | ⟨hnot, error, sent, hresult, hsent⟩
  · rw [hresult]
    constructor
    · intro hok
      cases hread : started debug (readTextMessage rest).1 with
      | error error =>
        rw [hread] at hok
        cases hok
      | ok workloadId =>
        rw [hread] at hok
        obtain ⟨id, nodeId, hresponse, rfl⟩ := started_eq_ok_iff.mp hread
        exact ⟨rest, (readTextMessage rest).2, id, nodeId, hstart,
          readTextMessage_eq_ok_iff.mp (Prod.ext hresponse rfl), (Except.ok.inj hok).symm⟩
    · rintro ⟨other, last, id, nodeId, hother, hnext, rfl⟩
      obtain rfl := hstart.rest_eq hother
      rw [readTextMessage_eq_ok_iff.mpr hnext]
      rfl
  · rw [hresult]
    refine iff_of_false nofun ?_
    rintro ⟨rest, _, _, _, hstart, -⟩
    exact hnot rest hstart

/-- The message that starts a workload is sent when all goes well up to the welcome. -/
theorem startWorkload_mem_iff :
    (∃ nodeId spec, .startWorkload nodeId spec ∈
        (resultToWrite debug version gatewayUrl transport args).2) ↔
      ∃ rest, StartSent gatewayUrl transport args rest := by
  rcases resultToWrite_cases debug version gatewayUrl transport args with
    ⟨spec, rest, hstart, -, hresult⟩ | ⟨hnot, error, sent, hresult, hsent⟩
  · rw [hresult]
    exact iff_of_true ⟨none, toProtoSpec spec, by simp⟩ ⟨rest, hstart⟩
  · rw [hresult]
    refine iff_of_false ?_ ?_
    · rintro ⟨nodeId, spec, hmem⟩
      cases hsent _ hmem
    · rintro ⟨rest, hstart⟩
      exact hnot rest hstart

/-- Writing the result sends nothing more. -/
theorem sent_execute :
    (execute debug version gatewayUrl transport format writer args).sent =
      (resultToWrite debug version gatewayUrl transport args).2 := by
  unfold execute
  rcases resultToWrite debug version gatewayUrl transport args with ⟨_ | _, sent⟩ <;> rfl

/-- The command succeeds when there is a result and the writer takes it. -/
theorem execute_eq_ok_iff (written : List UInt8) :
    (execute debug version gatewayUrl transport format writer args).result = .ok () ∧
        (execute debug version gatewayUrl transport format writer args).written = written ↔
      ∃ result, (resultToWrite debug version gatewayUrl transport args).1 = .ok result ∧
        writer.Takes (format.bytes result) ∧ written = format.bytes result := by
  unfold execute
  rcases resultToWrite debug version gatewayUrl transport args with ⟨error | result, sent⟩
  · simp
  · dsimp only
    rw [← Prod.mk.injEq, write_eq_ok_iff]
    simp

end Outcome

/-- The command succeeds exactly when its arguments are valid, the web socket is opened and takes
both messages, the first text is a welcome, the second one says that a workload was started, and the
writer takes the result; what is written then is the result with the identifier of that workload, in
the format that is asked for. The message that starts a workload is sent exactly when all goes well
up to the welcome, whatever comes then. -/
theorem run_outcome (debug : CliResponse records → String) (version gatewayUrl : String)
    (transport : Transport records) (format : Format) (writer : Writer) (args : RunArgs) :
    let outcome := execute debug version gatewayUrl transport format writer args
    (∀ written, outcome.result = .ok () ∧ outcome.written = written ↔
      ∃ rest last workloadId nodeId, StartSent gatewayUrl transport args rest ∧
        NextText rest (.ok (.workloadStarted workloadId nodeId)) last ∧
        writer.Takes (format.bytes (.of args.detach workloadId.display)) ∧
        written = format.bytes (.of args.detach workloadId.display)) ∧
    ((∃ nodeId spec, .startWorkload nodeId spec ∈ outcome.sent) ↔
      ∃ rest, StartSent gatewayUrl transport args rest) := by
  intro outcome
  constructor
  · intro written
    rw [execute_eq_ok_iff]
    simp only [resultToWrite_eq_ok_iff]
    constructor
    · rintro ⟨_, ⟨rest, last, workloadId, nodeId, hstart, hnext, rfl⟩, hwritten⟩
      exact ⟨rest, last, workloadId, nodeId, hstart, hnext, hwritten⟩
    · rintro ⟨rest, last, workloadId, nodeId, hstart, hnext, hwritten⟩
      exact ⟨_, ⟨rest, last, workloadId, nodeId, hstart, hnext, rfl⟩, hwritten⟩
  · rw [sent_execute]
    exact startWorkload_mem_iff debug version gatewayUrl transport args

/-! ### What is sent for the arguments -/

/-- The last text that sets the key sets it to the value. -/
def LastSets (env : List String) (key value : String) : Prop :=
  ∃ front text back, env = front ++ text :: back ∧ Sets text key value ∧
    ∀ later ∈ back, ∀ other, ¬ Sets later key other

/-- The pairs that are cut one by one. -/
theorem pairs_eq {env : List String} {pairs : List (String × String)}
    (hpairs : List.Forall₂ (fun text pair ↦ Sets text pair.1 pair.2) env pairs) :
    pairs = env.filterMap (splitOnce '=') := by
  induction hpairs with
  | nil => rfl
  | cons htext _ ih => rw [List.filterMap_cons_some htext, ← ih]

/-- The last entry of a key is cut from the last text that sets it. -/
theorem lookup_variables_iff {env : List String} {key value : String} :
    (collect (env.filterMap (splitOnce '='))).lookup key = some value ↔ LastSets env key value := by
  rw [lookup_collect_eq_some_iff]
  constructor
  · rintro ⟨before, after, hpairs, hafter⟩
    obtain ⟨front, rest, rfl, -, hrest⟩ := List.filterMap_eq_append_iff.mp hpairs
    obtain ⟨passed, text, back, rfl, -, htext, hback⟩ := List.filterMap_eq_cons_iff.mp hrest
    refine ⟨front ++ passed, text, back, by simp, htext, fun later hlater other hother ↦ ?_⟩
    have hmem : (key, other) ∈ after := by
      rw [← hback]
      exact List.mem_filterMap.mpr ⟨later, hlater, hother⟩
    exact hafter _ hmem rfl
  · rintro ⟨front, text, back, rfl, htext, hback⟩
    refine ⟨front.filterMap (splitOnce '='), back.filterMap (splitOnce '='), ?_, ?_⟩
    · rw [List.filterMap_append, List.filterMap_cons_some htext]
    · rintro ⟨found, other⟩ hitem rfl
      obtain ⟨later, hlater, hsets⟩ := List.mem_filterMap.mp hitem
      exact hback later hlater other hsets

/-- The keys of the variables are those that some text sets. -/
theorem mem_keys_variables_iff {env : List String} {key : String} :
    key ∈ (collect (env.filterMap (splitOnce '='))).keys ↔
      ∃ text ∈ env, ∃ value, Sets text key value := by
  rw [← AList.mem_keys]
  constructor
  · intro hkey
    obtain ⟨value, hvalue⟩ := Option.isSome_iff_exists.mp (AList.lookup_isSome.mpr hkey)
    obtain ⟨text, htext, hsets⟩ := List.mem_filterMap.mp (mem_of_lookup_collect hvalue)
    exact ⟨text, htext, value, hsets⟩
  · rintro ⟨text, htext, value, hsets⟩
    have hmem : (key, value) ∈ env.filterMap (splitOnce '=') :=
      List.mem_filterMap.mpr ⟨text, htext, hsets⟩
    obtain ⟨found, hfound⟩ := exists_lookup_collect (List.mem_map_of_mem hmem)
    exact AList.lookup_isSome.mp (Option.isSome_iff_exists.mpr ⟨found, hfound⟩)

/-- A specification that is sent goes to no node in particular and is that of the arguments: each
variable has the value of the last text that sets it, and the indices of the GPUs are only counted,
modulo `2 ^ 32`. It is accepted exactly when the image is, neither the memory nor the count is too
high, and every key that some text sets is valid. -/
theorem submitted_spec (debug : CliResponse records → String) (version gatewayUrl : String)
    (transport : Transport records) (format : Format) (writer : Writer) (args : RunArgs)
    {nodeId : Option Uuid} {spec : WorkloadSpec}
    (hsent : .startWorkload nodeId spec ∈
      (execute debug version gatewayUrl transport format writer args).sent) :
    (nodeId = none ∧ spec.image = args.image ∧ spec.command = args.command ∧
      spec.gpuCount.toNat = args.gpus.length % 2 ^ 32 ∧ spec.memoryMb = args.memory.getD 512 ∧
      spec.cpuCores = 1) ∧
    (∀ key value, spec.env.lookup key = some value ↔ LastSets args.env key value) ∧
    (spec.validate = .ok () ↔ validateImage args.image = .ok () ∧
      args.memory.getD 512 ≤ maxMemoryMb ∧ args.gpus.length % 2 ^ 32 ≤ 64 ∧
      ∀ text ∈ args.env, ∀ key value, Sets text key value → validateEnvKey key = .ok ()) := by
  rw [sent_execute] at hsent
  rcases resultToWrite_cases debug version gatewayUrl transport args with
    ⟨built, rest, -, hbuild, hresult⟩ | ⟨-, error, sent, hresult, hsent'⟩
  swap
  · rw [hresult] at hsent
    cases hsent' _ hsent
  rw [hresult] at hsent
  rcases List.mem_cons.mp hsent with hhello | hstart
  · cases hhello
  obtain ⟨rfl, rfl⟩ := CliMessage.startWorkload.inj (List.mem_singleton.mp hstart)
  obtain ⟨-, hpairs, hbuilt⟩ := buildWorkloadSpec_eq_ok_iff.mp hbuild
  have henv : (toProtoSpec built).env = collect (args.env.filterMap (splitOnce '=')) := by
    rw [toProtoSpec, pairs_eq hpairs]
  have hcommand : (toProtoSpec built).command = args.command := by
    rw [toProtoSpec, hbuilt]
    by_cases hempty : args.command = []
    · simp [hempty]
    · simp [hempty]
  have hcount : (toProtoSpec built).gpuCount.toNat = args.gpus.length % 2 ^ 32 := by
    rw [toProtoSpec, hbuilt]
    exact UInt32.toNat_ofNat'
  have hmemory : (toProtoSpec built).memoryMb = args.memory.getD 512 := by
    rw [toProtoSpec, hbuilt]
  have himage : (toProtoSpec built).image = args.image := by
    rw [toProtoSpec, hbuilt]
  refine ⟨⟨rfl, himage, hcommand, hcount, hmemory, rfl⟩, fun key value ↦ ?_, ?_⟩
  · rw [henv, lookup_variables_iff]
  · have hgpus : (toProtoSpec built).gpuCount ≤ maxGpuCount ↔ args.gpus.length % 2 ^ 32 ≤ 64 := by
      rw [UInt32.le_iff_toNat_le, hcount]
      rfl
    have hkeys : (∀ key ∈ (toProtoSpec built).env.keys, validateEnvKey key = .ok ()) ↔
        ∀ text ∈ args.env, ∀ key value, Sets text key value → validateEnvKey key = .ok () := by
      rw [henv]
      constructor
      · intro hall text htext key value hsets
        exact hall key (mem_keys_variables_iff.mpr ⟨text, htext, value, hsets⟩)
      · intro hall key hkey
        obtain ⟨text, htext, value, hsets⟩ := mem_keys_variables_iff.mp hkey
        exact hall text htext key value hsets
    rw [ClawProto.WorkloadSpec.validate_eq_ok_iff, ClawProto.validateResources_eq_ok_iff, hkeys,
      himage, hmemory]
    change _ ∧ (_ ∧ (1 : UInt32) ≤ _ ∧ (toProtoSpec built).gpuCount ≤ maxGpuCount) ∧ _ ∧
      ([] : List ClawProto.ValidationError) = [] ↔ _
    rw [hgpus]
    have hcores : (1 : UInt32) ≤ ClawProto.maxCpuCores := by decide
    simp only [hcores, true_and, and_true, and_assoc]

/-- A web socket on which a welcome comes in, and a ping before it. -/
def welcomed : Transport Connection.idRecords :=
  ⟨.ok (), .ok (), .ok (), [.ok .other, .ok (.text (.ok (.welcome "1.0.0" cliProtocolVersion)))]⟩

/-- Arguments that set a variable twice. -/
def setTwice : RunArgs := ⟨"nginx:latest", [], [0, 3], ["A=1", "A=2=3"], none, true⟩

/-- The second value is sent, with what stands behind its first equals sign. -/
theorem submitted_spec_twice :
    let outcome := execute (fun _ ↦ "") "0.1.0" "ws://localhost:8080" welcomed .table .unlimited
      setTwice
    ∃ spec, .startWorkload none spec ∈ outcome.sent ∧ spec.env.lookup "A" = some "2=3" ∧
      spec.gpuCount.toNat = 2 := by
  intro outcome
  obtain ⟨built, hbuilt⟩ : ∃ built, buildWorkloadSpec setTwice = .ok built :=
    exists_buildWorkloadSpec_iff.mpr (by decide +kernel)
  have hurl : UrlValid "ws://localhost:8080" := by decide +kernel
  have hsent : .startWorkload none (toProtoSpec built) ∈ outcome.sent := by
    rw [sent_execute]
    simp only [resultToWrite, if_pos hurl, hbuilt]
    exact List.mem_cons_of_mem _ List.mem_cons_self
  have hspec := submitted_spec _ "0.1.0" "ws://localhost:8080" welcomed .table .unlimited setTwice
    hsent
  refine ⟨_, hsent, (hspec.2.1 "A" "2=3").mpr ⟨["A=1"], "A=2=3", [], rfl, ?_, ?_⟩, hspec.1.2.2.2.1⟩
  · decide +kernel
  · exact fun later hlater ↦ absurd hlater List.not_mem_nil

end Clawbernetes.ClawCli
