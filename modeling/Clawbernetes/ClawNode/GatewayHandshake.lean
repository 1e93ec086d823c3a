import Clawbernetes.ClawIdentity.DeviceIdentity
import Clawbernetes.ClawNode.GatewayLoop

/-!
# The handshake of the gateway client

The first part of `GatewayClient::connect` in `client.rs`, once the socket is open. The gateway
sends a challenge. The client answers with a connect frame that its device has signed for the nonce
of the challenge. If the hello that follows does not say that the client is known, it asks to be
paired and waits until it has an answer, time is over or the connection fails. An answer that
refuses the pairing is taken like one that grants it.

The messages of the gateway, the clock, what the writes do and the ids are the events of a run. A
run sends at most one connect frame, signed for the nonce of the first message, and no other nonce
has the same signed text (`connect_signed`). When the client goes on to its event loop is a matter
of the first two events and of the first of the rest that decides the pairing (`entered_iff`).
-/

set_option autoImplicit false
set_option relaxedAutoImplicit false

namespace Clawbernetes.ClawNode

open ClawIdentity ClawIdentity.DeviceIdentity Library.Bytes Library.Runs Library.TextEncodings
open MoltP2p (Signature SignatureScheme)

/-! ### Frames and messages -/

/-- `Value::as_bool`. -/
def Value.asBool : Value → Option Bool
  | .bool value => some value
  | _ => none

/-- `ClientInfo`. -/
structure ClientInfo where
  id : String
  displayName : String
  version : String
  platform : String
  mode : String
  instanceId : String

/-- `ConnectParams`. -/
structure ConnectParams where
  minProtocol : UInt32
  maxProtocol : UInt32
  client : ClientInfo
  caps : List String
  commands : List String
  auth : Option String
  device : Option DeviceParams
  role : Option String
  scopes : Option (List String)

/-- `NodePairRequestParams`. -/
structure NodePairRequestParams where
  nodeId : String
  displayName : String
  platform : String
  version : String
  caps : List String
  commands : List String
  silent : Bool

/-- What the client writes during the handshake. -/
inductive HandshakeFrame where
  | connect (id : String) (params : ConnectParams)
  | pairRequest (id : String) (params : NodePairRequestParams)
  | pong (data : List UInt8)

/-- What reading from the socket gives. -/
inductive Arrival where
  | timeout
  | ended
  | failed (error : String)
  | text (text : String)
  | ping (data : List UInt8)
  | close (reason : String)
  | other

/-- One turn of the handshake: what is read, whether the time for the pairing was over before, the
clock, the ids that are drawn and what the write does that follows. -/
structure HandshakeEvent where
  arrival : Arrival
  overdue : Bool
  signedAtMs : UInt64
  frameId : String
  instanceId : String
  sending : Except String Unit

/-- The parts of the handshake, and how it ends: in the event loop or with an error. -/
inductive Phase where
  | challenge
  | hello
  | pairing
  | entered
  | failed (error : String)
  deriving DecidableEq

/-- The handshake with the token of the node and what has been written. -/
structure Handshake where
  phase : Phase
  nodeToken : Option String
  sent : List HandshakeFrame

/-- What the client says of itself. -/
structure NodeHost (crypto : DeviceCrypto) where
  identity : DeviceIdentity crypto
  hostname : String
  platform : String
  clientVersion : String
  caps : List String
  commands : List String
  authToken : Option String

namespace Handshake

/-! ### What the messages mean -/

section Reading

variable (parse : String → Except String Value)

/-- The message of an error, or a default. -/
def errorMessage (error : Value) (default : String) : String :=
  ((error.get "message").bind Value.asStr).getD default

/-- The nonce of the challenge in the first message. -/
def challengeNonce : Arrival → Except String String
  | .timeout => .error "challenge timeout"
  | .ended => .error "connection closed waiting for challenge"
  | .failed error => .error error
  | .text text => do
    let frame ← parse text
    match (frame.get "event").bind Value.asStr with
    | some event =>
      let nonce := ((frame.get "payload").bind (·.get "nonce")).bind Value.asStr
      if event = "connect.challenge" then
        match nonce with
        | some nonce => .ok nonce
        | none => .error "no challenge nonce received"
      else .error "no challenge nonce received"
    | none =>
      match frame.get "error" with
      | some error => .error ("gateway error on connect: " ++ errorMessage error "unknown")
      | none => .error "no challenge nonce received"
  | .close reason => .error ("gateway closed connection: " ++ reason)
  | .ping _ | .other => .error "no challenge nonce received"

/-- The hello says that the client is known. -/
def isHelloOk (frame : Value) : Bool :=
  ((frame.get "ok").bind Value.asBool).getD false &&
    ((frame.get "payload").bind (·.get "type")).bind Value.asStr == some "hello-ok"

/-- Whether the client is known, according to the hello. A message that is no text says nothing. -/
def hello : Arrival → Except String Bool
  | .timeout => .error "hello timeout"
  | .ended => .error "connection closed by gateway"
  | .failed error => .error ("websocket error: " ++ error)
  | .text text => do
    let frame ← parse text
    if isHelloOk frame then .ok true
    else match frame.get "error" with
    | some error => .error ("gateway error: " ++ errorMessage error "unknown error")
    | none => if (frame.get "event").isSome then .error "device signature rejected" else .ok false
  | .ping _ | .close _ | .other => .ok false

/-- What an event means for the pairing: nothing, the end of it, perhaps with a token, or an error.
A message is not looked at when time is over. -/
def decision (event : HandshakeEvent) : Option (Except String (Option String)) :=
  if event.overdue then some (.ok none)
  else match event.arrival with
  | .timeout => some (.ok none)
  | .ended => some (.error "connection closed")
  | .failed error => some (.error ("websocket error: " ++ error))
  | .close _ => some (.error "connection closed during pairing")
  | .text text =>
    match parse text with
    | .error error => some (.error error)
    | .ok frame =>
      if (frame.get "id").isSome then
        match frame.get "result" with
        | some result => some (.ok ((result.get "token").bind Value.asStr))
        | none => if (frame.get "error").isSome then some (.ok none) else none
      else none
  | .ping _ | .other => none

end Reading

/-! ### The handshake -/

/-- The socket is open. -/
def start (nodeToken : Option String) : Handshake := ⟨.challenge, nodeToken, []⟩

section Steps

variable {crypto : DeviceCrypto} (host : NodeHost crypto) (parse : String → Except String Value)

/-- The parameters of the connect frame. -/
def connectParams (event : HandshakeEvent) (nonce : String) : ConnectParams where
  minProtocol := 3
  maxProtocol := 3
  client := ⟨"node-host", host.hostname, host.clientVersion, host.platform, "node",
    event.instanceId⟩
  caps := host.caps
  commands := host.commands
  auth := host.authToken
  device := some (host.identity.deviceParams
    (nodeRequest event.signedAtMs host.authToken (some nonce)))
  role := some "node"
  scopes := some ["node"]

/-- The parameters of the request to be paired. -/
def pairParams : NodePairRequestParams where
  nodeId := host.identity.deviceId
  displayName := host.hostname
  platform := host.platform
  version := host.clientVersion
  caps := host.caps
  commands := host.commands
  silent := true

/-- One turn of the handshake. -/
def step (handshake : Handshake) (event : HandshakeEvent) : Handshake :=
  match handshake.phase with
  | .entered | .failed _ => handshake
  | .challenge =>
    match challengeNonce parse event.arrival with
    | .error error => { handshake with phase := .failed error }
    | .ok nonce =>
      match event.sending with
      | .error error => { handshake with phase := .failed ("failed to send connect: " ++ error) }
      | .ok () =>
        { handshake with
          phase := .hello
          sent := handshake.sent ++ [.connect event.frameId (connectParams host event nonce)] }
  | .hello =>
    match hello parse event.arrival with
    | .error error => { handshake with phase := .failed error }
    | .ok true => { handshake with phase := .entered }
    | .ok false =>
      match event.sending with
      | .error error => { handshake with phase := .failed error }
      | .ok () =>
        { handshake with
          phase := .pairing
          sent := handshake.sent ++ [.pairRequest event.frameId (pairParams host)] }
  | .pairing =>
    match decision parse event with
    | some (.error error) => { handshake with phase := .failed error }
    | some (.ok token) =>
      { handshake with phase := .entered, nodeToken := token <|> handshake.nodeToken }
    | none =>
      match event.arrival, event.sending with
      | .ping data, .ok () => { handshake with sent := handshake.sent ++ [.pong data] }
      | _, _ => handshake

/-- The connect frames that have been sent. -/
def connects (handshake : Handshake) : List ConnectParams :=
  handshake.sent.filterMap fun frame ↦ match frame with
    | .connect _ params => some params
    | .pairRequest _ _ | .pong _ => none

variable {host parse} {handshake : Handshake} {nodeToken : Option String}

/-- After the first turn no connect frame is sent. -/
theorem connects_step (hphase : handshake.phase ≠ .challenge) (event : HandshakeEvent) :
    (handshake.step host parse event).phase ≠ .challenge ∧
      (handshake.step host parse event).connects = handshake.connects := by
  unfold step
  cases hbefore : handshake.phase with
  | challenge => exact absurd hbefore hphase
  | entered => exact ⟨hphase, rfl⟩
  | failed error => exact ⟨hphase, rfl⟩
  | hello =>
    cases hello parse event.arrival with
    | error error => exact ⟨nofun, rfl⟩
    | ok known =>
      cases known with
      | true => exact ⟨nofun, rfl⟩
      | false =>
        cases event.sending with
        | error error => exact ⟨nofun, rfl⟩
        | ok done => exact ⟨nofun, by simp [connects]⟩
  | pairing =>
    cases decision parse event with
    | some outcome =>
      cases outcome with
      | error error => exact ⟨nofun, rfl⟩
      | ok token => exact ⟨nofun, rfl⟩
    | none =>
      dsimp only
      split
      · exact ⟨nofun, by simp [connects]⟩
      · exact ⟨hphase, rfl⟩

/-- A run that goes on after its first turn sends no connect frame more. -/
theorem connects_foldl (hphase : handshake.phase ≠ .challenge) (events : List HandshakeEvent) :
    (events.foldl (step host parse) handshake).connects = handshake.connects := by
  have hkept : Always (step host parse) (fun later ↦ later.phase ≠ .challenge ∧
      later.connects = handshake.connects) handshake events := by
    refine always_of_step ?_ ?_ events
    · exact ⟨hphase, rfl⟩
    · rintro later event ⟨hlater, hsame⟩
      obtain ⟨hafter, hconnects⟩ := connects_step hlater event
      exact ⟨hafter, hconnects.trans hsame⟩
  exact hkept.last.2

/-- A run sends a connect frame exactly when its first turn does. -/
theorem connects_run (greeting : HandshakeEvent) (rest : List HandshakeEvent) :
    ((greeting :: rest).foldl (step host parse) (start nodeToken)).connects =
      match challengeNonce parse greeting.arrival, greeting.sending with
      | .ok nonce, .ok () => [connectParams host greeting nonce]
      | _, _ => [] := by
  have hfirst : (step host parse (start nodeToken) greeting).phase ≠ .challenge ∧
      (step host parse (start nodeToken) greeting).connects =
        match challengeNonce parse greeting.arrival, greeting.sending with
        | .ok nonce, .ok () => [connectParams host greeting nonce]
        | _, _ => [] := by
    simp only [step, start]
    cases challengeNonce parse greeting.arrival with
    | error error => exact ⟨nofun, rfl⟩
    | ok nonce =>
      cases greeting.sending with
      | error error => exact ⟨nofun, rfl⟩
      | ok done => exact ⟨nofun, rfl⟩
  rw [List.foldl_cons, connects_foldl hfirst.1, hfirst.2]

end Steps

/-- Whatever the gateway does, a connect frame that the client has sent is the only one. It answers
the first message, which was a challenge, carries the nonce of it, and its signature verifies under
the key of the device for the text with that nonce. No device signs that text for another nonce,
when the tokens have no bar. -/
theorem connect_signed {crypto : DeviceCrypto} (hverifies : crypto.Verifies)
    (host : NodeHost crypto) (parse : String → Except String Value) (nodeToken : Option String)
    (events : List HandshakeEvent) (params : ConnectParams)
    (hsent : params ∈ (events.foldl (step host parse) (start nodeToken)).connects) :
    ∃ greeting rest nonce device signature, events = greeting :: rest ∧
      challengeNonce parse greeting.arrival = .ok nonce ∧
      (events.foldl (step host parse) (start nodeToken)).connects = [params] ∧
      params.device = some device ∧ device.nonce = some nonce ∧
      base64Decode device.publicKey = some host.identity.publicKeyRaw ∧
      base64Decode device.signature = some (Signature.bytes signature) ∧
      crypto.scheme.verifyStrict ⟨host.identity.publicKeyRaw⟩ (utf8Bytes
        (host.identity.buildAuthPayload (nodeRequest device.signedAt host.authToken (some nonce))))
        signature = .ok () ∧
      ∀ (other : DeviceIdentity crypto) (signedAtMs : UInt64) (token otherNonce : Option String),
        '|' ∉ (host.authToken.getD "").toList → '|' ∉ (token.getD "").toList →
        host.identity.buildAuthPayload (nodeRequest device.signedAt host.authToken (some nonce)) =
          other.buildAuthPayload (nodeRequest signedAtMs token otherNonce) →
        otherNonce = some nonce := by
  cases events with
  | nil => exact absurd hsent (List.not_mem_nil)
  | cons greeting rest =>
    rw [connects_run] at hsent ⊢
    cases hnonce : challengeNonce parse greeting.arrival with
    | error error => simp [hnonce] at hsent
    | ok nonce =>
      cases hsending : greeting.sending with
      | error error => simp [hnonce, hsending] at hsent
      | ok done =>
        simp only [hnonce, hsending, List.mem_singleton] at hsent
        obtain ⟨signature, hsignature, hkey, hverified⟩ := verify_deviceParams hverifies
          host.identity (nodeRequest greeting.signedAtMs host.authToken (some nonce))
        refine ⟨greeting, rest, nonce, _, signature, rfl, hnonce, by rw [hsent], ?_, rfl, hkey,
          hsignature, hverified, ?_⟩
        · rw [hsent]
          rfl
        · intro other signedAtMs token otherNonce htoken hother hsame
          exact (nonce_eq_of_authPayload_eq host.identity other (barless_nodeRequest _ _ _)
            (barless_nodeRequest _ _ _) htoken hother hsame).symm

/-! ### Entering the event loop -/

section Entering

variable {crypto : DeviceCrypto} {host : NodeHost crypto} {parse : String → Except String Value}
  {nodeToken : Option String}

/-- A handshake that is over does nothing any more. -/
theorem foldl_of_over {handshake : Handshake}
    (hover : ∀ event, handshake.step host parse event = handshake) (events : List HandshakeEvent) :
    events.foldl (step host parse) handshake = handshake := by
  induction events with
  | nil => rfl
  | cons event rest ih => rw [List.foldl_cons, hover, ih]

/-- The pairing ends as the first event decides that decides anything. -/
theorem pairing_foldl (host : NodeHost crypto) (parse : String → Except String Value)
    {handshake : Handshake} (hphase : handshake.phase = .pairing)
    (events : List HandshakeEvent) :
    let after := events.foldl (step host parse) handshake
    (after.phase, after.nodeToken) = match events.findSome? (decision parse) with
      | none => (.pairing, handshake.nodeToken)
      | some (.error error) => (.failed error, handshake.nodeToken)
      | some (.ok token) => (.entered, token <|> handshake.nodeToken) := by
  induction events generalizing handshake with
  | nil => exact Prod.ext hphase rfl
  | cons event rest ih =>
    rw [List.foldl_cons, List.findSome?_cons]
    cases hdecision : decision parse event with
    | some outcome =>
      cases outcome with
      | error error =>
        have hstep :
            handshake.step host parse event = { handshake with phase := .failed error } := by
          simp only [step, hphase, hdecision]
        rw [hstep, foldl_of_over fun _ ↦ rfl]
      | ok token =>
        have hstep : handshake.step host parse event =
            { handshake with phase := .entered, nodeToken := token <|> handshake.nodeToken } := by
          simp only [step, hphase, hdecision]
        rw [hstep, foldl_of_over fun _ ↦ rfl]
    | none =>
      have hstep : (handshake.step host parse event).phase = .pairing ∧
          (handshake.step host parse event).nodeToken = handshake.nodeToken := by
        simp only [step, hphase, hdecision]
        split
        · exact ⟨rfl, rfl⟩
        · exact ⟨hphase, rfl⟩
      rw [← hstep.2]
      exact ih hstep.1

/-- After the connect frame, the hello and then the pairing decide. -/
theorem entered_hello_iff {handshake : Handshake} (hphase : handshake.phase = .hello)
    (token : Option String) (answers : List HandshakeEvent) :
    let after := answers.foldl (step host parse) handshake
    after.phase = .entered ∧ after.nodeToken = token ↔
      ∃ answer rest, answers = answer :: rest ∧
        (hello parse answer.arrival = .ok true ∧ token = handshake.nodeToken ∨
          hello parse answer.arrival = .ok false ∧ answer.sending = .ok () ∧
            ∃ granted, rest.findSome? (decision parse) = some (.ok granted) ∧
              token = (granted <|> handshake.nodeToken)) := by
  cases answers with
  | nil => simp [hphase]
  | cons answer rest =>
    dsimp only
    rw [List.foldl_cons]
    cases hanswer : hello parse answer.arrival with
    | error error =>
      have hstep :
          handshake.step host parse answer = { handshake with phase := .failed error } := by
        simp only [step, hphase, hanswer]
      rw [hstep, foldl_of_over fun _ ↦ rfl]
      simp [hanswer]
    | ok known =>
      cases known with
      | true =>
        have hstep : handshake.step host parse answer = { handshake with phase := .entered } := by
          simp only [step, hphase, hanswer]
        rw [hstep, foldl_of_over fun _ ↦ rfl]
        simp [hanswer, eq_comm]
      | false =>
        cases hsending : answer.sending with
        | error error =>
          have hstep : handshake.step host parse answer =
              { handshake with phase := .failed error } := by
            simp only [step, hphase, hanswer, hsending]
          rw [hstep, foldl_of_over fun _ ↦ rfl]
          simp [hanswer, hsending]
        | ok done =>
          have hpairing : (handshake.step host parse answer).phase = .pairing ∧
              (handshake.step host parse answer).nodeToken = handshake.nodeToken := by
            simp only [step, hphase, hanswer, hsending, and_self]
          have hafter := Prod.mk.inj (pairing_foldl host parse hpairing.1 rest)
          rw [hafter.1, hafter.2, hpairing.2]
          cases hdecided : rest.findSome? (decision parse) with
          | none => simp [hanswer, hdecided]
          | some outcome =>
            cases outcome with
            | error error => simp [hanswer, hdecided]
            | ok granted => simp [hanswer, hsending, hdecided, eq_comm]

/-- In every run, the client goes on to its event loop exactly when the first message was a
challenge that it could answer and the second event was either a hello that knows it, or neither an
error nor a further challenge, whereupon it asked to be paired and the first event that decided
anything was no failure of the connection: it may be a token, a refusal or the end of its patience.
The token of the node is the one that came with the pairing, or the one it had. -/
theorem entered_iff (host : NodeHost crypto) (parse : String → Except String Value)
    (nodeToken token : Option String) (events : List HandshakeEvent) :
    let after := events.foldl (step host parse) (start nodeToken)
    after.phase = .entered ∧ after.nodeToken = token ↔
      ∃ greeting answer rest nonce, events = greeting :: answer :: rest ∧
        challengeNonce parse greeting.arrival = .ok nonce ∧ greeting.sending = .ok () ∧
        (hello parse answer.arrival = .ok true ∧ token = nodeToken ∨
          hello parse answer.arrival = .ok false ∧ answer.sending = .ok () ∧
            ∃ granted, rest.findSome? (decision parse) = some (.ok granted) ∧
              token = (granted <|> nodeToken)) := by
  cases events with
  | nil => simp [start]
  | cons greeting answers =>
    dsimp only
    rw [List.foldl_cons]
    cases hnonce : challengeNonce parse greeting.arrival with
    | error error =>
      have hstep : (start nodeToken).step host parse greeting =
          { start nodeToken with phase := .failed error } := by
        simp only [step, start, hnonce]
      rw [hstep, foldl_of_over fun _ ↦ rfl]
      simp [hnonce]
    | ok nonce =>
      cases hsending : greeting.sending with
      | error error =>
        have hstep : (start nodeToken).step host parse greeting =
            { start nodeToken with phase := .failed ("failed to send connect: " ++ error) } := by
          simp only [step, start, hnonce, hsending]
        rw [hstep, foldl_of_over fun _ ↦ rfl]
        simp [hsending]
      | ok done =>
        have hstep : ((start nodeToken).step host parse greeting).phase = .hello ∧
            ((start nodeToken).step host parse greeting).nodeToken = nodeToken := by
          simp only [step, start, hnonce, hsending, and_self]
        refine (entered_hello_iff hstep.1 token answers).trans ?_
        rw [hstep.2]
        constructor
        · rintro ⟨answer, rest, rfl, hanswer⟩
          exact ⟨greeting, answer, rest, nonce, rfl, hnonce, hsending, hanswer⟩
        · rintro ⟨first, answer, rest, found, hevents, -, -, hanswer⟩
          exact ⟨answer, rest, (List.cons.inj hevents).2, hanswer⟩

end Entering

/-- What the device of the key of thirty-two sevens signs for the nonce `n1`. -/
def greetedText : String :=
  "v2|fe812c12f3ab4ce6ac5db69ac352f906cb1b11ef43fb33e252ef7ff552263889|node-host|node|node|node|" ++
    "1700000000000|t|n1"

/-- Its signature of that. -/
def greetedSignature : ℕ :=
  0x3ec9de459bdee82fe687c67fde65fd5a504c48e124932411b95c4f8e432cb87 * 2 ^ 256 +
    0x5734aa36cfd276fe5828d4f2bb8d151651449aeea2209db981c1cb23ba8b02d5

/-- Ed25519 on that text. -/
def greetedSign (message : List UInt8) : Signature :=
  ⟨leBytes 64 (if message = utf8Bytes greetedText then greetedSignature else 0),
    length_leBytes 64 _⟩

/-- Ed25519 with the key of thirty-two sevens, as far as that signature shows it. -/
def greetedScheme : SignatureScheme where
  fromBytes := fun bytes ↦ some ⟨bytes⟩
  sign := fun _ ↦ greetedSign
  verifyStrict := fun verifier message signature ↦
    if verifier.bytes = (sevensIdentity .keyless).publicKeyRaw ∧
      signature = greetedSign message then
      .ok ()
    else .error "signature error: Verification equation was not satisfied"

/-- What it signs verifies. -/
theorem verifies_greetedScheme : (sevensCrypto greetedScheme).Verifies := by
  intro key message
  exact if_pos ⟨rfl, rfl⟩

/-- A node with that device. -/
def greetedHost : NodeHost (sevensCrypto greetedScheme) :=
  ⟨sevensIdentity greetedScheme, "gpu-1", "linux x86_64", "0.1.0", ["gpu"], ["gpu.list"], some "t"⟩

/-- A challenge with the nonce `n1`. -/
def challengeText : String :=
  "\x7b\"event\":\"connect.challenge\",\"payload\":\x7b\"nonce\":\"n1\"\x7d\x7d"

/-- The challenge is read as what it says. -/
def readChallenge (text : String) : Except String Value :=
  if text = challengeText then
    .ok (.object [("event", .string "connect.challenge"),
      ("payload", .object [("nonce", .string "n1")])])
  else .error "expected value at line 1 column 1"

/-- The challenge, its answer, and the end of the connection. -/
def greetedEvents : List HandshakeEvent :=
  [⟨.text challengeText, false, 1700000000000, "f", "i", .ok ()⟩,
    ⟨.ended, false, 1700000000001, "g", "j", .ok ()⟩]

/-- The connect frame that answers the challenge is the only one. -/
theorem connect_signed_greeted :
    (greetedEvents.foldl (step greetedHost readChallenge) (start none)).connects =
      [connectParams greetedHost ⟨.text challengeText, false, 1700000000000, "f", "i", .ok ()⟩
        "n1"] :=
  have hsent : connectParams greetedHost
      ⟨.text challengeText, false, 1700000000000, "f", "i", .ok ()⟩ "n1" ∈
        (greetedEvents.foldl (step greetedHost readChallenge) (start none)).connects :=
    List.mem_singleton.mpr rfl
  let ⟨_, _, _, _, _, _, _, honly, _⟩ :=
    connect_signed verifies_greetedScheme greetedHost readChallenge none greetedEvents _ hsent
  honly

end Handshake

end Clawbernetes.ClawNode
