import Clawbernetes.Library.Results
import Clawbernetes.MoltP2p.Message

/-!
# The wire format of gossip messages

The second half of `gossip/message.rs`. A message travels as a `WireGossipMessage`: the number of
its kind, its JSON text and the version of the protocol. The encoding of the frame by `prost` and of
the message by `serde_json` are a parameter, a `WireCodec`.

The kind of a message is written twice, as the number in the frame and as the variant in the text.
The decoder checks that the number is known to the version (`openFrame_eq_ok_iff`) and takes the
message from the text (`decodeWire_eq_ok_iff`). What the encoder writes is read back, and a frame is
accepted with a number that is not the one of its message exactly when it is `Mislabelled`
(`wire_exact_iff`).
-/

set_option autoImplicit false
set_option relaxedAutoImplicit false

namespace Clawbernetes.MoltP2p

open Library.Results

/-! ### Frames and versions -/

/-- `WireGossipMessage`. -/
structure WireGossipMessage where
  msgType : UInt32
  payload : List UInt8
  version : UInt32
  deriving DecidableEq

namespace WireTypes

/-- `wire_types::ANNOUNCE`. -/
def announce : UInt32 := 1

/-- `wire_types::QUERY`. -/
def query : UInt32 := 2

/-- `wire_types::RESPONSE`. -/
def response : UInt32 := 3

/-- `wire_types::HEARTBEAT`. -/
def heartbeat : UInt32 := 4

/-- `wire_types::SYNC_REQUEST`. -/
def syncRequest : UInt32 := 5

/-- `wire_types::SYNC_RESPONSE`. -/
def syncResponse : UInt32 := 6

end WireTypes

/-- `ProtocolVersion`. -/
inductive ProtocolVersion where
  | v1
  deriving DecidableEq

namespace ProtocolVersion

/-- `ProtocolVersion::CURRENT`. -/
def current : ProtocolVersion := v1

/-- `ProtocolVersion::MIN_COMPATIBLE`. -/
def minCompatible : ProtocolVersion := v1

/-- `ProtocolVersion::as_u32`. -/
def asU32 : ProtocolVersion → UInt32
  | v1 => 1

/-- The text of a version. -/
def display (version : ProtocolVersion) : String := "v" ++ toString version.asU32

/-- `ProtocolVersion::from_u32`. -/
def fromU32 (value : UInt32) : Except P2pError ProtocolVersion :=
  if value = 0 then .error (.protocol "Protocol version 0 is invalid")
  else if value = 1 then .ok v1
  else if current.asU32 < value then
    .error (.protocol ("Unsupported protocol version: " ++ toString value ++ " (max supported: " ++
      toString current.asU32 ++ ")"))
  else .error (.protocol ("Unknown protocol version: " ++ toString value))

/-- `ProtocolVersion::is_compatible_with`, with the order of the variants. -/
def isCompatibleWith (version other : ProtocolVersion) : Bool :=
  minCompatible.asU32 ≤ version.asU32 && minCompatible.asU32 ≤ other.asU32

/-- `ProtocolVersion::is_valid_message_type`. -/
def isValidMessageType : ProtocolVersion → UInt32 → Bool
  | v1, msgType => msgType ∈ [WireTypes.announce, WireTypes.query, WireTypes.response,
      WireTypes.heartbeat, WireTypes.syncRequest, WireTypes.syncResponse]

/-- `ProtocolVersion::supported_message_types`. -/
def supportedMessageTypes : ProtocolVersion → String
  | v1 => "Announce, Query, Response, Heartbeat, SyncRequest, SyncResponse"

/-- Only the number one is a version. -/
theorem fromU32_eq_ok_iff {value : UInt32} {version : ProtocolVersion} :
    fromU32 value = .ok version ↔ value = 1 := by
  unfold fromU32
  cases version with
  | v1 =>
    rw [check_eq_ok_iff]
    constructor
    · rintro ⟨-, hversion⟩
      split_ifs at hversion with hone
      exact hone
    · rintro rfl
      exact ⟨by decide, rfl⟩

/-- The current version is compatible with every version. -/
theorem isCompatibleWith_current (version : ProtocolVersion) :
    current.isCompatibleWith version = true := by
  cases version with
  | v1 => decide

end ProtocolVersion

namespace GossipMessage

/-- `GossipMessage::message_type`. -/
def messageType : GossipMessage → String
  | announce _ _ _ => "Announce"
  | query _ => "Query"
  | response _ _ _ => "Response"
  | heartbeat _ _ => "Heartbeat"
  | syncRequest _ _ => "SyncRequest"
  | syncResponse _ => "SyncResponse"

/-- The number of the kind of a message, as `encode_wire_with_version` chooses it. -/
def wireType : GossipMessage → UInt32
  | announce _ _ _ => WireTypes.announce
  | query _ => WireTypes.query
  | response _ _ _ => WireTypes.response
  | heartbeat _ _ => WireTypes.heartbeat
  | syncRequest _ _ => WireTypes.syncRequest
  | syncResponse _ => WireTypes.syncResponse

/-- Every kind of message is valid in every version. -/
theorem isValidMessageType_wireType (message : GossipMessage) (version : ProtocolVersion) :
    version.isValidMessageType message.wireType = true := by
  cases version with
  | v1 => cases message <;> rfl

end GossipMessage

/-! ### Encoding and decoding -/

/-- The derived `prost` codec of the frame and the derived `serde_json` codec of the message, with
the texts of their errors. -/
structure WireCodec where
  encodeToVec : WireGossipMessage → List UInt8
  decode : List UInt8 → Except String WireGossipMessage
  toVec : GossipMessage → Except String (List UInt8)
  fromSlice : List UInt8 → Except String GossipMessage

namespace WireCodec

/-- `GossipMessage::encode_wire_with_version`. -/
def encodeWireWithVersion (codec : WireCodec) (message : GossipMessage)
    (version : ProtocolVersion) : Except P2pError (List UInt8) :=
  let msgType := message.wireType
  if ¬ version.isValidMessageType msgType then
    .error (.protocol ("Message type " ++ message.messageType ++
      " is not supported by protocol " ++ version.display))
  else do
    let payload ← (codec.toVec message).mapError fun reason ↦
      P2pError.protocol ("Failed to serialize message: " ++ reason)
    .ok (codec.encodeToVec ⟨msgType, payload, version.asU32⟩)

/-- `GossipMessage::encode_wire`. -/
def encodeWire (codec : WireCodec) (message : GossipMessage) : Except P2pError (List UInt8) :=
  codec.encodeWireWithVersion message .current

/-- The part that the two decoders share: the frame is decoded and checked, and its version and
payload are handed on. -/
def openFrame (codec : WireCodec) (bytes : List UInt8) :
    Except P2pError (ProtocolVersion × List UInt8) := do
  let wireMsg ← (codec.decode bytes).mapError fun reason ↦
    P2pError.protocol ("Failed to decode wire message: " ++ reason)
  let version ← ProtocolVersion.fromU32 wireMsg.version
  if ¬ ProtocolVersion.current.isCompatibleWith version then
    .error (.protocol ("Protocol version " ++ version.display ++
      " is not compatible with current version " ++ ProtocolVersion.current.display))
  else if ¬ version.isValidMessageType wireMsg.msgType then
    .error (.protocol ("Unknown message type " ++ toString wireMsg.msgType ++
      " for protocol version " ++ version.display ++ " (supported: " ++
      version.supportedMessageTypes ++ ")"))
  else .ok (version, wireMsg.payload)

/-- The message of a payload. -/
def readPayload (codec : WireCodec) (payload : List UInt8) : Except P2pError GossipMessage :=
  (codec.fromSlice payload).mapError fun reason ↦
    P2pError.protocol ("Failed to deserialize message: " ++ reason)

/-- `GossipMessage::decode_wire`. -/
def decodeWire (codec : WireCodec) (bytes : List UInt8) : Except P2pError GossipMessage := do
  let (_, payload) ← codec.openFrame bytes
  codec.readPayload payload

/-- `GossipMessage::decode_wire_with_version`. -/
def decodeWireWithVersion (codec : WireCodec) (bytes : List UInt8) :
    Except P2pError (GossipMessage × ProtocolVersion) := do
  let (version, payload) ← codec.openFrame bytes
  let message ← codec.readPayload payload
  .ok (message, version)

section Decoding

variable {codec : WireCodec} {bytes payload : List UInt8} {version : ProtocolVersion}
  {message : GossipMessage}

/-- A frame passes the checks when its version is one and its number is known. -/
theorem openFrame_eq_ok_iff :
    codec.openFrame bytes = .ok (version, payload) ↔ ∃ wireMsg, codec.decode bytes = .ok wireMsg ∧
      wireMsg.version = 1 ∧ version.isValidMessageType wireMsg.msgType = true ∧
        wireMsg.payload = payload := by
  rw [openFrame, bind_eq_ok_iff]
  refine exists_congr fun wireMsg ↦ and_congr mapError_eq_ok_iff ?_
  rw [bind_eq_ok_iff]
  constructor
  · rintro ⟨found, hversion, hchecks⟩
    rw [check_eq_ok_iff, check_eq_ok_iff, not_not, not_not] at hchecks
    obtain ⟨-, hvalid, hfound⟩ := hchecks
    cases hfound
    exact ⟨ProtocolVersion.fromU32_eq_ok_iff.mp hversion, hvalid, rfl⟩
  · rintro ⟨hversion, hvalid, rfl⟩
    refine ⟨version, ProtocolVersion.fromU32_eq_ok_iff.mpr hversion, ?_⟩
    rw [check_eq_ok_iff, check_eq_ok_iff, not_not, not_not]
    exact ⟨ProtocolVersion.isCompatibleWith_current version, hvalid, rfl⟩

/-- What is decoded: the message in the payload of a frame that passes the checks. -/
theorem decodeWire_eq_ok_iff :
    codec.decodeWire bytes = .ok message ↔ ∃ wireMsg, codec.decode bytes = .ok wireMsg ∧
      wireMsg.version = 1 ∧ ProtocolVersion.v1.isValidMessageType wireMsg.msgType = true ∧
        codec.fromSlice wireMsg.payload = .ok message := by
  rw [decodeWire, bind_eq_ok_iff]
  constructor
  · rintro ⟨⟨version, payload⟩, hopen, hread⟩
    obtain ⟨wireMsg, hdecode, hversion, hvalid, rfl⟩ := openFrame_eq_ok_iff.mp hopen
    cases version with
    | v1 => exact ⟨wireMsg, hdecode, hversion, hvalid, mapError_eq_ok_iff.mp hread⟩
  · rintro ⟨wireMsg, hdecode, hversion, hvalid, hread⟩
    have hopen : codec.openFrame bytes = .ok (.v1, wireMsg.payload) :=
      openFrame_eq_ok_iff.mpr ⟨wireMsg, hdecode, hversion, hvalid, rfl⟩
    exact ⟨_, hopen, mapError_eq_ok_iff.mpr hread⟩

/-- The two decoders agree on all bytes, and the version is the first. -/
theorem decodeWireWithVersion_eq (codec : WireCodec) (bytes : List UInt8) :
    codec.decodeWireWithVersion bytes =
      (codec.decodeWire bytes).map fun message ↦ (message, ProtocolVersion.v1) := by
  unfold decodeWireWithVersion decodeWire
  cases codec.openFrame bytes with
  | error reason => rfl
  | ok opened =>
    obtain ⟨version, payload⟩ := opened
    cases version with
    | v1 =>
      rw [ok_bind, ok_bind]
      dsimp only
      cases codec.readPayload payload with
      | error reason => rfl
      | ok message => rfl

end Decoding

/-! ### The two kinds of a frame -/

/-- The codecs are inverses for the message: its text is read back, and so is the frame that
carries the text. -/
def Inverts (codec : WireCodec) (message : GossipMessage) : Prop :=
  ∃ payload, codec.toVec message = .ok payload ∧ codec.fromSlice payload = .ok message ∧
    codec.decode (codec.encodeToVec ⟨message.wireType, payload, 1⟩) =
      .ok ⟨message.wireType, payload, 1⟩

/-- The message is encoded, and both decoders read it back, with the first version. -/
def RoundTrips (codec : WireCodec) (message : GossipMessage) : Prop :=
  ∃ bytes, codec.encodeWire message = .ok bytes ∧ codec.decodeWire bytes = .ok message ∧
    codec.decodeWireWithVersion bytes = .ok (message, .v1)

/-- When the bytes are accepted, they are a frame of version one whose number is that of the message
returned. -/
def WellLabelled (codec : WireCodec) (bytes : List UInt8) : Prop :=
  ∀ message, codec.decodeWire bytes = .ok message → ∃ wireMsg, codec.decode bytes = .ok wireMsg ∧
    wireMsg.version = 1 ∧ wireMsg.msgType = message.wireType

/-- The bytes are a frame of version one with a known number, and its payload is the text of a
message of another kind. -/
def Mislabelled (codec : WireCodec) (bytes : List UInt8) : Prop :=
  ∃ wireMsg message, codec.decode bytes = .ok wireMsg ∧ wireMsg.version = 1 ∧
    ProtocolVersion.v1.isValidMessageType wireMsg.msgType = true ∧
      codec.fromSlice wireMsg.payload = .ok message ∧ wireMsg.msgType ≠ message.wireType

/-- What the encoder writes is read back. -/
theorem roundTrips_of_inverts {codec : WireCodec} {message : GossipMessage}
    (hinverts : codec.Inverts message) : codec.RoundTrips message := by
  obtain ⟨payload, hwritten, hread, hframe⟩ := hinverts
  have hvalid := message.isValidMessageType_wireType
  have hencode : codec.encodeWire message =
      .ok (codec.encodeToVec ⟨message.wireType, payload, 1⟩) := by
    unfold encodeWire encodeWireWithVersion
    dsimp only
    rw [check_eq_ok_iff, not_not, bind_eq_ok_iff]
    exact ⟨hvalid _, payload, mapError_eq_ok_iff.mpr hwritten, rfl⟩
  have hdecode := decodeWire_eq_ok_iff.mpr ⟨_, hframe, rfl, hvalid _, hread⟩
  refine ⟨_, hencode, hdecode, ?_⟩
  rw [decodeWireWithVersion_eq, hdecode]
  rfl

/-- Accepted bytes are well labelled unless they are mislabelled. -/
theorem wellLabelled_iff {codec : WireCodec} {bytes : List UInt8} :
    codec.WellLabelled bytes ↔ ¬ codec.Mislabelled bytes := by
  constructor
  · rintro hlabelled ⟨wireMsg, message, hdecode, hversion, hvalid, hread, hother⟩
    obtain ⟨found, hfound, -, hsame⟩ :=
      hlabelled message (decodeWire_eq_ok_iff.mpr ⟨wireMsg, hdecode, hversion, hvalid, hread⟩)
    obtain rfl := Except.ok.inj (hdecode.symm.trans hfound)
    exact hother hsame
  · intro hlabelled message haccepted
    obtain ⟨wireMsg, hdecode, hversion, hvalid, hread⟩ := decodeWire_eq_ok_iff.mp haccepted
    refine ⟨wireMsg, hdecode, hversion, by_contra fun hother ↦ hlabelled ?_⟩
    exact ⟨wireMsg, message, hdecode, hversion, hvalid, hread, hother⟩

/-- A message for which the codecs are inverses is read back by both decoders. All bytes are decoded
alike by the two, and an accepted frame is of version one with the number of the message that is
returned, exactly unless it is mislabelled. -/
theorem wire_exact_iff (codec : WireCodec) (message : GossipMessage)
    (hinverts : codec.Inverts message) :
    codec.RoundTrips message ∧ ∀ bytes,
      codec.decodeWireWithVersion bytes =
          (codec.decodeWire bytes).map (fun decoded ↦ (decoded, ProtocolVersion.v1)) ∧
        (codec.WellLabelled bytes ↔ ¬ codec.Mislabelled bytes) :=
  ⟨roundTrips_of_inverts hinverts, fun bytes ↦
    ⟨decodeWireWithVersion_eq codec bytes, wellLabelled_iff⟩⟩

/-! ### A heartbeat on the wire -/

/-- A heartbeat at time zero. -/
def exampleHeartbeat : GossipMessage := .heartbeat (PeerId.ofByte 0) 0

/-- The bytes of an ASCII text. -/
def asciiBytes (text : String) : List UInt8 := text.toList.map fun character ↦
  character.toNat.toUInt8

/-- The text of the heartbeat. -/
def heartbeatJson : List UInt8 :=
  asciiBytes "\x7b\"Heartbeat\":\x7b\"from_peer\":\x7b\"bytes\":[0" ++
    (List.replicate 31 (asciiBytes ",0")).flatten ++ asciiBytes "]\x7d,\"timestamp_ms\":0\x7d\x7d"

/-- The frame with the text of the heartbeat and some number below 128. -/
def heartbeatFrame (msgType : UInt32) : List UInt8 :=
  [8, msgType.toUInt8, 18, heartbeatJson.length.toUInt8] ++ heartbeatJson ++ [24, 1]

/-- The codecs on frames with the heartbeat. -/
def heartbeatCodec : WireCodec where
  encodeToVec := fun wireMsg ↦
    [8, wireMsg.msgType.toUInt8, 18, wireMsg.payload.length.toUInt8] ++ wireMsg.payload ++
      [24, wireMsg.version.toUInt8]
  decode := fun bytes ↦
    match [1, 2, 3, 4, 5, 6].find? fun msgType ↦ heartbeatFrame msgType = bytes with
    | some msgType => .ok ⟨msgType, heartbeatJson, 1⟩
    | none => .error "failed to decode Protobuf message: buffer underflow"
  toVec := fun message ↦
    if message = exampleHeartbeat then .ok heartbeatJson else .error "recursion limit exceeded"
  fromSlice := fun bytes ↦
    if bytes = heartbeatJson then .ok exampleHeartbeat
    else .error "EOF while parsing a value at line 1 column 0"

/-- The frame of a number that the codec knows is decoded. -/
theorem decode_heartbeatFrame {msgType : UInt32} (hknown : msgType = 1 ∨ msgType = 4) :
    heartbeatCodec.decode (heartbeatFrame msgType) = .ok ⟨msgType, heartbeatJson, 1⟩ := by
  have hfound : [1, 2, 3, 4, 5, 6].find? (fun other ↦ heartbeatFrame other =
      heartbeatFrame msgType) = some msgType := by
    rcases hknown with rfl | rfl
    · decide +kernel
    · decide +kernel
  unfold heartbeatCodec
  dsimp only
  rw [hfound]

/-- The text of the heartbeat is read back. -/
theorem fromSlice_heartbeatJson :
    heartbeatCodec.fromSlice heartbeatJson = .ok exampleHeartbeat := by
  unfold heartbeatCodec
  dsimp only
  exact if_pos rfl

/-- The codecs are inverses for the heartbeat. -/
theorem inverts_exampleHeartbeat : heartbeatCodec.Inverts exampleHeartbeat := by
  have hwritten : heartbeatCodec.toVec exampleHeartbeat = .ok heartbeatJson := by
    unfold heartbeatCodec
    dsimp only
    exact if_pos rfl
  have hframe : heartbeatCodec.encodeToVec ⟨exampleHeartbeat.wireType, heartbeatJson, 1⟩ =
      heartbeatFrame WireTypes.heartbeat := by decide +kernel
  refine ⟨heartbeatJson, hwritten, fromSlice_heartbeatJson, ?_⟩
  rw [hframe]
  exact decode_heartbeatFrame (.inr rfl)

/-- The heartbeat is read back. -/
theorem wire_exact_iff_exampleHeartbeat :
    heartbeatCodec.RoundTrips exampleHeartbeat ∧ ∀ bytes,
      heartbeatCodec.decodeWireWithVersion bytes =
          (heartbeatCodec.decodeWire bytes).map (fun decoded ↦ (decoded, ProtocolVersion.v1)) ∧
        (heartbeatCodec.WellLabelled bytes ↔ ¬ heartbeatCodec.Mislabelled bytes) :=
  wire_exact_iff heartbeatCodec exampleHeartbeat inverts_exampleHeartbeat

/-- The same text in a frame with the number of announcements is accepted as the heartbeat. -/
theorem heartbeat_labelled_announce :
    heartbeatCodec.decodeWire (heartbeatFrame WireTypes.announce) = .ok exampleHeartbeat ∧
      exampleHeartbeat.wireType = WireTypes.heartbeat ∧
      ¬ heartbeatCodec.WellLabelled (heartbeatFrame WireTypes.announce) := by
  have hdecode : heartbeatCodec.decode (heartbeatFrame WireTypes.announce) =
      .ok ⟨WireTypes.announce, heartbeatJson, 1⟩ := decode_heartbeatFrame (.inl rfl)
  have hread := fromSlice_heartbeatJson
  refine ⟨decodeWire_eq_ok_iff.mpr ⟨_, hdecode, rfl, rfl, hread⟩, rfl, ?_⟩
  rw [wellLabelled_iff, not_not]
  exact ⟨_, exampleHeartbeat, hdecode, rfl, rfl, hread, by decide⟩

end WireCodec

end Clawbernetes.MoltP2p
