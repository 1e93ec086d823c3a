import Clawbernetes.MoltP2p.Announcement

/-!
# The messages of the gossip protocol

`gossip/message.rs`, without the wire format. A message id is 16 random bytes, drawn by the caller
of the model's constructors. Announcements and queries carry the number of hops that remain to them
(`ttlHops?`).
-/

set_option autoImplicit false
set_option relaxedAutoImplicit false

namespace Clawbernetes.MoltP2p

open Library.Bytes

/-- `MessageId`: 16 bytes. -/
@[ext] structure MessageId where
  bytes : List UInt8
  length_bytes : bytes.length = 16

/-- Identifiers are compared by their bytes. -/
instance : DecidableEq MessageId := fun first second ↦
  decidable_of_iff (first.bytes = second.bytes) MessageId.ext_iff.symm

/-- The id of sixteen equal bytes. -/
def MessageId.ofByte (byte : UInt8) : MessageId :=
  ⟨List.replicate 16 byte, length_replicate_16 byte⟩

/-- `QueryFilter`. -/
structure QueryFilter where
  gpuModel : Option String
  minVramGb : Option UInt32
  jobType : Option String
  maxGpuHourCents : Option UInt64
  deriving DecidableEq

/-- `QueryFilter::any`: no restriction. -/
def QueryFilter.any : QueryFilter := ⟨none, none, none, none⟩

/-- `GossipQuery`. -/
structure GossipQuery where
  queryId : MessageId
  fromPeer : PeerId
  filter : QueryFilter
  maxResults : UInt32
  ttlHops : UInt8
  deriving DecidableEq

/-- `GossipQuery::new`, with the random id as an argument. -/
def GossipQuery.new (queryId : MessageId) (fromPeer : PeerId) (filter : QueryFilter)
    (maxResults : UInt32) (ttlHops : UInt8) : GossipQuery where
  queryId := queryId
  fromPeer := fromPeer
  filter := filter
  maxResults := maxResults
  ttlHops := ttlHops

/-- `GossipMessage`. -/
inductive GossipMessage where
  | announce (messageId : MessageId) (announcement : CapacityAnnouncement) (ttlHops : UInt8)
  | query (gossipQuery : GossipQuery)
  | response (queryId : MessageId) (fromPeer : PeerId) (announcements : List CapacityAnnouncement)
  | heartbeat (fromPeer : PeerId) (timestampMs : UInt64)
  | syncRequest (fromPeer : PeerId) (sinceTimestamp : Int64)
  | syncResponse (announcements : List CapacityAnnouncement)
  deriving DecidableEq

namespace GossipMessage

/-- `GossipMessage::message_id`. -/
def messageId : GossipMessage → Option MessageId
  | announce messageId _ _ => some messageId
  | query gossipQuery => some gossipQuery.queryId
  | response queryId _ _ => some queryId
  | heartbeat _ _ => none
  | syncRequest _ _ => none
  | syncResponse _ => none

/-- The hops that remain to a message that is broadcast. -/
def ttlHops? : GossipMessage → Option ℕ
  | announce _ _ ttlHops => some ttlHops.toNat
  | query gossipQuery => some gossipQuery.ttlHops.toNat
  | _ => none

end GossipMessage

end Clawbernetes.MoltP2p
