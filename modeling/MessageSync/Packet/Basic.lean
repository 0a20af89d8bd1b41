import MessageSync.Packet.Request

/-!
# Packets

What contacts send each other: batches of messages and their acknowledgements, offers
and the requests that answer them, and the two kinds of gossip. Each kind but the batch
has a limit on how much it may list.
-/

namespace MessageSync

/-! ## Contents -/

/-- The number of bytes of a nonce. -/
def Nonce.size : Nat := 16

/-- Bytes that make each transmission of a batch a batch of its own. -/
@[ext]
structure Nonce where
  bytes : Bytes
  length_bytes : bytes.length = Nonce.size
deriving DecidableEq

/-- The nonce with these bytes, if there are sixteen. -/
def Nonce.ofBytes? (bytes : Bytes) : Option Nonce :=
  if h : bytes.length = Nonce.size then some ⟨bytes, h⟩ else none

/-- Raw messages sent together. -/
@[ext]
structure Batch where
  nonce : Nonce
  messages : List Bytes
deriving DecidableEq

/-- The groups a contact is subscribed to, and when that last changed. -/
@[ext]
structure SubscriptionUpdate where
  groups : List Group
  timestamp : Int64
deriving DecidableEq

/-- The transport properties of a contact, and when they last changed. -/
@[ext]
structure TransportUpdate where
  properties : Properties
  timestamp : Int64
deriving DecidableEq

/-- A packet of any kind. -/
inductive Packet where
  /-- The batches that were received in full. -/
  | ack (batches : List BatchId)
  | batch (batch : Batch)
  /-- The messages that could be sent, in the order of the flags of a request. -/
  | offer (ids : List MessageId)
  | request (request : Request)
  | subscriptions (update : SubscriptionUpdate)
  | transports (update : TransportUpdate)
deriving DecidableEq

/-! ## Limits -/

/-- The greatest encoded size of a packet. -/
def Packet.longest : Nat := 1024 * 1024

/-- The most batches in one ack. -/
def Packet.mostAcked : Nat := 1000

/-- The most messages in one offer. -/
def Packet.mostOffered : Nat := 1000

/-- The most groups in one update. -/
def Packet.mostGroups : Nat := 5000

/-- The most properties in one update. -/
def Packet.mostProperties : Nat := 100

/-- A limit that a packet goes beyond. -/
inductive Packet.Excess where
  | ackIds
  | offeredIds
  | requestBits
  /-- The bitmap of a request has not the size that its length asks for. -/
  | bitmapLength
  | groups
  | properties
deriving DecidableEq

/-- The wording of an excess. -/
def Packet.Excess.message : Packet.Excess → String
  | .ackIds => "too many ack IDs"
  | .offeredIds => "too many offered IDs"
  | .requestBits => "too many request bits"
  | .bitmapLength => "request bitmap length does not match bit count"
  | .groups => "too many groups"
  | .properties => "too many transport properties"

/-- The first limit that a packet goes beyond, if any. -/
def Packet.excess? : Packet → Option Packet.Excess
  | .ack batches => if mostAcked < batches.length then some .ackIds else none
  | .batch _ => none
  | .offer ids => if mostOffered < ids.length then some .offeredIds else none
  | .request r =>
    if mostOffered < r.size then some .requestBits
    else if r.bitmap.length ≠ Request.bytesFor r.size then some .bitmapLength
    else none
  | .subscriptions u => if mostGroups < u.groups.length then some .groups else none
  | .transports u => if mostProperties < u.properties.size then some .properties else none

end MessageSync
