import MessageSync.Packet.Basic
import MessageSync.Cbor.Write

/-!
# Writing packets

Every packet has one encoding. The address of a batch is the hash of the pair of its
nonce and its messages, which is not the encoding of the packet.
-/

namespace MessageSync

open Cbor.Write

/-- The encoding of a group. -/
def Group.encode (g : Group) : Bytes :=
  record [("id", ident g.id), ("name", text g.name)]

/-- The encoding of transport properties. -/
def encodeProperties (properties : Properties) : Bytes := textMap properties.toList

/-- The encoding of a batch. -/
def Batch.encode (b : Batch) : Bytes :=
  record [("nonce", byteArray b.nonce.bytes), ("messages", array byteString b.messages)]

/-- The encoding of a request. -/
def Request.encode (r : Request) : Bytes :=
  record [("length", number r.length.toNat), ("bitmap", byteArray r.bitmap)]

/-- The encoding of a subscription update. -/
def SubscriptionUpdate.encode (u : SubscriptionUpdate) : Bytes :=
  record [("groups", array Group.encode u.groups), ("timestamp", integer u.timestamp.toInt)]

/-- The encoding of a transport update. -/
def TransportUpdate.encode (u : TransportUpdate) : Bytes :=
  record [("properties", encodeProperties u.properties), ("timestamp", integer u.timestamp.toInt)]

/-- The encoding of a packet. -/
def Packet.encode : Packet → Bytes
  | .ack batches => variant "Ack" (record [("batches", array ident batches)])
  | .batch b => variant "Batch" b.encode
  | .offer ids => variant "Offer" (record [("ids", array ident ids)])
  | .request r => variant "Request" r.encode
  | .subscriptions u => variant "Subscriptions" u.encode
  | .transports u => variant "Transports" u.encode

/-! ## Batch addresses -/

/-- What the address of a batch is computed from: the pair of its nonce and its messages. -/
def Batch.body (b : Batch) : Bytes :=
  head 4 2 ++ byteArray b.nonce.bytes ++ array byteString b.messages

/-- The address of a batch. -/
def Batch.id (b : Batch) : BatchId := .ofBody b.body

end MessageSync
