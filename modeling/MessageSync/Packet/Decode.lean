import MessageSync.Error
import MessageSync.Cbor.Read

/-!
# Reading packets

A packet is one item at the front of a byte string; what follows it is ignored. Its size
is checked first, then its form, then its limits.
-/

namespace MessageSync

open Cbor.Read

/-! ## Fields -/

/-- How deep an unknown field of a packet's content may nest: the form and its record
are the two levels above it. -/
def Packet.fieldLevels : Nat := deepest - 2

/-- How deep an unknown field of a group may nest: the form, its record, the array of
groups and the group are above it. -/
def Packet.groupLevels : Nat := deepest - 4

/-- Reads a record of a single field. -/
def readOne {α : Type} (field : String) (value : Reader α) : Reader α := do
  let found ← record Packet.fieldLevels (fun name (found : Option α) =>
    if name = utf8 field then some (once found value some) else none) none
  match found with
  | some a => return a
  | none => failure

/-- Reads a record of two fields, in any order; `levels` bounds unknown ones. -/
def readTwo {α β : Type} (levels : Nat) (first second : String) (value : Reader α)
    (value' : Reader β) : Reader (α × β) := do
  let found ← record levels (fun name (found : Option α × Option β) =>
    if name = utf8 first then some (once found.1 value fun a => (some a, found.2))
    else if name = utf8 second then some (once found.2 value' fun b => (found.1, some b))
    else none) (none, none)
  match found with
  | (some a, some b) => return (a, b)
  | _ => failure

/-! ## Contents -/

/-- Reads a nonce. -/
def Nonce.reader : Reader Nonce := fun input => do
  let (bytes, rest) ← fixedBytes Nonce.size input
  return (← Nonce.ofBytes? bytes, rest)

/-- Reads a group. -/
def Group.reader : Reader Group := do
  let (id, name) ← readTwo Packet.groupLevels "id" "name" ident string
  return ⟨id, name⟩

/-- Reads a batch. -/
def Batch.reader : Reader Batch := do
  let (nonce, messages) ←
    readTwo Packet.fieldLevels "nonce" "messages" Nonce.reader (sequenceOf bytes)
  return ⟨nonce, messages⟩

/-- Reads a request. -/
def Request.reader : Reader Request := do
  let (length, bitmap) ← readTwo Packet.fieldLevels "length" "bitmap" word32 bytes
  return ⟨length, bitmap⟩

/-- Reads a subscription update. -/
def SubscriptionUpdate.reader : Reader SubscriptionUpdate := do
  let (groups, timestamp) ←
    readTwo Packet.fieldLevels "groups" "timestamp" (sequenceOf Group.reader) int64
  return ⟨groups, timestamp⟩

/-- Reads a transport update. -/
def TransportUpdate.reader : Reader TransportUpdate := do
  let (properties, timestamp) ←
    readTwo Packet.fieldLevels "properties" "timestamp" textMap int64
  return ⟨properties, timestamp⟩

/-- The reader of the content of a packet of this kind. -/
def Packet.contentReader (kind : Bytes) : Option (Reader Packet) :=
  if kind = utf8 "Ack" then some do return .ack (← readOne "batches" (sequenceOf ident))
  else if kind = utf8 "Batch" then some do return .batch (← Batch.reader)
  else if kind = utf8 "Offer" then some do return .offer (← readOne "ids" (sequenceOf ident))
  else if kind = utf8 "Request" then some do return .request (← Request.reader)
  else if kind = utf8 "Subscriptions" then
    some do return .subscriptions (← SubscriptionUpdate.reader)
  else if kind = utf8 "Transports" then some do return .transports (← TransportUpdate.reader)
  else none

/-- Reads a packet of any size. -/
def Packet.reader : Reader Packet := variant Packet.contentReader

/-! ## Packets -/

/-- Reads a packet from the front of a byte string. -/
def Packet.decode (bytes : Bytes) : Except Violation Packet :=
  if Packet.longest < bytes.length then .error (.packetTooLong bytes.length)
  else
    match Packet.reader bytes with
    | none => .error .malformedPacket
    | some (packet, _) =>
      match packet.excess? with
      | some excess => .error (.excess excess)
      | none => .ok packet

end MessageSync
