import MessageSync.Config
import MessageSync.Json.Text
import MessageSync.Packet.Basic
import MessageSync.Secret

/-!
# The JSON forms of domain values

Each type has a form that it is written in, and a reader. A record is written as an
object of its fields. It is read from an object, whose fields may come in any order and
among unknown ones, or from an array of its fields in order. Identifiers and bytes are
arrays of numbers. Numbers must be written as integers and lie in range.
-/

namespace MessageSync.Json

/-! ## Plain values -/

/-- An integer from `low` up to, but not including, `high`. -/
def intIn (low high : Int) : Value → Option Int
  | .int i => if low ≤ i ∧ i < high then some i else none
  | _ => none

/-- An integer from zero up to, but not including, `bound`. -/
def natural (bound : Nat) (v : Value) : Option Nat := (intIn 0 bound v).map Int.toNat

/-- A byte. -/
def byte (v : Value) : Option UInt8 := (natural UInt8.size v).map UInt8.ofNat

/-- A signed number of 64 bits. -/
def int64 (v : Value) : Option Int64 :=
  (intIn Int64.minValue.toInt (Int64.maxValue.toInt + 1) v).map Int64.ofInt

/-- A truth value. -/
def bool : Value → Option Bool
  | .bool b => some b
  | _ => none

/-- A text. -/
def text : Value → Option String
  | .string chars => chars.text?
  | _ => none

/-- An array of values of one form. -/
def list {α : Type} (item : Value → Option α) : Value → Option (List α)
  | .array items _ => items.mapM item
  | _ => none

/-- Bytes as an array of numbers. -/
def byteList (v : Value) : Option Bytes := list byte v

/-- Bytes as an array of numbers or as a string. -/
def byteString : Value → Option Bytes
  | .string chars => some chars.bytes
  | v => byteList v

/-- An identifier. -/
def ident {kind : IdKind} (v : Value) : Option (Id kind) := (byteList v).bind Id.ofBytes?

/-- A value or null. -/
def option {α : Type} (value : Value → Option α) : Value → Option (Option α)
  | .null => some none
  | v => (value v).map some

/-- The value of a name in a list of them, written as a string or as an object from the
name to null. -/
def named {α : Type} (ofName : String → Option α) : Value → Option α
  | .string chars => chars.text?.bind ofName
  | .object [(key, .null)] _ => key.text?.bind ofName
  | _ => none

/-- A map from texts to texts; the last value of a key stays. -/
def properties : Value → Option Properties
  | .object members _ =>
    members.foldlM (fun table (key, v) => do return table.insert (← key.text?) (← text v)) ∅
  | _ => none

/-! ## Records -/

/-- The fields of an object: known ones at most once, and unknown ones of any clean value. -/
def gather (names : List String) : List (Chars × Value) → List (String × Value) →
    Option (List (String × Value))
  | [], found => some found
  | (key, v) :: rest, found =>
    match key.text? with
    | none => none
    | some name =>
      if name ∈ names then
        -- a repeated field is refused, whatever its value is
        if found.any (·.1 = name) then none else gather names rest ((name, v) :: found)
      else if v.clean then gather names rest found
      else none

/-- The fields of a record of these names. An array gives the first ones in order. -/
def fields (names : List String) : Value → Option (List (String × Value))
  | .object members _ => gather names members []
  | .array items _ => if items.length ≤ names.length then some (names.zip items) else none
  | _ => none

/-- The fields of a record none of whose trailing fields may be missing from an array. -/
def wholeFields (names : List String) (v : Value) : Option (List (String × Value)) :=
  match v with
  | .array items _ => if items.length = names.length then fields names v else none
  | v => fields names v

/-- A field that must be there. -/
def required {α : Type} (found : List (String × Value)) (name : String)
    (value : Value → Option α) : Option α :=
  (found.lookup name).bind value

/-- A field with a default. -/
def orDefault {α : Type} (found : List (String × Value)) (name : String) (fallback : α)
    (value : Value → Option α) : Option α :=
  match found.lookup name with
  | none => some fallback
  | some v => value v

/-! ## Domain values -/

/-- Reads a group. -/
def group (v : Value) : Option Group := do
  let f ← wholeFields ["id", "name"] v
  return ⟨← required f "id" ident, ← required f "name" text⟩

/-- Reads a message. A missing author is no author. -/
def message (v : Value) : Option Message := do
  let f ← wholeFields ["id", "group", "author", "timestamp", "raw"] v
  return {
    id := ← required f "id" ident
    group := ← required f "group" ident
    author := ← orDefault f "author" none (option ident)
    timestamp := ← required f "timestamp" int64
    raw := ← required f "raw" byteString }

/-- Reads a rating. -/
def rating (v : Value) : Option Rating := named Rating.ofName? v

/-- Reads a status. -/
def status (v : Value) : Option Status := named Status.ofName? v

/-- Reads the state of a message with respect to a contact. -/
def messageStatus (v : Value) : Option MessageStatus := do
  let f ← wholeFields ["contact", "message", "status", "sendable"] v
  return ⟨⟨← required f "contact" (natural UInt32.size)⟩, ← required f "message" ident,
    ⟨← required f "status" status, ← required f "sendable" bool⟩⟩

/-- Reads a window. -/
def window (v : Value) : Option Window := do
  let f ← wholeFields ["centre", "bitmap"] v
  let centre ← required f "centre" (natural UInt64.size)
  Window.ofParts? (UInt64.ofNat centre) (← required f "bitmap" byteList)

/-- Reads a secret. -/
def secret (v : Value) : Option Secret := do
  let f ← wholeFields ["contact", "transport", "epoch", "clock_diff", "latency", "alice",
    "period", "secret", "outgoing", "window"] v
  return {
    contact := ⟨← required f "contact" (natural UInt32.size)⟩
    transport := ⟨← required f "transport" (natural UInt32.size)⟩
    epoch := ← required f "epoch" int64
    clockDiff := ← required f "clock_diff" int64
    latency := ← required f "latency" int64
    alice := ← required f "alice" bool
    period := UInt64.ofNat (← required f "period" (natural UInt64.size))
    bytes := ← required f "secret" byteList
    outgoing := UInt64.ofNat (← required f "outgoing" (natural UInt64.size))
    window := ← required f "window" window }

/-- Reads the content of a packet of this kind. Limits are not checked. -/
def packetContent (kind : String) (v : Value) : Option Packet :=
  if kind = "Ack" then do
    let f ← wholeFields ["batches"] v
    return .ack (← required f "batches" (list ident))
  else if kind = "Batch" then do
    let f ← wholeFields ["nonce", "messages"] v
    let nonce ← Nonce.ofBytes? (← required f "nonce" byteList)
    return .batch ⟨nonce, ← required f "messages" (list byteString)⟩
  else if kind = "Offer" then do
    let f ← wholeFields ["ids"] v
    return .offer (← required f "ids" (list ident))
  else if kind = "Request" then do
    let f ← wholeFields ["length", "bitmap"] v
    let length ← required f "length" (natural UInt32.size)
    return .request ⟨UInt32.ofNat length, ← required f "bitmap" byteList⟩
  else if kind = "Subscriptions" then do
    let f ← wholeFields ["groups", "timestamp"] v
    return .subscriptions ⟨← required f "groups" (list group), ← required f "timestamp" int64⟩
  else if kind = "Transports" then do
    let f ← wholeFields ["properties", "timestamp"] v
    return .transports ⟨← required f "properties" properties, ← required f "timestamp" int64⟩
  else none

/-- Reads a packet: an object from its kind to its content. -/
def packet : Value → Option Packet
  | .object [(key, v)] _ => key.text?.bind fun kind => packetContent kind v
  | _ => none

/-! ## Configurations -/

/-- Reads the configuration of the engine; every field has a default. -/
def syncConfig (v : Value) : Option SyncConfig := do
  let f ← fields ["retransmit_after", "max_offer_ids", "max_ack_ids"] v
  let base : SyncConfig := {}
  return ⟨← orDefault f "retransmit_after" base.retransmitAfter (natural UInt64.size),
    ← orDefault f "max_offer_ids" base.maxOfferIds (natural UInt64.size),
    ← orDefault f "max_ack_ids" base.maxAckIds (natural UInt64.size)⟩

/-- Reads the configuration of the cleaner; every field has a default. -/
def cleanerConfig (v : Value) : Option CleanerConfig := do
  let f ← fields ["interval", "max_stored_bytes", "target_free_bytes"] v
  let base : CleanerConfig := {}
  return ⟨← orDefault f "interval" base.interval (natural UInt64.size),
    ← orDefault f "max_stored_bytes" base.maxStoredBytes (natural UInt64.size),
    ← orDefault f "target_free_bytes" base.targetFreeBytes (natural UInt64.size)⟩

/-- Reads the configuration of a node; both parts have a default. -/
def nodeConfig (v : Value) : Option NodeConfig := do
  let f ← fields ["sync", "cleaner"] v
  return ⟨← orDefault f "sync" {} syncConfig, ← orDefault f "cleaner" {} cleanerConfig⟩

/-! ## Writing -/

/-- An object of fields whose names have no characters to escape. -/
def ofFields (fields : List (String × Value)) : Value :=
  .object (fields.map fun f => (⟨f.1.toList.map Char.toNat, true⟩, f.2)) true

/-- A text. -/
def ofText (s : String) : Value := .string ⟨s.toList.map Char.toNat, true⟩

/-- A natural number. -/
def ofNat (n : Nat) : Value := .int n

/-- An array. -/
def ofList {α : Type} (item : α → Value) (items : List α) : Value := .array (items.map item) true

/-- Bytes as an array of numbers. -/
def ofBytes (bytes : Bytes) : Value := ofList (fun b => ofNat b.toNat) bytes

/-- An identifier. -/
def ofIdent {kind : IdKind} (id : Id kind) : Value := ofBytes id.bytes

/-- Transport properties. -/
def ofProperties (p : Properties) : Value :=
  ofFields (p.toList.map fun e => (e.1, ofText e.2))

/-- Writes a group. -/
def ofGroup (g : Group) : Value := ofFields [("id", ofIdent g.id), ("name", ofText g.name)]

/-- Writes a message. -/
def ofMessage (m : Message) : Value :=
  ofFields [("id", ofIdent m.id), ("group", ofIdent m.group),
    ("author", match m.author with
      | some a => ofIdent a
      | none => .null),
    ("timestamp", .int m.timestamp.toInt), ("raw", ofBytes m.raw)]

/-- Writes the state of a message with respect to a contact. -/
def ofMessageStatus (s : MessageStatus) : Value :=
  ofFields [("contact", ofNat s.contact.number), ("message", ofIdent s.message),
    ("status", ofText s.delivery.status.name), ("sendable", .bool s.delivery.sendable)]

/-- Writes a window. -/
def ofWindow (w : Window) : Value :=
  ofFields [("centre", ofNat w.centre.toNat), ("bitmap", ofBytes w.bitmapBytes)]

/-- Writes a secret. -/
def ofSecret (s : Secret) : Value :=
  ofFields [("contact", ofNat s.contact.number), ("transport", ofNat s.transport.number),
    ("epoch", .int s.epoch.toInt), ("clock_diff", .int s.clockDiff.toInt),
    ("latency", .int s.latency.toInt), ("alice", .bool s.alice),
    ("period", ofNat s.period.toNat), ("secret", ofBytes s.bytes),
    ("outgoing", ofNat s.outgoing.toNat), ("window", ofWindow s.window)]

/-- Writes a request. -/
def ofRequest (r : Request) : Value :=
  ofFields [("length", ofNat r.length.toNat), ("bitmap", ofBytes r.bitmap)]

/-- Writes a packet. -/
def ofPacket : Packet → Value
  | .ack batches => ofFields [("Ack", ofFields [("batches", ofList ofIdent batches)])]
  | .batch b => ofFields [("Batch", ofFields [("nonce", ofBytes b.nonce.bytes),
      ("messages", ofList ofBytes b.messages)])]
  | .offer ids => ofFields [("Offer", ofFields [("ids", ofList ofIdent ids)])]
  | .request r => ofFields [("Request", ofRequest r)]
  | .subscriptions u => ofFields [("Subscriptions", ofFields [("groups", ofList ofGroup u.groups),
      ("timestamp", .int u.timestamp.toInt)])]
  | .transports u => ofFields [("Transports", ofFields [("properties", ofProperties u.properties),
      ("timestamp", .int u.timestamp.toInt)])]

/-- Writes the configuration of the engine. -/
def ofSyncConfig (c : SyncConfig) : Value :=
  ofFields [("retransmit_after", ofNat c.retransmitAfter), ("max_offer_ids", ofNat c.maxOfferIds),
    ("max_ack_ids", ofNat c.maxAckIds)]

/-- Writes the configuration of the cleaner. -/
def ofCleanerConfig (c : CleanerConfig) : Value :=
  ofFields [("interval", ofNat c.interval), ("max_stored_bytes", ofNat c.maxStoredBytes),
    ("target_free_bytes", ofNat c.targetFreeBytes)]

/-- Writes the configuration of a node. -/
def ofNodeConfig (c : NodeConfig) : Value :=
  ofFields [("sync", ofSyncConfig c.sync), ("cleaner", ofCleanerConfig c.cleaner)]

end MessageSync.Json

/-- Reads the configuration of a node from a text. -/
def MessageSync.NodeConfig.ofJson? (text : String) : Option MessageSync.NodeConfig :=
  (MessageSync.Json.parse text).bind MessageSync.Json.nodeConfig
