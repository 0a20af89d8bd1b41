import MessageSync.Event
import MessageSync.Json.Form
import MessageSync.Packet.Encode
import MessageSync.Store.Snapshot

/-!
# Reports

The JSON forms in which people are told what a node did and what it holds. Unlike in the
forms of values that are read back, identifiers and bytes are hexadecimal texts here.
What is too long to read is cut down: many bytes to their number and their address as a
message, and many items to their number.
-/

namespace MessageSync.Json.Report

/-! ## Plain values -/

/-- The most bytes that are shown. -/
def mostBytes : Nat := 1024

/-- The most items that are shown. -/
def mostItems : Nat := 50

/-- An identifier. -/
def ident {kind : IdKind} (id : Id kind) : Value := ofText id.toHex

/-- Bytes. -/
def bytes (b : Bytes) : Value :=
  if b.length ≤ mostBytes then ofText (Hex.encode b)
  else ofFields [("len", ofNat b.length), ("digest", ident (MessageId.ofRaw b))]

/-- Something that may be missing. -/
def optional {α : Type} (value : α → Value) (a : Option α) : Value := (a.map value).getD .null

/-- A list, by its length if it is long. -/
def brief {α : Type} (item : α → Value) (items : List α) : Value :=
  if mostItems < items.length then ofFields [("count", ofNat items.length)]
  else ofList item items

/-- A time or a span of time. -/
def time (t : Int64) : Value := .int t.toInt

/-- A contact. -/
def contact (c : ContactId) : Value := ofNat c.number

/-- A word. -/
def word (n : UInt64) : Value := ofNat n.toNat

/-! ## Domain values -/

/-- A group. -/
def group (g : Group) : Value := ofFields [("id", ident g.id), ("name", ofText g.name)]

/-- A rating. -/
def rating (r : Rating) : Value := ofText r.name

/-- What a rating means for the messages of an author, or for anonymous ones. -/
def ratingInFull (author : Option AuthorId) (r : Rating) : Value :=
  ofFields [("name", rating r), ("u8", ofNat r.toNat), ("good", .bool r.isGood),
    ("sendable", .bool (isSendable author r))]

/-- What a status means; a message of this status is eligible or not, first if it may not be
sent and then if it may. -/
def statusInFull (s : Status) : Value :=
  ofFields [("name", ofText s.name), ("u8", ofNat s.toNat),
    ("seen", .bool (Delivery.mk s true).isSeen),
    ("eligible", ofList (fun sendable => .bool (Delivery.mk s sendable).eligible) [false, true])]

/-- The fields of a window. -/
def window (w : Window) : List (String × Value) :=
  [("centre", word w.centre), ("bitmap", bytes w.bitmapBytes)]

/-- A secret. -/
def secret (s : Secret) : Value :=
  ofFields [("c", contact s.contact), ("t", ofNat s.transport.number), ("epoch", time s.epoch),
    ("clock_diff", time s.clockDiff), ("latency", time s.latency), ("alice", .bool s.alice),
    ("period", word s.period), ("secret", bytes s.bytes), ("outgoing", word s.outgoing),
    ("window", ofFields (window s.window))]

/-- The fields of a message, with its size in the place of its bytes. -/
def message (m : Message) : List (String × Value) :=
  [("id", ident m.id), ("group", ident m.group), ("author", optional ident m.author),
    ("timestamp", time m.timestamp), ("size", ofNat m.size)]

/-- The state of a message with respect to a contact. -/
def status (c : ContactId) (id : MessageId) (d : Delivery) : Value :=
  ofFields [("c", contact c), ("message", ident id), ("status", ofText d.status.name),
    ("sendable", .bool d.sendable), ("seen", .bool d.isSeen), ("eligible", .bool d.eligible)]

/-- A delivery in a word: its status, and a sign for whether the message may be sent. -/
def delivery (d : Delivery) : Value :=
  ofText (d.status.name ++ if d.sendable then "+" else "-")

/-- An outstanding batch. -/
def outstanding (b : OutstandingBatch) : Value :=
  ofFields [("c", contact b.contact), ("id", ident b.id), ("messages", ofList ident b.messages),
    ("sent_at", time b.sentAt)]

/-- A packet. -/
def packet (p : Packet) : Value :=
  let named (kind : String) (fields : List (String × Value)) : Value :=
    ofFields (("kind", ofText kind) :: fields)
  match p with
  | .ack batches => named "Ack" [("batches", brief ident batches)]
  | .batch b => named "Batch" [("nonce", bytes b.nonce.bytes), ("messages", brief bytes b.messages),
      ("id", ident b.id)]
  | .offer ids => named "Offer" [("ids", brief ident ids)]
  | .request r => named "Request" [("length", ofNat r.size), ("bits", ofText r.display),
      ("count", ofNat r.count)]
  | .subscriptions u => named "Subscriptions" [("groups", brief group u.groups),
      ("timestamp", time u.timestamp)]
  | .transports u => named "Transports" [("properties", ofProperties u.properties),
      ("timestamp", time u.timestamp)]

/-! ## What happened -/

/-- An event. -/
def event (e : Event) : Value :=
  let named (name : String) (fields : List (String × Value)) : Value :=
    ofFields (("event", ofText name) :: fields)
  match e with
  | .contactAdded c => named "ContactAdded" [("c", contact c)]
  | .contactRemoved c => named "ContactRemoved" [("c", contact c)]
  | .messagesAdded c n => named "MessagesAdded" [("c", optional contact c), ("count", ofNat n)]
  | .batchSent c b n =>
    named "BatchSent" [("c", contact c), ("batch", ident b), ("messages", ofNat n)]
  | .batchAcked c b => named "BatchAcked" [("c", contact c), ("batch", ident b)]
  | .batchLost c b n =>
    named "BatchLost" [("c", contact c), ("batch", ident b), ("messages", ofNat n)]
  | .messagesRequested c n => named "MessagesRequested" [("c", contact c), ("count", ofNat n)]
  | .ratingChanged a r => named "RatingChanged" [("author", ident a), ("rating", rating r)]
  | .subscriptionsUpdated c => named "SubscriptionsUpdated" [("c", contact c)]
  | .transportsUpdated c => named "TransportsUpdated" [("c", contact c)]
  | .localSubscriptionsUpdated => named "LocalSubscriptionsUpdated" []
  | .localTransportsUpdated => named "LocalTransportsUpdated" []
  | .messagesExpired n b => named "MessagesExpired" [("count", ofNat n), ("bytes", ofNat b)]

/-! ## What is stored -/

/-- What a store holds for one contact. -/
def contactSnapshot (s : ContactSnapshot) : Value :=
  ofFields [("c", contact s.contact),
    ("statuses", ofFields (s.statuses.map fun e => (e.1, delivery e.2))),
    ("outstanding", ofList outstanding s.outstanding), ("to_ack", ofList ident s.toAck),
    ("subscriptions", brief group s.subscriptions), ("transports", ofProperties s.transports),
    ("sendable", ofList ident s.sendable)]

/-- What a store holds. -/
def snapshot (s : Snapshot) : Value :=
  ofFields [("contacts", ofList contactSnapshot s.contacts),
    ("messages", ofList ofText s.messages), ("total", ofNat s.total),
    ("subscriptions", brief group s.subscriptions), ("subscriptions_at", time s.subscriptionsAt),
    ("transports", ofProperties s.transports), ("transports_at", time s.transportsAt),
    ("secrets", ofList secret s.secrets)]

end MessageSync.Json.Report
