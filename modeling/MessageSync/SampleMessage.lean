import MessageSync.Packet.Encode
import MessageSync.Packet.Decode

/-!
# A stand-in message format

Real messages are signed, and parsed outside this library, which only needs to know the
group, the author and the timestamp that a parser finds in the raw bytes. A sample
message is an unsigned record of these and a body. `Batch.parse` parses all messages of
a batch; one bad message rejects the batch.
-/

namespace MessageSync

open Cbor

/-! ## Writing -/

/-- The raw form of a sample message. -/
def sampleRaw (group : GroupId) (author : Option AuthorId) (timestamp : Int64) (body : Bytes) :
    Bytes :=
  let authorItem := match author with
    | some a => Write.ident a
    | none => Write.null
  Write.record [("group", Write.ident group), ("author", authorItem),
    ("timestamp", Write.integer timestamp.toInt), ("body", Write.byteArray body)]

/-- The message whose raw form is a sample message. -/
def sampleMessage (group : GroupId) (author : Option AuthorId) (timestamp : Int64) (body : Bytes) :
    Message :=
  .ofRaw group author timestamp (sampleRaw group author timestamp body)

/-! ## Reading -/

/-- What is read so far of a sample message. A missing author is no author. -/
structure SampleFields where
  group : Option GroupId := none
  author : Option (Option AuthorId) := none
  timestamp : Option Int64 := none
  body : Option Bytes := none

/-- How deep an unknown field of a sample message may nest. -/
def sampleLevels : Nat := Read.deepest - 1

/-- Reads the fields of a sample message. -/
def SampleFields.reader : Read.Reader SampleFields :=
  Read.record sampleLevels (fun name (r : SampleFields) =>
    if name = utf8 "group" then
      some (Read.once r.group Read.ident fun v => { r with group := some v })
    else if name = utf8 "author" then
      some (Read.once r.author (Read.option Read.ident) fun v => { r with author := some v })
    else if name = utf8 "timestamp" then
      some (Read.once r.timestamp Read.int64 fun v => { r with timestamp := some v })
    else if name = utf8 "body" then
      some (Read.once r.body Read.bytes fun v => { r with body := some v })
    else none) {}

/-- Parses the raw form of a sample message. -/
def parseSample (raw : Bytes) : Except Violation Message :=
  match SampleFields.reader raw with
  | some (⟨some group, author, some timestamp, some _⟩, _) =>
    .ok (.ofRaw group (author.getD none) timestamp raw)
  | _ => .error .malformedMessage

/-! ## Received batches -/

/-- A batch from a contact with its messages parsed. -/
@[ext]
structure ReceivedBatch where
  id : BatchId
  messages : List Message
deriving DecidableEq

/-- Parses the messages of a batch in turn. -/
def parseAll (parse : Bytes → Except Violation Message) :
    List Bytes → Except Violation (List Message)
  | [] => .ok []
  | raw :: rest =>
    match parse raw with
    | .error violation => .error violation
    | .ok m => (parseAll parse rest).map (m :: ·)

/-- The batch with its messages parsed by `parse`. -/
def Batch.parse (parse : Bytes → Except Violation Message) (b : Batch) :
    Except Violation ReceivedBatch :=
  (parseAll parse b.messages).map fun messages => ⟨b.id, messages⟩

end MessageSync
