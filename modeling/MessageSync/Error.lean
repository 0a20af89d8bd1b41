import MessageSync.Message
import MessageSync.Packet.Basic
import MessageSync.Window

/-!
# Errors

Each error is a cause. The wording of all causes is in this module, in one function for
each type.
-/

namespace MessageSync

/-! ## Values -/

/-- A stored value that is none of the values of its type. -/
inductive ValueError where
  /-- A window whose bitmap has this many bytes. -/
  | windowBitmap (size : Nat)
  /-- A number that names nothing of this kind. -/
  | unknownNumber (kind : String) (value : Nat)
deriving DecidableEq

/-- The wording of a value error. -/
def ValueError.message : ValueError → String
  | .windowBitmap size =>
    "invalid connection window: bitmap is " ++ toString size ++ " bytes, expected 4"
  | .unknownNumber kind value =>
    "invalid enum value " ++ toString value ++ " for " ++ kind

/-! ## The store -/

/-- Why a store cannot do what it is asked. -/
inductive StoreError where
  /-- A row refers to a contact that does not exist, or a column does not hold a value of
  the form that is asked of it. -/
  | database
  /-- A column holds a value of the right form that means nothing. -/
  | value (error : ValueError)
  /-- A column that holds encoded properties does not decode. -/
  | encoding
  /-- There is no such contact. -/
  | unknownContact (c : ContactId)
  /-- The tables were made by a later version of the library. -/
  | newerSchema (found supported : Nat)
deriving DecidableEq

/-- The wording of a store error. Where nothing is known of the cause, it names the part
that failed. -/
def StoreError.message : StoreError → String
  | .database => "database"
  | .value error => "stored value rejected: " ++ error.message
  | .encoding => "cbor column"
  | .unknownContact c => "corrupt row: unknown " ++ c.display
  | .newerSchema found supported =>
    "schema upgrade: schema version " ++ toString found
      ++ " is newer than supported version " ++ toString supported

/-! ## Sinks -/

/-- Why bytes could not be written. -/
inductive SinkError where
  | closed
  | flushFailed
deriving DecidableEq

/-- The wording of a sink error. -/
def SinkError.message : SinkError → String
  | .closed => "sink closed"
  | .flushFailed => "flush failed"

/-! ## Synchronisation -/

/-- What a contact did against the rules. -/
inductive Violation where
  | packetTooLong (size : Nat)
  | malformedPacket
  | excess (excess : Packet.Excess)
  | malformedMessage
  /-- An offer of this contact is being answered already. -/
  | concurrentOffer (c : ContactId)
  | requestMismatch (flags offered : Nat)
  | tooManyGroups (count : Nat)
  | tooManyProperties (count : Nat)
deriving DecidableEq

/-- The wording of a violation. -/
def Violation.message : Violation → String
  | .packetTooLong size => "packet of " ++ toString size ++ " bytes exceeds limit"
  | .malformedPacket => "malformed packet"
  | .excess e => e.message
  | .malformedMessage => "bad test message"
  | .concurrentOffer c => "concurrent offer from " ++ c.display
  | .requestMismatch flags offered =>
    "request has " ++ toString flags ++ " bits for an offer of " ++ toString offered ++ " ids"
  | .tooManyGroups count => toString count ++ " groups in subscription update"
  | .tooManyProperties count => toString count ++ " transport properties"

/-- Why an operation of the engine fails. -/
inductive SyncError where
  | noSuchContact (c : ContactId)
  | noSuchSecret (c : ContactId) (t : TransportId) (period : UInt64)
  | storage (error : StoreError)
  | sink (error : SinkError)
  | violation (violation : Violation)
  | replay (refusal : Window.Refusal)
  /-- The node is shut down. -/
  | closed
deriving DecidableEq

/-- The wording of an error of the engine. -/
def SyncError.message : SyncError → String
  | .noSuchContact c => "no such contact: " ++ c.display
  | .noSuchSecret c t period =>
    "no secret for " ++ c.display ++ " on " ++ t.display ++ " in period "
      ++ toString period.toNat
  | .storage error => "storage failure: " ++ error.message
  | .sink error => "serialization failure: " ++ error.message
  | .violation v => "protocol violation: " ++ v.message
  | .replay refusal => "connection rejected: " ++ refusal.message
  | .closed => "closed"

/-! ## Nodes -/

/-- Why an operation of a node fails. -/
inductive NodeError where
  | store (error : StoreError)
  | sync (error : SyncError)
  | configuration
  | closed
deriving DecidableEq

/-- The wording of an error of a node. -/
def NodeError.message : NodeError → String
  | .store error => "storage error: " ++ error.message
  | .sync error => "sync error: " ++ error.message
  | .configuration => "invalid configuration"
  | .closed => "closed"

end MessageSync
