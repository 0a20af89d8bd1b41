import MessageSync.Message

/-!
# Events

What the engine reports about its work. An event is reported after the work it is about
has been committed.
-/

namespace MessageSync

/-- Something the engine did. -/
inductive Event where
  | contactAdded (c : ContactId)
  | contactRemoved (c : ContactId)
  /-- New messages were stored, from a contact or written here. -/
  | messagesAdded (sender : Option ContactId) (count : Nat)
  | batchSent (c : ContactId) (batch : BatchId) (messages : Nat)
  | batchAcked (c : ContactId) (batch : BatchId)
  /-- A batch was not acknowledged in time; so many of its messages may be sent again. -/
  | batchLost (c : ContactId) (batch : BatchId) (messages : Nat)
  /-- A contact wants so many of the messages that it was offered. -/
  | messagesRequested (c : ContactId) (count : Nat)
  | ratingChanged (author : AuthorId) (rating : Rating)
  | subscriptionsUpdated (c : ContactId)
  | transportsUpdated (c : ContactId)
  | localSubscriptionsUpdated
  | localTransportsUpdated
  | messagesExpired (count bytes : Nat)
deriving DecidableEq

end MessageSync
