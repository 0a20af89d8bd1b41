import MessageSync.Engine.Batches

/-!
# Offers and requests

Instead of sending messages, a node can offer their identifiers. The contact answers with
a request for those that it lacks, and gets them in a batch. One offer of a contact is
answered at a time.
-/

namespace MessageSync

/-- The messages of an offer that a request wants. A request that has another number of flags
is no answer to this offer. -/
def Request.appliedTo (r : Request) (offer : List MessageId) :
    Except Violation (List MessageId) :=
  match r.requestedIds offer with
  | none => .error (.requestMismatch r.size offer.length)
  | some requested => .ok requested

namespace Engine

variable {σ α : Type} [Store σ]

open Act

/-- Offers the messages that may go to a contact, oldest first, as many as an offer
takes. -/
def generateOffer (c : ContactId) (writer : IdWriter .message) : Act σ (List MessageId) := do
  let most := (← settings).maxOfferIds
  transaction do
    Txn.requireContact c
    let candidates ← Txn.query (Store.sendableMessages c Store.unlimited)
    let (offered, writer) := writer.writeAll (candidates.take most)
    Txn.write fun sink =>
      let (result, _, sink) := writer.finish .offer sink
      (result, sink)
    return offered

/-! ## Answering an offer -/

/-- Marks offered messages as seen by the contact, and flags those that are not visible. -/
def flagMissing (c : ContactId) : List MessageId → Txn σ (List Bool)
  | [] => return []
  | id :: rest => do
    let visible ← Txn.query (Store.setSeenIfVisible c id)
    return (!visible) :: (← flagMissing c rest)

/-- An operation during which no other offer of the contact is answered. -/
def inOfferRound (c : ContactId) (act : Act σ α) : Act σ α := fun t =>
  let setOffers (t : Turn σ) (offers : Table ContactId Unit) : Turn σ :=
    { t with engine := { t.engine with openOffers := offers } }
  if t.engine.openOffers.contains c then (.error (.violation (.concurrentOffer c)), t)
  else
    let (result, t) := act (setOffers t (t.engine.openOffers.insert c ()))
    -- the round is over whether `act` failed or not
    (result, setOffers t (t.engine.openOffers.erase c))

/-- Answers an offer with a request. `meanwhile` is what happens after the offered messages
are marked and before the request is written. -/
def receiveOfferWhile (c : ContactId) (offer : List MessageId) (meanwhile : Act σ α) :
    Act σ (Request × α) :=
  inOfferRound c do
    let flags ← transaction do
      Txn.requireContact c
      flagMissing c offer
    let request := Request.ofFlags flags
    -- no transaction is open here, but the round is
    let a ← meanwhile
    Act.send (.request request)
    return (request, a)

/-- Answers an offer with a request for the messages that the contact is not known to
share. -/
def receiveOffer (c : ContactId) (offer : List MessageId) : Act σ Request := do
  return (← receiveOfferWhile c offer (pure ())).1

/-! ## Answering a request -/

/-- Sends what a contact requested from an offer. -/
def receiveRequest (c : ContactId) (offer : List MessageId) (request : Request)
    (writer : BatchWriter) (nonce : Nonce) : Act σ SentBatch := do
  match request.appliedTo offer with
  | .error violation => throw (.violation violation)
  | .ok requested =>
    emit (.messagesRequested c requested.length)
    generateBatchFrom c writer nonce requested

end Engine

end MessageSync
