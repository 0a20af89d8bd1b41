import MessageSync.Engine.Contacts
import MessageSync.Engine.Gossip
import MessageSync.Engine.Messages
import MessageSync.Engine.Offers
import MessageSync.Engine.Secrets

/-!
# Operations as values

`Operation α` lists everything that can be asked of an engine, with the type `α` of the
answer. A history of an engine is a list of operations, each with its own sink, between
which the clock and the gate may move.
-/

namespace MessageSync

/-- Something to ask of an engine. -/
inductive Operation : Type → Type where
  | addContact (transports : Properties) : Operation ContactId
  | removeContact (c : ContactId) : Operation Unit
  | contacts : Operation (List ContactId)
  | subscribe (g : Group) : Operation Bool
  | unsubscribe (g : GroupId) : Operation Bool
  | subscriptions : Operation (List Group)
  | rating (a : AuthorId) : Operation Rating
  | setRating (a : AuthorId) (rating : Rating) : Operation Rating
  | addLocal (m : Message) : Operation (Passage Bool)
  | receiveBatch (c : ContactId) (batch : ReceivedBatch) : Operation (Passage Nat)
  | expire (wanted : Nat) : Operation Expired
  | storedBytes : Operation Nat
  | generateBatch (c : ContactId) (writer : BatchWriter) (nonce : Nonce) :
      Operation (Option SentBatch)
  | generateBatchFrom (c : ContactId) (writer : BatchWriter) (nonce : Nonce)
      (requested : List MessageId) : Operation SentBatch
  | generateAck (c : ContactId) (writer : IdWriter .batch) : Operation (List BatchId)
  | receiveAck (c : ContactId) (batches : List BatchId) : Operation Unit
  | findLost (c : ContactId) : Operation (List BatchId)
  | generateOffer (c : ContactId) (writer : IdWriter .message) : Operation (List MessageId)
  | receiveOffer (c : ContactId) (offer : List MessageId) : Operation Request
  | receiveRequest (c : ContactId) (offer : List MessageId) (request : Request)
      (writer : BatchWriter) (nonce : Nonce) : Operation SentBatch
  | generateSubscriptions (c : ContactId) : Operation SubscriptionUpdate
  | generateTransports (c : ContactId) : Operation TransportUpdate
  | receiveSubscriptions (c : ContactId) (update : SubscriptionUpdate) : Operation Bool
  | receiveTransports (c : ContactId) (update : TransportUpdate) : Operation Bool
  | contactSubscriptions (c : ContactId) : Operation (List Group)
  | contactTransports (c : ContactId) : Operation Properties
  | setLocalTransports (transports : Properties) : Operation Unit
  | localTransports : Operation Properties
  | addSecrets (secrets : List Secret) : Operation Unit
  | secrets : Operation (List Secret)
  | rotateSecret (key : SecretKey) (period : UInt64) (bytes : Bytes) : Operation Secret
  | removeSecretsBefore (c : ContactId) (t : TransportId) (period : UInt64) : Operation Nat
  | nextOutgoing (key : SecretKey) : Operation UInt64
  | acceptIncoming (key : SecretKey) (n : UInt64) : Operation Unit
  | unseenConnections (key : SecretKey) : Operation (List Nat)

/-- What an operation does. -/
def Operation.act {σ α : Type} [Store σ] : Operation α → Act σ α
  | addContact transports => Engine.addContact transports
  | removeContact c => Engine.removeContact c
  | contacts => Engine.contacts
  | subscribe g => Engine.subscribe g
  | unsubscribe g => Engine.unsubscribe g
  | subscriptions => Engine.subscriptions
  | rating a => Engine.rating a
  | setRating a r => Engine.setRating a r
  | addLocal m => Engine.addLocal m
  | receiveBatch c batch => Engine.receiveBatch c batch
  | expire wanted => Engine.expire wanted
  | storedBytes => Engine.storedBytes
  | generateBatch c writer nonce => Engine.generateBatch c writer nonce
  | generateBatchFrom c writer nonce requested =>
    Engine.generateBatchFrom c writer nonce requested
  | generateAck c writer => Engine.generateAck c writer
  | receiveAck c batches => Engine.receiveAck c batches
  | findLost c => Engine.findLost c
  | generateOffer c writer => Engine.generateOffer c writer
  | receiveOffer c offer => Engine.receiveOffer c offer
  | receiveRequest c offer request writer nonce =>
    Engine.receiveRequest c offer request writer nonce
  | generateSubscriptions c => Engine.generateSubscriptions c
  | generateTransports c => Engine.generateTransports c
  | receiveSubscriptions c update => Engine.receiveSubscriptions c update
  | receiveTransports c update => Engine.receiveTransports c update
  | contactSubscriptions c => Engine.contactSubscriptions c
  | contactTransports c => Engine.contactTransports c
  | setLocalTransports transports => Engine.setLocalTransports transports
  | localTransports => Engine.localTransports
  | addSecrets xs => Engine.addSecrets xs
  | secrets => Engine.secrets
  | rotateSecret key period bytes => Engine.rotateSecret key period bytes
  | removeSecretsBefore c t period => Engine.removeSecretsBefore c t period
  | nextOutgoing key => Engine.nextOutgoing key
  | acceptIncoming key n => Engine.acceptIncoming key n
  | unseenConnections key => Engine.unseenConnections key

/-! ## Histories -/

/-- One step in the life of an engine. -/
inductive Step where
  | perform {α : Type} (operation : Operation α) (sink : Sink)
  | setClock (now : Int64)
  | setGate (gate : Gate)

/-- The engine after a step. -/
def Engine.step {σ : Type} [Store σ] (e : Engine σ) : Step → Engine σ
  | .perform operation sink => (operation.act.runOn e sink).2.engine
  | .setClock now => { e with now }
  | .setGate gate => { e with gate }

/-- The events that a step reports. -/
def Step.reported {σ : Type} [Store σ] (e : Engine σ) : Step → List Event
  | .perform operation sink => (operation.act.runOn e sink).2.events
  | _ => []

/-- The engine after the steps of a history. -/
def Engine.run {σ : Type} [Store σ] (e : Engine σ) (history : List Step) : Engine σ :=
  history.foldl Engine.step e

/-- The events that are reported in a history. -/
def Engine.reported {σ : Type} [Store σ] (e : Engine σ) : List Step → List Event
  | [] => []
  | step :: rest => step.reported e ++ (e.step step).reported rest

/-- What a listener does when it is told of an event: steps of the engine, with sinks of their
own. What comes of them is not told to the operation that reported the event. -/
def Engine.react {σ : Type} [Store σ] (steps : List Step) : Act σ Unit := fun t =>
  (.ok (), { t with
    engine := t.engine.run steps
    events := t.events ++ t.engine.reported steps })

end MessageSync
