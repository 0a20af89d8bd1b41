import MessageSync.Proofs.Engine.Operation
import MessageSync.Proofs.Store.Origin

/-!
# Where changes come from

`Operation.log` goes from an operation to its changes. Here is the way back: what an
operation must have been for a change to be among its own (`Operation.causes_of_mem_log`).
-/

namespace MessageSync

/-! ## What operations do -/

/-- The batch that was recorded, if one was: a batch without messages is not. -/
def SentBatch.recorded (answer : Except SyncError SentBatch) : Option SentBatch :=
  answer.toOption.bind recorded?

namespace Operation

/-- The batch that an operation sends, and the contact that it goes to. -/
def sent {σ : Type} [Store σ] (e : Engine σ) (sink : Sink) :
    {α : Type} → Operation α → Option (ContactId × SentBatch)
  | _, .generateBatch c writer nonce =>
    ((generateBatch c writer nonce).act.runOn e sink).1.toOption.join.map (c, ·)
  | _, .generateBatchFrom c writer nonce requested =>
    (SentBatch.recorded ((generateBatchFrom c writer nonce requested).act.runOn e sink).1).map (c, ·)
  | _, .receiveRequest c offer request writer nonce =>
    (SentBatch.recorded ((receiveRequest c offer request writer nonce).act.runOn e sink).1).map
      (c, ·)
  | _, _ => none

/-- Whether an operation takes in a message, from a contact or written here. -/
def Brings (m : Message) (sender : Option ContactId) : {α : Type} → Operation α → Prop
  | _, .addLocal m' => m' = m ∧ sender = none
  | _, .receiveBatch c batch => m ∈ batch.messages ∧ sender = some c
  | _, _ => False

/-- Whether an operation is about new groups of a contact. -/
def Regroups (c : ContactId) : {α : Type} → Operation α → Prop
  | _, .receiveSubscriptions c' _ => c' = c
  | _, _ => False

/-- Whether an operation is about an offer of a message by a contact. -/
def Offers (c : ContactId) (id : MessageId) : {α : Type} → Operation α → Prop
  | _, .receiveOffer c' offer => c' = c ∧ id ∈ offer
  | _, _ => False

/-- Whether an operation is about an ack of a batch by a contact. -/
def Acks (c : ContactId) (b : BatchId) : {α : Type} → Operation α → Prop
  | _, .receiveAck c' batches => c' = c ∧ b ∈ batches
  | _, _ => False

/-- Whether an operation is about a batch from a contact. -/
def Delivers (c : ContactId) (b : BatchId) : {α : Type} → Operation α → Prop
  | _, .receiveBatch c' batch => c' = c ∧ batch.id = b
  | _, _ => False

/-- The rating that an operation gives to an author. -/
def rates (a : AuthorId) : {α : Type} → Operation α → Option Rating
  | _, .setRating a' r => if a' = a then some r else none
  | _, _ => none

/-- Whether an operation may delete messages. -/
def Deletes : {α : Type} → Operation α → Prop
  | _, .expire _ | _, .unsubscribe _ => True
  | _, _ => False

/-- The transport properties that an operation is given. -/
def properties : {α : Type} → Operation α → List Properties
  | _, .addContact p | _, .setLocalTransports p => [p]
  | _, .receiveTransports _ update => [update.properties]
  | _, _ => []

/-- The periods that an operation stores secrets for, or compares theirs with. -/
def periods : {α : Type} → Operation α → List UInt64
  | _, .addSecrets xs => xs.map Secret.period
  | _, .rotateSecret _ period _ | _, .removeSecretsBefore _ _ period => [period]
  | _, _ => []

/-- What an operation must be to make a change. Changes of other kinds are not followed. -/
def Causes (e : Engine Memory) (sink : Sink) {α : Type} (operation : Operation α) : Change → Prop
  | .accept m sender => operation.Brings m sender
  | .share c _ _ => operation.Regroups c
  | .rate a r => operation.rates a = some r
  | .see c id => operation.Offers c id
  | .send c b messages _ => operation.sent e sink = some (c, ⟨b, messages⟩)
  | .ack c b => operation.Acks c b
  | .owe c b => operation.Delivers c b
  | .forget _ | .unsubscribe _ _ => operation.Deletes
  | .addContact p | .setLocalTransports p _ | .setTransports _ p _ => p ∈ operation.properties
  | .addSecrets xs => ∀ x ∈ xs, x.period ∈ operation.periods
  | _ => True

end Operation

namespace Step

/-- The batch that a step sends, and the contact that it goes to. -/
def sent {σ : Type} [Store σ] (e : Engine σ) : Step → Option (ContactId × SentBatch)
  | .perform operation sink => operation.sent e sink
  | _ => none

/-- The rating that a step gives to an author. -/
def rates (a : AuthorId) : Step → Option Rating
  | .perform operation _ => operation.rates a
  | _ => none

/-- Whether a step is about an ack of a batch by a contact. -/
def Acks (c : ContactId) (b : BatchId) : Step → Prop
  | .perform operation _ => operation.Acks c b
  | _ => False

end Step

/-! ## Changes in logs -/

lemma Memory.mem_about {s : Memory} {c : ContactId} {log : List Change} {x : Change}
    (h : x ∈ s.about c log) : c ∈ s.contacts ∧ x ∈ log := by
  unfold about at h
  split at h
  · next hc => exact ⟨hc, h⟩
  · cases h

lemma Sink.mem_onSent {sink : Sink} {packet : Packet} {log : List Change} {x : Change}
    (h : x ∈ sink.onSent packet log) : (sink.send packet).1 = .ok () ∧ x ∈ log := by
  unfold onSent at h
  split at h
  · next hsent => exact ⟨hsent, h⟩
  · cases h

namespace Engine

/-- A batch is recorded if the packet was written and has messages. -/
lemma mem_logBatch {e : Engine Memory} {sink : Sink} {c : ContactId} {nonce : Nonce}
    {picked : List MessageId × BatchWriter} {x : Change}
    (h : x ∈ e.logBatch sink c nonce picked) :
    (sink.send (.batch (picked.2.batch nonce))).1 = .ok () ∧ picked.1 ≠ [] ∧
      x = .send c (picked.2.batch nonce).id picked.1 e.now := by
  obtain ⟨hsent, hx⟩ := Sink.mem_onSent h
  unfold sending at hx
  split at hx
  · cases hx
  · next hne => exact ⟨hsent, hne, List.mem_singleton.mp hx⟩

/-- What is recorded of a batch that is sent. -/
lemma recorded_sendBatch {t : Turn Memory} {c : ContactId} {nonce : Nonce}
    {picked : List MessageId × BatchWriter}
    (hsent : (t.sink.send (.batch (picked.2.batch nonce))).1 = .ok ()) (hne : picked.1 ≠ []) :
    SentBatch.recorded (t.sendBatch c nonce picked).1 =
      some ⟨(picked.2.batch nonce).id, picked.1⟩ := by
  unfold Turn.sendBatch
  rcases hsend : t.sink.send (.batch (picked.2.batch nonce)) with ⟨_ | _, sink⟩
  · rw [hsend] at hsent
    cases hsent
  · exact if_neg hne

/-- The batch in the answer is the one that was recorded. -/
lemma sent_eq_recorded {σ : Type} [Store σ] (e : Engine σ) (sink : Sink) (c : ContactId)
    (writer : BatchWriter) (nonce : Nonce) :
    (Operation.generateBatch c writer nonce).sent e sink =
      (SentBatch.recorded ((sendOldest c writer nonce).runOn e sink).1).map (c, ·) := by
  rw [Operation.sent, Operation.act, generateBatch_runOn_eq, SentBatch.recorded]
  rcases (sendOldest c writer nonce).runOn e sink with ⟨_ | batch, t⟩ <;> rfl

variable {e : Engine Memory} {sink : Sink} {c : ContactId} {writer : BatchWriter} {nonce : Nonce}

lemma sent_generateBatch (hc : c ∈ e.store.contacts)
    (hsent : (sink.send (.batch ((e.picked c writer).2.batch nonce))).1 = .ok ())
    (hne : (e.picked c writer).1 ≠ []) :
    (Operation.generateBatch c writer nonce).sent e sink =
      some (c, ⟨((e.picked c writer).2.batch nonce).id, (e.picked c writer).1⟩) := by
  have happly : Engine.sendOldest c writer nonce ⟨e, [], sink⟩ =
      Turn.sendBatch ⟨e, [], sink⟩ c nonce (e.picked c writer) :=
    (sendOldest_apply _ c writer nonce).trans (if_pos hc)
  rw [sent_eq_recorded, Act.runOn, happly, recorded_sendBatch hsent hne, Option.map_some]

lemma sent_generateBatchFrom {requested : List MessageId} (hc : c ∈ e.store.contacts)
    (hsent : (sink.send (.batch ((e.pickedFrom c writer requested).2.batch nonce))).1 = .ok ())
    (hne : (e.pickedFrom c writer requested).1 ≠ []) :
    (Operation.generateBatchFrom c writer nonce requested).sent e sink =
      some (c, ⟨((e.pickedFrom c writer requested).2.batch nonce).id,
        (e.pickedFrom c writer requested).1⟩) := by
  have happly : Engine.generateBatchFrom c writer nonce requested ⟨e, [], sink⟩ =
      Turn.sendBatch ⟨e, [], sink⟩ c nonce (e.pickedFrom c writer requested) :=
    (generateBatchFrom_apply _ c writer nonce requested).trans (if_pos hc)
  rw [Operation.sent, Operation.act, Act.runOn, happly, recorded_sendBatch hsent hne, Option.map_some]

lemma sent_receiveRequest {offer requested : List MessageId} {request : Request}
    (hrequested : request.requestedIds offer = some requested) (hc : c ∈ e.store.contacts)
    (hsent : (sink.send (.batch ((e.pickedFrom c writer requested).2.batch nonce))).1 = .ok ())
    (hne : (e.pickedFrom c writer requested).1 ≠ []) :
    (Operation.receiveRequest c offer request writer nonce).sent e sink =
      some (c, ⟨((e.pickedFrom c writer requested).2.batch nonce).id,
        (e.pickedFrom c writer requested).1⟩) := by
  let t : Turn Memory := ⟨e, [.messagesRequested c requested.length], sink⟩
  have happly : Engine.receiveRequest c offer request writer nonce ⟨e, [], sink⟩ =
      t.sendBatch c nonce (e.pickedFrom c writer requested) := by
    rw [receiveRequest_apply, hrequested]
    exact (generateBatchFrom_apply t c writer nonce requested).trans (if_pos hc)
  rw [Operation.sent, Operation.act, Act.runOn, happly, recorded_sendBatch (t := t) hsent hne, Option.map_some]

end Engine

/-- A change is made by an operation that is there to make it. -/
theorem Operation.causes_of_mem_log {α : Type} {operation : Operation α} {e : Engine Memory}
    {sink : Sink} {x : Change} (h : x ∈ operation.log e sink) : operation.Causes e sink x := by
  cases operation with
  | contacts | subscriptions | rating _ | storedBytes | generateOffer _ _
  | generateSubscriptions _ | generateTransports _ | contactSubscriptions _
  | contactTransports _ | localTransports | secrets | unseenConnections _ => cases h
  | subscribe _ | unsubscribe _ =>
    obtain rfl := List.mem_singleton.mp h
    trivial
  | setRating a r =>
    obtain rfl := List.mem_singleton.mp h
    exact if_pos rfl
  | addContact _ | setLocalTransports _ =>
    obtain rfl := List.mem_singleton.mp h
    exact List.mem_singleton.mpr rfl
  | removeContact c =>
    obtain rfl := List.mem_singleton.mp (Memory.mem_about h).2
    trivial
  | addLocal m =>
    rw [Operation.log] at h
    split at h
    · obtain rfl := List.mem_singleton.mp h
      exact ⟨rfl, rfl⟩
    · cases h
  | receiveBatch c batch =>
    rw [Operation.log] at h
    split at h
    · rcases List.mem_append.mp (Memory.mem_about h).2 with hx | hx
      · obtain ⟨m, hm, rfl⟩ := List.mem_map.mp hx
        exact ⟨hm, rfl⟩
      · obtain rfl := List.mem_singleton.mp hx
        exact ⟨rfl, rfl⟩
    · cases h
  | expire wanted =>
    obtain ⟨id, -, rfl⟩ := List.mem_map.mp h
    trivial
  | generateBatch c writer nonce =>
    obtain ⟨hc, hx⟩ := Memory.mem_about h
    obtain ⟨hsent, hne, rfl⟩ := Engine.mem_logBatch hx
    exact Engine.sent_generateBatch hc hsent hne
  | generateBatchFrom c writer nonce requested =>
    obtain ⟨hc, hx⟩ := Memory.mem_about h
    obtain ⟨hsent, hne, rfl⟩ := Engine.mem_logBatch hx
    exact Engine.sent_generateBatchFrom hc hsent hne
  | receiveRequest c offer request writer nonce =>
    rw [Operation.log] at h
    cases hrequested : request.requestedIds offer with
    | none =>
      rw [hrequested] at h
      cases h
    | some requested =>
      rw [hrequested] at h
      obtain ⟨hc, hx⟩ := Memory.mem_about h
      obtain ⟨hsent, hne, rfl⟩ := Engine.mem_logBatch hx
      exact Engine.sent_receiveRequest hrequested hc hsent hne
  | generateAck c writer =>
    obtain ⟨-, hx⟩ := Sink.mem_onSent (Memory.mem_about h).2
    obtain rfl := List.mem_singleton.mp hx
    trivial
  | receiveAck c batches =>
    obtain ⟨b, hb, rfl⟩ := List.mem_map.mp (Memory.mem_about h).2
    exact ⟨rfl, hb⟩
  | findLost c =>
    obtain ⟨b, -, rfl⟩ := List.mem_map.mp (Memory.mem_about h).2
    trivial
  | receiveOffer c offer =>
    rw [Operation.log] at h
    split at h
    · cases h
    · obtain ⟨id, hid, rfl⟩ := List.mem_map.mp (Memory.mem_about h).2
      exact ⟨rfl, hid⟩
  | receiveSubscriptions c update =>
    rw [Operation.log] at h
    split at h
    · cases h
    · obtain rfl := List.mem_singleton.mp h
      exact rfl
  | receiveTransports c update =>
    rw [Operation.log] at h
    split at h
    · cases h
    · obtain rfl := List.mem_singleton.mp h
      exact List.mem_singleton.mpr rfl
  | addSecrets xs =>
    rw [Operation.log] at h
    split at h
    · obtain rfl := List.mem_singleton.mp h
      exact fun y hy => List.mem_map_of_mem hy
    · cases h
  | rotateSecret key period bytes =>
    have hx := (Memory.mem_about h).2
    split at hx
    · cases hx
    · obtain rfl := List.mem_singleton.mp hx
      intro y hy
      rw [List.mem_singleton.mp hy]
      exact List.mem_singleton.mpr rfl
  | removeSecretsBefore c t period =>
    obtain rfl := List.mem_singleton.mp (Memory.mem_about h).2
    trivial
  | nextOutgoing key =>
    obtain rfl := List.mem_singleton.mp (Memory.mem_about h).2
    trivial
  | acceptIncoming key n =>
    have hx := (Memory.mem_about h).2
    split at hx
    · cases hx
    · split at hx
      · cases hx
      · obtain rfl := List.mem_singleton.mp hx
        trivial

/-- An operation that sends a batch makes no other change. -/
lemma Operation.log_of_send {α : Type} {operation : Operation α} {e : Engine Memory} {sink : Sink}
    {c : ContactId} {b : BatchId} {messages : List MessageId} {sentAt : Int64}
    (h : .send c b messages sentAt ∈ operation.log e sink) :
    operation.log e sink = [.send c b messages sentAt] := by
  -- all that send do so in one way
  have habout {c' : ContactId} {nonce : Nonce} {picked : List MessageId × BatchWriter}
      (h : .send c b messages sentAt ∈ e.store.about c' (e.logBatch sink c' nonce picked)) :
      e.store.about c' (e.logBatch sink c' nonce picked) = [.send c b messages sentAt] := by
    obtain ⟨hc, hx⟩ := Memory.mem_about h
    obtain ⟨hsent, hne, heq⟩ := Engine.mem_logBatch hx
    rw [Memory.about, if_pos hc, Engine.logBatch, Sink.onSent, hsent, heq]
    exact if_neg hne
  have hcauses := Operation.causes_of_mem_log h
  cases operation with
  | generateBatch c' writer nonce => exact habout h
  | generateBatchFrom c' writer nonce requested => exact habout h
  | receiveRequest c' offer request writer nonce =>
    rw [Operation.log] at h ⊢
    cases hrequested : request.requestedIds offer with
    | none =>
      rw [hrequested] at h
      cases h
    | some requested =>
      rw [hrequested] at h
      exact habout h
  | _ => cases hcauses

namespace Step

variable {e : Engine Memory} {c : ContactId} {b : BatchId}

/-- A batch that is outstanding after a step was so before, or the step sends it. -/
lemma sentBatch_of_step (step : Step) {r : SentRecord}
    (h : (e.step step).store.sentBatch c b = some r) :
    e.store.sentBatch c b = some r ∨ step.sent e = some (c, ⟨b, r.messages⟩) := by
  rw [Engine.store_step] at h
  refine (Memory.sentBatch_of_changes h).imp_right fun hmem => ?_
  cases step with
  | setClock _ | setGate _ => cases hmem
  | perform operation sink => exact Operation.causes_of_mem_log hmem

/-- A step acknowledges what is in the batches that it acks. -/
lemma ackedIn_iff (step : Step) (hs : e.store.Consistent) (id : MessageId) :
    e.store.AckedIn c (step.log e) id ↔
      ∃ b r, e.store.sentBatch c b = some r ∧ id ∈ r.messages ∧ step.Acks c b := by
  cases step with
  | setClock _ | setGate _ => simp [Step.log, Memory.AckedIn, Step.Acks]
  | perform operation sink =>
    rw [Step.log]
    by_cases hack : ∃ b, .ack c b ∈ operation.log e sink
    · obtain ⟨b, hmem⟩ := hack
      have hcauses := Operation.causes_of_mem_log hmem
      cases operation with
      | receiveAck c' batches =>
        obtain ⟨rfl, -⟩ := hcauses
        obtain ⟨hc, -⟩ := Memory.mem_about hmem
        rw [Operation.log, Memory.about, if_pos hc, Memory.ackedIn_acks]
        simp only [Step.Acks, Operation.Acks, true_and]
      | _ => cases hcauses
    · have hnot : ¬ e.store.AckedIn c (operation.log e sink) id :=
        Memory.not_ackedIn (fun x hx b heq => hack ⟨b, heq ▸ hx⟩) id
      refine ⟨fun h => absurd h hnot, ?_⟩
      rintro ⟨b, r, hr, -, hacks⟩
      refine absurd ⟨b, ?_⟩ hack
      -- only an ack from the contact acks, and its batches are outstanding for a contact
      cases operation with
      | receiveAck c' batches =>
        obtain ⟨rfl, hb⟩ := hacks
        rw [Operation.log, Memory.about, if_pos (hs.owned c' b r hr)]
        exact List.mem_map_of_mem hb
      | _ => cases hacks

end Step

end MessageSync
