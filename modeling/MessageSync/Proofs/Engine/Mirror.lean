import MessageSync.Proofs.Engine.Alike
import MessageSync.Proofs.Engine.Frame

/-!
# Engines over mirrored stores

Every operation keeps an engine over a relational store and an engine over a store in
memory mirrored (`Operation.mirrors`), and so does every other step (`Engine.Mirrors.step`).

Operations that neither read encoded properties nor touch secrets are `plain`: they give
the same answer, report the same events and write the same bytes (`Operation.alike`). The
others change nothing but secrets, whatever they answer.
-/

namespace MessageSync

/-- Whether an operation neither reads encoded properties nor touches secrets. -/
def Operation.plain : {α : Type} → Operation α → Bool
  | _, .generateTransports _ | _, .contactTransports _ | _, .localTransports
  | _, .addSecrets _ | _, .secrets | _, .rotateSecret _ _ _ | _, .removeSecretsBefore _ _ _
  | _, .nextOutgoing _ | _, .acceptIncoming _ _ | _, .unseenConnections _ => false
  | _, _ => true

/-! ## Plain operations -/

namespace Act

lemma alike_storeBatch (c : ContactId) (batch : ReceivedBatch) :
    Alike (Engine.storeBatch c batch) (Engine.storeBatch c batch) := by
  have howe : Txn.Alike (Knows [c]) (Txn.query (Store.addBatchToAck c batch.id))
      (Txn.query (Store.addBatchToAck c batch.id)) fun _ => Knows [c] := by
    refine Txn.alike_query fun s t h => ?_
    obtain ⟨hanswer, hafter⟩ := h.1.addBatchToAck (h.2 c List.mem_cons_self) batch.id
    exact ⟨hanswer, fun _ _ => h.congr hafter rfl⟩
  refine alike_bind (alike_transaction [c] ?_) fun stored => ?_
  · exact Txn.alike_bind (Txn.alike_requireContact c) fun _ =>
      Txn.alike_bind (Txn.alike_acceptAll c batch.messages) fun stored =>
        Txn.alike_bind howe fun _ => Txn.alike_pure stored
  · exact alike_emitIf _ stored

lemma alike_storeLocal (m : Message) : Alike (Engine.storeLocal m) (Engine.storeLocal m) := by
  exact alike_bind (alike_transaction _ (Txn.alike_accept m none)) fun stored =>
    alike_emitIf _ stored

lemma alike_expire (wanted : Nat) : Alike (Engine.expire wanted) (Engine.expire wanted) := by
  have hold : Txn.Alike (Knows []) (Txn.query (Store.oldMessages wanted))
      (Txn.query (Store.oldMessages wanted)) fun _ => Knows [] := by
    refine Txn.alike_ask fun s t h => ?_
    rw [h.1.byAge]
  refine alike_bind (alike_transaction [] ?_) fun expired => ?_
  · exact Txn.alike_bind hold fun old =>
      Txn.alike_bind (Txn.alike_removeAll old) fun bytes => Txn.alike_pure _
  · exact alike_emitIf _ expired

lemma alike_setRating (a : AuthorId) (rating : Rating) :
    Alike (Engine.setRating a rating) (Engine.setRating a rating) := by
  have hrate : Txn.Alike (Knows []) (Txn.query (Store.setRating a rating))
      (Txn.query (Store.setRating a rating)) fun _ => Knows [] := by
    refine Txn.alike_query (Query.alike_total fun s t h => ?_)
    obtain ⟨hanswer, hafter⟩ := h.1.setRating a rating
    exact ⟨hanswer, h.congr hafter rfl⟩
  have hsendability : Txn.Alike (Knows []) (Txn.query (Store.setSendability a rating.isGood))
      (Txn.query (Store.setSendability a rating.isGood)) fun _ => Knows [] := by
    refine Txn.alike_query (Query.alike_update fun s t h => ?_)
    obtain ⟨hanswer, hafter⟩ := h.1.setSendability a rating.isGood
    exact ⟨hanswer, h.congr hafter rfl⟩
  refine alike_bind (alike_transaction [] ?_) fun old => ?_
  · refine Txn.alike_bind hrate fun old => ?_
    dsimp only
    split
    · exact Txn.alike_bind (Txn.alike_discard hsendability) fun _ => Txn.alike_pure old
    · exact Txn.alike_pure old
  · exact alike_emitIf _ old

lemma alike_reportSent (c : ContactId) (batch : SentBatch) :
    Alike (Engine.reportSent c batch) (Engine.reportSent c batch) := by
  unfold Engine.reportSent
  split
  · exact alike_emit _
  · exact alike_pure ()

lemma alike_sendOldest (c : ContactId) (writer : BatchWriter) (nonce : Nonce) :
    Alike (Engine.sendOldest c writer nonce) (Engine.sendOldest c writer nonce) := by
  have hcandidates : Txn.Alike (Knows [c]) (Txn.query (Store.sendableMessages c writer.capacity))
      (Txn.query (Store.sendableMessages c writer.capacity)) fun _ => Knows [c] := by
    refine Txn.alike_ask fun s t h => ?_
    rw [h.1.eligible]
  have hraw (id : MessageId) : Txn.Alike (Knows [c]) (Txn.query (Store.rawMessage id))
      (Txn.query (Store.rawMessage id)) fun _ => Knows [c] :=
    Txn.alike_ask fun s t h => h.1.rawMessage id
  refine alike_bind alike_clock fun now => ?_
  refine alike_bind (alike_transaction [c] ?_) fun batch => ?_
  · refine Txn.alike_bind (Txn.alike_requireContact c) fun _ => ?_
    refine Txn.alike_bind hcandidates fun candidates => ?_
    refine Txn.alike_bind (Txn.alike_fill hraw candidates writer) fun picked => ?_
    exact Txn.alike_finishBatch List.mem_cons_self _ nonce _ now
  · exact alike_bind (alike_reportSent c batch) fun _ => alike_pure batch

lemma alike_generateBatchFrom (c : ContactId) (writer : BatchWriter) (nonce : Nonce)
    (requested : List MessageId) :
    Alike (Engine.generateBatchFrom c writer nonce requested)
      (Engine.generateBatchFrom c writer nonce requested) := by
  have hraw (id : MessageId) : Txn.Alike (Knows [c]) (Txn.query (Store.rawIfSendable c id))
      (Txn.query (Store.rawIfSendable c id)) fun _ => Knows [c] :=
    Txn.alike_ask fun s t h => h.1.rawIfSendable c id
  refine alike_bind alike_clock fun now => ?_
  refine alike_bind (alike_transaction [c] ?_) fun batch => ?_
  · refine Txn.alike_bind (Txn.alike_requireContact c) fun _ => ?_
    refine Txn.alike_bind (Txn.alike_fill hraw requested.eraseDups writer) fun picked => ?_
    exact Txn.alike_finishBatch List.mem_cons_self _ nonce _ now
  · exact alike_bind (alike_reportSent c batch) fun _ => alike_pure batch

lemma alike_generateAck (c : ContactId) (writer : IdWriter .batch) :
    Alike (Engine.generateAck c writer) (Engine.generateAck c writer) := by
  have hpending : Txn.Alike (Knows [c]) (Txn.query (Store.batchesToAck c))
      (Txn.query (Store.batchesToAck c)) fun _ => Knows [c] :=
    Txn.alike_query (Query.alike_tryRead fun s t h => h.1.batchesToAck c)
  have hsettle (ids : List BatchId) : Txn.Alike (Knows [c])
      (Txn.query (Store.removeBatchesToAck c ids)) (Txn.query (Store.removeBatchesToAck c ids))
      fun _ => Knows [c] :=
    Txn.alike_query (Query.alike_set fun s t h => h.congr (h.1.removeBatchesToAck c ids) rfl)
  refine alike_bind alike_settings fun settings => alike_transaction [c] ?_
  refine Txn.alike_bind (Txn.alike_requireContact c) fun _ => ?_
  refine Txn.alike_bind hpending fun pending => ?_
  exact Txn.alike_bind (Txn.alike_write _) fun _ =>
    Txn.alike_bind (hsettle _) fun _ => Txn.alike_pure _

lemma alike_emitAll (events : List Event) :
    Alike (Engine.emitAll events) (Engine.emitAll events) := by
  induction events with
  | nil => exact alike_pure ()
  | cons e rest ih => exact alike_bind (alike_emit e) fun _ => ih

lemma alike_receiveAck (c : ContactId) (batches : List BatchId) :
    Alike (Engine.receiveAck c batches) (Engine.receiveAck c batches) := by
  refine alike_bind (alike_transaction [c] ?_) fun acked => alike_emitAll _
  exact Txn.alike_bind (Txn.alike_requireContact c) fun _ => Txn.alike_removeAcked c batches

lemma alike_loseBatch (c : ContactId) (cutoff : Int64) (b : BatchId) :
    Alike (Engine.loseBatch c cutoff b) (Engine.loseBatch c cutoff b) := by
  refine alike_bind (alike_askAbout c (Query.alike_update fun s t h => ?_)) fun lost => ?_
  · exact h.removeLostBatch c b cutoff
  · cases lost with
    | none => exact alike_pure false
    | some ids => exact alike_bind (alike_emit _) fun _ => alike_pure true

lemma alike_loseAll (c : ContactId) (cutoff : Int64) (ids : List BatchId) :
    Alike (Engine.loseAll c cutoff (pure ()) ids) (Engine.loseAll c cutoff (pure ()) ids) := by
  induction ids with
  | nil => exact alike_pure []
  | cons b rest ih =>
    refine alike_bind (alike_loseBatch c cutoff b) fun lost => ?_
    cases lost with
    | true => exact alike_bind (alike_pure ()) fun _ => alike_bind ih fun _ => alike_pure _
    | false => exact ih

lemma alike_lostCandidates (c : ContactId) (cutoff : Int64) :
    Alike (Engine.lostCandidates c cutoff) (Engine.lostCandidates c cutoff) := by
  refine alike_askAbout c fun s t h => ⟨?_, fun _ _ => h⟩
  show Except.ok (((s.outstandingOf c).filter _).map _) =
    Except.ok (((t.outstandingOf c).filter _).map _)
  rw [h.outstandingOf]

lemma alike_findLost (c : ContactId) : Alike (Engine.findLost c) (Engine.findLost c) := by
  refine alike_bind alike_settings fun settings => alike_bind alike_clock fun now => ?_
  exact alike_bind (alike_lostCandidates c _) fun candidates => alike_loseAll c _ candidates

lemma alike_generateOffer (c : ContactId) (writer : IdWriter .message) :
    Alike (Engine.generateOffer c writer) (Engine.generateOffer c writer) := by
  have hcandidates : Txn.Alike (Knows [c]) (Txn.query (Store.sendableMessages c Store.unlimited))
      (Txn.query (Store.sendableMessages c Store.unlimited)) fun _ => Knows [c] := by
    refine Txn.alike_ask fun s t h => ?_
    rw [h.1.eligible]
  refine alike_bind alike_settings fun settings => alike_transaction [c] ?_
  refine Txn.alike_bind (Txn.alike_requireContact c) fun _ => ?_
  refine Txn.alike_bind hcandidates fun candidates => ?_
  exact Txn.alike_bind (Txn.alike_write _) fun _ => Txn.alike_pure _

lemma alike_inOfferRound {α : Type} (c : ContactId) {x : Act Relational α} {y : Act Memory α}
    (h : Alike x y) : Alike (Engine.inOfferRound c x) (Engine.inOfferRound c y) := by
  intro t t' ht
  unfold Engine.inOfferRound
  dsimp only
  rw [ht.engine.openOffers]
  split
  · exact ⟨rfl, ht⟩
  · obtain ⟨hanswer, hafter⟩ := h
      { t with engine := { t.engine with openOffers := t'.engine.openOffers.insert c () } }
      { t' with engine := { t'.engine with openOffers := t'.engine.openOffers.insert c () } }
      ⟨⟨ht.engine.store, ht.engine.config, ht.engine.now, ht.engine.gate, rfl⟩, ht.events, ht.sink⟩
    exact ⟨hanswer, ⟨hafter.engine.store, hafter.engine.config, hafter.engine.now,
      hafter.engine.gate, congrArg (·.erase c) hafter.engine.openOffers⟩, hafter.events,
      hafter.sink⟩

lemma alike_receiveOffer (c : ContactId) (offer : List MessageId) :
    Alike (Engine.receiveOffer c offer) (Engine.receiveOffer c offer) := by
  refine alike_bind (alike_inOfferRound c ?_) fun answer => alike_pure answer.1
  refine alike_bind (alike_transaction [c] ?_) fun flags => ?_
  · exact Txn.alike_bind (Txn.alike_requireContact c) fun _ => Txn.alike_flagMissing c offer
  · exact alike_bind (alike_pure ()) fun a => alike_bind (alike_send _) fun _ => alike_pure _

lemma alike_receiveRequest (c : ContactId) (offer : List MessageId) (request : Request)
    (writer : BatchWriter) (nonce : Nonce) :
    Alike (Engine.receiveRequest c offer request writer nonce)
      (Engine.receiveRequest c offer request writer nonce) := by
  unfold Engine.receiveRequest
  cases request.appliedTo offer with
  | error violation => exact alike_throw _
  | ok requested =>
    exact alike_bind (alike_emit _) fun _ => alike_generateBatchFrom c writer nonce requested

lemma alike_generateSubscriptions (c : ContactId) :
    Alike (Engine.generateSubscriptions c) (Engine.generateSubscriptions c) := by
  have hgroups : Txn.Alike (Knows [c]) (Txn.query Store.subscriptions)
      (Txn.query Store.subscriptions) fun _ => Knows [c] :=
    Txn.alike_query (Query.alike_tryRead fun s t h => h.1.subscriptions)
  have hat : Txn.Alike (Knows [c]) (Txn.query Store.subscriptionsTimestamp)
      (Txn.query Store.subscriptionsTimestamp) fun _ => Knows [c] :=
    Txn.alike_ask fun s t h => h.1.subscriptionsAt
  apply alike_transaction [c]
  refine Txn.alike_bind (Txn.alike_requireContact c) fun _ => ?_
  refine Txn.alike_bind hgroups fun groups => Txn.alike_bind hat fun timestamp => ?_
  exact Txn.alike_bind (Txn.alike_send _) fun _ => Txn.alike_pure _

end Act

/-- A plain operation comes to the same over mirrored stores. -/
theorem Operation.alike {α : Type} (operation : Operation α) (h : operation.plain) :
    Act.Alike operation.act operation.act := by
  cases operation with
  | addContact transports =>
    refine Act.alike_bind (Act.alike_ask (Query.alike_update fun s t h => ?_)) fun c => ?_
    · exact h.addContact transports
    · exact Act.alike_bind (Act.alike_emit _) fun _ => Act.alike_pure c
  | removeContact c =>
    refine Act.alike_bind (Act.alike_askAbout c (Query.alike_set fun s t h => ?_)) fun _ =>
      Act.alike_emit _
    exact h.removeContact c
  | contacts =>
    refine Act.alike_ask fun s t h => ⟨?_, fun _ _ => h⟩
    exact congrArg Except.ok h.keys_contacts
  | subscribe g =>
    refine Act.alike_bind Act.alike_clock fun now => ?_
    refine Act.alike_bind (Act.alike_ask (Query.alike_update fun s t h => ?_)) fun added => ?_
    · exact h.addSubscription g now
    · exact Act.alike_emitIf _ added
  | unsubscribe g =>
    refine Act.alike_bind Act.alike_clock fun now => ?_
    refine Act.alike_bind (Act.alike_ask (Query.alike_update fun s t h => ?_)) fun removed => ?_
    · exact h.removeSubscription g now
    · exact Act.alike_emitIf _ removed
  | subscriptions => exact Act.alike_ask (Query.alike_tryRead fun s t h => h.subscriptions)
  | rating a => exact Act.alike_ask (Query.alike_tryRead fun s t h => h.rating a)
  | setRating a r => exact Act.alike_setRating a r
  | addLocal m => exact Act.alike_throughGate (Act.alike_storeLocal m)
  | receiveBatch c batch => exact Act.alike_throughGate (Act.alike_storeBatch c batch)
  | expire wanted => exact Act.alike_expire wanted
  | storedBytes =>
    refine Act.alike_ask fun s t h => ⟨?_, fun _ _ => h⟩
    exact congrArg (fun messages => Except.ok (Message.totalSize messages)) h.allMessages
  | generateBatch c writer nonce =>
    refine Act.alike_bind (Act.alike_sendOldest c writer nonce) fun batch => ?_
    exact Act.alike_pure batch.recorded?
  | generateBatchFrom c writer nonce requested =>
    exact Act.alike_generateBatchFrom c writer nonce requested
  | generateAck c writer => exact Act.alike_generateAck c writer
  | receiveAck c batches => exact Act.alike_receiveAck c batches
  | findLost c => exact Act.alike_findLost c
  | generateOffer c writer => exact Act.alike_generateOffer c writer
  | receiveOffer c offer => exact Act.alike_receiveOffer c offer
  | receiveRequest c offer request writer nonce =>
    exact Act.alike_receiveRequest c offer request writer nonce
  | generateSubscriptions c => exact Act.alike_generateSubscriptions c
  | receiveSubscriptions c update =>
    show Act.Alike (Engine.receiveSubscriptions c update) (Engine.receiveSubscriptions c update)
    unfold Engine.receiveSubscriptions
    split
    · exact Act.alike_throw _
    · refine Act.alike_bind (Act.alike_askAbout c fun s t h => ?_) fun applied => ?_
      · obtain ⟨hanswer, hafter⟩ := h.setSubscriptions c update.groups update.timestamp
        exact ⟨hanswer, fun _ _ => hafter⟩
      · exact Act.alike_emitIf _ applied
  | receiveTransports c update =>
    show Act.Alike (Engine.receiveTransports c update) (Engine.receiveTransports c update)
    unfold Engine.receiveTransports
    split
    · exact Act.alike_throw _
    · refine Act.alike_bind (Act.alike_askAbout c fun s t h => ?_) fun applied => ?_
      · obtain ⟨hanswer, hafter⟩ := h.setTransports c update.properties update.timestamp
        exact ⟨hanswer, fun _ _ => hafter⟩
      · exact Act.alike_emitIf _ applied
  | contactSubscriptions c =>
    refine Act.alike_askAbout c fun s t h => ⟨?_, fun _ _ => h⟩
    exact congrArg Except.ok (h.contactSubscriptions c)
  | setLocalTransports transports =>
    refine Act.alike_bind Act.alike_clock fun now => ?_
    refine Act.alike_bind (Act.alike_ask (Query.alike_set fun s t h => ?_)) fun _ =>
      Act.alike_emit _
    exact h.setLocalTransports transports now
  | generateTransports _ | contactTransports _ | localTransports | addSecrets _ | secrets
  | rotateSecret _ _ _ | removeSecretsBefore _ _ _ | nextOutgoing _ | acceptIncoming _ _
  | unseenConnections _ => cases h

/-! ## Operations that only change secrets -/

/-- A relation between a store and what it may become when only its secrets change. -/
structure SecretsOnly {σ : Type} [Store σ] (R : σ → σ → Prop) : Prop extends Frame R where
  containsContact : ∀ c s, R s (Store.containsContact c s).2
  localTransports : ∀ s, R s (Store.localTransports s).2
  contactTransports : ∀ c s, R s (Store.contactTransports c s).2
  addSecrets : ∀ xs s, R s (Store.addSecrets xs s).2
  secrets : ∀ s, R s (Store.secrets s).2
  secret : ∀ key s, R s (Store.secret key s).2
  incrementConnectionCounter : ∀ key s, R s (Store.incrementConnectionCounter key s).2
  setConnectionWindow : ∀ key window s, R s (Store.setConnectionWindow key window s).2
  removeSecretsBefore : ∀ c t period s, R s (Store.removeSecretsBefore c t period s).2

namespace Act

variable {σ α : Type} {R : σ → σ → Prop}

/-- An engine after an operation that changes its store by `R` only. -/
def Stays (R : σ → σ → Prop) (x : Act σ α) : Prop :=
  ∀ t, ∃ s, R t.engine.store s ∧ (x t).2.engine = { t.engine with store := s }

lemma stays_transaction (hR : Frame R) {x : Txn σ α} (h : Txn.Stays R x) :
    Stays R (transaction x) := by
  intro t
  have hx := h (t.engine.store, t.sink)
  simp only [transaction]
  rcases heq : x (t.engine.store, t.sink) with ⟨e | a, s, sink⟩
  · exact ⟨t.engine.store, hR.refl _, rfl⟩
  · rw [heq] at hx
    exact ⟨s, hx, rfl⟩

end Act

/-- An operation that is not plain changes nothing but secrets. -/
theorem Operation.stays {σ α : Type} [Store σ] {R : σ → σ → Prop} (hR : SecretsOnly R)
    (operation : Operation α) (h : ¬ operation.plain) :
    Act.Stays R (operation.act : Act σ α) := by
  have hF := hR.toFrame
  have hcontact (c : ContactId) : Txn.Stays R (Txn.requireContact c : Txn σ Unit) :=
    Txn.stays_requireContact hF (hR.containsContact c)
  open Txn in
  cases operation with
  | generateTransports c =>
    refine Act.stays_transaction hF (stays_bind hF (hcontact c) fun _ => ?_)
    refine stays_bind hF (stays_query hR.localTransports) fun found => ?_
    exact stays_bind hF (stays_send hF _) fun _ => stays_pure hF _
  | contactTransports c =>
    exact Act.stays_transaction hF (stays_bind hF (hcontact c) fun _ =>
      stays_query (hR.contactTransports c))
  | localTransports =>
    intro t
    obtain ⟨s, hs, heq⟩ := Act.stays_transaction hF (stays_query hR.localTransports) t
    refine ⟨s, hs, ?_⟩
    rw [← heq]
    show (Engine.localTransports t).2.engine = (Act.ask Store.localTransports t).2.engine
    rw [Engine.localTransports, Act.bind_apply]
    rcases Act.ask Store.localTransports t with ⟨e | a, t'⟩ <;> rfl
  | addSecrets xs =>
    exact Act.stays_transaction hF (stays_bind hF (stays_requireAll hF hR.containsContact _)
      fun _ => stays_query (hR.addSecrets xs))
  | secrets => exact Act.stays_transaction hF (stays_query hR.secrets)
  | rotateSecret key period bytes =>
    refine Act.stays_transaction hF (stays_bind hF (hcontact _) fun _ => ?_)
    refine stays_bind hF (stays_requireSecret hF (hR.secret key)) fun secret => ?_
    exact stays_bind hF (stays_query (hR.addSecrets _)) fun _ => stays_pure hF _
  | removeSecretsBefore c transport period =>
    exact Act.stays_transaction hF (stays_bind hF (hcontact c) fun _ =>
      stays_query (hR.removeSecretsBefore c transport period))
  | nextOutgoing key =>
    refine Act.stays_transaction hF (stays_bind hF (hcontact _) fun _ => ?_)
    refine stays_bind hF (stays_query (hR.incrementConnectionCounter key)) fun found => ?_
    split
    · exact stays_pure hF _
    · exact stays_throw hF _
  | acceptIncoming key n =>
    refine Act.stays_transaction hF (stays_bind hF (hcontact _) fun _ => ?_)
    refine stays_bind hF (stays_requireSecret hF (hR.secret key)) fun secret => ?_
    split
    · exact stays_throw hF _
    · exact stays_discard hF (stays_query (hR.setConnectionWindow key _))
  | unseenConnections key =>
    refine Act.stays_transaction hF (stays_bind hF (hcontact _) fun _ => ?_)
    exact stays_bind hF (stays_requireSecret hF (hR.secret key)) fun secret => stays_pure hF _
  | _ => exact absurd rfl h

/-- A store in memory that differs in its secrets only. -/
def Memory.SameButSecrets (t t' : Memory) : Prop := ∃ secrets, t' = { t with secrets }

/-- A relational store that differs in its secrets only. -/
def Relational.SameButSecrets (s s' : Relational) : Prop := ∃ secrets, s' = { s with secrets }

lemma Memory.secretsOnly : SecretsOnly Memory.SameButSecrets where
  refl t := ⟨t.secrets, rfl⟩
  trans := by
    rintro t _ _ ⟨_, rfl⟩ ⟨secrets, rfl⟩
    exact ⟨secrets, rfl⟩
  containsContact _ t := ⟨t.secrets, rfl⟩
  localTransports t := ⟨t.secrets, rfl⟩
  contactTransports _ t := ⟨t.secrets, rfl⟩
  addSecrets _ _ := ⟨_, rfl⟩
  secrets t := ⟨t.secrets, rfl⟩
  secret _ t := ⟨t.secrets, rfl⟩
  incrementConnectionCounter key t := by
    show t.SameButSecrets (t.incrementConnectionCounter key).2
    unfold Memory.incrementConnectionCounter
    split
    · exact ⟨t.secrets, rfl⟩
    · exact ⟨_, rfl⟩
  setConnectionWindow _ _ _ := ⟨_, rfl⟩
  removeSecretsBefore _ _ _ _ := ⟨_, rfl⟩

lemma Relational.sameButSecrets_addSecrets (xs : List Secret) (s : Relational) :
    s.SameButSecrets (s.addSecrets xs).2 := by
  induction xs generalizing s with
  | nil => exact ⟨s.secrets, rfl⟩
  | cons x rest ih =>
    unfold Relational.addSecrets
    split
    · obtain ⟨secrets, heq⟩ := ih { s with secrets := s.secrets.insert x.key.toRaw x.toRow }
      exact ⟨secrets, heq⟩
    · exact ⟨s.secrets, rfl⟩

lemma Relational.secretsOnly : SecretsOnly Relational.SameButSecrets where
  refl s := ⟨s.secrets, rfl⟩
  trans := by
    rintro s _ _ ⟨_, rfl⟩ ⟨secrets, rfl⟩
    exact ⟨secrets, rfl⟩
  containsContact _ s := ⟨s.secrets, rfl⟩
  localTransports s := ⟨s.secrets, rfl⟩
  contactTransports _ s := ⟨s.secrets, rfl⟩
  addSecrets xs s := s.sameButSecrets_addSecrets xs
  secrets s := ⟨s.secrets, rfl⟩
  secret _ s := ⟨s.secrets, rfl⟩
  incrementConnectionCounter key s := by
    show s.SameButSecrets (s.incrementConnectionCounter key).2
    unfold Relational.incrementConnectionCounter
    split
    · exact ⟨s.secrets, rfl⟩
    · dsimp only
      split
      · exact ⟨_, rfl⟩
      · exact ⟨_, rfl⟩
  setConnectionWindow _ _ _ := ⟨_, rfl⟩
  removeSecretsBefore _ _ _ _ := ⟨_, rfl⟩

/-! ## All operations, and steps -/

/-- Every operation keeps engines mirrored. -/
theorem Operation.mirrors {α : Type} (operation : Operation α) {e : Engine Relational}
    {e' : Engine Memory} (h : e.Mirrors e') (sink : Sink) :
    (operation.act.runOn e sink).2.engine.Mirrors (operation.act.runOn e' sink).2.engine := by
  by_cases hplain : operation.plain
  · exact (operation.alike hplain ⟨e, [], sink⟩ ⟨e', [], sink⟩ ⟨h, rfl, rfl⟩).2.engine
  · obtain ⟨s, ⟨rows, rfl⟩, heq⟩ := operation.stays Relational.secretsOnly hplain ⟨e, [], sink⟩
    obtain ⟨t, ⟨secrets, rfl⟩, heq'⟩ := operation.stays Memory.secretsOnly hplain ⟨e', [], sink⟩
    have hengine : (operation.act.runOn e sink).2.engine =
        { e with store := { e.store with secrets := rows } } := heq
    have hengine' : (operation.act.runOn e' sink).2.engine =
        { e' with store := { e'.store with secrets := secrets } } := heq'
    rw [hengine, hengine']
    exact ⟨h.store.setSecrets rows secrets, h.config, h.now, h.gate, h.openOffers⟩

namespace Engine.Mirrors

variable {e : Engine Relational} {e' : Engine Memory}

lemma start (config : SyncConfig) (now : Int64) :
    (Engine.start Relational.empty config now).Mirrors (Engine.start Memory.empty config now) :=
  ⟨Relational.Mirrors.empty, rfl, rfl, rfl, rfl⟩

lemma step (h : e.Mirrors e') (step : Step) : (e.step step).Mirrors (e'.step step) := by
  cases step with
  | perform operation sink => exact operation.mirrors h sink
  | setClock now => exact ⟨h.store, h.config, rfl, h.gate, h.openOffers⟩
  | setGate gate => exact ⟨h.store, h.config, h.now, rfl, h.openOffers⟩

end Engine.Mirrors

end MessageSync
