import MessageSync.Proofs.Engine.Basic
import MessageSync.Proofs.Store.Frame
import MessageSync.Store.Relational

/-!
# What operations leave alone

A relation between a store and what it may become, such as that some of its tables stay as
they are, holds for a transaction if it holds for each query, as long as steps can be put
together (`Frame`). Operations are followed in this way along their own code, over every
kind of store.

All but six operations spare the secrets: they ask none of the queries that change them,
so that what the other queries do to a store is all that has to be known
(`Operation.within`).
-/

namespace MessageSync

/-- A relation between a store and what it may become, one step after the other. -/
structure Frame {σ : Type} (R : σ → σ → Prop) : Prop where
  refl : ∀ s, R s s
  trans : ∀ {s s' s''}, R s s' → R s' s'' → R s s''

/-! ## Transactions -/

/-- A transaction that changes its store by `R` only. -/
def Txn.Stays {σ α : Type} (R : σ → σ → Prop) (x : Txn σ α) : Prop :=
  ∀ st, R st.1 (x st).2.1

namespace Txn

variable {σ α β : Type} {R : σ → σ → Prop}

lemma stays_pure (hR : Frame R) (a : α) : Stays R (pure a : Txn σ α) :=
  fun st => hR.refl st.1

lemma stays_throw (hR : Frame R) (e : SyncError) : Stays R (throw e : Txn σ α) :=
  fun st => hR.refl st.1

lemma stays_bind (hR : Frame R) {x : Txn σ α} {f : α → Txn σ β} (h : Stays R x)
    (hf : ∀ a, Stays R (f a)) : Stays R (x >>= f) := by
  intro st
  have hx := h st
  rw [bind_apply]
  rcases heq : x st with ⟨e | a, st'⟩
  · rw [heq] at hx
    exact hx
  · rw [heq] at hx
    exact hR.trans hx (hf a st')

lemma stays_query {q : Query σ α} (h : ∀ s, R s (q s).2) : Stays R (query q) := by
  intro st
  have hq := h st.1
  simp only [query]
  rcases heq : q st.1 with ⟨e | a, s'⟩
  · rw [heq] at hq
    exact hq
  · rw [heq] at hq
    exact hq

lemma stays_write (hR : Frame R) (f : Sink → Except SinkError α × Sink) :
    Stays R (write f : Txn σ α) := by
  intro st
  simp only [write]
  rcases f st.2 with ⟨e | _, sink⟩
  · exact hR.refl st.1
  · exact hR.refl st.1

lemma stays_send (hR : Frame R) (packet : Packet) : Stays R (send packet : Txn σ Unit) :=
  stays_write hR _

lemma stays_discard (hR : Frame R) {x : Txn σ α} (h : Stays R x) :
    Stays R (discard x : Txn σ Unit) := by
  show Stays R ((fun _ => ()) <$> x)
  rw [map_eq_pure_bind]
  exact stays_bind hR h fun _ => stays_pure hR ()

lemma stays_fill (hR : Frame R) {find : MessageId → Query σ (Option Bytes)}
    (h : ∀ id s, R s (find id s).2) (ids : List MessageId) (writer : BatchWriter) :
    Stays R (Engine.fill find writer ids) := by
  induction ids generalizing writer with
  | nil => exact stays_pure hR _
  | cons id rest ih =>
    refine stays_bind hR (stays_query (h id)) fun found => ?_
    cases found with
    | none => exact ih writer
    | some raw =>
      dsimp only
      cases writer.write raw with
      | none => exact stays_pure hR _
      | some writer' => exact stays_bind hR (ih writer') fun _ => stays_pure hR _

variable [Store σ]

lemma stays_requireContact (hR : Frame R) {c : ContactId}
    (h : ∀ s, R s (Store.containsContact c s).2) : Stays R (requireContact c : Txn σ Unit) := by
  refine stays_bind hR (stays_query h) fun found => ?_
  split
  · exact stays_pure hR ()
  · exact stays_throw hR _

lemma stays_requireAll (hR : Frame R) (h : ∀ c s, R s (Store.containsContact c s).2)
    (contacts : List ContactId) : Stays R (Engine.requireAll contacts : Txn σ Unit) := by
  induction contacts with
  | nil => exact stays_pure hR ()
  | cons c rest ih => exact stays_bind hR (stays_requireContact hR (h c)) fun _ => ih

lemma stays_requireSecret (hR : Frame R) {key : SecretKey}
    (h : ∀ s, R s (Store.secret key s).2) : Stays R (Engine.requireSecret key : Txn σ Secret) := by
  refine stays_bind hR (stays_query h) fun found => ?_
  split
  · exact stays_pure hR _
  · exact stays_throw hR _

end Txn

/-! ## Operations -/

/-- An operation that changes the store of its engine by `R` only. -/
def Act.Within {σ α : Type} (R : σ → σ → Prop) (x : Act σ α) : Prop :=
  ∀ t, R t.engine.store (x t).2.engine.store

namespace Act

variable {σ α β : Type} {R : σ → σ → Prop}

lemma within_pure (hR : Frame R) (a : α) : Within R (pure a : Act σ α) :=
  fun t => hR.refl t.engine.store

lemma within_throw (hR : Frame R) (e : SyncError) : Within R (throw e : Act σ α) :=
  fun t => hR.refl t.engine.store

lemma within_bind (hR : Frame R) {x : Act σ α} {f : α → Act σ β} (h : Within R x)
    (hf : ∀ a, Within R (f a)) : Within R (x >>= f) := by
  intro t
  have hx := h t
  rw [bind_apply]
  rcases heq : x t with ⟨e | a, t'⟩
  · rw [heq] at hx
    exact hx
  · rw [heq] at hx
    exact hR.trans hx (hf a t')

lemma within_emit (hR : Frame R) (e : Event) : Within R (emit e : Act σ Unit) :=
  fun t => hR.refl t.engine.store

/-- An event may be reported in some cases only. -/
lemma within_emitIf (hR : Frame R) {p : Prop} [Decidable p] (e : Event) (a : α) :
    Within R (if p then emit e >>= fun _ => pure a else pure a : Act σ α) := by
  split
  · exact within_bind hR (within_emit hR e) fun _ => within_pure hR a
  · exact within_pure hR a

lemma within_reportSent (hR : Frame R) (c : ContactId) (batch : SentBatch) :
    Within R (Engine.reportSent c batch : Act σ Unit) := by
  unfold Engine.reportSent
  split
  · exact within_emit hR _
  · exact within_pure hR ()

lemma within_clock (hR : Frame R) : Within R (clock : Act σ Int64) :=
  fun t => hR.refl t.engine.store

lemma within_settings (hR : Frame R) : Within R (settings : Act σ SyncConfig) :=
  fun t => hR.refl t.engine.store

lemma within_send (hR : Frame R) (packet : Packet) : Within R (send packet : Act σ Unit) := by
  intro t
  simp only [send]
  rcases t.sink.send packet with ⟨e | _, sink⟩
  · exact hR.refl t.engine.store
  · exact hR.refl t.engine.store

/-- A transaction that fails leaves the store as it is. -/
lemma within_transaction (hR : Frame R) {x : Txn σ α} (h : Txn.Stays R x) :
    Within R (transaction x) := by
  intro t
  have hx := h (t.engine.store, t.sink)
  simp only [transaction]
  rcases heq : x (t.engine.store, t.sink) with ⟨e | a, s, sink⟩
  · exact hR.refl t.engine.store
  · rw [heq] at hx
    exact hx

lemma within_ask (hR : Frame R) {q : Query σ α} (h : ∀ s, R s (q s).2) : Within R (ask q) :=
  within_transaction hR (Txn.stays_query h)

lemma within_throughGate (hR : Frame R) {x : Act σ α} (h : Within R x) :
    Within R (throughGate x) := by
  intro t
  rw [throughGate_apply]
  cases t.engine.gate with
  | paused => exact hR.refl t.engine.store
  | closed => exact hR.refl t.engine.store
  | opened => exact h t

lemma within_inOfferRound (hR : Frame R) (c : ContactId) {x : Act σ α} (h : Within R x) :
    Within R (Engine.inOfferRound c x) := by
  intro t
  unfold Engine.inOfferRound
  dsimp only
  split
  · exact hR.refl t.engine.store
  · exact h { t with engine := { t.engine with openOffers := t.engine.openOffers.insert c () } }

lemma within_emitAll (hR : Frame R) (events : List Event) :
    Within R (Engine.emitAll events : Act σ Unit) := by
  induction events with
  | nil => exact within_pure hR ()
  | cons e rest ih => exact within_bind hR (within_emit hR e) fun _ => ih

variable [Store σ]

lemma within_askAbout (hR : Frame R) {c : ContactId} {q : Query σ α}
    (hc : ∀ s, R s (Store.containsContact c s).2) (h : ∀ s, R s (q s).2) :
    Within R (askAbout c q) :=
  within_transaction hR
    (Txn.stays_bind hR (Txn.stays_requireContact hR hc) fun _ => Txn.stays_query h)

end Act

/-! ## Operations that spare the secrets -/

/-- Whether an operation spares the secrets, so that they all stay as they are. -/
def Operation.sparesSecrets : {α : Type} → Operation α → Bool
  | _, .removeContact _ | _, .addSecrets _ | _, .rotateSecret _ _ _
  | _, .removeSecretsBefore _ _ _ | _, .nextOutgoing _ | _, .acceptIncoming _ _ => false
  | _, _ => true

/-- A relation between a store and what queries that spare the secrets may make of it. -/
structure Sparing {σ : Type} [Store σ] (R : σ → σ → Prop) : Prop extends Frame R where
  addContact : ∀ transports s, R s (Store.addContact transports s).2
  containsContact : ∀ c s, R s (Store.containsContact c s).2
  contacts : ∀ s, R s (Store.contacts s).2
  addSubscription : ∀ g now s, R s (Store.addSubscription g now s).2
  containsSubscription : ∀ g s, R s (Store.containsSubscription g s).2
  subscriptions : ∀ s, R s (Store.subscriptions s).2
  subscriptionsTimestamp : ∀ s, R s (Store.subscriptionsTimestamp s).2
  removeSubscription : ∀ g now s, R s (Store.removeSubscription g now s).2
  setSubscriptions : ∀ c groups timestamp s, R s (Store.setSubscriptions c groups timestamp s).2
  contactSubscriptions : ∀ c s, R s (Store.contactSubscriptions c s).2
  setLocalTransports : ∀ transports now s, R s (Store.setLocalTransports transports now s).2
  localTransports : ∀ s, R s (Store.localTransports s).2
  setTransports : ∀ c transports timestamp s, R s (Store.setTransports c transports timestamp s).2
  contactTransports : ∀ c s, R s (Store.contactTransports c s).2
  addMessage : ∀ m sender s, R s (Store.addMessage m sender s).2
  rawMessage : ∀ id s, R s (Store.rawMessage id s).2
  rawIfSendable : ∀ c id s, R s (Store.rawIfSendable c id s).2
  sendableMessages : ∀ c capacity s, R s (Store.sendableMessages c capacity s).2
  oldMessages : ∀ size s, R s (Store.oldMessages size s).2
  totalMessageSize : ∀ s, R s (Store.totalMessageSize s).2
  removeMessage : ∀ id s, R s (Store.removeMessage id s).2
  setSeenIfVisible : ∀ c id s, R s (Store.setSeenIfVisible c id s).2
  rating : ∀ a s, R s (Store.rating a s).2
  setRating : ∀ a rating s, R s (Store.setRating a rating s).2
  setSendability : ∀ a sendable s, R s (Store.setSendability a sendable s).2
  addOutstandingBatch : ∀ c id messages sentAt s,
    R s (Store.addOutstandingBatch c id messages sentAt s).2
  lostBatches : ∀ c cutoff s, R s (Store.lostBatches c cutoff s).2
  removeAckedBatch : ∀ c id s, R s (Store.removeAckedBatch c id s).2
  removeLostBatch : ∀ c id cutoff s, R s (Store.removeLostBatch c id cutoff s).2
  addBatchToAck : ∀ c id s, R s (Store.addBatchToAck c id s).2
  batchesToAck : ∀ c s, R s (Store.batchesToAck c s).2
  removeBatchesToAck : ∀ c ids s, R s (Store.removeBatchesToAck c ids s).2
  secrets : ∀ s, R s (Store.secrets s).2
  secret : ∀ key s, R s (Store.secret key s).2

namespace Sparing

variable {σ : Type} [Store σ] {R : σ → σ → Prop}

open Txn Act

lemma requireContact (hR : Sparing R) (c : ContactId) :
    Stays R (Txn.requireContact c : Txn σ Unit) :=
  stays_requireContact hR.toFrame (hR.containsContact c)

lemma accept (hR : Sparing R) (m : Message) (sender : Option ContactId) :
    Stays R (Engine.accept m sender : Txn σ Bool) := by
  refine stays_bind hR.toFrame (stays_query (hR.containsSubscription _)) fun subscribed => ?_
  cases subscribed with
  | true => exact stays_query (hR.addMessage m sender)
  | false => exact stays_pure hR.toFrame false

lemma acceptAll (hR : Sparing R) (c : ContactId) (messages : List Message) :
    Stays R (Engine.acceptAll c messages : Txn σ Nat) := by
  induction messages with
  | nil => exact stays_pure hR.toFrame 0
  | cons m rest ih =>
    refine stays_bind hR.toFrame (hR.accept m (some c)) fun new => ?_
    cases new with
    | true => exact stays_bind hR.toFrame ih fun n => stays_pure hR.toFrame _
    | false =>
      have hseen := stays_discard hR.toFrame (stays_query (hR.setSeenIfVisible c m.id))
      exact stays_bind hR.toFrame hseen fun _ => ih

lemma removeAll (hR : Sparing R) (ids : List MessageId) :
    Stays R (Engine.removeAll ids : Txn σ Nat) := by
  induction ids with
  | nil => exact stays_pure hR.toFrame 0
  | cons id rest ih =>
    refine stays_bind hR.toFrame (stays_query (hR.rawMessage id)) fun raw => ?_
    refine stays_bind hR.toFrame (stays_query (hR.removeMessage id)) fun _ => ?_
    exact stays_bind hR.toFrame ih fun n => stays_pure hR.toFrame _

lemma finishBatch (hR : Sparing R) (c : ContactId) (writer : BatchWriter) (nonce : Nonce)
    (sent : List MessageId) (now : Int64) :
    Stays R (Engine.finishBatch c writer nonce sent now : Txn σ SentBatch) := by
  refine stays_bind hR.toFrame (stays_write hR.toFrame _) fun id => ?_
  split
  · have hadd := stays_query (hR.addOutstandingBatch c id sent now)
    exact stays_bind hR.toFrame hadd fun _ => stays_pure hR.toFrame _
  · exact stays_pure hR.toFrame _

lemma removeAcked (hR : Sparing R) (c : ContactId) (ids : List BatchId) :
    Stays R (Engine.removeAcked c ids : Txn σ (List BatchId)) := by
  induction ids with
  | nil => exact stays_pure hR.toFrame []
  | cons id rest ih =>
    refine stays_bind hR.toFrame (stays_query (hR.removeAckedBatch c id)) fun seen => ?_
    exact stays_bind hR.toFrame ih fun acked => stays_pure hR.toFrame _

lemma flagMissing (hR : Sparing R) (c : ContactId) (offer : List MessageId) :
    Stays R (Engine.flagMissing c offer : Txn σ (List Bool)) := by
  induction offer with
  | nil => exact stays_pure hR.toFrame []
  | cons id rest ih =>
    refine stays_bind hR.toFrame (stays_query (hR.setSeenIfVisible c id)) fun visible => ?_
    exact stays_bind hR.toFrame ih fun flags => stays_pure hR.toFrame _

lemma generateBatchFrom (hR : Sparing R) (c : ContactId) (writer : BatchWriter) (nonce : Nonce)
    (requested : List MessageId) :
    Within R (Engine.generateBatchFrom c writer nonce requested : Act σ SentBatch) := by
  refine within_bind hR.toFrame (within_clock hR.toFrame) fun now => ?_
  refine within_bind hR.toFrame (within_transaction hR.toFrame ?_) fun batch => ?_
  · refine stays_bind hR.toFrame (hR.requireContact c) fun _ => ?_
    refine stays_bind hR.toFrame (stays_fill hR.toFrame (hR.rawIfSendable c) _ _) fun picked => ?_
    exact hR.finishBatch c _ nonce _ now
  · exact within_bind hR.toFrame (within_reportSent hR.toFrame c batch) fun _ =>
      within_pure hR.toFrame batch

lemma loseBatch (hR : Sparing R) (c : ContactId) (cutoff : Int64) (id : BatchId) :
    Within R (Engine.loseBatch c cutoff id : Act σ Bool) := by
  have hask := within_askAbout hR.toFrame (hR.containsContact c) (hR.removeLostBatch c id cutoff)
  refine within_bind hR.toFrame hask fun lost => ?_
  cases lost with
  | none => exact within_pure hR.toFrame false
  | some ids =>
    exact within_bind hR.toFrame (within_emit hR.toFrame _) fun _ => within_pure hR.toFrame true

lemma loseAll (hR : Sparing R) (c : ContactId) (cutoff : Int64) (ids : List BatchId) :
    Within R (Engine.loseAll c cutoff (pure ()) ids : Act σ (List BatchId)) := by
  induction ids with
  | nil => exact within_pure hR.toFrame []
  | cons id rest ih =>
    refine within_bind hR.toFrame (hR.loseBatch c cutoff id) fun lost => ?_
    cases lost with
    | true =>
      refine within_bind hR.toFrame (within_pure hR.toFrame ()) fun _ => ?_
      exact within_bind hR.toFrame ih fun _ => within_pure hR.toFrame _
    | false => exact ih

end Sparing

/-- An operation that spares the secrets does to a store what its queries do. -/
theorem Operation.within {σ α : Type} [Store σ] {R : σ → σ → Prop} (hR : Sparing R)
    (operation : Operation α) (h : operation.sparesSecrets) :
    Act.Within R (operation.act : Act σ α) := by
  have hF := hR.toFrame
  open Txn Act in
  cases operation with
  | addContact transports =>
    refine within_bind hF (within_ask hF (hR.addContact transports)) fun c => ?_
    exact within_bind hF (within_emit hF _) fun _ => within_pure hF c
  | contacts => exact within_ask hF hR.contacts
  | subscribe g =>
    refine within_bind hF (within_clock hF) fun now => ?_
    exact within_bind hF (within_ask hF (hR.addSubscription g now)) fun added =>
      within_emitIf hF _ _
  | unsubscribe g =>
    refine within_bind hF (within_clock hF) fun now => ?_
    exact within_bind hF (within_ask hF (hR.removeSubscription g now)) fun removed =>
      within_emitIf hF _ _
  | subscriptions => exact within_ask hF hR.subscriptions
  | rating a => exact within_ask hF (hR.rating a)
  | setRating a rating =>
    refine within_bind hF (within_transaction hF ?_) fun old => ?_
    · refine stays_bind hF (stays_query (hR.setRating a rating)) fun old => ?_
      dsimp only
      split
      · have hset := stays_discard hF (stays_query (hR.setSendability a rating.isGood))
        exact stays_bind hF hset fun _ => stays_pure hF old
      · exact stays_pure hF old
    · exact within_emitIf hF _ _
  | addLocal m =>
    refine within_throughGate hF ?_
    exact within_bind hF (within_transaction hF (hR.accept m none)) fun stored =>
      within_emitIf hF _ _
  | receiveBatch c batch =>
    refine within_throughGate hF ?_
    refine within_bind hF (within_transaction hF ?_) fun stored => ?_
    · refine stays_bind hF (hR.requireContact c) fun _ => ?_
      refine stays_bind hF (hR.acceptAll c batch.messages) fun stored => ?_
      exact stays_bind hF (stays_query (hR.addBatchToAck c batch.id)) fun _ => stays_pure hF stored
    · exact within_emitIf hF _ _
  | expire wanted =>
    refine within_bind hF (within_transaction hF ?_) fun expired => ?_
    · refine stays_bind hF (stays_query (hR.oldMessages wanted)) fun old => ?_
      exact stays_bind hF (hR.removeAll old) fun bytes => stays_pure hF _
    · exact within_emitIf hF _ _
  | storedBytes => exact within_ask hF hR.totalMessageSize
  | generateBatch c writer nonce =>
    refine within_bind hF ?_ fun batch => within_pure hF batch.recorded?
    refine within_bind hF (within_clock hF) fun now => ?_
    refine within_bind hF (within_transaction hF ?_) fun batch => ?_
    · refine stays_bind hF (hR.requireContact c) fun _ => ?_
      refine stays_bind hF (stays_query (hR.sendableMessages c _)) fun candidates => ?_
      refine stays_bind hF (stays_fill hF hR.rawMessage _ _) fun picked => ?_
      exact hR.finishBatch c _ nonce _ now
    · exact within_bind hF (within_reportSent hF c batch) fun _ => within_pure hF batch
  | generateBatchFrom c writer nonce requested =>
    exact hR.generateBatchFrom c writer nonce requested
  | generateAck c writer =>
    refine within_bind hF (within_settings hF) fun config => within_transaction hF ?_
    refine stays_bind hF (hR.requireContact c) fun _ => ?_
    refine stays_bind hF (stays_query (hR.batchesToAck c)) fun pending => ?_
    refine stays_bind hF (stays_write hF _) fun _ => ?_
    exact stays_bind hF (stays_query (hR.removeBatchesToAck c _)) fun _ => stays_pure hF _
  | receiveAck c batches =>
    refine within_bind hF (within_transaction hF ?_) fun acked => within_emitAll hF _
    exact stays_bind hF (hR.requireContact c) fun _ => hR.removeAcked c batches
  | findLost c =>
    refine within_bind hF (within_settings hF) fun config => ?_
    refine within_bind hF (within_clock hF) fun now => ?_
    refine within_bind hF ?_ fun candidates => hR.loseAll c _ candidates
    exact within_askAbout hF (hR.containsContact c) (hR.lostBatches c _)
  | generateOffer c writer =>
    refine within_bind hF (within_settings hF) fun config => within_transaction hF ?_
    refine stays_bind hF (hR.requireContact c) fun _ => ?_
    refine stays_bind hF (stays_query (hR.sendableMessages c _)) fun candidates => ?_
    exact stays_bind hF (stays_write hF _) fun _ => stays_pure hF _
  | receiveOffer c offer =>
    refine within_bind hF (within_inOfferRound hF c ?_) fun answer => within_pure hF _
    refine within_bind hF (within_transaction hF ?_) fun flags => ?_
    · exact stays_bind hF (hR.requireContact c) fun _ => hR.flagMissing c offer
    · refine within_bind hF (within_pure hF ()) fun _ => ?_
      exact within_bind hF (within_send hF _) fun _ => within_pure hF _
  | receiveRequest c offer request writer nonce =>
    show Within R (Engine.receiveRequest c offer request writer nonce)
    unfold Engine.receiveRequest
    split
    · exact within_throw hF _
    · exact within_bind hF (within_emit hF _) fun _ => hR.generateBatchFrom c writer nonce _
  | generateSubscriptions c =>
    refine within_transaction hF (stays_bind hF (hR.requireContact c) fun _ => ?_)
    refine stays_bind hF (stays_query hR.subscriptions) fun groups => ?_
    refine stays_bind hF (stays_query hR.subscriptionsTimestamp) fun timestamp => ?_
    exact stays_bind hF (stays_send hF _) fun _ => stays_pure hF _
  | generateTransports c =>
    refine within_transaction hF (stays_bind hF (hR.requireContact c) fun _ => ?_)
    refine stays_bind hF (stays_query hR.localTransports) fun found => ?_
    exact stays_bind hF (stays_send hF _) fun _ => stays_pure hF _
  | receiveSubscriptions c update =>
    show Within R (Engine.receiveSubscriptions c update)
    unfold Engine.receiveSubscriptions
    split
    · exact within_throw hF _
    · have hset := within_askAbout hF (hR.containsContact c)
        (hR.setSubscriptions c update.groups update.timestamp)
      exact within_bind hF hset fun applied => within_emitIf hF _ _
  | receiveTransports c update =>
    show Within R (Engine.receiveTransports c update)
    unfold Engine.receiveTransports
    split
    · exact within_throw hF _
    · have hset := within_askAbout hF (hR.containsContact c)
        (hR.setTransports c update.properties update.timestamp)
      exact within_bind hF hset fun applied => within_emitIf hF _ _
  | contactSubscriptions c =>
    exact within_askAbout hF (hR.containsContact c) (hR.contactSubscriptions c)
  | contactTransports c =>
    exact within_askAbout hF (hR.containsContact c) (hR.contactTransports c)
  | setLocalTransports transports =>
    refine within_bind hF (within_clock hF) fun now => ?_
    refine within_bind hF (within_ask hF (hR.setLocalTransports transports now)) fun _ => ?_
    exact within_emit hF _
  | localTransports =>
    exact within_bind hF (within_ask hF hR.localTransports) fun _ => within_pure hF _
  | secrets => exact within_ask hF hR.secrets
  | unseenConnections key =>
    refine within_transaction hF (stays_bind hF (hR.requireContact _) fun _ => ?_)
    exact stays_bind hF (stays_requireSecret hF (hR.secret key)) fun _ => stays_pure hF _
  | removeContact _ | addSecrets _ | rotateSecret _ _ _ | removeSecretsBefore _ _ _
  | nextOutgoing _ | acceptIncoming _ _ => cases h

/-! ## What is spared in either store -/

/-- Over a store in memory, the secrets are left as they are. -/
lemma Memory.sparing : Sparing fun s s' : Memory => s'.secrets = s.secrets where
  refl _ := rfl
  trans h h' := h'.trans h
  addContact _ _ := rfl
  containsContact _ _ := rfl
  contacts _ := rfl
  addSubscription g now s := by
    show (s.addSubscription g now).2.secrets = _
    unfold Memory.addSubscription
    split <;> rfl
  containsSubscription _ _ := rfl
  subscriptions _ := rfl
  subscriptionsTimestamp _ := rfl
  removeSubscription g now s := by
    show (s.change (.unsubscribe g now)).secrets = s.secrets
    exact Memory.secrets_change (by simp [Change.parts])
  setSubscriptions c groups timestamp s := by
    show (s.change (.share c groups timestamp)).secrets = s.secrets
    exact Memory.secrets_change (by simp [Change.parts])
  contactSubscriptions _ _ := rfl
  setLocalTransports _ _ _ := rfl
  localTransports _ := rfl
  setTransports c transports timestamp s := by
    show (s.change (.setTransports c transports timestamp)).secrets = s.secrets
    exact Memory.secrets_change (by simp [Change.parts])
  contactTransports _ _ := rfl
  addMessage m sender s := by
    show (s.addMessage m sender).2.secrets = _
    unfold Memory.addMessage
    split <;> rfl
  rawMessage _ _ := rfl
  rawIfSendable _ _ _ := rfl
  sendableMessages _ _ _ := rfl
  oldMessages _ _ := rfl
  totalMessageSize _ := rfl
  removeMessage _ _ := rfl
  setSeenIfVisible _ _ _ := rfl
  rating _ _ := rfl
  setRating _ _ _ := rfl
  setSendability _ _ _ := rfl
  addOutstandingBatch _ _ _ _ _ := rfl
  lostBatches _ _ _ := rfl
  removeAckedBatch c id s := by
    show (s.change (.ack c id)).secrets = s.secrets
    exact Memory.secrets_change (by simp [Change.parts])
  removeLostBatch c id cutoff s := by
    show (s.change (.lose c id cutoff)).secrets = s.secrets
    exact Memory.secrets_change (by simp [Change.parts])
  addBatchToAck _ _ _ := rfl
  batchesToAck _ _ := rfl
  removeBatchesToAck _ _ _ := rfl
  secrets _ := rfl
  secret _ _ := rfl

namespace Relational

/-- Whether the rows of secrets, and the versions, are left as they are. -/
structure Spares (s s' : Relational) : Prop where
  secrets : s'.secrets = s.secrets
  versions : s'.versions = s.versions

lemma sparing : Sparing Spares where
  refl _ := ⟨rfl, rfl⟩
  trans h h' := ⟨h'.secrets.trans h.secrets, h'.versions.trans h.versions⟩
  addContact _ _ := ⟨rfl, rfl⟩
  containsContact _ _ := ⟨rfl, rfl⟩
  contacts _ := ⟨rfl, rfl⟩
  addSubscription g now s := by
    show s.Spares (s.addSubscription g now).2
    unfold addSubscription
    split <;> exact ⟨rfl, rfl⟩
  containsSubscription _ _ := ⟨rfl, rfl⟩
  subscriptions _ := ⟨rfl, rfl⟩
  subscriptionsTimestamp _ := ⟨rfl, rfl⟩
  removeSubscription g now s := by
    show s.Spares (s.removeSubscription g now).2
    unfold removeSubscription
    split <;> exact ⟨rfl, rfl⟩
  setSubscriptions c groups timestamp s := by
    show s.Spares (s.setSubscriptions c groups timestamp).2
    unfold setSubscriptions
    split
    · exact ⟨rfl, rfl⟩
    · dsimp only
      split <;> exact ⟨rfl, rfl⟩
  contactSubscriptions _ _ := ⟨rfl, rfl⟩
  setLocalTransports _ _ _ := ⟨rfl, rfl⟩
  localTransports _ := ⟨rfl, rfl⟩
  setTransports c transports timestamp s := by
    show s.Spares (s.setTransports c transports timestamp).2
    unfold setTransports
    split
    · exact ⟨rfl, rfl⟩
    · dsimp only
      split <;> exact ⟨rfl, rfl⟩
  contactTransports _ _ := ⟨rfl, rfl⟩
  addMessage m sender s := by
    show s.Spares (s.addMessage m sender).2
    unfold addMessage
    split
    · exact ⟨rfl, rfl⟩
    · dsimp only
      split <;> exact ⟨rfl, rfl⟩
  rawMessage _ _ := ⟨rfl, rfl⟩
  rawIfSendable _ _ _ := ⟨rfl, rfl⟩
  sendableMessages _ _ _ := ⟨rfl, rfl⟩
  oldMessages _ _ := ⟨rfl, rfl⟩
  totalMessageSize _ := ⟨rfl, rfl⟩
  removeMessage _ _ := ⟨rfl, rfl⟩
  setSeenIfVisible _ _ _ := ⟨rfl, rfl⟩
  rating _ _ := ⟨rfl, rfl⟩
  setRating a rating s := by
    show s.Spares (s.setRating a rating).2
    unfold setRating
    split <;> exact ⟨rfl, rfl⟩
  setSendability _ _ _ := ⟨rfl, rfl⟩
  addOutstandingBatch c id messages sentAt s := by
    show s.Spares (s.addOutstandingBatch c id messages sentAt).2
    unfold addOutstandingBatch
    split <;> exact ⟨rfl, rfl⟩
  lostBatches _ _ _ := ⟨rfl, rfl⟩
  removeAckedBatch c id s := by
    show s.Spares (s.removeAckedBatch c id).2
    unfold removeAckedBatch
    split <;> exact ⟨rfl, rfl⟩
  removeLostBatch c id cutoff s := by
    show s.Spares (s.removeLostBatch c id cutoff).2
    unfold removeLostBatch
    split
    · exact ⟨rfl, rfl⟩
    · split <;> exact ⟨rfl, rfl⟩
  addBatchToAck c id s := by
    show s.Spares (s.addBatchToAck c id).2
    unfold addBatchToAck
    split <;> exact ⟨rfl, rfl⟩
  batchesToAck _ _ := ⟨rfl, rfl⟩
  removeBatchesToAck _ _ _ := ⟨rfl, rfl⟩
  secrets _ := ⟨rfl, rfl⟩
  secret _ _ := ⟨rfl, rfl⟩

end Relational

end MessageSync
