import MessageSync.Proofs.Engine.Backend

/-!
# Operations that fail

An operation that fails leaves its engine as it was. Most operations change the store in a
single transaction and cannot fail after it, so that this follows from what they are made
of: those that report nothing before the transaction leave nothing but bytes in the sink
(`Act.Restores`), and all of them leave the engine alone (`Act.Atomic`). A search for lost
batches takes several transactions, but only the first one can fail while nothing is done in
between.

The one exception is an offer. It is committed before the request is written, so that what
is left of an offer whose request could not be written is what a successful answer leaves.
The round of the offer is over either way (`Backend.unwinds_of_error`).
-/

namespace MessageSync

/-! ## Operations made of a single transaction -/

namespace Act

variable {σ α β : Type}

/-- An operation that leaves its engine as it was if it fails. -/
def Atomic (x : Act σ α) : Prop := ∀ t e, (x t).1 = .error e → (x t).2.engine = t.engine

/-- An operation that leaves nothing behind if it fails, but for what it wrote. -/
def Restores (x : Act σ α) : Prop :=
  ∀ t e, (x t).1 = .error e → ∃ sink, (x t).2 = { t with sink }

/-- An operation that never fails. -/
def Answers (x : Act σ α) : Prop := ∀ t, ∃ a, (x t).1 = .ok a

lemma answers_pure (a : α) : Answers (pure a : Act σ α) := fun _ => ⟨a, rfl⟩

lemma answers_emit (e : Event) : Answers (emit e : Act σ Unit) := fun _ => ⟨(), rfl⟩

lemma answers_emitAll (events : List Event) : Answers (Engine.emitAll events : Act σ Unit) := by
  intro t
  rw [emitAll_apply]
  exact ⟨(), rfl⟩

lemma answers_bind {x : Act σ α} {f : α → Act σ β} (h : Answers x) (hf : ∀ a, Answers (f a)) :
    Answers (x >>= f) := by
  intro t
  obtain ⟨a, ha⟩ := h t
  rw [bind_apply]
  rcases heq : x t with ⟨e | b, t'⟩
  · rw [heq] at ha
    cases ha
  · exact hf b t'

lemma answers_emitIf {p : Prop} [Decidable p] (e : Event) (a : α) :
    Answers (if p then emit e >>= fun _ => pure a else pure a : Act σ α) := by
  split
  · exact answers_bind (answers_emit e) fun _ => answers_pure a
  · exact answers_pure a

lemma answers_reportSent (c : ContactId) (batch : SentBatch) :
    Answers (Engine.reportSent c batch >>= fun _ => pure batch : Act σ SentBatch) := by
  refine answers_bind ?_ fun _ => answers_pure batch
  unfold Engine.reportSent
  split
  · exact answers_emit _
  · exact answers_pure ()

lemma Restores.atomic {x : Act σ α} (h : Restores x) : Atomic x := by
  intro t e he
  obtain ⟨sink, hsink⟩ := h t e he
  rw [hsink]

lemma restores_throw (e : SyncError) : Restores (throw e : Act σ α) := fun t _ _ => ⟨t.sink, rfl⟩

/-- A transaction that fails changes nothing but the sink. -/
lemma restores_transaction (body : Txn σ α) : Restores (transaction body) := by
  intro t e h
  unfold transaction at h ⊢
  rcases heq : body (t.engine.store, t.sink) with ⟨e' | a, s, sink⟩
  · exact ⟨sink, rfl⟩
  · rw [heq] at h
    cases h

/-- What cannot fail may follow. -/
lemma restores_bind {x : Act σ α} {f : α → Act σ β} (h : Restores x) (hf : ∀ a, Answers (f a)) :
    Restores (x >>= f) := by
  intro t e he
  have hx := h t
  rw [bind_apply] at he ⊢
  rcases heq : x t with ⟨e' | a, t'⟩
  · rw [heq] at hx
    exact hx e' rfl
  · obtain ⟨b, hb⟩ := hf a t'
    rw [heq] at he
    dsimp only at he
    rw [hb] at he
    cases he

/-- What only looks at the engine may come first. -/
lemma restores_after {x : Act σ α} {f : α → Act σ β} (h : ∀ t, (x t).2 = t)
    (hf : ∀ a, Restores (f a)) : Restores (x >>= f) := by
  intro t e he
  have hx := h t
  rw [bind_apply] at he ⊢
  rcases heq : x t with ⟨e' | a, t'⟩
  · rw [heq] at hx
    exact ⟨t.sink, hx⟩
  · rw [heq] at hx he
    obtain rfl : t' = t := hx
    exact hf a t' e he

lemma restores_throughGate {x : Act σ α} (h : Restores x) : Restores (throughGate x) := by
  intro t e he
  rw [throughGate_apply] at he ⊢
  cases hgate : t.engine.gate with
  | paused => exact ⟨t.sink, rfl⟩
  | closed => exact ⟨t.sink, rfl⟩
  | opened =>
    rw [hgate] at he
    cases hx : (x t).1 with
    | error e' => exact h t e' hx
    | ok a =>
      simp only [hx] at he
      cases he

/-- An event may be reported first, which leaves the engine alone. -/
lemma atomic_emit {f : Unit → Act σ β} (event : Event) (hf : ∀ a, Atomic (f a)) :
    Atomic (emit event >>= f) :=
  fun t e he => hf () { t with events := t.events ++ [event] } e he

end Act

/-! ## Offers -/

/-- A transaction that does the same whatever its sink is. -/
def Txn.Silent {σ α : Type} (x : Txn σ α) : Prop :=
  ∀ s sink sink', (x (s, sink)).1 = (x (s, sink')).1 ∧ (x (s, sink)).2.1 = (x (s, sink')).2.1

namespace Txn

variable {σ α β : Type}

lemma silent_pure (a : α) : Silent (pure a : Txn σ α) := fun _ _ _ => ⟨rfl, rfl⟩

lemma silent_throw (e : SyncError) : Silent (throw e : Txn σ α) := fun _ _ _ => ⟨rfl, rfl⟩

lemma silent_query (q : Query σ α) : Silent (query q) := by
  intro s sink sink'
  unfold query
  dsimp only
  rcases q s with ⟨_ | _, _⟩ <;> exact ⟨rfl, rfl⟩

lemma silent_bind {x : Txn σ α} {f : α → Txn σ β} (h : Silent x) (hf : ∀ a, Silent (f a)) :
    Silent (x >>= f) := by
  intro s sink sink'
  obtain ⟨hanswer, hstore⟩ := h s sink sink'
  rw [bind_apply, bind_apply]
  generalize x (s, sink) = r at hanswer hstore ⊢
  generalize x (s, sink') = r' at hanswer hstore ⊢
  obtain ⟨answer, mid, last⟩ := r
  obtain ⟨answer', mid', last'⟩ := r'
  dsimp only at hanswer hstore
  subst hanswer hstore
  cases answer with
  | error e => exact ⟨rfl, rfl⟩
  | ok a => exact hf a mid last last'

variable [Store σ]

lemma silent_requireContact (c : ContactId) : Silent (requireContact c : Txn σ Unit) := by
  refine silent_bind (silent_query _) fun found => ?_
  split
  · exact silent_pure ()
  · exact silent_throw _

lemma silent_flagMissing (c : ContactId) (offer : List MessageId) :
    Silent (Engine.flagMissing c offer : Txn σ (List Bool)) := by
  induction offer with
  | nil => exact silent_pure []
  | cons id rest ih =>
    exact silent_bind (silent_query _) fun visible => silent_bind ih fun flags => silent_pure _

end Txn

namespace Engine

variable {σ : Type} [Store σ]

/-- The part of answering an offer that is committed: the messages are marked and flagged. -/
def takeOffer (c : ContactId) (offer : List MessageId) : Txn σ (List Bool) := do
  Txn.requireContact c
  flagMissing c offer

lemma silent_takeOffer (c : ContactId) (offer : List MessageId) :
    Txn.Silent (takeOffer c offer : Txn σ (List Bool)) :=
  Txn.silent_bind (Txn.silent_requireContact c) fun _ => Txn.silent_flagMissing c offer

/-- An offer is committed, or refused, before its request is written. -/
lemma receiveOffer_runOn (e : Engine σ) {c : ContactId} (hopen : c ∉ e.openOffers)
    (offer : List MessageId) (sink : Sink) :
    (receiveOffer c offer).runOn e sink =
      match takeOffer c offer (e.store, sink) with
      | (.error x, (_, sink)) => (.error x, ⟨e, [], sink⟩)
      | (.ok flags, (store, sink)) =>
        match sink.send (.request (.ofFlags flags)) with
        | (.ok (), sink) => (.ok (.ofFlags flags), ⟨{ e with store }, [], sink⟩)
        | (.error x, sink) => (.error (.sink x), ⟨{ e with store }, [], sink⟩) := by
  have hround := Table.erase_insert hopen ()
  rcases htake : takeOffer c offer (e.store, sink) with ⟨x | flags, store, sink'⟩
  all_goals
    unfold takeOffer at htake
    simp only [Act.runOn, receiveOffer, receiveOfferWhile, Act.bind_apply, inOfferRound,
      Std.ExtTreeMap.contains_iff_mem, hopen, if_false, Act.transaction, htake, Act.pure_apply]
  · simp [hround]
  · simp only [Act.send]
    rcases sink'.send _ with ⟨_ | _, last⟩ <;> simp [hround]

/-- What an offer leaves of an engine does not depend on where the request goes. -/
lemma engine_receiveOffer (e : Engine σ) {c : ContactId} (hopen : c ∉ e.openOffers)
    (offer : List MessageId) (sink sink' : Sink) :
    ((receiveOffer c offer).runOn e sink).2.engine =
      ((receiveOffer c offer).runOn e sink').2.engine := by
  obtain ⟨hanswer, hstore⟩ := silent_takeOffer c offer e.store sink sink'
  rw [receiveOffer_runOn e hopen, receiveOffer_runOn e hopen]
  generalize takeOffer c offer (e.store, sink) = r at hanswer hstore ⊢
  generalize takeOffer c offer (e.store, sink') = r' at hanswer hstore ⊢
  obtain ⟨answer, store, last⟩ := r
  obtain ⟨answer', store', last'⟩ := r'
  dsimp only at hanswer hstore
  subst hanswer hstore
  cases answer with
  | error x => rfl
  | ok flags =>
    dsimp only
    rcases last.send _ with ⟨_ | _, _⟩
    all_goals rcases last'.send _ with ⟨_ | _, _⟩ <;> rfl

/-- An offer that fails before its request is written is not taken note of. -/
lemma engine_receiveOffer_of_error {e : Engine σ} {c : ContactId} (hopen : c ∉ e.openOffers)
    {offer : List MessageId} {sink : Sink} {x : SyncError}
    (h : ((receiveOffer c offer).runOn e sink).1 = .error x) (hx : ∀ y, x ≠ .sink y) :
    ((receiveOffer c offer).runOn e sink).2.engine = e := by
  rw [receiveOffer_runOn e hopen] at h ⊢
  generalize takeOffer c offer (e.store, sink) = r at h ⊢
  rcases r with ⟨x' | flags, store, last⟩
  · rfl
  · dsimp only at h ⊢
    rcases hsend : last.send (.request (.ofFlags flags)) with ⟨y | _, _⟩
    · rw [hsend] at h
      exact absurd (Except.error.inj h).symm (hx y)
    · rw [hsend] at h
      cases h

/-! ## Lost batches -/

/-- Nothing is asked about a contact that does not exist. -/
lemma askAbout_of_missing {α : Type} {t : Turn σ} {c : ContactId} (q : Query σ α)
    (h : Store.containsContact c t.engine.store = (.ok false, t.engine.store)) :
    Act.askAbout c q t = (.error (.noSuchContact c), t) := by
  have hrequire : Txn.requireContact c (t.engine.store, t.sink) =
      (.error (.noSuchContact c), (t.engine.store, t.sink)) := by
    rw [Txn.requireContact, Txn.bind_apply, Txn.query_of_ok h]
    rfl
  simp only [Act.askAbout, Act.transaction, Txn.bind_apply, hrequire]

/-- Lost batches are not looked for if there is no such contact, whoever listens. -/
lemma findLost_of_missing {t : Turn σ} {c : ContactId} (listener : Act σ Unit)
    (h : Store.containsContact c t.engine.store = (.ok false, t.engine.store)) :
    findLostHeard c listener t = (.error (.noSuchContact c), t) := by
  simp only [findLostHeard, Act.bind_apply, Act.settings_apply, Act.clock_apply, lostCandidates,
    askAbout_of_missing _ h]

/-- Over a store in memory, a search for lost batches fails for want of the contact only. -/
lemma not_mem_of_findLost {t : Turn Memory} {c : ContactId} {x : SyncError}
    (h : (findLost c t).1 = .error x) : c ∉ t.engine.store.contacts := by
  intro hc
  rw [findLost_apply] at h
  dsimp only at h
  rw [if_pos hc] at h
  cases h

end Engine

/-! ## All operations -/

/-- Whether an operation changes the store in one transaction at most, and does nothing
after it that can fail. -/
def Operation.single : {α : Type} → Operation α → Bool
  | _, .findLost _ | _, .receiveOffer _ _ => false
  | _, _ => true

/-- Whether an operation reports its events after all that it does to the store. -/
def Operation.reportsLast : {α : Type} → Operation α → Bool
  | _, .findLost _ | _, .receiveRequest _ _ _ _ _ => false
  | _, _ => true

lemma Engine.restores_generateBatchFrom {σ : Type} [Store σ] (c : ContactId) (writer : BatchWriter)
    (nonce : Nonce) (requested : List MessageId) :
    Act.Restores (generateBatchFrom c writer nonce requested : Act σ SentBatch) := by
  refine Act.restores_after (fun _ => rfl) fun now => ?_
  exact Act.restores_bind (Act.restores_transaction _) fun batch => Act.answers_reportSent c batch

/-- An operation of a single transaction that reports its events after it leaves nothing behind
if it fails. -/
lemma Operation.restores {σ α : Type} [Store σ] (operation : Operation α) (h : operation.single)
    (hlast : operation.reportsLast) : Act.Restores (operation.act : Act σ α) := by
  open Act in
  cases operation with
  | addContact transports =>
    refine restores_bind (restores_transaction _) fun c => ?_
    exact answers_bind (answers_emit _) fun _ => answers_pure c
  | removeContact c => exact restores_bind (restores_transaction _) fun _ => answers_emit _
  | subscribe g | unsubscribe g =>
    refine restores_after (fun _ => rfl) fun now => ?_
    exact restores_bind (restores_transaction _) fun changed => answers_emitIf _ _
  | setRating a r => exact restores_bind (restores_transaction _) fun old => answers_emitIf _ _
  | addLocal m | receiveBatch c batch =>
    refine restores_throughGate ?_
    exact restores_bind (restores_transaction _) fun stored => answers_emitIf _ _
  | expire wanted => exact restores_bind (restores_transaction _) fun expired => answers_emitIf _ _
  | generateBatch c writer nonce =>
    refine restores_bind ?_ fun batch => answers_pure batch.recorded?
    refine restores_after (fun _ => rfl) fun now => ?_
    exact restores_bind (restores_transaction _) fun batch => answers_reportSent c batch
  | generateBatchFrom c writer nonce requested =>
    exact Engine.restores_generateBatchFrom c writer nonce requested
  | generateAck c writer | generateOffer c writer =>
    exact restores_after (fun _ => rfl) fun config => restores_transaction _
  | receiveAck c batches =>
    exact restores_bind (restores_transaction _) fun acked => answers_emitAll _
  | receiveSubscriptions c update =>
    show Restores (Engine.receiveSubscriptions c update)
    unfold Engine.receiveSubscriptions
    split
    · exact restores_throw _
    · exact restores_bind (restores_transaction _) fun applied => answers_emitIf _ _
  | receiveTransports c update =>
    show Restores (Engine.receiveTransports c update)
    unfold Engine.receiveTransports
    split
    · exact restores_throw _
    · exact restores_bind (restores_transaction _) fun applied => answers_emitIf _ _
  | setLocalTransports transports =>
    refine restores_after (fun _ => rfl) fun now => ?_
    exact restores_bind (restores_transaction _) fun _ => answers_emit _
  | localTransports => exact restores_bind (restores_transaction _) fun found => answers_pure _
  | findLost c | receiveOffer c offer => cases h
  | receiveRequest c offer request writer nonce => cases hlast
  | contacts | subscriptions | rating a | storedBytes | generateSubscriptions c
  | generateTransports c | contactSubscriptions c | contactTransports c | addSecrets xs | secrets
  | rotateSecret key period bytes | removeSecretsBefore c t period | nextOutgoing key
  | acceptIncoming key n | unseenConnections key => exact restores_transaction _

/-- An operation of a single transaction leaves its engine as it was if it fails. -/
lemma Operation.atomic {σ α : Type} [Store σ] (operation : Operation α) (h : operation.single) :
    Act.Atomic (operation.act : Act σ α) := by
  by_cases hlast : operation.reportsLast
  · exact (operation.restores h hlast).atomic
  cases operation with
  | receiveRequest c offer request writer nonce =>
    show Act.Atomic (Engine.receiveRequest c offer request writer nonce)
    unfold Engine.receiveRequest
    split
    · exact (Act.restores_throw _).atomic
    · refine Act.atomic_emit _ fun _ => ?_
      exact (Engine.restores_generateBatchFrom c writer nonce _).atomic
  | findLost c => cases h
  | _ => exact absurd rfl hlast

/-! ## States that histories lead to -/

/-- What is left of an engine by an operation that fails with an error: the engine as it
was, and the one that a successful answer leaves for an offer whose request cannot be
written. -/
def Operation.Unwinds {σ : Type} [Store σ] (e : Engine σ) (sink : Sink) :
    {α : Type} → Operation α → SyncError → Prop
  | _, .receiveOffer c offer, .sink _ =>
    (∃ request, ((Engine.receiveOffer c offer).runOn e {}).1 = .ok request) ∧
      ∀ sink' request, ((Engine.receiveOffer c offer).runOn e sink').1 = .ok request →
        ((Engine.receiveOffer c offer).runOn e sink).2.engine =
          ((Engine.receiveOffer c offer).runOn e sink').2.engine
  | _, operation, _ => (operation.act.runOn e sink).2.engine = e

namespace Backend

variable {backend : Backend} {e : Engine backend.Data}

lemma Reaches.openOffers (h : backend.Reaches e) : e.openOffers = ∅ := by
  obtain ⟨t, ht, hopen⟩ := h.exists_twin
  rw [ht.openOffers, hopen]

lemma Reaches.not_mem_openOffers (h : backend.Reaches e) (c : ContactId) : c ∉ e.openOffers := by
  rw [h.openOffers]
  exact Std.ExtTreeMap.not_mem_empty

/-- Offers are answered as over a store in memory, where no offer is being answered. -/
lemma Reaches.exists_answer (h : backend.Reaches e) (c : ContactId) (offer : List MessageId) :
    ∃ t : Engine Memory, c ∉ t.openOffers ∧ ∀ sink, ((Engine.receiveOffer c offer).runOn e sink).1 =
      (Engine.receiveOffer c offer ⟨t, [], sink⟩).1 := by
  obtain ⟨t, ht⟩ := Twin.of_reaches h
  refine ⟨t, ?_, fun sink => (ht.plain (.receiveOffer c offer) rfl sink).1⟩
  rw [← ht.openOffers]
  exact h.not_mem_openOffers c

/-- No offer is refused because another one is being answered. -/
lemma Reaches.not_concurrent (h : backend.Reaches e) (c : ContactId) (offer : List MessageId)
    (sink : Sink) : ((Engine.receiveOffer c offer).runOn e sink).1 ≠
      .error (.violation (.concurrentOffer c)) := by
  intro hrefused
  obtain ⟨t, hopen, hanswer⟩ := h.exists_answer c offer
  rw [hanswer, Engine.receiveOffer_apply, if_neg hopen] at hrefused
  split at hrefused
  · dsimp only at hrefused
    split at hrefused
    · cases hrefused
    · cases hrefused
  · cases hrefused

/-- An offer can be answered if all that fails is to write the request. -/
lemma Reaches.exists_request (h : backend.Reaches e) {c : ContactId} {offer : List MessageId}
    {sink : Sink} {x : SinkError}
    (hx : ((Engine.receiveOffer c offer).runOn e sink).1 = .error (.sink x)) :
    ∃ request, ((Engine.receiveOffer c offer).runOn e {}).1 = .ok request := by
  obtain ⟨t, hopen, hanswer⟩ := h.exists_answer c offer
  have hc : c ∈ t.store.contacts := by
    rw [hanswer, Engine.receiveOffer_apply, if_neg hopen] at hx
    split at hx
    · assumption
    · cases hx
  -- a sink without a limit takes every request
  refine ⟨.ofFlags (Engine.missingAmong t.store c offer), ?_⟩
  rw [hanswer, Engine.receiveOffer_apply, if_neg hopen, if_pos hc]
  rfl

/-- What is not a contact of the twin is none here. -/
lemma Twin.missing {t : Engine Memory} (h : backend.Twin e t) {c : ContactId}
    (hc : c ∉ t.store.contacts) : Store.containsContact c e.store = (.ok false, e.store) := by
  have hcontains : t.store.contacts.contains c = false := by
    rw [Bool.eq_false_iff]
    exact fun hmem => hc (Std.ExtTreeMap.contains_iff_mem.mp hmem)
  have hknown := h.containsContact c
  rw [hcontains] at hknown
  exact Prod.ext hknown (backend.containsContact_snd c e.store)

/-- A search for lost batches that fails found no such contact, and did nothing. -/
lemma Reaches.findLost_of_error (h : backend.Reaches e) {c : ContactId} {sink : Sink}
    {x : SyncError} (hx : ((Engine.findLost c).runOn e sink).1 = .error x) :
    ((Engine.findLost c).runOn e sink).2 = ⟨e, [], sink⟩ := by
  obtain ⟨t, ht⟩ := Twin.of_reaches h
  have hanswer : ((Engine.findLost c).runOn e sink).1 = ((Engine.findLost c).runOn t sink).1 :=
    (ht.plain (.findLost c) rfl sink).1
  rw [hanswer, Act.runOn] at hx
  have hmissing := ht.missing (Engine.not_mem_of_findLost hx)
  rw [Act.runOn, Engine.findLost, Engine.findLost_of_missing _ hmissing]

/-- An operation that fails leaves its engine as it was, or, for an offer whose request cannot
be written, as a successful answer would. -/
theorem Reaches.unwinds (h : backend.Reaches e) {α : Type} (operation : Operation α) (sink : Sink)
    {x : SyncError} (hx : (operation.act.runOn e sink).1 = .error x) :
    operation.Unwinds e sink x := by
  by_cases hsingle : operation.single
  · have hatomic : (operation.act.runOn e sink).2.engine = e :=
      operation.atomic hsingle ⟨e, [], sink⟩ x hx
    cases operation with
    | receiveOffer c offer => cases hsingle
    | _ => exact hatomic
  cases operation with
  | findLost c => exact congrArg Turn.engine (h.findLost_of_error hx)
  | receiveOffer c offer =>
    have hopen := h.not_mem_openOffers c
    cases x with
    | sink y =>
      exact ⟨h.exists_request hx, fun sink' _ _ => Engine.engine_receiveOffer e hopen offer _ _⟩
    | _ => exact Engine.engine_receiveOffer_of_error hopen hx fun _ => nofun
  | _ => exact absurd rfl hsingle

/-- In every state that an engine comes to, and whatever it is asked and wherever it writes: if
the operation fails, the engine is as it was, but for an offer whose request cannot be written,
of which the same is left as of a successful answer. Offers are not refused afterwards because
of one that was being answered. -/
theorem unwinds_run (backend : Backend) (config : SyncConfig) (now : Int64)
    (history : List Step) {α : Type} (operation : Operation α) (sink : Sink) :
    let e := (backend.start config now).run history
    (∀ x, (operation.act.runOn e sink).1 = .error x → operation.Unwinds e sink x) ∧
      ∀ c offer sink', ((Engine.receiveOffer c offer).runOn
        (operation.act.runOn e sink).2.engine sink').1 ≠ .error (.violation (.concurrentOffer c)) := by
  intro e
  have hreaches : backend.Reaches e := ⟨config, now, history, rfl⟩
  refine ⟨fun x hx => hreaches.unwinds operation sink hx, fun c offer sink' => ?_⟩
  exact (hreaches.step (.perform operation sink)).not_concurrent c offer sink'

end Backend

end MessageSync
