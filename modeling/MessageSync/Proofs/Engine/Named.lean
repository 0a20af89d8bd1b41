import MessageSync.Proofs.Atomicity

/-!
# Operations on contacts that do not exist

An operation that is about some contacts names them (`Operation.named`), and asks for each of
them first. If one of them does not exist, the operation is refused before it changes or writes
anything (`Operation.refused`). Only while the gate is paused is the answer put off.
-/

namespace MessageSync

/-- The contacts that an operation is about. -/
def Operation.named : {α : Type} → Operation α → List ContactId
  | _, .removeContact c | _, .receiveBatch c _ | _, .generateBatch c _ _
  | _, .generateBatchFrom c _ _ _ | _, .generateAck c _ | _, .receiveAck c _ | _, .findLost c
  | _, .generateOffer c _ | _, .receiveOffer c _ | _, .receiveRequest c _ _ _ _
  | _, .generateSubscriptions c | _, .generateTransports c | _, .receiveSubscriptions c _
  | _, .receiveTransports c _ | _, .contactSubscriptions c | _, .contactTransports c
  | _, .removeSecretsBefore c _ _ => [c]
  | _, .addSecrets xs => xs.map Secret.contact
  | _, .rotateSecret key _ _ | _, .nextOutgoing key | _, .acceptIncoming key _
  | _, .unseenConnections key => [key.contact]
  | _, .addContact _ | _, .contacts | _, .subscribe _ | _, .unsubscribe _ | _, .subscriptions
  | _, .rating _ | _, .setRating _ _ | _, .addLocal _ | _, .expire _ | _, .storedBytes
  | _, .setLocalTransports _ | _, .localTransports | _, .secrets => []

/-- Whether an operation waits at this gate. -/
def Operation.waits (gate : Gate) : {α : Type} → Operation α → Prop
  | _, .addLocal _ | _, .receiveBatch _ _ => gate = .paused
  | _, _ => False

/-! ## Refusals -/

/-- A transaction that fails in a state, before it writes anything. -/
def Txn.Refuses {σ α : Type} (x : Txn σ α) (st : σ × Sink) : Prop :=
  ∃ e s, x st = (.error e, (s, st.2))

/-- An operation that fails in a state, and leaves nothing behind but events. -/
def Act.Refuses {σ α : Type} (x : Act σ α) (t : Turn σ) : Prop :=
  ∃ e events, x t = (.error e, { t with events })

namespace Txn

variable {σ α β : Type} {x : Txn σ α} {st : σ × Sink}

lemma Refuses.bind (h : Refuses x st) (f : α → Txn σ β) : Refuses (x >>= f) st := by
  obtain ⟨e, s, h⟩ := h
  exact ⟨e, s, by rw [bind_apply, h]⟩

variable [Store σ] {c : ContactId}

lemma refuses_requireContact (h : Store.containsContact c st.1 = (.ok false, st.1)) :
    Refuses (requireContact c) st :=
  ⟨.noSuchContact c, st.1, by rw [requireContact, bind_apply, query_of_ok h]; rfl⟩

/-- Of several contacts that must exist, one is missing, or an earlier one is. -/
lemma refuses_requireAll (hread : ∀ d (s : σ), (Store.containsContact d s).2 = s)
    (h : Store.containsContact c st.1 = (.ok false, st.1)) {contacts : List ContactId}
    (hc : c ∈ contacts) : Refuses (Engine.requireAll contacts) st := by
  induction contacts with
  | nil => cases hc
  | cons d rest ih =>
    by_cases hd : d = c
    · rw [hd]
      exact (refuses_requireContact h).bind _
    have hrest := ih ((List.mem_cons.mp hc).resolve_left (Ne.symm hd))
    have hsame := hread d st.1
    rcases hfound : Store.containsContact d st.1 with ⟨e | found, s⟩
    · refine Refuses.bind ⟨.storage e, s, ?_⟩ _
      rw [requireContact, bind_apply, query, hfound]
    · obtain rfl : s = st.1 := by rwa [hfound] at hsame
      cases found with
      | false => exact (refuses_requireContact hfound).bind _
      | true =>
        obtain ⟨e, s, hrest⟩ := hrest
        refine ⟨e, s, ?_⟩
        rw [Engine.requireAll, bind_apply, requireContact, bind_apply, query_of_ok hfound]
        exact hrest

end Txn

namespace Act

variable {σ α β : Type} {x : Act σ α} {t : Turn σ}

lemma Refuses.bind (h : Refuses x t) (f : α → Act σ β) : Refuses (x >>= f) t := by
  obtain ⟨e, events, h⟩ := h
  exact ⟨e, events, by rw [bind_apply, h]⟩

lemma refuses_throw (e : SyncError) (t : Turn σ) : Refuses (throw e : Act σ α) t :=
  ⟨e, t.events, rfl⟩

lemma refuses_transaction {body : Txn σ α} (h : body.Refuses (t.engine.store, t.sink)) :
    Refuses (transaction body) t := by
  obtain ⟨e, s, h⟩ := h
  refine ⟨e, t.events, ?_⟩
  simp only [transaction, h]

/-- What only looks at the engine may come first. -/
lemma refuses_after {f : α → Act σ β} {a : α} (hx : x t = (.ok a, t)) (h : Refuses (f a) t) :
    Refuses (x >>= f) t := by
  obtain ⟨e, events, h⟩ := h
  exact ⟨e, events, by rw [bind_apply, hx]; exact h⟩

/-- An event may be reported first. -/
lemma refuses_emit {event : Event} {f : Unit → Act σ β}
    (h : Refuses (f ()) { t with events := t.events ++ [event] }) :
    Refuses (emit event >>= f) t := by
  obtain ⟨e, events, h⟩ := h
  exact ⟨e, events, h⟩

/-- The round of an offer is over when the offer was refused. -/
lemma refuses_inOfferRound {c : ContactId} {act : Act σ α} (hopen : c ∉ t.engine.openOffers)
    (h : act.Refuses
      { t with engine := { t.engine with openOffers := t.engine.openOffers.insert c () } }) :
    Refuses (Engine.inOfferRound c act) t := by
  obtain ⟨e, events, h⟩ := h
  refine ⟨e, events, ?_⟩
  simp only [Engine.inOfferRound, Std.ExtTreeMap.contains_iff_mem, hopen, if_false, h,
    Table.erase_insert hopen]

variable [Store σ] {c : ContactId}

lemma refuses_transaction_about
    (h : Store.containsContact c t.engine.store = (.ok false, t.engine.store))
    (body : Unit → Txn σ α) : Refuses (transaction (Txn.requireContact c >>= body)) t :=
  refuses_transaction ((Txn.refuses_requireContact h).bind body)

lemma refuses_askAbout (h : Store.containsContact c t.engine.store = (.ok false, t.engine.store))
    (q : Query σ α) : Refuses (askAbout c q) t := refuses_transaction_about h _

lemma refuses_generateBatchFrom
    (h : Store.containsContact c t.engine.store = (.ok false, t.engine.store))
    (writer : BatchWriter) (nonce : Nonce) (requested : List MessageId) :
    Refuses (Engine.generateBatchFrom c writer nonce requested) t :=
  refuses_after rfl ((refuses_transaction_about h _).bind _)

end Act

/-- An operation that names a contact that does not exist is refused, unless it waits at the
gate. -/
lemma Operation.refuses {σ α : Type} [Store σ] {operation : Operation α} {t : Turn σ}
    {c : ContactId} (hread : ∀ d (s : σ), (Store.containsContact d s).2 = s)
    (hmissing : Store.containsContact c t.engine.store = (.ok false, t.engine.store))
    (hopen : c ∉ t.engine.openOffers) (hc : c ∈ operation.named)
    (hwaits : ¬ operation.waits t.engine.gate) : Act.Refuses operation.act t := by
  open Act in
  cases operation with
  | addContact _ | contacts | subscribe _ | unsubscribe _ | subscriptions | rating _
  | setRating _ _ | addLocal _ | expire _ | storedBytes | setLocalTransports _ | localTransports
  | secrets => cases hc
  | receiveBatch c' batch =>
    obtain rfl := List.mem_singleton.mp hc
    have hstore : Refuses (Engine.storeBatch c batch) t :=
      (refuses_transaction_about hmissing _).bind _
    show Refuses (throughGate (Engine.storeBatch c batch)) t
    unfold Refuses
    rw [throughGate_apply]
    cases hgate : t.engine.gate with
    | paused => exact absurd hgate hwaits
    | closed => exact ⟨.closed, t.events, rfl⟩
    | opened =>
      obtain ⟨x, events, hstore⟩ := hstore
      rw [hstore]
      exact ⟨x, events, rfl⟩
  | addSecrets xs => exact refuses_transaction ((Txn.refuses_requireAll hread hmissing hc).bind _)
  | receiveSubscriptions c' update =>
    obtain rfl := List.mem_singleton.mp hc
    show Refuses (Engine.receiveSubscriptions c update) t
    unfold Engine.receiveSubscriptions
    split
    · exact refuses_throw _ t
    · exact (refuses_askAbout hmissing _).bind _
  | receiveTransports c' update =>
    obtain rfl := List.mem_singleton.mp hc
    show Refuses (Engine.receiveTransports c update) t
    unfold Engine.receiveTransports
    split
    · exact refuses_throw _ t
    · exact (refuses_askAbout hmissing _).bind _
  | receiveRequest c' offer request writer nonce =>
    obtain rfl := List.mem_singleton.mp hc
    show Refuses (Engine.receiveRequest c offer request writer nonce) t
    unfold Engine.receiveRequest
    split
    · exact refuses_throw _ t
    · refine refuses_emit (refuses_generateBatchFrom ?_ writer nonce _)
      exact hmissing
  | receiveOffer c' offer =>
    obtain rfl := List.mem_singleton.mp hc
    have hround : Refuses (transaction (Engine.takeOffer c offer)) { t with
        engine := { t.engine with openOffers := t.engine.openOffers.insert c () } } := by
      refine refuses_transaction_about ?_ _
      exact hmissing
    exact (refuses_inOfferRound hopen (hround.bind _)).bind _
  | generateBatchFrom c' writer nonce requested =>
    obtain rfl := List.mem_singleton.mp hc
    exact refuses_generateBatchFrom hmissing writer nonce requested
  | generateBatch c' writer nonce =>
    obtain rfl := List.mem_singleton.mp hc
    have hsend : Refuses (Engine.sendOldest c writer nonce) t :=
      refuses_after rfl ((refuses_transaction_about hmissing _).bind _)
    exact hsend.bind _
  | generateAck c' _ | generateOffer c' _ =>
    obtain rfl := List.mem_singleton.mp hc
    exact refuses_after rfl (refuses_transaction_about hmissing _)
  | findLost c' =>
    obtain rfl := List.mem_singleton.mp hc
    refine refuses_after rfl (refuses_after rfl ?_)
    exact (refuses_askAbout hmissing _).bind _
  | removeContact c' | receiveAck c' _ =>
    obtain rfl := List.mem_singleton.mp hc
    exact (refuses_transaction_about hmissing _).bind _
  | removeSecretsBefore c' _ _ | contactSubscriptions c' | contactTransports c'
  | generateSubscriptions c' | generateTransports c' =>
    obtain rfl := List.mem_singleton.mp hc
    exact refuses_transaction_about hmissing _
  | rotateSecret key _ _ | nextOutgoing key | acceptIncoming key _ | unseenConnections key =>
    obtain rfl := List.mem_singleton.mp hc
    exact refuses_transaction_about hmissing _

/-- Whether it waits at the gate or is refused, such an operation changes nothing of the engine,
and writes nothing. -/
theorem Operation.refused {σ α : Type} [Store σ] {operation : Operation α} {e : Engine σ}
    {c : ContactId} (hread : ∀ d (s : σ), (Store.containsContact d s).2 = s)
    (hmissing : Store.containsContact c e.store = (.ok false, e.store)) (hopen : c ∉ e.openOffers)
    (hc : c ∈ operation.named) (sink : Sink) :
    (operation.act.runOn e sink).2.engine = e ∧ (operation.act.runOn e sink).2.sink = sink ∧
      (operation.waits e.gate ∨ ∃ x, (operation.act.runOn e sink).1 = .error x) := by
  let t : Turn σ := ⟨e, [], sink⟩
  by_cases hwaits : operation.waits e.gate
  · cases operation with
    | receiveBatch c' batch =>
      have hpaused : t.engine.gate = .paused := hwaits
      have hgated : (Operation.receiveBatch c' batch).act t =
          Act.throughGate (Engine.storeBatch c' batch) t := rfl
      rw [Act.throughGate_apply, hpaused] at hgated
      rw [Act.runOn, hgated]
      exact ⟨rfl, rfl, .inl hwaits⟩
    | addLocal _ => cases hc
    | _ => exact hwaits.elim
  · obtain ⟨x, events, h⟩ := refuses (t := t) hread hmissing hopen hc hwaits
    rw [Act.runOn, h]
    exact ⟨rfl, rfl, .inr ⟨x, rfl⟩⟩

end MessageSync
