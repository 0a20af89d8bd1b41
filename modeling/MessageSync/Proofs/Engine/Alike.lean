import MessageSync.Proofs.Engine.Operation
import MessageSync.Proofs.Store.Answer

/-!
# Operations over mirrored stores

Parts of operations that are `Alike` over a relational store and over a store in memory
give the same answer or the same error, write the same, and keep stores related. What is
made of such parts by the ways in which operations are put together is alike again, so
that a part is shown to be alike along its own code.

A relation `P` is what is known of the two stores before, `Q` what is known after an
answer. After an error nothing has to be known, as the transaction is undone.
-/

namespace MessageSync

/-- Two runs with equal answers either both failed, or both came to the same value. -/
lemma equal_answers {ε α σ τ : Type} {x : Except ε α × σ} {y : Except ε α × τ} (h : x.1 = y.1) :
    (∃ e s t, x = (.error e, s) ∧ y = (.error e, t)) ∨
      ∃ a s t, x = (.ok a, s) ∧ y = (.ok a, t) := by
  obtain ⟨answer, s⟩ := x
  obtain ⟨answer', t⟩ := y
  obtain rfl : answer = answer' := h
  cases answer with
  | error e => exact .inl ⟨e, s, t, rfl, rfl⟩
  | ok a => exact .inr ⟨a, s, t, rfl, rfl⟩

/-! ## Queries -/

/-- Two queries on related stores that give the same answer and keep the stores related. -/
def Query.Alike {α : Type} (P : Relational → Memory → Prop) (q : Query Relational α)
    (r : Query Memory α) (Q : α → Relational → Memory → Prop) : Prop :=
  ∀ s t, P s t → (q s).1 = (r t).1 ∧ ∀ a, (r t).1 = .ok a → Q a (q s).2 (r t).2

namespace Query

variable {α : Type} {P : Relational → Memory → Prop}

lemma alike_read {f : Relational → α} {g : Memory → α} (h : ∀ s t, P s t → f s = g t) :
    Alike P (.read f) (.read g) fun a s t => P s t ∧ a = g t := by
  intro s t hst
  refine ⟨congrArg Except.ok (h s t hst), fun a ha => ⟨hst, ?_⟩⟩
  exact (Except.ok.inj ha).symm

lemma alike_tryRead {f : Relational → Except StoreError α} {g : Memory → α}
    (h : ∀ s t, P s t → f s = .ok (g t)) :
    Alike P (.tryRead f) (.read g) fun _ s t => P s t :=
  fun s t hst => ⟨h s t hst, fun _ _ => hst⟩

lemma alike_update {f : Relational → α × Relational} {g : Memory → α × Memory}
    {Q : Relational → Memory → Prop}
    (h : ∀ s t, P s t → (f s).1 = (g t).1 ∧ Q (f s).2 (g t).2) :
    Alike P (.update f) (.update g) fun _ => Q :=
  fun s t hst => ⟨congrArg Except.ok (h s t hst).1, fun _ _ => (h s t hst).2⟩

lemma alike_set {f : Relational → Relational} {g : Memory → Memory}
    {Q : Relational → Memory → Prop} (h : ∀ s t, P s t → Q (f s) (g t)) :
    Alike P (.set f) (.set g) fun _ => Q :=
  fun s t hst => ⟨rfl, fun _ _ => h s t hst⟩

/-- A query that could fail over rows, but does not. -/
lemma alike_total {q : Query Relational α} {g : Memory → α × Memory}
    {Q : Relational → Memory → Prop}
    (h : ∀ s t, P s t → (q s).1 = .ok (g t).1 ∧ Q (q s).2 (g t).2) :
    Alike P q (.update g) fun _ => Q :=
  fun s t hst => ⟨(h s t hst).1, fun _ _ => (h s t hst).2⟩

end Query

/-! ## Transactions -/

/-- Two transactions on related stores that give the same answer or error, write the same,
and keep the stores related. -/
def Txn.Alike {α : Type} (P : Relational → Memory → Prop) (x : Txn Relational α)
    (y : Txn Memory α) (Q : α → Relational → Memory → Prop) : Prop :=
  ∀ s t sink, P s t →
    (x (s, sink)).1 = (y (t, sink)).1 ∧ (x (s, sink)).2.2 = (y (t, sink)).2.2 ∧
      ∀ a, (y (t, sink)).1 = .ok a → Q a (x (s, sink)).2.1 (y (t, sink)).2.1

namespace Txn

variable {α β : Type} {P : Relational → Memory → Prop}

lemma alike_pure (a : α) : Alike P (pure a) (pure a) fun _ => P :=
  fun _ _ _ hst => ⟨rfl, rfl, fun _ _ => hst⟩

lemma alike_throw (e : SyncError) (Q : α → Relational → Memory → Prop) :
    Alike P (throw e) (throw e) Q :=
  fun _ _ _ _ => ⟨rfl, rfl, fun _ h => by cases h⟩

lemma alike_bind {x : Txn Relational α} {y : Txn Memory α} {f : α → Txn Relational β}
    {g : α → Txn Memory β} {Q : α → Relational → Memory → Prop}
    {R : β → Relational → Memory → Prop} (h : Alike P x y Q)
    (hf : ∀ a, Alike (Q a) (f a) (g a) R) : Alike P (x >>= f) (y >>= g) R := by
  intro s t sink hst
  obtain ⟨hanswer, hsink, hQ⟩ := h s t sink hst
  rw [bind_apply, bind_apply]
  rcases equal_answers hanswer with ⟨e, _, _, hx, hy⟩ | ⟨a, ⟨s', sink'⟩, ⟨t', sink''⟩, hx, hy⟩
  · rw [hx, hy] at hsink ⊢
    exact ⟨rfl, hsink, fun _ h => by cases h⟩
  -- what was written is the same, so that the rest starts with one sink
  · rw [hx, hy] at hsink hQ ⊢
    obtain rfl : sink' = sink'' := hsink
    exact hf a s' t' sink' (hQ a rfl)

/-- What is known may be more before and less after. -/
lemma Alike.mono {P' : Relational → Memory → Prop} {Q Q' : α → Relational → Memory → Prop}
    {x : Txn Relational α} {y : Txn Memory α} (h : Alike P x y Q)
    (hP : ∀ s t, P' s t → P s t) (hQ : ∀ a s t, Q a s t → Q' a s t) : Alike P' x y Q' := by
  intro s t sink hst
  obtain ⟨hanswer, hsink, hafter⟩ := h s t sink (hP s t hst)
  exact ⟨hanswer, hsink, fun a ha => hQ a _ _ (hafter a ha)⟩

lemma alike_map {x : Txn Relational α} {y : Txn Memory α} {Q : Relational → Memory → Prop}
    (h : Alike P x y fun _ => Q) (f : α → β) : Alike P (f <$> x) (f <$> y) fun _ => Q := by
  rw [map_eq_pure_bind, map_eq_pure_bind]
  exact alike_bind h fun a => alike_pure (f a)

lemma alike_query {q : Query Relational α} {r : Query Memory α}
    {Q : α → Relational → Memory → Prop} (h : Query.Alike P q r Q) :
    Alike P (query q) (query r) Q := by
  intro s t sink hst
  obtain ⟨hanswer, hafter⟩ := h s t hst
  simp only [query]
  rcases equal_answers hanswer with ⟨e, _, _, hq, hr⟩ | ⟨a, _, _, hq, hr⟩
  · rw [hq, hr]
    exact ⟨rfl, rfl, fun _ h => by cases h⟩
  · rw [hq, hr] at hafter ⊢
    exact ⟨rfl, rfl, fun a' ha' => hafter a' (congrArg Except.ok (Except.ok.inj ha'))⟩

lemma alike_write (f : Sink → Except SinkError α × Sink) :
    Alike P (write f) (write f) fun _ => P := by
  intro s t sink hst
  simp only [write]
  rcases f sink with ⟨e | a, sink'⟩
  · exact ⟨rfl, rfl, fun _ h => by cases h⟩
  · exact ⟨rfl, rfl, fun _ _ => hst⟩

lemma alike_send (packet : Packet) : Alike P (send packet) (send packet) fun _ => P :=
  alike_write _

lemma alike_discard {x : Txn Relational α} {y : Txn Memory α} {Q : Relational → Memory → Prop}
    (h : Alike P x y fun _ => Q) :
    Alike P (discard x : Txn Relational Unit) (discard y : Txn Memory Unit) fun _ => Q :=
  alike_map h fun _ => ()

end Txn

/-! ## Stores that mirror each other -/

/-- Stores that mirror each other and have these contacts. -/
def Knows (known : List ContactId) (s : Relational) (t : Memory) : Prop :=
  s.Mirrors t ∧ ∀ c ∈ known, c ∈ t.contacts

namespace Knows

variable {known : List ContactId} {s : Relational} {t : Memory}

lemma of_mirrors (h : s.Mirrors t) : Knows [] s t :=
  ⟨h, fun _ hc => absurd hc List.not_mem_nil⟩

/-- Stores that still mirror each other still have the contacts. -/
lemma congr (h : Knows known s t) {s' : Relational} {t' : Memory} (h' : s'.Mirrors t')
    (hcontacts : t'.contacts = t.contacts) : Knows known s' t' :=
  ⟨h', fun c hc => by rw [hcontacts]; exact h.2 c hc⟩

end Knows

namespace Txn

variable {α : Type} {known : List ContactId}

/-- Stores that mirror each other have the same contacts. -/
lemma alike_requireKnown {P : Relational → Memory → Prop} (hP : ∀ s t, P s t → s.Mirrors t)
    (c : ContactId) :
    Alike P (requireContact c) (requireContact c) fun _ s t => P s t ∧ c ∈ t.contacts := by
  refine alike_bind (alike_query (Query.alike_read fun s t h => ?_)) fun found => ?_
  · rw [Bool.eq_iff_iff, Std.ExtTreeMap.contains_iff_mem, Std.ExtTreeMap.contains_iff_mem]
    exact (hP s t h).mem_contacts c
  · cases found with
    | true =>
      exact fun s t sink h =>
        ⟨rfl, rfl, fun _ _ => ⟨h.1, Std.ExtTreeMap.contains_iff_mem.mp h.2.symm⟩⟩
    | false => exact alike_throw _ _

lemma alike_requireContact (c : ContactId) :
    Alike (Knows known) (requireContact c) (requireContact c) fun _ => Knows (c :: known) := by
  refine (alike_requireKnown (fun _ _ h => h.1) c).mono (fun _ _ h => h) fun _ s t h => ?_
  refine ⟨h.1.1, fun c' hc' => ?_⟩
  rcases List.mem_cons.mp hc' with rfl | hc'
  · exact h.2
  · exact h.1.2 c' hc'

/-- Asking related stores something that changes neither. -/
lemma alike_ask {P : Relational → Memory → Prop} {f : Relational → α} {g : Memory → α}
    (h : ∀ s t, P s t → f s = g t) :
    Alike P (query (.read f)) (query (.read g)) fun _ => P :=
  (alike_query (Query.alike_read h)).mono (fun _ _ h => h) fun _ _ _ h => h.1

/-! ## Storing and deleting messages -/

lemma alike_accept (m : Message) (sender : Option ContactId) :
    Alike (Knows known) (Engine.accept m sender) (Engine.accept m sender)
      fun _ => Knows known := by
  refine alike_bind (alike_query (Query.alike_read fun s t h => ?_)) fun subscribed => ?_
  · rw [Bool.eq_iff_iff, Std.ExtTreeMap.contains_iff_mem, Std.ExtTreeMap.contains_iff_mem]
    exact h.1.mem_groups m.group
  · cases subscribed with
    | true =>
      refine alike_query (Query.alike_total fun s t h => ?_)
      have hg : m.group ∈ t.subscriptions := Std.ExtTreeMap.contains_iff_mem.mp h.2.symm
      obtain ⟨hanswer, hafter⟩ := h.1.1.addMessage hg sender
      exact ⟨hanswer, h.1.congr hafter (t.contacts_addMessage m sender)⟩
    | false => exact (alike_pure false).mono (fun _ _ h => h.1) fun _ _ _ h => h

lemma alike_setSeenIfVisible (c : ContactId) (id : MessageId) :
    Alike (Knows known) (query (Store.setSeenIfVisible c id)) (query (Store.setSeenIfVisible c id))
      fun _ => Knows known := by
  refine alike_query (Query.alike_update fun s t h => ?_)
  obtain ⟨hanswer, hafter⟩ := h.1.setSeenIfVisible c id
  exact ⟨hanswer, h.congr hafter rfl⟩

lemma alike_acceptAll (c : ContactId) (messages : List Message) :
    Alike (Knows known) (Engine.acceptAll c messages) (Engine.acceptAll c messages)
      fun _ => Knows known := by
  induction messages with
  | nil => exact alike_pure 0
  | cons m rest ih =>
    refine alike_bind (alike_accept m (some c)) fun new => ?_
    cases new with
    | true => exact alike_bind ih fun n => alike_pure (n + 1)
    | false =>
      exact alike_bind (alike_discard (alike_setSeenIfVisible c m.id)) fun _ => ih

lemma alike_removeAll (ids : List MessageId) :
    Alike (Knows known) (Engine.removeAll ids) (Engine.removeAll ids) fun _ => Knows known := by
  induction ids with
  | nil => exact alike_pure 0
  | cons id rest ih =>
    have hremove : Alike (Knows known) (query (Store.removeMessage id))
        (query (Store.removeMessage id)) fun _ => Knows known :=
      alike_query (Query.alike_set fun s t h => h.congr (h.1.removeMessage id) rfl)
    refine alike_bind (alike_ask fun s t h => h.1.rawMessage id) fun raw => ?_
    exact alike_bind hremove fun _ => alike_bind ih fun n => alike_pure _

/-! ## Batches -/

lemma alike_fill {P : Relational → Memory → Prop} {f : MessageId → Query Relational (Option Bytes)}
    {g : MessageId → Query Memory (Option Bytes)}
    (h : ∀ id, Alike P (query (f id)) (query (g id)) fun _ => P) (ids : List MessageId)
    (writer : BatchWriter) :
    Alike P (Engine.fill f writer ids) (Engine.fill g writer ids) fun _ => P := by
  induction ids generalizing writer with
  | nil => exact alike_pure _
  | cons id rest ih =>
    refine alike_bind (h id) fun found => ?_
    cases found with
    | none => exact ih writer
    | some raw =>
      dsimp only
      cases writer.write raw with
      | none => exact alike_pure _
      | some writer' => exact alike_bind (ih writer') fun _ => alike_pure _

lemma alike_finishBatch {c : ContactId} (hc : c ∈ known) (writer : BatchWriter) (nonce : Nonce)
    (sent : List MessageId) (now : Int64) :
    Alike (Knows known) (Engine.finishBatch c writer nonce sent now)
      (Engine.finishBatch c writer nonce sent now) fun _ => Knows known := by
  refine alike_bind (alike_write _) fun b => ?_
  have hadd : Alike (Knows known) (query (Store.addOutstandingBatch c b sent now))
      (query (Store.addOutstandingBatch c b sent now)) fun _ => Knows known := by
    refine alike_query fun s t h => ?_
    obtain ⟨hanswer, hafter⟩ := h.1.addOutstandingBatch (h.2 c hc) b sent now
    exact ⟨hanswer, fun _ _ => h.congr hafter rfl⟩
  split
  · exact alike_bind hadd fun _ => alike_pure _
  · exact alike_pure _

lemma alike_removeAcked (c : ContactId) (ids : List BatchId) :
    Alike (Knows known) (Engine.removeAcked c ids) (Engine.removeAcked c ids)
      fun _ => Knows known := by
  induction ids with
  | nil => exact alike_pure []
  | cons b rest ih =>
    have hremove : Alike (Knows known) (query (Store.removeAckedBatch c b))
        (query (Store.removeAckedBatch c b)) fun _ => Knows known := by
      refine alike_query (Query.alike_update fun s t h => ?_)
      obtain ⟨hanswer, hafter⟩ := h.1.removeAckedBatch c b
      obtain ⟨deliveries, outstanding, heq⟩ := t.exists_removeAckedBatch c b
      exact ⟨hanswer, h.congr hafter (by rw [heq])⟩
    exact alike_bind hremove fun seen => alike_bind ih fun acked => alike_pure _

lemma alike_flagMissing (c : ContactId) (offer : List MessageId) :
    Alike (Knows known) (Engine.flagMissing c offer) (Engine.flagMissing c offer)
      fun _ => Knows known := by
  induction offer with
  | nil => exact alike_pure []
  | cons id rest ih =>
    exact alike_bind (alike_setSeenIfVisible c id) fun visible =>
      alike_bind ih fun flags => alike_pure _

end Txn

/-! ## Operations -/

/-- Engines that are the same, but over stores that mirror each other. -/
structure Engine.Mirrors (e : Engine Relational) (e' : Engine Memory) : Prop where
  store : e.store.Mirrors e'.store
  config : e.config = e'.config
  now : e.now = e'.now
  gate : e.gate = e'.gate
  openOffers : e.openOffers = e'.openOffers

/-- Turns that are the same, but over engines that mirror each other. -/
structure Turn.Mirrors (t : Turn Relational) (t' : Turn Memory) : Prop where
  engine : t.engine.Mirrors t'.engine
  events : t.events = t'.events
  sink : t.sink = t'.sink

/-- Two operations that give the same answer or error, and keep turns mirrored. -/
def Act.Alike {α : Type} (x : Act Relational α) (y : Act Memory α) : Prop :=
  ∀ t t', Turn.Mirrors t t' → (x t).1 = (y t').1 ∧ Turn.Mirrors (x t).2 (y t').2

namespace Act

variable {α β : Type}

lemma alike_pure (a : α) : Alike (pure a) (pure a) := fun _ _ h => ⟨rfl, h⟩

lemma alike_throw (e : SyncError) : Alike (throw e : Act Relational α) (throw e) :=
  fun _ _ h => ⟨rfl, h⟩

lemma alike_bind {x : Act Relational α} {y : Act Memory α} {f : α → Act Relational β}
    {g : α → Act Memory β} (h : Alike x y) (hf : ∀ a, Alike (f a) (g a)) :
    Alike (x >>= f) (y >>= g) := by
  intro t t' ht
  obtain ⟨hanswer, hafter⟩ := h t t' ht
  rw [bind_apply, bind_apply]
  rcases equal_answers hanswer with ⟨e, u, u', hx, hy⟩ | ⟨a, u, u', hx, hy⟩
  · rw [hx, hy] at hafter ⊢
    exact ⟨rfl, hafter⟩
  · rw [hx, hy] at hafter ⊢
    exact hf a u u' hafter

lemma alike_emit (e : Event) : Alike (emit e) (emit e) :=
  fun _ _ h => ⟨rfl, h.engine, congrArg (· ++ [e]) h.events, h.sink⟩

/-- An event may be reported in some cases only. -/
lemma alike_emitIf {p : Prop} [Decidable p] (e : Event) (a : α) :
    Alike (if p then emit e >>= fun _ => pure a else pure a)
      (if p then emit e >>= fun _ => pure a else pure a) := by
  split
  · exact alike_bind (alike_emit e) fun _ => alike_pure a
  · exact alike_pure a

lemma alike_clock : Alike clock clock :=
  fun _ _ h => ⟨congrArg Except.ok h.engine.now, h⟩

lemma alike_settings : Alike settings settings :=
  fun _ _ h => ⟨congrArg Except.ok h.engine.config, h⟩

lemma alike_send (packet : Packet) : Alike (send packet) (send packet) := by
  intro t t' h
  simp only [send, h.sink]
  rcases t'.sink.send packet with ⟨e | _, sink⟩
  · exact ⟨rfl, h.engine, h.events, rfl⟩
  · exact ⟨rfl, h.engine, h.events, rfl⟩

lemma alike_transaction {x : Txn Relational α} {y : Txn Memory α} (known : List ContactId)
    (h : Txn.Alike (Knows []) x y fun _ => Knows known) :
    Alike (transaction x) (transaction y) := by
  intro t t' ht
  obtain ⟨hanswer, hsink, hafter⟩ :=
    h t.engine.store t'.engine.store t.sink (Knows.of_mirrors ht.engine.store)
  rw [ht.sink] at hanswer hsink hafter
  simp only [transaction, ht.sink]
  rcases equal_answers hanswer with ⟨e, _, _, hx, hy⟩ | ⟨a, _, _, hx, hy⟩
  -- a transaction that failed leaves both stores as they were
  · rw [hx, hy] at hsink ⊢
    exact ⟨rfl, ht.engine, ht.events, hsink⟩
  · rw [hx, hy] at hsink hafter ⊢
    refine ⟨rfl, ?_, ht.events, hsink⟩
    exact ⟨(hafter a rfl).1, ht.engine.config, ht.engine.now, ht.engine.gate,
      ht.engine.openOffers⟩

lemma alike_throughGate {x : Act Relational α} {y : Act Memory α} (h : Alike x y) :
    Alike (throughGate x) (throughGate y) := by
  intro t t' ht
  rw [throughGate_apply, throughGate_apply, ht.engine.gate]
  cases t'.engine.gate with
  | paused => exact ⟨rfl, ht⟩
  | closed => exact ⟨rfl, ht⟩
  | opened =>
    obtain ⟨hanswer, hafter⟩ := h t t' ht
    exact ⟨congrArg (Except.map Passage.passed) hanswer, hafter⟩

lemma alike_ask {q : Query Relational α} {r : Query Memory α}
    (h : Query.Alike Relational.Mirrors q r fun _ => Relational.Mirrors) :
    Alike (ask q) (ask r) := by
  apply alike_transaction []
  exact (Txn.alike_query h).mono (fun _ _ h => h.1) fun _ _ _ h => Knows.of_mirrors h

lemma alike_askAbout {q : Query Relational α} {r : Query Memory α} (c : ContactId)
    (h : Query.Alike Relational.Mirrors q r fun _ => Relational.Mirrors) :
    Alike (askAbout c q) (askAbout c r) := by
  refine alike_transaction [] (Txn.alike_bind (Txn.alike_requireContact c) fun _ => ?_)
  exact (Txn.alike_query h).mono (fun _ _ h => h.1) fun _ _ _ h => Knows.of_mirrors h

end Act

end MessageSync
