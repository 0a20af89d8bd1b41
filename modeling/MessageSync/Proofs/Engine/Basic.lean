import MessageSync.Engine.Operation
import MessageSync.Proofs.Store.Change

/-!
# Running operations

What transactions and operations come to when they are applied to a state. The facts up
to `requireContact` hold over every store; `Turn.after` is the form in which the results
of operations over a store in memory are stated: a run of changes, and more events.
-/

namespace MessageSync

/-! ## Transactions -/

namespace Txn

variable {σ α β : Type}

@[simp] lemma pure_apply (a : α) (st : σ × Sink) : (pure a : Txn σ α) st = (.ok a, st) := rfl

@[simp] lemma throw_apply (e : SyncError) (st : σ × Sink) :
    (throw e : Txn σ α) st = (.error e, st) := rfl

lemma bind_apply (x : Txn σ α) (f : α → Txn σ β) (st : σ × Sink) :
    (x >>= f) st =
      match x st with
      | (.ok a, st) => f a st
      | (.error e, st) => (.error e, st) := by
  simp only [bind, ExceptT.bind, ExceptT.mk, StateT.bind]
  rcases x st with ⟨_ | a, st'⟩ <;> rfl

lemma map_apply (f : α → β) (x : Txn σ α) (st : σ × Sink) :
    (f <$> x) st =
      match x st with
      | (.ok a, st) => (.ok (f a), st)
      | (.error e, st) => (.error e, st) := by
  simp only [Functor.map, ExceptT.map, ExceptT.mk, StateT.bind, bind]
  rcases x st with ⟨_ | a, st'⟩ <;> rfl

/-- Both parts of a transaction that gave an answer gave one. -/
lemma bind_eq_ok {x : Txn σ α} {f : α → Txn σ β} {st st' : σ × Sink} {b : β}
    (h : (x >>= f) st = (.ok b, st')) :
    ∃ a mid, x st = (.ok a, mid) ∧ f a mid = (.ok b, st') := by
  rw [bind_apply] at h
  rcases hx : x st with ⟨e | a, mid⟩
  · rw [hx] at h
    cases h
  · rw [hx] at h
    exact ⟨a, mid, rfl, h⟩

lemma discard_eq_ok {x : Txn σ α} {st st' : σ × Sink}
    (h : (discard x : Txn σ Unit) st = (.ok (), st')) : ∃ a, x st = (.ok a, st') := by
  have hmap : ((fun _ => ()) <$> x) st = (.ok (), st') := h
  rw [map_apply] at hmap
  rcases hx : x st with ⟨e | a, mid⟩
  · rw [hx] at hmap
    cases hmap
  · rw [hx] at hmap
    cases hmap
    exact ⟨a, rfl⟩

lemma query_of_ok {q : Query σ α} {s s' : σ} {a : α} (h : q s = (.ok a, s')) (sink : Sink) :
    query q (s, sink) = (.ok a, (s', sink)) := by
  simp only [query, h]

lemma query_eq_ok {q : Query σ α} {st st' : σ × Sink} {a : α} (h : query q st = (.ok a, st')) :
    q st.1 = (.ok a, st'.1) := by
  simp only [query] at h
  rcases hq : q st.1 with ⟨e | b, s⟩
  · rw [hq] at h
    cases h
  · rw [hq] at h
    cases h
    rfl

end Txn

/-! ## Operations -/

namespace Act

variable {σ α β : Type}

@[simp] lemma pure_apply (a : α) (t : Turn σ) : (pure a : Act σ α) t = (.ok a, t) := rfl

@[simp] lemma throw_apply (e : SyncError) (t : Turn σ) :
    (throw e : Act σ α) t = (.error e, t) := rfl

lemma bind_apply (x : Act σ α) (f : α → Act σ β) (t : Turn σ) :
    (x >>= f) t =
      match x t with
      | (.ok a, t) => f a t
      | (.error e, t) => (.error e, t) := by
  simp only [bind, ExceptT.bind, ExceptT.mk, StateT.bind]
  rcases x t with ⟨_ | a, t'⟩ <;> rfl

lemma bind_pure_apply (x : Act σ α) (f : α → β) (t : Turn σ) :
    (x >>= fun a => pure (f a)) t = ((x t).1.map f, (x t).2) := by
  rw [bind_apply]
  rcases x t with ⟨_ | a, t'⟩ <;> rfl

@[simp] lemma emit_apply (e : Event) (t : Turn σ) :
    (emit e : Act σ Unit) t = (.ok (), { t with events := t.events ++ [e] }) := rfl

@[simp] lemma clock_apply (t : Turn σ) : (clock : Act σ Int64) t = (.ok t.engine.now, t) := rfl

@[simp] lemma settings_apply (t : Turn σ) :
    (settings : Act σ SyncConfig) t = (.ok t.engine.config, t) := rfl

lemma throughGate_apply (act : Act σ α) (t : Turn σ) :
    throughGate act t =
      match t.engine.gate with
      | .paused => (.ok .waiting, t)
      | .closed => (.error .closed, t)
      | .opened => ((act t).1.map .passed, (act t).2) := by
  simp only [throughGate, bind_apply]
  show (match t.engine.gate with
    | .paused => pure .waiting
    | .closed => throw .closed
    | .opened => act >>= fun a => pure (.passed a) : Act σ (Passage α)) t = _
  cases t.engine.gate with
  | paused => rfl
  | closed => rfl
  | opened => exact bind_pure_apply act Passage.passed t

/-- The store after a transaction is that after its body, if there is an answer. -/
lemma transaction_eq_ok {body : Txn σ α} {t : Turn σ} {a : α}
    (h : (transaction body t).1 = .ok a) :
    ∃ sink, body (t.engine.store, t.sink) =
      (.ok a, ((transaction body t).2.engine.store, sink)) := by
  simp only [transaction] at h ⊢
  rcases hbody : body (t.engine.store, t.sink) with ⟨e | b, s, sink⟩
  · rw [hbody] at h
    cases h
  · rw [hbody] at h
    cases h
    exact ⟨sink, rfl⟩

lemma transaction_of_ok {body : Txn σ α} {t : Turn σ} {a : α} {st : σ × Sink}
    (h : body (t.engine.store, t.sink) = (.ok a, st)) : (transaction body t).1 = .ok a := by
  simp only [transaction, h]

/-- A transaction without an answer leaves the store as it was. -/
lemma transaction_eq_error {body : Txn σ α} {t : Turn σ} {e : SyncError}
    (h : (transaction body t).1 = .error e) :
    (transaction body t).2.engine.store = t.engine.store := by
  simp only [transaction] at h ⊢
  rcases hbody : body (t.engine.store, t.sink) with ⟨e | b, s, sink⟩
  · rfl
  · rw [hbody] at h
    cases h

lemma emitAll_apply (events : List Event) (t : Turn σ) :
    Engine.emitAll events t = (.ok (), { t with events := t.events ++ events }) := by
  induction events generalizing t with
  | nil =>
    rw [List.append_nil]
    rfl
  | cons e rest ih =>
    simp only [Engine.emitAll, bind_apply, emit_apply, ih, List.append_assoc]
    rfl

end Act

/-! ## Over a store in memory -/

/-- What an operation works on after some changes of the store and some events. -/
def Turn.after (t : Turn Memory) (log : List Change) (events : List Event) : Turn Memory :=
  { t with
    engine := { t.engine with store := t.engine.store.changes log }
    events := t.events ++ events }

namespace Turn

variable (t : Turn Memory) (log : List Change) (events : List Event)

@[simp] lemma store_after : (t.after log events).engine.store = t.engine.store.changes log := rfl

@[simp] lemma events_after : (t.after log events).events = t.events ++ events := rfl

@[simp] lemma after_nil : t.after [] [] = t := by
  simp [after]

lemma after_after (log' : List Change) (events' : List Event) :
    (t.after log events).after log' events' = t.after (log ++ log') (events ++ events') := by
  simp [after, Memory.changes_append]

end Turn

namespace Txn

variable {α : Type}

lemma requireContact_apply (c : ContactId) (s : Memory) (sink : Sink) :
    requireContact c (s, sink) =
      if c ∈ s.contacts then (.ok (), (s, sink)) else (.error (.noSuchContact c), (s, sink)) := by
  simp only [requireContact, bind_apply]
  show (if s.contacts.contains c then _ else _ : Txn Memory Unit) _ = _
  simp only [Std.ExtTreeMap.contains_iff_mem]
  split <;> rfl

end Txn

namespace Act

variable {α : Type}

/-- A transaction about a contact does nothing unless the contact exists. -/
lemma transaction_requireContact (c : ContactId) (body : Unit → Txn Memory α) (t : Turn Memory) :
    transaction (Txn.requireContact c >>= body) t =
      if c ∈ t.engine.store.contacts then transaction (body ()) t
      else (.error (.noSuchContact c), t) := by
  simp only [transaction, Txn.bind_apply, Txn.requireContact_apply]
  by_cases h : c ∈ t.engine.store.contacts
  · simp only [h, if_true]
  · simp only [h, if_false]

lemma askAbout_apply (c : ContactId) (q : Query Memory α) (t : Turn Memory) :
    askAbout c q t =
      if c ∈ t.engine.store.contacts then ask q t else (.error (.noSuchContact c), t) :=
  transaction_requireContact c (fun _ => Txn.query q) t

/-- A query that makes one change. -/
lemma ask_change {q : Query Memory α} {t : Turn Memory} {a : α} {x : Change}
    (h : q t.engine.store = (.ok a, t.engine.store.change x)) :
    ask q t = (.ok a, t.after [x] []) := by
  simp only [ask, transaction, Txn.query, h, Turn.after, List.append_nil]
  rfl

/-- A query that changes nothing. -/
lemma ask_same {q : Query Memory α} {t : Turn Memory} {a : α}
    (h : q t.engine.store = (.ok a, t.engine.store)) : ask q t = (.ok a, t) := by
  simp only [ask, transaction, Txn.query, h]

end Act

end MessageSync
