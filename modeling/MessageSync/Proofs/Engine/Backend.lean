import MessageSync.Proofs.Engine.Mirror
import MessageSync.Proofs.Engine.Origin

/-!
# Engines over either store

An engine runs over a store in memory or over a relational store. What is said of both is
said of a `Backend`. Each engine over a backend has a twin: the engine over a store in
memory with the same history (`Backend.Twin`). What the stores of twins answer to the
engine is the same, and so is what plain operations answer, report and write, so that a
fact about histories needs to be shown over a store in memory only.
-/

namespace MessageSync

/-- The kinds of stores. -/
inductive Backend where
  | memory
  | relational
deriving DecidableEq, Repr

namespace Backend

/-- The stores of a kind. -/
def Data : Backend → Type
  | .memory => Memory
  | .relational => Relational

instance (backend : Backend) : Store backend.Data :=
  match backend with
  | .memory => inferInstanceAs (Store Memory)
  | .relational => inferInstanceAs (Store Relational)

lemma containsContact_snd (backend : Backend) (c : ContactId) (s : backend.Data) :
    (Store.containsContact c s).2 = s := by
  cases backend with
  | memory => rfl
  | relational => rfl

/-- The store without contents. -/
def empty : (backend : Backend) → backend.Data
  | .memory => Memory.empty
  | .relational => Relational.empty

/-- The message that is stored under an identifier. -/
def message : (backend : Backend) → backend.Data → MessageId → Option Message
  | .memory, s, id => (show Memory from s).messages[id]?
  | .relational, s, id => ((show Relational from s).messages[id]?).map (Relational.messageOf id)

/-- The messages that may go to a contact, oldest first. -/
def eligible : (backend : Backend) → backend.Data → ContactId → List Message
  | .memory, s, c => Memory.eligible s c
  | .relational, s, c => Relational.eligible s c

/-- The engine over an empty store. -/
def start (backend : Backend) (config : SyncConfig) (now : Int64) : Engine backend.Data :=
  .start backend.empty config now

/-- Whether an engine is what some history made of an engine over an empty store. -/
def Reaches (backend : Backend) (e : Engine backend.Data) : Prop :=
  ∃ config now history, e = (backend.start config now).run history

/-- An engine over some backend, and the engine over a store in memory that has the same
history. -/
def Twin : (backend : Backend) → Engine backend.Data → Engine Memory → Prop
  | .memory, e, e' => e = e' ∧ e'.store.Consistent
  | .relational, e, e' => Engine.Mirrors e e'

end Backend

/-- Whether a relation holds between each step of a history and the engine before it. -/
def Engine.Always {σ : Type} [Store σ] (P : Engine σ → Step → Prop) : Engine σ → List Step → Prop
  | _, [] => True
  | e, step :: rest => P e step ∧ Always P (e.step step) rest

lemma Engine.Always.left {σ : Type} [Store σ] {P : Engine σ → Step → Prop} {e : Engine σ}
    {done rest : List Step} (h : e.Always P (done ++ rest)) : e.Always P done := by
  induction done generalizing e with
  | nil => trivial
  | cons step _ ih => exact ⟨h.1, ih h.2⟩

lemma Engine.Always.right {σ : Type} [Store σ] {P : Engine σ → Step → Prop} {e : Engine σ}
    {done rest : List Step} (h : e.Always P (done ++ rest)) : (e.run done).Always P rest := by
  induction done generalizing e with
  | nil => exact h
  | cons step _ ih => exact ih h.2

/-- What the store of an engine answers to a query. -/
def Engine.view {σ α : Type} (e : Engine σ) (q : Query σ α) : Except StoreError α := (q e.store).1

/-! ## Histories of twins -/

lemma Engine.consistent_step {e : Engine Memory} (h : e.store.Consistent) (step : Step) :
    (e.step step).store.Consistent :=
  Engine.run_induction (fun _ hs => hs.keyed) (fun _ _ hs hx => hs.change hx) h [step]

/-- Only within an operation are the offers of contacts being answered. -/
lemma Engine.openOffers_run (e : Engine Memory) (history : List Step) :
    (e.run history).openOffers = e.openOffers := by
  induction history generalizing e with
  | nil => rfl
  | cons step rest ih =>
    have hstep : (e.step step).openOffers = e.openOffers := by
      cases step with
      | perform operation sink =>
        show (operation.act.runOn e sink).2.engine.openOffers = _
        rw [operation.engine_runOn]
      | setClock _ | setGate _ => rfl
    rw [Engine.run_cons, ih, hstep]

namespace Backend.Twin

variable {backend : Backend} {e : Engine backend.Data} {e' : Engine Memory}

lemma start (backend : Backend) (config : SyncConfig) (now : Int64) :
    backend.Twin (backend.start config now) (.start Memory.empty config now) := by
  cases backend with
  | memory => exact ⟨rfl, Memory.Consistent.empty⟩
  | relational => exact Engine.Mirrors.start config now

lemma step (h : backend.Twin e e') (step : Step) : backend.Twin (e.step step) (e'.step step) := by
  cases backend with
  | memory =>
    obtain ⟨rfl, hs⟩ := h
    exact ⟨rfl, Engine.consistent_step hs step⟩
  | relational => exact Engine.Mirrors.step h step

/-- Engines with the same history stay twins. -/
theorem run (h : backend.Twin e e') (history : List Step) :
    backend.Twin (e.run history) (e'.run history) := by
  induction history generalizing e e' with
  | nil => exact h
  | cons first rest ih => exact ih (h.step first)

/-- What is the same of twins holds at each step of a history of the one if it does so of the
other. -/
lemma always_iff {P : Engine backend.Data → Step → Prop} {P' : Engine Memory → Step → Prop}
    (hsame : ∀ {e : Engine backend.Data} {e' : Engine Memory}, backend.Twin e e' →
      ∀ step, P e step ↔ P' e' step)
    (h : backend.Twin e e') (history : List Step) : e.Always P history ↔ e'.Always P' history := by
  induction history generalizing e e' with
  | nil => exact Iff.rfl
  | cons step rest ih => exact and_congr (hsame h step) (ih (h.step step))

/-- Every engine that a history leads to has a twin. -/
lemma of_reaches (h : backend.Reaches e) : ∃ e', backend.Twin e e' := by
  obtain ⟨config, now, history, rfl⟩ := h
  exact ⟨_, (start backend config now).run history⟩

lemma consistent (h : backend.Twin e e') : e'.store.Consistent := by
  cases backend with
  | memory => exact h.2
  | relational => exact (Engine.Mirrors.store h).consistent

/-! ## Answers of twins -/

lemma gate (h : backend.Twin e e') : e.gate = e'.gate := by
  cases backend with
  | memory => rw [h.1]
  | relational => exact Engine.Mirrors.gate h

lemma config (h : backend.Twin e e') : e.config = e'.config := by
  cases backend with
  | memory => rw [h.1]
  | relational => exact Engine.Mirrors.config h

lemma now (h : backend.Twin e e') : e.now = e'.now := by
  cases backend with
  | memory => rw [h.1]
  | relational => exact Engine.Mirrors.now h

lemma openOffers (h : backend.Twin e e') : e.openOffers = e'.openOffers := by
  cases backend with
  | memory => rw [h.1]
  | relational => exact Engine.Mirrors.openOffers h

/-- An act gives the same for twins, if it is alike over mirrored stores. -/
lemma act (h : backend.Twin e e') {α : Type} (x : {σ : Type} → [Store σ] → Act σ α)
    (halike : Act.Alike (x (σ := Relational)) (x (σ := Memory))) (events : List Event)
    (sink : Sink) :
    let r := x (σ := backend.Data) ⟨e, events, sink⟩
    let r' := x (σ := Memory) ⟨e', events, sink⟩
    r.1 = r'.1 ∧ r.2.events = r'.2.events ∧ r.2.sink = r'.2.sink ∧
      (r'.2.engine.store.Consistent → backend.Twin r.2.engine r'.2.engine) := by
  cases backend with
  | memory =>
    obtain ⟨rfl, -⟩ := h
    exact ⟨rfl, rfl, rfl, fun hs => ⟨rfl, hs⟩⟩
  | relational =>
    obtain ⟨hanswer, hafter⟩ := halike ⟨e, events, sink⟩ ⟨e', events, sink⟩ ⟨h, rfl, rfl⟩
    exact ⟨hanswer, hafter.events, hafter.sink, fun _ => hafter.engine⟩

/-- A plain operation gives the same answer, events and bytes for twins. -/
lemma plain (h : backend.Twin e e') {α : Type} (operation : Operation α)
    (hplain : operation.plain) (sink : Sink) :
    (operation.act.runOn e sink).1 = (operation.act.runOn e' sink).1 ∧
      (operation.act.runOn e sink).2.events = (operation.act.runOn e' sink).2.events ∧
      (operation.act.runOn e sink).2.sink = (operation.act.runOn e' sink).2.sink := by
  obtain ⟨hanswer, hevents, hsink, -⟩ := h.act operation.act (operation.alike hplain) [] sink
  exact ⟨hanswer, hevents, hsink⟩

lemma status (h : backend.Twin e e') (c : ContactId) (id : MessageId) :
    e.view (Store.status c id) = .ok (e'.store.delivery c id) := by
  cases backend with
  | memory =>
    obtain ⟨rfl, -⟩ := h
    rfl
  | relational => exact (Engine.Mirrors.store h).statusOf c id

lemma eligible (h : backend.Twin e e') (c : ContactId) :
    backend.eligible e.store c = e'.store.eligible c := by
  cases backend with
  | memory =>
    obtain ⟨rfl, -⟩ := h
    rfl
  | relational => exact (Engine.Mirrors.store h).eligible c

lemma containsContact (h : backend.Twin e e') (c : ContactId) :
    e.view (Store.containsContact c) = .ok (e'.store.contacts.contains c) := by
  cases backend with
  | memory =>
    obtain ⟨rfl, -⟩ := h
    rfl
  | relational =>
    refine congrArg Except.ok (Bool.eq_iff_iff.mpr ?_)
    rw [Std.ExtTreeMap.contains_iff_mem, Std.ExtTreeMap.contains_iff_mem]
    exact (Engine.Mirrors.store h).mem_contacts c

/-- A contact that a node has is a contact of its twin. -/
lemma mem_contacts (h : backend.Twin e e') {c : ContactId}
    (hc : e.view (Store.containsContact c) = .ok true) : c ∈ e'.store.contacts := by
  rw [h.containsContact] at hc
  exact Std.ExtTreeMap.contains_iff_mem.mp (Except.ok.inj hc)

lemma batchesToAck (h : backend.Twin e e') (c : ContactId) :
    e.view (Store.batchesToAck c) = .ok (e'.store.toAckOf c) := by
  cases backend with
  | memory =>
    obtain ⟨rfl, -⟩ := h
    rfl
  | relational => exact (Engine.Mirrors.store h).batchesToAck c

lemma contactSubscriptions (h : backend.Twin e e') (c : ContactId) :
    e.view (Store.contactSubscriptions c) = .ok (e'.store.contactSubscriptions c) := by
  cases backend with
  | memory =>
    obtain ⟨rfl, -⟩ := h
    rfl
  | relational => exact congrArg Except.ok ((Engine.Mirrors.store h).contactSubscriptions c)

lemma containsSubscription (h : backend.Twin e e') (g : GroupId) :
    e.view (Store.containsSubscription g) = .ok (e'.store.subscriptions.contains g) := by
  cases backend with
  | memory =>
    obtain ⟨rfl, -⟩ := h
    rfl
  | relational =>
    refine congrArg Except.ok (Bool.eq_iff_iff.mpr ?_)
    rw [Std.ExtTreeMap.contains_iff_mem, Std.ExtTreeMap.contains_iff_mem]
    exact (Engine.Mirrors.store h).mem_groups g

lemma rating (h : backend.Twin e e') (a : AuthorId) :
    e.view (Store.rating a) = .ok (e'.store.ratingOf a) := by
  cases backend with
  | memory =>
    obtain ⟨rfl, -⟩ := h
    rfl
  | relational => exact (Engine.Mirrors.store h).rating a

/-- A message in the rows of a relational store is what it was when it arrived. -/
lemma message (h : backend.Twin e e') (id : MessageId) :
    backend.message e.store id = e'.store.messages[id]? := by
  cases backend with
  | memory =>
    obtain ⟨rfl, -⟩ := h
    rfl
  | relational =>
    have hrow := (Engine.Mirrors.store h).message id
    show ((show Relational from e.store).messages[id]?).map _ = _
    rw [hrow, Option.map_map]
    cases hm : e'.store.messages[id]? with
    | none => rfl
    | some m =>
      have hid : m.id = id := h.store.consistent.keyed hm
      subst hid
      rfl

lemma outstanding (h : backend.Twin e e') (c : ContactId) :
    e.view (Store.outstandingBatches c) = .ok (e'.store.outstandingOf c) := by
  cases backend with
  | memory =>
    obtain ⟨rfl, -⟩ := h
    rfl
  | relational => exact congrArg Except.ok ((Engine.Mirrors.store h).outstandingOf c)

lemma rawMessage (h : backend.Twin e e') (id : MessageId) :
    e.view (Store.rawMessage id) = .ok ((e'.store.messages[id]?).map Message.raw) := by
  cases backend with
  | memory =>
    obtain ⟨rfl, -⟩ := h
    rfl
  | relational => exact congrArg Except.ok ((Engine.Mirrors.store h).rawMessage id)

lemma containsMessage (h : backend.Twin e e') (id : MessageId) :
    e.view (Store.containsMessage id) = .ok (e'.store.messages.contains id) := by
  cases backend with
  | memory =>
    obtain ⟨rfl, -⟩ := h
    rfl
  | relational =>
    refine congrArg Except.ok (Bool.eq_iff_iff.mpr ?_)
    rw [Std.ExtTreeMap.contains_iff_mem, Std.ExtTreeMap.contains_iff_mem]
    exact (Engine.Mirrors.store h).mem_messages id

lemma sent (h : backend.Twin e e') (step : Step) : step.sent e = step.sent e' := by
  cases step with
  | setClock _ | setGate _ => rfl
  | perform operation sink =>
    rw [Step.sent, Step.sent]
    cases operation with
    | generateBatch c writer nonce =>
      rw [Operation.sent, Operation.sent, (h.plain (.generateBatch c writer nonce) rfl sink).1]
    | generateBatchFrom c writer nonce requested =>
      rw [Operation.sent, Operation.sent,
        (h.plain (.generateBatchFrom c writer nonce requested) rfl sink).1]
    | receiveRequest c offer request writer nonce =>
      rw [Operation.sent, Operation.sent,
        (h.plain (.receiveRequest c offer request writer nonce) rfl sink).1]
    | _ => rfl

end Backend.Twin

/-! ## States that histories lead to -/

namespace Backend

variable {backend : Backend}

/-- The twin of an engine that a history leads to does not answer any offer. -/
lemma Reaches.exists_twin {e : Engine backend.Data} (h : backend.Reaches e) :
    ∃ t, backend.Twin e t ∧ t.openOffers = ∅ := by
  obtain ⟨config, now, history, rfl⟩ := h
  refine ⟨_, (Twin.start backend config now).run history, ?_⟩
  rw [Engine.openOffers_run]
  rfl

lemma Reaches.step {e : Engine backend.Data} (h : backend.Reaches e) (step : Step) :
    backend.Reaches (e.step step) := by
  obtain ⟨config, now, history, rfl⟩ := h
  refine ⟨config, now, history ++ [step], ?_⟩
  rw [Engine.run_append]
  rfl

end Backend

end MessageSync
