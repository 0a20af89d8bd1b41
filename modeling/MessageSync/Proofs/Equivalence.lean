import MessageSync.Node
import MessageSync.Proofs.Engine.Backend
import MessageSync.Proofs.Engine.Reflect

/-!
# Nodes over either store

A node over a relational store may be closed and opened anew, and goes on as if it had not
been: from the same history come the same answers and errors, the same events and the same
bytes as from a node over a store in memory (`Backend.effects_eq`), as long as periods and
counters stay in the range of signed numbers, the numbers of contacts have 32 bits, properties
fit into the memory of a machine, and the gate is open whenever the store is opened.
-/

namespace MessageSync

/-! ## Lives of nodes -/

/-- What comes of an operation: an answer or an error, events, and what was written. -/
structure Effect where
  Answer : Type
  answer : Except SyncError Answer
  events : List Event
  sink : Sink

/-- What happens to a node: a step of its engine, or its store is closed and opened anew. -/
inductive Move where
  | step (step : Step)
  | reopen

/-- What comes of a step, if it is an operation. -/
def Step.effects {σ : Type} [Store σ] (e : Engine σ) : Step → List Effect
  | @perform α operation sink =>
    let r := operation.act.runOn e sink
    [⟨α, r.1, r.2.events, r.2.sink⟩]
  | _ => []

namespace Backend

/-- Closes the store of a node and opens it anew. A store in memory would be gone, and goes
on instead. -/
def reopen : (backend : Backend) → Node backend.Data → Except StoreError (Node backend.Data)
  | .memory, node => .ok node
  | .relational, node => node.reopen

/-- What comes of the operations in the life of a node, in turn. -/
def effects (backend : Backend) : Node backend.Data → List Move → Except StoreError (List Effect)
  | _, [] => .ok []
  | node, .step step :: rest =>
    (backend.effects { node with engine := node.engine.step step } rest).map
      (step.effects node.engine ++ ·)
  | node, .reopen :: rest =>
    (backend.reopen node).bind fun node => backend.effects node rest

end Backend

/-! ## Ranges of columns -/

/-- Whether what a step brings, and the counters that it finds, are in the range of their
columns, and there is a number for a contact that it adds. -/
def Step.InRange (t : Memory) : Step → Prop
  | .perform operation _ => operation.InRange t
  | _ => True

/-- Whether all steps are in range, and the gate is open whenever the store is opened anew. -/
def Engine.InRange : Engine Memory → List Move → Prop
  | _, [] => True
  | e, .step step :: rest => step.InRange e.store ∧ InRange (e.step step) rest
  | e, .reopen :: rest => e.gate = .opened ∧ InRange e rest

instance (t : Memory) : (step : Step) → Decidable (step.InRange t)
  | .perform operation _ => inferInstanceAs (Decidable (operation.InRange t))
  | .setClock _ | .setGate _ => isTrue trivial

instance Engine.decidableInRange : (e : Engine Memory) → (history : List Move) →
    Decidable (e.InRange history)
  | _, [] => isTrue trivial
  | e, .step step :: rest =>
    have := decidableInRange (e.step step) rest
    inferInstanceAs (Decidable (step.InRange e.store ∧ (e.step step).InRange rest))
  | e, .reopen :: rest =>
    have := decidableInRange e rest
    inferInstanceAs (Decidable (e.gate = .opened ∧ e.InRange rest))

/-- The number of a contact that a step in range adds has 32 bits. -/
lemma Step.number_lt {e : Engine Memory} {step : Step} (hrange : step.InRange e.store)
    {effect : Effect} (heffect : effect ∈ step.effects e) {c : ContactId}
    (hc : .contactAdded c ∈ effect.events) : c.number < UInt32.size := by
  cases step with
  | setClock _ | setGate _ => cases heffect
  | perform operation sink =>
    obtain rfl := List.mem_singleton.mp heffect
    obtain ⟨hadds, hnumber⟩ := Operation.number_of_report hc
    have hroom := hrange.numbers hadds
    omega

/-! ## One move -/

/-- The tables were set up by this version of the library, so that the store opens. -/
lemma Relational.reopen_eq_ok {s : Relational}
    (h : s.versions = Relational.empty.versions) : s.reopen = .ok s := by
  have hversion : s.versions.keys.foldl max 0 = 1 := by
    rw [h]
    decide
  rw [Relational.reopen, hversion]
  rfl

/-- Nodes that are the same, but over stores that reflect each other. -/
structure Node.Reflects (node : Node Relational) (node' : Node Memory) : Prop where
  config : node.config = node'.config
  engine : node.engine.Reflects node'.engine
  settings : node'.engine.config = node'.config.sync

namespace Node.Reflects

variable {node : Node Relational} {node' : Node Memory}

lemma start (config : NodeConfig) (now : Int64) :
    (Node.start Relational.empty config now).Reflects (Node.start Memory.empty config now) where
  config := rfl
  engine := ⟨Engine.Mirrors.start config.sync now, Relational.Reflects.empty, rfl⟩
  settings := rfl

/-- A step of both engines comes to the same, and keeps the nodes related. -/
lemma step (h : node.Reflects node') {step : Step} (hrange : step.InRange node'.engine.store) :
    step.effects node.engine = step.effects node'.engine ∧
      { node with engine := node.engine.step step }.Reflects
        { node' with engine := node'.engine.step step } := by
  cases step with
  | perform operation sink =>
    obtain ⟨hagree, hafter⟩ := operation.reflects h.engine hrange sink
    refine ⟨?_, h.config, hafter, ?_⟩
    · simp only [Step.effects, hagree.answer, hagree.events, hagree.sink]
    · show (operation.act.runOn node'.engine sink).2.engine.config = node'.config.sync
      rw [operation.engine_runOn]
      exact h.settings
  | setClock now =>
    have hmirrors := h.engine.toMirrors.step (.setClock now)
    exact ⟨rfl, h.config, ⟨hmirrors, h.engine.reflects, h.engine.idle⟩, h.settings⟩
  | setGate gate =>
    have hmirrors := h.engine.toMirrors.step (.setGate gate)
    exact ⟨rfl, h.config, ⟨hmirrors, h.engine.reflects, h.engine.idle⟩, h.settings⟩

/-- A node whose gate is open goes on when its store is opened anew. -/
lemma reopen (h : node.Reflects node') (hgate : node'.engine.gate = .opened) :
    ∃ node'' : Node Relational, node.reopen = .ok node'' ∧ node''.Reflects node' := by
  refine ⟨.start node.engine.store node.config node.engine.now, ?_, h.config, ?_, h.settings⟩
  · rw [Node.reopen, Relational.reopen_eq_ok h.engine.reflects.versions]
    rfl
  · refine ⟨⟨h.engine.store, ?_, h.engine.now, hgate.symm, h.engine.idle.symm⟩,
      h.engine.reflects, h.engine.idle⟩
    rw [h.settings, ← h.config]
    rfl

/-- Nodes over stores that reflect each other live the same life. -/
theorem effects (h : node.Reflects node') {history : List Move}
    (hrange : node'.engine.InRange history) :
    ∃ effects, Backend.memory.effects node' history = .ok effects ∧
      Backend.relational.effects node history = .ok effects ∧
      ∀ effect ∈ effects, ∀ c, .contactAdded c ∈ effect.events → c.number < UInt32.size := by
  induction history generalizing node node' with
  | nil => exact ⟨[], rfl, rfl, fun _ hmem => (List.not_mem_nil hmem).elim⟩
  | cons move rest ih =>
    cases move with
    | step step =>
      obtain ⟨hstep, hrest⟩ := hrange
      obtain ⟨hsame, hafter⟩ := h.step hstep
      obtain ⟨effects, hmemory, hrelational, hnumbers⟩ := ih hafter hrest
      refine ⟨step.effects node'.engine ++ effects, ?_, ?_, fun effect hmem c hc => ?_⟩
      · exact congrArg (Except.map _) hmemory
      · rw [← hsame]
        exact congrArg (Except.map _) hrelational
      · rcases List.mem_append.mp hmem with hnow | hlater
        · exact Step.number_lt hstep hnow hc
        · exact hnumbers effect hlater c hc
    | reopen =>
      obtain ⟨hgate, hrest⟩ := hrange
      obtain ⟨node'', hopen, hafter⟩ := h.reopen hgate
      obtain ⟨effects, hmemory, hrelational, hnumbers⟩ := ih hafter hrest
      refine ⟨effects, hmemory, ?_, hnumbers⟩
      show node.reopen.bind (fun node => Backend.relational.effects node rest) = .ok effects
      rw [hopen]
      exact hrelational

end Node.Reflects

/-! ## Equivalence -/

/-- From the same history come the same effects over either store, wherever in it the
relational store is closed and opened anew. The numbers of the contacts that are added have 32
bits. -/
theorem Backend.effects_eq (config : NodeConfig) (now : Int64) (history : List Move)
    (h : (Engine.start Memory.empty config.sync now).InRange history) :
    ∃ effects, Backend.memory.effects (.start Backend.memory.empty config now) history =
        .ok effects ∧
      Backend.relational.effects (.start Backend.relational.empty config now) history =
        .ok effects ∧
      ∀ effect ∈ effects, ∀ c, .contactAdded c ∈ effect.events → c.number < UInt32.size :=
  (Node.Reflects.start config now).effects h

namespace Sample

/-- A contact with a secret is added and connects, while the store is opened anew twice. -/
def life : List Move :=
  let secret : Secret := ⟨⟨1⟩, ⟨1⟩, 0, 1, 1, true, 7, [9], 0, .fresh⟩
  [.step (.perform (.addContact (Table.insertAll ∅ [("tcp", "host")])) {}),
    .step (.perform (.addSecrets [secret]) {}), .step (.perform (.nextOutgoing secret.key) {}),
    .reopen, .step (.perform (.acceptIncoming secret.key 5) {}),
    .step (.perform (.rotateSecret secret.key 8 [10]) {}), .reopen,
    .step (.perform (.removeSecretsBefore ⟨1⟩ ⟨1⟩ 8) {}), .step (.perform .secrets {}),
    .step (.setClock 1), .step (.perform (.contactTransports ⟨1⟩) {}),
    .step (.perform (.generateTransports ⟨1⟩) { limit := some 3 })]

end Sample

/-- The effects of a sample life, over either store. -/
theorem Backend.effects_life :
    ∃ effects,
      Backend.memory.effects (.start Backend.memory.empty {} 0) Sample.life = .ok effects ∧
      Backend.relational.effects (.start Backend.relational.empty {} 0) Sample.life =
        .ok effects ∧
      ∀ effect ∈ effects, ∀ c, .contactAdded c ∈ effect.events → c.number < UInt32.size :=
  Backend.effects_eq {} 0 Sample.life (by decide +kernel)

end MessageSync
