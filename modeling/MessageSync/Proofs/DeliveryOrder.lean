import MessageSync.Proofs.OutstandingBatches
import MessageSync.Proofs.Store.Arrivals
import MessageSync.Proofs.Store.Holdings

/-!
# The order of deliveries

Batches of messages that contacts send can be received in any order, if the same identifier
stands for the same message in both of them: the same is stored in the end, and the same number
of messages was new. The answer to each batch is by how many messages the store grew, and a
batch that is received again adds nothing and changes nothing
(`Backend.receive_comm`).
-/

namespace MessageSync

/-! ## Receiving a batch -/

/-- What comes of a batch of messages that is received from a contact: the answer, and the
engine afterwards. -/
def Engine.receive {σ : Type} [Store σ] (e : Engine σ) (c : ContactId) (batch : ReceivedBatch)
    (sink : Sink) : Except SyncError (Passage Nat) × Engine σ :=
  let (answer, turn) := (Operation.receiveBatch c batch).act.runOn e sink
  (answer, turn.engine)

namespace Memory

/-- The answer to a batch is by how many messages the store grows. -/
lemma size_arrival (s : Memory) (c : ContactId) (batch : ReceivedBatch) :
    (s.changes (batch.arrival c)).messages.size =
      s.messages.size + s.countNew c batch.messages := by
  have hmessages (messages : List Message) (s : Memory) :
      (s.changes (messages.map (.accept · (some c)))).messages.size =
        s.messages.size + s.countNew c messages := by
    induction messages generalizing s with
    | nil => rfl
    | cons m rest ih =>
      rw [List.map_cons, changes_cons, ih, countNew, change, messages_accept]
      split
      · next hnew =>
        rw [Std.ExtTreeMap.size_insert, if_neg (mt Std.ExtTreeMap.contains_iff_mem.mp hnew.2)]
        omega
      · rw [Nat.add_zero]
  show (s.changes (_ ++ [_])).messages.size = _
  rw [changes_append]
  exact hmessages batch.messages s

end Memory

namespace Engine

/-- While the gate is open, the messages of a batch from a contact are taken in. -/
lemma receive_eq {e : Engine Memory} (hgate : e.gate = .opened) {c : ContactId}
    (hc : c ∈ e.store.contacts) (batch : ReceivedBatch) (sink : Sink) :
    e.receive c batch sink = (.ok (.passed (e.store.countNew c batch.messages)),
      { e with store := e.store.changes (batch.arrival c) }) := by
  refine Prod.ext ?_ ?_
  · show ((Operation.receiveBatch c batch).act.runOn e sink).1 = _
    simp only [Operation.act, Act.runOn, receiveBatch, Act.throughGate_apply, hgate,
      storeBatch_apply, hc, if_true]
    rfl
  · show ((Operation.receiveBatch c batch).act.runOn e sink).2.engine = _
    rw [Operation.engine_runOn, Operation.log, if_pos hgate, Memory.about, if_pos hc]
    rfl

/-- Engines over relational stores that mirror one engine are the same, if one of the stores
has the secrets of the other. -/
lemma Mirrors.ext {e e' : Engine Relational} {t : Engine Memory} (h : e.Mirrors t)
    (h' : e'.Mirrors t) (hspares : e'.store.Spares e.store) : e = e' := by
  have hstore := h.store.ext h'.store hspares.secrets hspares.versions
  obtain ⟨store, config, now, gate, openOffers⟩ := e
  obtain ⟨store', config', now', gate', openOffers'⟩ := e'
  have hconfig := h.config.trans h'.config.symm
  have hnow := h.now.trans h'.now.symm
  have hgate := h.gate.trans h'.gate.symm
  have hopen := h.openOffers.trans h'.openOffers.symm
  dsimp only at hstore hconfig hnow hgate hopen
  rw [hstore, hconfig, hnow, hgate, hopen]

end Engine

/-! ## Either store -/

namespace Backend

/-- How many messages are stored. -/
def stored : (backend : Backend) → backend.Data → Nat
  | .memory, s => (show Memory from s).messages.size
  | .relational, s => (show Relational from s).messages.size

/-- Whether the second store has the secrets of the first. Over a store in memory this is not
asked for. -/
def Spares : (backend : Backend) → backend.Data → backend.Data → Prop
  | .memory, _, _ => True
  | .relational, s, s' => Relational.Spares s s'

namespace Spares

variable {backend : Backend} {s s' s'' : backend.Data}

lemma refl (s : backend.Data) : backend.Spares s s := by
  cases backend with
  | memory => trivial
  | relational => exact ⟨rfl, rfl⟩

lemma symm (h : backend.Spares s s') : backend.Spares s' s := by
  cases backend with
  | memory => trivial
  | relational => exact ⟨h.secrets.symm, h.versions.symm⟩

lemma trans (h : backend.Spares s s') (h' : backend.Spares s' s'') : backend.Spares s s'' := by
  cases backend with
  | memory => trivial
  | relational => exact Relational.sparing.trans h h'

end Spares

/-- An operation that leaves the secrets alone does so in either store. -/
lemma spares_runOn {backend : Backend} {α : Type} (operation : Operation α)
    (hspares : operation.sparesSecrets) (e : Engine backend.Data) (sink : Sink) :
    backend.Spares e.store (operation.act.runOn e sink).2.engine.store := by
  cases backend with
  | memory => trivial
  | relational => exact operation.within Relational.sparing hspares ⟨e, [], sink⟩

namespace Twin

variable {backend : Backend} {e : Engine backend.Data} {t : Engine Memory}

lemma stored (h : backend.Twin e t) : backend.stored e.store = t.store.messages.size := by
  cases backend with
  | memory =>
    obtain ⟨rfl, -⟩ := h
    rfl
  | relational =>
    show (show Relational from e.store).messages.size = _
    rw [(Engine.Mirrors.store h).messages, Std.ExtTreeMap.size_map]

/-- Engines with the same twin are the same, if they have the same secrets. -/
lemma eq {e' : Engine backend.Data} (h : backend.Twin e t) (h' : backend.Twin e' t)
    (hspares : backend.Spares e'.store e.store) : e = e' := by
  cases backend with
  | memory => exact h.1.trans h'.1.symm
  | relational => exact Engine.Mirrors.ext h h' hspares

/-- An operation over either store leads to a store that is known, if it is known what it leads
to over a store in memory, and the two are twins. -/
lemma runOn_eq (h : backend.Twin e t) {α : Type} (operation : Operation α)
    (hplain : operation.plain) (hspares : operation.sparesSecrets) {sink : Sink}
    {answer : Except SyncError α} {turn : Turn Memory}
    (hrun : operation.act.runOn t sink = (answer, turn)) {d : backend.Data}
    (htwin : backend.Twin { e with store := d } turn.engine) (hd : backend.Spares e.store d) :
    operation.act.runOn e sink = (answer, ⟨{ e with store := d }, turn.events, turn.sink⟩) := by
  obtain ⟨hanswer, hevents, hsink⟩ := h.plain operation hplain sink
  have hstep := h.step (.perform operation sink)
  have hkeeps := spares_runOn operation hspares e sink
  change backend.Twin (operation.act.runOn e sink).2.engine
    (operation.act.runOn t sink).2.engine at hstep
  rw [hrun] at hanswer hevents hsink hstep
  have hengine := hstep.eq htwin (hd.symm.trans hkeeps)
  rcases hresult : operation.act.runOn e sink with ⟨answer', engine, events, sink'⟩
  rw [hresult] at hanswer hevents hsink hengine
  dsimp only at hanswer hevents hsink hengine
  rw [hanswer, hevents, hsink, hengine]

/-- Twins answer the same to a batch, and stay twins. -/
lemma receive (h : backend.Twin e t) (hgate : t.gate = .opened) {c : ContactId}
    (hc : c ∈ t.store.contacts) (batch : ReceivedBatch) (sink : Sink) :
    ∃ e', e.receive c batch sink = (.ok (.passed (t.store.countNew c batch.messages)), e') ∧
      backend.Twin e' { t with store := t.store.changes (batch.arrival c) } ∧
      backend.Spares e.store e'.store ∧
      backend.stored e'.store = backend.stored e.store + t.store.countNew c batch.messages := by
  have heq := Engine.receive_eq hgate hc batch sink
  have hanswer : (e.receive c batch sink).1 = (t.receive c batch sink).1 :=
    (h.plain (.receiveBatch c batch) rfl sink).1
  have htwin : backend.Twin (e.receive c batch sink).2 (t.receive c batch sink).2 :=
    h.step (.perform (.receiveBatch c batch) sink)
  rw [heq] at hanswer htwin
  refine ⟨_, Prod.ext hanswer rfl, htwin, spares_runOn (.receiveBatch c batch) rfl e sink, ?_⟩
  rw [htwin.stored, h.stored, Memory.size_arrival]

end Twin

/-- Let two batches be received from contacts while the gate is open, such that the same
identifier stands for the same message in both. In either order they lead to the same engine and
the same number of new messages. The answer to each is by how many messages the store grew, and
receiving a batch again at once is answered with none, and changes nothing. -/
theorem receive_comm {backend : Backend} {e : Engine backend.Data} (he : backend.Reaches e)
    (hgate : e.gate = .opened) {c c' : ContactId}
    (hc : e.view (Store.containsContact c) = .ok true)
    (hc' : e.view (Store.containsContact c') = .ok true) {x y : ReceivedBatch}
    (hids : ∀ m ∈ x.messages, ∀ m' ∈ y.messages, m.id = m'.id → m = m') (sink : Sink) :
    ∃ (first second last : Engine backend.Data) (n m n' m' : Nat),
      e.receive c x sink = (.ok (.passed n), first) ∧
      first.receive c' y sink = (.ok (.passed m), last) ∧
      e.receive c' y sink = (.ok (.passed m'), second) ∧
      second.receive c x sink = (.ok (.passed n'), last) ∧
      n + m = n' + m' ∧
      backend.stored first.store = backend.stored e.store + n ∧
      backend.stored last.store = backend.stored first.store + m ∧
      backend.stored second.store = backend.stored e.store + m' ∧
      backend.stored last.store = backend.stored second.store + n' ∧
      first.receive c x sink = (.ok (.passed 0), first) := by
  obtain ⟨t, htwin⟩ := Twin.of_reaches he
  rw [htwin.gate] at hgate
  rw [htwin.containsContact, Except.ok.injEq, Std.ExtTreeMap.contains_iff_mem] at hc hc'
  have hs := htwin.consistent
  obtain ⟨first, hfirst, htwin₁, hspares₁, hsize₁⟩ := htwin.receive hgate hc x sink
  obtain ⟨second, hsecond, htwin₂, hspares₂, hsize₂⟩ := htwin.receive hgate hc' y sink
  have hknown (d d' : ContactId) (z : ReceivedBatch) (hd : d ∈ t.store.contacts) :
      d ∈ (t.store.changes (z.arrival d')).contacts := by
    rwa [(t.store.grows_changes fun _ => ReceivedBatch.arrives_of_mem).contacts]
  obtain ⟨last, hlast, htwin₃, hspares₃, hsize₃⟩ :=
    htwin₁.receive hgate (hknown c' c x hc') y sink
  obtain ⟨last', hlast', htwin₄, hspares₄, hsize₄⟩ :=
    htwin₂.receive hgate (hknown c c' y hc) x sink
  obtain ⟨again, hagain, htwin₅, hspares₅, hsize₅⟩ :=
    htwin₁.receive hgate (hknown c c x hc) x sink
  -- the twins of what comes of both orders are the same, and so are the secrets
  obtain rfl : last = last' := by
    dsimp only at htwin₃ htwin₄
    rw [← Memory.changes_arrival_comm hs hc hc' hids] at htwin₄
    exact htwin₃.eq htwin₄ ((hspares₂.trans hspares₄).symm.trans (hspares₁.trans hspares₃))
  obtain rfl : first = again := by
    dsimp only at htwin₅
    rw [Memory.changes_arrival_again hs] at htwin₅
    exact htwin₁.eq htwin₅ hspares₅.symm
  refine ⟨first, second, last, _, _, _, _, hfirst, hlast, hsecond, hlast', ?_, hsize₁, hsize₃,
    hsize₂, hsize₄, ?_⟩
  · omega
  · rw [hagain, Nat.left_eq_add.mp hsize₅]

end Backend

namespace Sample

/-- There are two contacts, of which one may see messages of the group. -/
def pair : List Step :=
  [.perform (.subscribe group) {}, .perform (.addContact ∅) {}, .perform (.addContact ∅) {},
    share [group] 1]

lemma length_foreign : (List.replicate 32 (3 : UInt8)).length = 32 := rfl

/-- A message of a group that this node is not subscribed to. -/
def foreign : Message :=
  ⟨⟨List.replicate 32 1, length_group⟩, ⟨List.replicate 32 3, length_foreign⟩, none, 0, [1]⟩

/-- A batch with a message that comes twice and one that is not wanted. -/
def crowded : ReceivedBatch := ⟨batch 1, [message, foreign, message]⟩

/-- A batch with one of these messages. -/
def single : ReceivedBatch := ⟨batch 2, [message]⟩

end Sample

/-- Two contacts send the same message, one of them with others. -/
theorem Backend.receive_comm_pair :
    let e := (Backend.memory.start {} 0).run Sample.pair
    ∃ (first second last : Engine Memory) (n m n' m' : Nat),
      e.receive ⟨1⟩ Sample.crowded {} = (.ok (.passed n), first) ∧
      first.receive ⟨2⟩ Sample.single {} = (.ok (.passed m), last) ∧
      e.receive ⟨2⟩ Sample.single {} = (.ok (.passed m'), second) ∧
      second.receive ⟨1⟩ Sample.crowded {} = (.ok (.passed n'), last) ∧
      n + m = 1 ∧ n' + m' = 1 ∧ first.receive ⟨1⟩ Sample.crowded {} = (.ok (.passed 0), first) := by
  intro e
  have hc : e.view (Store.containsContact ⟨1⟩) = .ok true :=
    Sample.eq_ok_of_toOption (by decide +kernel)
  have hc' : e.view (Store.containsContact ⟨2⟩) = .ok true :=
    Sample.eq_ok_of_toOption (by decide +kernel)
  have hids : ∀ m ∈ Sample.crowded.messages, ∀ m' ∈ Sample.single.messages,
      m.id = m'.id → m = m' := by decide +kernel
  have hone : (e.receive ⟨1⟩ Sample.crowded {}).1.toOption = some (.passed 1) := by decide +kernel
  have hnone : ((e.receive ⟨1⟩ Sample.crowded {}).2.receive ⟨2⟩ Sample.single {}).1.toOption =
      some (.passed 0) := by decide +kernel
  obtain ⟨first, second, last, n, m, n', m', hfirst, hlast, hsecond, hlast', hsum, -, -, -, -,
    hagain⟩ :=
    @Backend.receive_comm .memory e ⟨{}, 0, Sample.pair, rfl⟩ rfl ⟨1⟩ ⟨2⟩ hc hc' Sample.crowded
      Sample.single hids {}
  rw [hfirst] at hone hnone
  dsimp only at hone hnone
  rw [hlast] at hnone
  obtain rfl : n = 1 := by simpa [Except.toOption] using hone
  obtain rfl : m = 0 := by simpa [Except.toOption] using hnone
  exact ⟨first, second, last, 1, 0, n', m', hfirst, hlast, hsecond, hlast', rfl, hsum.symm, hagain⟩

end MessageSync
