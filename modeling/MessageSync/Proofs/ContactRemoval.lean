import MessageSync.Proofs.Engine.Holdings
import MessageSync.Proofs.Equivalence
import MessageSync.Proofs.OutstandingBatches
import MessageSync.Proofs.Store.Exact

/-!
# The removal of contacts

When a contact is removed, all that is kept of it goes, and nothing else. From then on the
contact is forgotten: in whatever happens to the node afterwards, its store being closed and
opened anew included, nothing is stored for the contact, its number is not given to another one,
and whoever asks for it is refused (`Backend.contact_removal`).
-/

namespace MessageSync

/-! ## Lives of nodes -/

lemma Engine.config_run (t : Engine Memory) (history : List Step) :
    (t.run history).config = t.config := by
  induction history generalizing t with
  | nil => rfl
  | cons step rest ih =>
    have hstep : (t.step step).config = t.config := by
      cases step with
      | perform operation sink =>
        show (operation.act.runOn t sink).2.engine.config = _
        rw [operation.engine_runOn]
      | setClock _ | setGate _ => rfl
    rw [run_cons, ih, hstep]

namespace Backend

/-- What a node becomes by what happens to it. -/
def live (backend : Backend) : Node backend.Data → List Move → Except StoreError (Node backend.Data)
  | node, [] => .ok node
  | node, .step step :: rest => backend.live { node with engine := node.engine.step step } rest
  | node, .reopen :: rest => (backend.reopen node).bind fun node => backend.live node rest

end Backend

/-- A store is opened anew as if the gate of its node had been opened. -/
lemma Node.reopen_eq_ok {node : Node Relational}
    (hversions : node.engine.store.versions = Relational.empty.versions)
    (hidle : node.engine.openOffers = ∅) (hconfig : node.engine.config = node.config.sync) :
    node.reopen = .ok { node with engine := node.engine.step (.setGate .opened) } := by
  rw [reopen, Relational.reopen_eq_ok hversions]
  obtain ⟨config, store, settings, now, gate, openOffers⟩ := node
  dsimp only at hidle hconfig
  rw [hidle, hconfig]
  rfl

namespace Backend

/-- A node that something happened to, and the twin of its engine. -/
structure AnchoredNode (backend : Backend) (node : Node backend.Data) (t : Engine Memory) :
    Prop where
  engine : backend.AnchoredTwin node.engine t
  config : node.engine.config = node.config.sync

namespace AnchoredNode

variable {backend : Backend} {node : Node backend.Data} {t : Engine Memory}

lemma start (backend : Backend) (config : NodeConfig) (now : Int64) :
    backend.AnchoredNode (.start backend.empty config now)
      (.start Memory.empty config.sync now) where
  engine := AnchoredTwin.start backend config.sync now
  config := rfl

lemma run (h : backend.AnchoredNode node t) (history : List Step) :
    backend.AnchoredNode { node with engine := node.engine.run history } (t.run history) where
  engine := h.engine.run history
  config := by
    show (node.engine.run history).config = node.config.sync
    rw [(h.engine.run history).twin.config, Engine.config_run, ← h.engine.twin.config, h.config]

/-- What happens to a node comes to some history of its engine. -/
lemma exists_live (h : backend.AnchoredNode node t) (moves : List Move) :
    ∃ history, backend.live node moves =
      .ok { node with engine := node.engine.run history } := by
  induction moves generalizing node t with
  | nil => exact ⟨[], rfl⟩
  | cons move rest ih =>
    obtain ⟨first, hfirst⟩ : ∃ history, backend.live node (move :: rest) =
        backend.live { node with engine := node.engine.run history } rest := by
      cases move with
      | step step => exact ⟨[step], rfl⟩
      | reopen =>
        cases backend with
        | memory => exact ⟨[], rfl⟩
        | relational =>
          have hidle := h.engine.twin.openOffers.trans h.engine.idle
          have hopen := Node.reopen_eq_ok h.engine.rows.2 hidle h.config
          exact ⟨[.setGate .opened], congrArg (·.bind fun node => live .relational node rest) hopen⟩
    obtain ⟨last, hlast⟩ := ih (h.run first)
    refine ⟨first ++ last, ?_⟩
    rw [hfirst, hlast, Engine.run_append]

end AnchoredNode

end Backend

/-! ## What a removal leaves -/

/-- A contact that exists is removed from the store, and nothing else is done. -/
lemma Engine.removeContact_runOn {σ : Type} [Store σ] {e : Engine σ} {c : ContactId} {s : σ}
    (hc : Store.containsContact c e.store = (.ok true, e.store))
    (hremove : Store.removeContact c e.store = (.ok (), s)) (sink : Sink) :
    (removeContact c).runOn e sink =
      (.ok (), ⟨{ e with store := s }, [.contactRemoved c], sink⟩) := by
  have hrequire : Txn.requireContact c (e.store, sink) = (.ok (), (e.store, sink)) := by
    rw [Txn.requireContact, Txn.bind_apply, Txn.query_of_ok hc]
    rfl
  simp only [Act.runOn, removeContact, Act.bind_apply, Act.askAbout, Act.transaction,
    Txn.bind_apply, hrequire, Txn.query_of_ok hremove, Act.emit_apply]
  rfl

lemma Memory.held_removeContact (s : Memory) {c d : ContactId} (hd : d ≠ c) :
    (s.removeContact c).held d = s.held d := by
  refine held_eq_iff.mpr ⟨?_, fun b => ?_, fun b => ?_, fun i => ?_⟩
  · rw [removeContact, Table.getElem?_erase, if_neg (Ne.symm hd)]
  · rw [sentBatch_removeContact, if_neg hd]
  · rw [removeContact, Table.getElem?_others, if_neg hd]
  · rw [removeContact, Table.getElem?_others, if_neg hd]

namespace Relational

variable (s : Relational) {c d : ContactId}

lemma held_removeContact (hd : d ≠ c) : (s.removeContact c).held d = s.held d := by
  refine held_eq_iff.mpr ⟨?_, fun g => ?_, fun b => ?_, fun k => ?_, fun raw => ?_, fun i => ?_⟩
  · rw [removeContact, Table.getElem?_erase, if_neg (Ne.symm hd)]
  all_goals rw [removeContact, Table.getElem?_others, if_neg hd]

lemma status_removeContact (hd : d ≠ c) (id : MessageId) :
    (s.removeContact c).status d id = s.status d id := by
  rw [status, status, removeContact, Table.getElem?_others, if_neg hd]

end Relational

namespace Backend

/-- Whether two engines hold the same, but for what is of one contact. -/
structure SameButFor (backend : Backend) (c : ContactId) (e e' : Engine backend.Data) : Prop where
  held : ∀ d, d ≠ c → backend.held e'.store d = backend.held e.store d
  status : ∀ d, d ≠ c → ∀ id, e'.view (Store.status d id) = e.view (Store.status d id)
  common : backend.common e'.store = backend.common e.store

/-- A contact that exists can be removed, and nothing else goes with it. -/
lemma sameButFor_removeContact {backend : Backend} {e : Engine backend.Data} {c : ContactId}
    (hc : e.view (Store.containsContact c) = .ok true) (sink : Sink) :
    ((Operation.removeContact c).act.runOn e sink).1 = .ok () ∧
      backend.SameButFor c e ((Operation.removeContact c).act.runOn e sink).2.engine := by
  have hknown : Store.containsContact c e.store = (.ok true, e.store) :=
    Prod.ext hc (backend.containsContact_snd c e.store)
  rw [Operation.act]
  cases backend with
  | memory =>
    have hremove : Store.removeContact c e.store = (.ok (), Memory.removeContact e.store c) := rfl
    rw [Engine.removeContact_runOn hknown hremove]
    refine ⟨rfl, fun d hd => Memory.held_removeContact e.store hd, fun d hd id => ?_, rfl⟩
    refine congrArg Except.ok ?_
    exact (Memory.delivery_removeContact e.store c d id).trans (if_neg hd)
  | relational =>
    have hremove : Store.removeContact c e.store = (.ok (), Relational.removeContact e.store c) :=
      rfl
    rw [Engine.removeContact_runOn hknown hremove]
    exact ⟨rfl, fun d hd => Relational.held_removeContact e.store hd,
      fun d hd id => Relational.status_removeContact e.store hd id, rfl⟩

/-! ## Contacts that are forgotten -/

/-- Whether nothing is stored of a contact, no new contact gets its number, and every operation
that names it is refused, or waits at a paused gate, and changes nothing. -/
structure Forgotten (backend : Backend) (e : Engine backend.Data) (c : ContactId) : Prop where
  held : backend.held e.store c = backend.empty
  status : ∀ id, e.view (Store.status c id) = .ok none
  fresh : ∀ (transports : Properties) (sink : Sink),
    ∃ d, d ≠ c ∧ ((Operation.addContact transports).act.runOn e sink).1 = .ok d
  refused : ∀ {α : Type} (operation : Operation α) (sink : Sink), c ∈ operation.named →
    (operation.act.runOn e sink).2.engine = e ∧ (operation.act.runOn e sink).2.sink = sink ∧
      (operation.waits e.gate ∨ ∃ x, (operation.act.runOn e sink).1 = .error x)

namespace AnchoredTwin

variable {backend : Backend} {e : Engine backend.Data} {t : Engine Memory} {c : ContactId}

/-- A contact that is gone is forgotten. -/
lemma forgotten (h : backend.AnchoredTwin e t) (hgone : t.store.Gone c) :
    backend.Forgotten e c where
  held := h.held_eq_empty hgone.1
  status := h.status_eq_none hgone.1
  fresh := by
    intro transports sink
    refine ⟨⟨t.store.nextContact⟩, ?_, (h.twin.plain (.addContact transports) rfl sink).1⟩
    rintro rfl
    exact Nat.lt_irrefl _ hgone.2
  refused operation sink hc :=
    Operation.refused backend.containsContact_snd (h.containsContact hgone.1)
      (h.not_mem_openOffers c) hc sink

/-- A contact that is gone stays gone. -/
lemma gone_run (h : backend.AnchoredTwin e t) (hgone : t.store.Gone c) (history : List Step) :
    (t.run history).store.Gone c := by
  have hboth := Engine.run_induction (P := fun s => s.Consistent ∧ s.Gone c)
    (fun _ hs => hs.1.keyed) (fun _ x hs hx => ⟨hs.1.change hx, hs.2.change x⟩)
    ⟨h.twin.consistent, hgone⟩ history
  exact hboth.2

/-- A contact that exists is gone once it is removed. -/
lemma gone_removeContact (h : backend.AnchoredTwin e t) (hc : c ∈ t.store.contacts) (sink : Sink) :
    (t.step (.perform (.removeContact c) sink)).store.Gone c := by
  rw [Engine.store_step, Step.log, Operation.log, Memory.about, if_pos hc]
  refine ⟨?_, h.twin.consistent.numbered c hc⟩
  show c ∉ t.store.contacts.erase c
  simp

end AnchoredTwin

/-- Whatever happened to a node, a contact that exists can be removed. All that is not of this
contact stays as it is, and whatever happens to the node afterwards, the contact is forgotten. -/
theorem contact_removal (backend : Backend) (config : NodeConfig) (now : Int64)
    (done : List Move) (c : ContactId) (sink : Sink) :
    ∃ node, backend.live (.start backend.empty config now) done = .ok node ∧
      (node.engine.view (Store.containsContact c) = .ok true →
        let r := (Operation.removeContact c).act.runOn node.engine sink
        r.1 = .ok () ∧ backend.SameButFor c node.engine r.2.engine ∧
          ∀ later, ∃ last, backend.live { node with engine := r.2.engine } later = .ok last ∧
            backend.Forgotten last.engine c) := by
  have hstart := AnchoredNode.start backend config now
  obtain ⟨history, hdone⟩ := hstart.exists_live done
  have hnode := hstart.run history
  refine ⟨_, hdone, fun hc => ?_⟩
  obtain ⟨hanswer, hsame⟩ := sameButFor_removeContact hc sink
  have hremoved := hnode.run [.perform (.removeContact c) sink]
  refine ⟨hanswer, hsame, fun later => ?_⟩
  obtain ⟨rest, hlater⟩ := hremoved.exists_live later
  refine ⟨_, hlater, (hremoved.run rest).engine.forgotten ?_⟩
  refine hremoved.engine.gone_run (hnode.engine.gone_removeContact ?_ sink) rest
  rw [hnode.engine.twin.containsContact, Except.ok.injEq] at hc
  exact Std.ExtTreeMap.contains_iff_mem.mp hc

/-- A contact with a secret is removed from a store that was opened anew before. -/
theorem contact_removal_life :
    ∃ node, relational.live (.start relational.empty {} 0) Sample.life = .ok node ∧
      node.engine.view (Store.containsContact ⟨1⟩) = .ok true ∧
      (Relational.held node.engine.store ⟨1⟩).secrets.size = 1 ∧
      ∀ later, ∃ last, relational.live { node with engine :=
          ((Operation.removeContact ⟨1⟩).act.runOn node.engine {}).2.engine } later = .ok last ∧
        (Relational.held last.engine.store ⟨1⟩) = Relational.empty := by
  obtain ⟨node, hdone, hremoval⟩ := contact_removal .relational {} 0 Sample.life ⟨1⟩ {}
  have hsample : ((relational.live (.start relational.empty {} 0) Sample.life).toOption.map
      fun node => ((node.engine.view (Store.containsContact ⟨1⟩)).toOption,
        (Relational.held node.engine.store ⟨1⟩).secrets.size)) = some (some true, 1) := by
    decide +kernel
  rw [hdone] at hsample
  obtain ⟨hknown, hsize⟩ := Prod.mk.inj (Option.some.inj hsample)
  have hc := Sample.eq_ok_of_toOption hknown
  refine ⟨node, hdone, hc, hsize, fun later => ?_⟩
  obtain ⟨last, hlast, hforgotten⟩ := (hremoval hc).2.2 later
  exact ⟨last, hlast, hforgotten.held⟩

end Backend

end MessageSync
