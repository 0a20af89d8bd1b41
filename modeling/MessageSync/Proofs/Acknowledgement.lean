import MessageSync.Proofs.DeliveryOrder
import MessageSync.Proofs.Store.Closing

/-!
# An ack is a set of batches

An ack names batches. Whatever it names, and in whatever order, the outstanding batches among
them are closed, and what they cover is seen by the contact; nothing else changes
(`Backend.acknowledged`). Several acks come to the same as one that names all of their batches,
so that only the set of the batches matters that were named so far (`Backend.receiveAck_eq`).
-/

namespace MessageSync

namespace Backend

/-- The store after an ack of a contact: the outstanding batches that it names are gone, and the
rows of the contact for their messages say that they are seen. -/
def acknowledged : (backend : Backend) → backend.Data → ContactId → List BatchId → backend.Data
  | .memory, s, c, batches => Memory.close s c .asSeen batches
  | .relational, s, c, batches => Relational.close s c .asSeen batches

end Backend

/-- An ack is taken in by a node that has the contact. -/
lemma Engine.receiveAck_runOn {e : Engine Memory} {c : ContactId} (hc : c ∈ e.store.contacts)
    (batches : List BatchId) (sink : Sink) :
    ((receiveAck c batches).runOn e sink).1 = .ok () ∧
      ((receiveAck c batches).runOn e sink).2.engine =
        { e with store := e.store.close c .asSeen batches } := by
  rw [Act.runOn, receiveAck_apply]
  dsimp only
  rw [if_pos hc]
  refine ⟨rfl, ?_⟩
  show ({ e with store := e.store.changes (batches.map (.ack c)) } : Engine Memory) = _
  rw [Memory.changes_ack]

namespace Backend.Twin

variable {backend : Backend} {e : Engine backend.Data} {t : Engine Memory} {c : ContactId}

lemma acknowledged (h : backend.Twin e t) (c : ContactId) (batches : List BatchId) :
    backend.Twin { e with store := backend.acknowledged e.store c batches }
      { t with store := t.store.close c .asSeen batches } := by
  cases backend with
  | memory =>
    obtain ⟨rfl, hs⟩ := h
    exact ⟨rfl, hs.close c .asSeen batches⟩
  | relational =>
    exact { h with store := (Engine.Mirrors.store h).close c (fun _ => rfl) batches }

lemma spares_acknowledged (s : backend.Data) (c : ContactId) (batches : List BatchId) :
    backend.Spares s (backend.acknowledged s c batches) := by
  cases backend with
  | memory => trivial
  | relational => exact ⟨rfl, rfl⟩

/-- Whichever the store is, it is the store after the ack. -/
lemma receiveAck (h : backend.Twin e t) (hc : c ∈ t.store.contacts) (batches : List BatchId)
    (sink : Sink) :
    ((Engine.receiveAck c batches).runOn e sink).1 = .ok () ∧
      ((Engine.receiveAck c batches).runOn e sink).2.engine =
        { e with store := backend.acknowledged e.store c batches } := by
  obtain ⟨hanswer, hengine⟩ := Engine.receiveAck_runOn hc batches sink
  refine ⟨(h.plain (.receiveAck c batches) rfl sink).1.trans hanswer, ?_⟩
  have hstep := h.step (.perform (.receiveAck c batches) sink)
  change backend.Twin ((Engine.receiveAck c batches).runOn e sink).2.engine
    ((Engine.receiveAck c batches).runOn t sink).2.engine at hstep
  rw [hengine] at hstep
  have hspares := spares_runOn (.receiveAck c batches) rfl e sink
  exact hstep.eq (h.acknowledged c batches)
    ((spares_acknowledged e.store c batches).symm.trans hspares)

/-- Two acks come to the same as one that names the batches of both. -/
lemma acknowledged_append (h : backend.Twin e t) (xs ys : List BatchId) :
    backend.acknowledged (backend.acknowledged e.store c xs) c ys =
      backend.acknowledged e.store c (xs ++ ys) := by
  have htwice := (h.acknowledged c xs).acknowledged c ys
  have honce := h.acknowledged c (xs ++ ys)
  dsimp only at htwice
  rw [Memory.close_close Memory.asSeen_asSeen] at htwice
  have hspares := (spares_acknowledged e.store c (xs ++ ys)).symm.trans
    ((spares_acknowledged e.store c xs).trans (spares_acknowledged _ c ys))
  exact (congrArg Engine.store (honce.eq htwice hspares.symm)).symm

/-- It only matters which batches an ack names. -/
lemma acknowledged_congr (h : backend.Twin e t) {xs ys : List BatchId}
    (hmem : ∀ b, b ∈ xs ↔ b ∈ ys) :
    backend.acknowledged e.store c xs = backend.acknowledged e.store c ys := by
  have hxs := h.acknowledged c xs
  rw [Memory.close_congr hmem] at hxs
  have hspares := (spares_acknowledged e.store c ys).symm.trans
    (spares_acknowledged e.store c xs)
  exact congrArg Engine.store (hxs.eq (h.acknowledged c ys) hspares)

lemma acknowledged_nil (h : backend.Twin e t) : backend.acknowledged e.store c [] = e.store := by
  have hnil := h.acknowledged c []
  rw [Memory.close_nil] at hnil
  exact congrArg Engine.store (hnil.eq h (spares_acknowledged e.store c []))

/-- Acks in turn come to the same as one that names all of their batches. -/
lemma run_acks (h : backend.Twin e t) (hc : c ∈ t.store.contacts) (acks : List (List BatchId))
    (sink : Sink) :
    e.run (acks.map fun batches => .perform (.receiveAck c batches) sink) =
      { e with store := backend.acknowledged e.store c acks.flatten } := by
  induction acks generalizing e t with
  | nil => rw [List.flatten_nil, h.acknowledged_nil]; rfl
  | cons batches rest ih =>
    rw [List.map_cons, Engine.run_cons, List.flatten_cons, ← h.acknowledged_append]
    have hstep : e.step (.perform (.receiveAck c batches) sink) =
        { e with store := backend.acknowledged e.store c batches } :=
      (h.receiveAck hc batches sink).2
    rw [hstep]
    exact ih (h.acknowledged c batches) hc

end Backend.Twin

/-- An ack of a contact is taken in whatever it names. All that it changes is that the
outstanding batches of the contact that it names are gone, and that the rows of the contact for
the messages of these batches say that they are seen. Acks that name the same batches between
them, in whatever order and however often and in however many acks, lead to the same engine. -/
theorem Backend.receiveAck_eq {backend : Backend} {e : Engine backend.Data}
    (he : backend.Reaches e) {c : ContactId} (hc : e.view (Store.containsContact c) = .ok true) :
    (∀ (batches : List BatchId) (sink : Sink),
      ((Engine.receiveAck c batches).runOn e sink).1 = .ok () ∧
      ((Engine.receiveAck c batches).runOn e sink).2.engine =
        { e with store := backend.acknowledged e.store c batches }) ∧
    ∀ (acks acks' : List (List BatchId)) (sink sink' : Sink),
      (∀ b, b ∈ acks.flatten ↔ b ∈ acks'.flatten) →
      e.run (acks.map fun batches => .perform (.receiveAck c batches) sink) =
        e.run (acks'.map fun batches => .perform (.receiveAck c batches) sink') := by
  obtain ⟨t, htwin⟩ := Twin.of_reaches he
  have hcontact : c ∈ t.store.contacts := htwin.mem_contacts hc
  refine ⟨htwin.receiveAck hcontact, fun acks acks' sink sink' hmem => ?_⟩
  rw [htwin.run_acks hcontact, htwin.run_acks hcontact, htwin.acknowledged_congr hmem]

/-- Two outstanding batches share a message. One ack that names one of them twice leaves the
store as two acks in the other order do. -/
theorem Backend.receiveAck_eq_relapse :
    let e := (Backend.relational.start {} 0).run Sample.relapse
    let ack (batches : List BatchId) : Step := .perform (.receiveAck Sample.contact batches) {}
    Relational.batchMessages e.store Sample.contact (Sample.batch 1) = [Sample.message.id] ∧
      Relational.batchMessages e.store Sample.contact (Sample.batch 2) = [Sample.message.id] ∧
      (e.step (ack [Sample.batch 1, Sample.batch 2, Sample.batch 1])).store =
        Relational.close e.store Sample.contact .asSeen
          [Sample.batch 1, Sample.batch 2, Sample.batch 1] ∧
      e.run [ack [Sample.batch 1, Sample.batch 2, Sample.batch 1]] =
        e.run [ack [Sample.batch 2], ack [Sample.batch 1]] := by
  intro e ack
  have hc : e.view (Store.containsContact Sample.contact) = .ok true :=
    Sample.eq_ok_of_toOption (by decide +kernel)
  obtain ⟨hone, hmany⟩ :=
    @Backend.receiveAck_eq .relational e ⟨{}, 0, Sample.relapse, rfl⟩ Sample.contact hc
  refine ⟨by decide +kernel, by decide +kernel, congrArg Engine.store (hone _ {}).2, ?_⟩
  refine hmany [[Sample.batch 1, Sample.batch 2, Sample.batch 1]]
    [[Sample.batch 2], [Sample.batch 1]] {} {} fun b => ?_
  simp only [List.flatten_cons, List.flatten_nil, List.append_nil, List.mem_append, List.mem_cons,
    List.not_mem_nil, or_false]
  exact ⟨fun h => h.elim .inr fun h => h.elim .inl .inr, fun h => h.elim (.inr ∘ .inl) .inl⟩

end MessageSync
