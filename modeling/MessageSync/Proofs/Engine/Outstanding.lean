import MessageSync.Proofs.Engine.Backend
import MessageSync.Proofs.Engine.Parts

/-!
# Steps on the batches of a contact

Of all that a step can do, little is about the batches of a contact: it sends one batch, takes
note of an ack, searches for lost batches, or removes the contact (`Step.log_about`).
-/

namespace MessageSync

/-- What is about the batches of a contact changes the table of outstanding batches. -/
lemma Change.About.mem_parts {x : Change} {c : ContactId} (h : x.About c) :
    .outstanding ∈ x.parts := by
  cases x with
  | send _ _ _ _ | ack _ _ | lose _ _ _ | removeContact _ => simp [Change.parts]
  | _ => exact h.elim

/-! ## Sending -/

namespace Engine

/-- What is recorded of a batch is in the log of its operation. -/
lemma logBatch_of_recorded {t : Turn Memory} {c : ContactId} {nonce : Nonce}
    {picked : List MessageId × BatchWriter} {batch : SentBatch}
    (h : SentBatch.recorded (t.sendBatch c nonce picked).1 = some batch) :
    t.engine.logBatch t.sink c nonce picked = [.send c batch.id batch.messages t.engine.now] := by
  unfold Turn.sendBatch at h
  unfold logBatch Sink.onSent
  rcases hsend : t.sink.send (.batch (picked.2.batch nonce)) with ⟨_ | _, sink⟩
  · rw [hsend] at h
    cases h
  · rw [hsend] at h
    dsimp only at h ⊢
    obtain ⟨hne, heq⟩ := Option.ite_none_left_eq_some.mp h
    rw [← Option.some.inj heq]
    exact if_neg hne

/-- Both ways of choosing messages for a batch are recorded only if there is such a contact. -/
lemma logAbout_of_recorded {e : Engine Memory} {sink : Sink} {events : List Event} {c : ContactId}
    {nonce : Nonce} {picked : List MessageId × BatchWriter} {batch : SentBatch}
    (h : SentBatch.recorded (if c ∈ e.store.contacts then
      Turn.sendBatch ⟨e, events, sink⟩ c nonce picked
      else (.error (.noSuchContact c), ⟨e, events, sink⟩)).1 = some batch) :
    e.store.about c (e.logBatch sink c nonce picked) =
      [.send c batch.id batch.messages e.now] := by
  unfold Memory.about
  split at h
  · next hc =>
    rw [if_pos hc]
    exact logBatch_of_recorded h
  · cases h

end Engine

/-- An operation that sends a batch records it, and does nothing else. -/
lemma Operation.log_of_sent {α : Type} {operation : Operation α} {e : Engine Memory} {sink : Sink}
    {c : ContactId} {batch : SentBatch} (h : operation.sent e sink = some (c, batch)) :
    operation.log e sink = [.send c batch.id batch.messages e.now] := by
  cases operation with
  | generateBatch c' writer nonce =>
    rw [Engine.sent_eq_recorded] at h
    obtain ⟨_, hrecorded, heq⟩ := Option.map_eq_some_iff.mp h
    obtain ⟨rfl, rfl⟩ := Prod.mk.inj heq
    rw [Act.runOn, Engine.sendOldest_apply] at hrecorded
    exact Engine.logAbout_of_recorded hrecorded
  | generateBatchFrom c' writer nonce requested =>
    obtain ⟨_, hrecorded, heq⟩ := Option.map_eq_some_iff.mp h
    obtain ⟨rfl, rfl⟩ := Prod.mk.inj heq
    rw [Operation.act, Act.runOn, Engine.generateBatchFrom_apply] at hrecorded
    exact Engine.logAbout_of_recorded hrecorded
  | receiveRequest c' offer request writer nonce =>
    obtain ⟨_, hrecorded, heq⟩ := Option.map_eq_some_iff.mp h
    obtain ⟨rfl, rfl⟩ := Prod.mk.inj heq
    rw [Operation.act, Act.runOn, Engine.receiveRequest_apply] at hrecorded
    rw [Operation.log]
    cases hrequested : request.requestedIds offer with
    | none =>
      rw [hrequested] at hrecorded
      cases hrecorded
    | some requested =>
      rw [hrequested] at hrecorded
      dsimp only at hrecorded
      rw [Engine.generateBatchFrom_apply] at hrecorded
      exact Engine.logAbout_of_recorded hrecorded
  | _ => cases h

/-! ## All steps -/

namespace Step

/-- A batch that a step sends to a contact is recorded, and the step does nothing else. -/
lemma log_of_sent {step : Step} {e : Engine Memory} {c : ContactId} {batch : SentBatch}
    (h : step.sent e = some (c, batch)) :
    step.log e = [.send c batch.id batch.messages e.now] := by
  cases step with
  | setClock _ | setGate _ => cases h
  | perform operation sink => exact Operation.log_of_sent h

/-- What a step does about the batches of a contact. -/
lemma log_about (step : Step) (e : Engine Memory) (c : ContactId) :
    (∀ x ∈ step.log e, ¬ x.About c) ∨
      (∃ batch, step.sent e = some (c, batch)) ∨
      (∃ ids sink, step = .perform (.receiveAck c ids) sink ∧
        step.log e = ids.map (.ack c)) ∨
      (∃ sink, step = .perform (.findLost c) sink ∧ step.log e = e.logLost c) ∨
      step.log e = [.removeContact c] := by
  by_cases hquiet : ∀ x ∈ step.log e, ¬ x.About c
  · exact .inl hquiet
  simp only [not_forall, not_not] at hquiet
  obtain ⟨x, hx, habout⟩ := hquiet
  -- the table of batches is changed, which few operations do
  cases step with
  | setClock _ | setGate _ => cases hx
  | perform operation sink =>
    have hpart := Operation.parts_of_mem_log hx habout.mem_parts
    have hcauses := Operation.causes_of_mem_log hx
    cases operation with
    | generateBatch c' writer nonce =>
      obtain rfl := (Engine.mem_logBatch (Memory.mem_about hx).2).2.2
      obtain rfl : c' = c := habout
      exact .inr (.inl ⟨_, hcauses⟩)
    | generateBatchFrom c' writer nonce requested =>
      obtain rfl := (Engine.mem_logBatch (Memory.mem_about hx).2).2.2
      obtain rfl : c' = c := habout
      exact .inr (.inl ⟨_, hcauses⟩)
    | receiveRequest c' offer request writer nonce =>
      rw [Step.log, Operation.log] at hx
      split at hx
      · cases hx
      · obtain rfl := (Engine.mem_logBatch (Memory.mem_about hx).2).2.2
        obtain rfl : c' = c := habout
        exact .inr (.inl ⟨_, hcauses⟩)
    | receiveAck c' ids =>
      obtain ⟨hc, hmem⟩ := Memory.mem_about hx
      obtain ⟨b, -, rfl⟩ := List.mem_map.mp hmem
      obtain rfl : c' = c := habout
      exact .inr (.inr (.inl ⟨ids, sink, rfl, if_pos hc⟩))
    | findLost c' =>
      obtain ⟨hc, hmem⟩ := Memory.mem_about hx
      obtain ⟨b, -, rfl⟩ := List.mem_map.mp hmem
      obtain rfl : c' = c := habout
      exact .inr (.inr (.inr (.inl ⟨sink, rfl, if_pos hc⟩)))
    | removeContact c' =>
      obtain ⟨hc, hmem⟩ := Memory.mem_about hx
      obtain rfl := List.mem_singleton.mp hmem
      obtain rfl : c' = c := habout
      exact .inr (.inr (.inr (.inr (if_pos hc))))
    | _ => simp [Operation.parts] at hpart

end Step

/-! ## As they are listed -/

/-- The outstanding batches that are listed over either store are those in the records of the
twin. -/
lemma Backend.Twin.mem_outstanding_iff {backend : Backend} {e : Engine backend.Data}
    {e' : Engine Memory} {c : ContactId} (h : backend.Twin e e') {batches : List OutstandingBatch}
    (hview : e.view (Store.outstandingBatches c) = .ok batches) (batch : OutstandingBatch) :
    batch ∈ batches ↔ batch.contact = c ∧
      e'.store.sentBatch c batch.id = some ⟨batch.messages, batch.sentAt⟩ := by
  obtain rfl := Except.ok.inj ((h.outstanding c).symm.trans hview)
  exact e'.store.mem_outstandingOf_iff c batch

end MessageSync
