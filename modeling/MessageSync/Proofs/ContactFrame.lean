import MessageSync.Proofs.DeliveryOrder
import MessageSync.Proofs.Eligibility
import MessageSync.Proofs.Engine.Holdings
import MessageSync.Proofs.Engine.SameFor
import MessageSync.Proofs.OutstandingRecords
import MessageSync.Proofs.Store.Concerns

/-!
# Contacts do not touch each other

An operation that names one contact, and does not remove it, makes only changes that concern
that contact (`Operation.concerns_of_mem_log`). All that is held of any other contact stays as
it is, and so do the rows of its messages. Only for messages that such an operation stores do
other contacts get new rows (`Backend.contact_frame`).
-/

namespace MessageSync

/-- What is about the deliveries, the batches or the acks of a contact concerns it. -/
lemma Change.Of.concerns {c : ContactId} {x : Change} (h : x.Of c) : x.Concerns c := by
  cases x with
  | send _ _ _ _ | ack _ _ | lose _ _ _ | see _ _ | settle _ _ => exact h
  | _ => exact h.elim

/-- An operation that names one contact, and does not remove it, makes only changes that concern
this contact. -/
theorem Operation.concerns_of_mem_log {α : Type} {operation : Operation α} {e : Engine Memory}
    {c : ContactId} {sink : Sink} (hs : e.store.Anchored) (hc : c ∈ operation.named)
    (honly : ∀ d ∈ operation.named, d = c) (hkept : ¬ (Step.perform operation sink).Drops c)
    {x : Change} (hx : x ∈ operation.log e sink) : x.Concerns c := by
  have hsecrets {xs : List Secret} (hx : .addSecrets xs ∈ operation.log e sink) :
      (Change.addSecrets xs).Concerns c := fun y hy =>
    honly _ ((log_of_addSecrets hs hx).2 y hy).2
  cases operation with
  | removeContact c' => exact absurd (List.mem_singleton.mp hc).symm hkept
  | generateBatch c' _ _ | generateBatchFrom c' _ _ _ | generateAck c' _ | receiveAck c' _
  | findLost c' | generateOffer c' _ | receiveOffer c' _ | receiveRequest c' _ _ _ _
  | generateSubscriptions c' | generateTransports c' =>
    obtain rfl := List.mem_singleton.mp hc
    exact (of_mem_log rfl hx).concerns
  | receiveBatch c' batch =>
    obtain rfl := List.mem_singleton.mp hc
    rw [log] at hx
    split at hx
    · rcases List.mem_append.mp (Memory.mem_about hx).2 with harrives | howed
      · obtain ⟨m, -, rfl⟩ := List.mem_map.mp harrives
        rfl
      · obtain rfl := List.mem_singleton.mp howed
        rfl
    · cases hx
  | receiveSubscriptions c' _ | receiveTransports c' _ =>
    obtain rfl := List.mem_singleton.mp hc
    rw [log] at hx
    split at hx
    · cases hx
    · obtain rfl := List.mem_singleton.mp hx
      rfl
  | removeSecretsBefore c' t period =>
    obtain rfl := List.mem_singleton.mp hc
    obtain rfl := List.mem_singleton.mp (Memory.mem_about hx).2
    rfl
  | nextOutgoing key =>
    obtain rfl := List.mem_singleton.mp hc
    obtain rfl := List.mem_singleton.mp (Memory.mem_about hx).2
    rfl
  | acceptIncoming key n =>
    obtain rfl := List.mem_singleton.mp hc
    have hx := (Memory.mem_about hx).2
    split at hx
    · cases hx
    · split at hx
      · cases hx
      · obtain rfl := List.mem_singleton.mp hx
        rfl
  | addSecrets xs =>
    have hx' := hx
    rw [log] at hx'
    split at hx'
    · obtain rfl := List.mem_singleton.mp hx'
      exact hsecrets hx
    · cases hx'
  | rotateSecret key period bytes =>
    have hx' := (Memory.mem_about hx).2
    split at hx'
    · cases hx'
    · obtain rfl := List.mem_singleton.mp hx'
      exact hsecrets hx
  | contactSubscriptions _ | contactTransports _ | unseenConnections _ => cases hx
  | _ => cases hc

namespace Backend

/-- Whether a message is stored in the second engine and not in the first, in a group that the
contact shares. -/
structure NewFor (backend : Backend) (e e' : Engine backend.Data) (d : ContactId) (m : Message) :
    Prop where
  missing : backend.message e.store m.id = none
  stored : backend.message e'.store m.id = some m
  advertised : ∃ groups, e.view (Store.contactSubscriptions d) = .ok groups ∧
    ∃ x ∈ groups, x.id = m.group

variable {backend : Backend} {e : Engine backend.Data}

/-- An operation leaves what either store holds of a contact, if it does so in memory and does
not name the contact. -/
lemma AnchoredTwin.held_step {t : Engine Memory} (h : backend.AnchoredTwin e t) {α : Type}
    {operation : Operation α} {sink : Sink} {d : ContactId} (hd : d ∉ operation.named)
    (hheld : (t.step (.perform operation sink)).store.held d = t.store.held d) :
    backend.held (e.step (.perform operation sink)).store d = backend.held e.store d := by
  have hnext := (h.step (.perform operation sink)).twin
  cases backend with
  | memory =>
    obtain ⟨⟨rfl, -⟩, -⟩ := h
    exact hheld
  | relational =>
    have hafter : Relational.Mirrors (e.step (.perform operation sink)).store _ :=
      Engine.Mirrors.store hnext
    exact hafter.held_eq (Engine.Mirrors.store h.twin) hheld fun i =>
      (operation.minds h.twin sink).others ⟨d, i⟩ hd

lemma AnchoredTwin.newFor_iff {e' : Engine backend.Data} {t t' : Engine Memory}
    (h : backend.AnchoredTwin e t) (h' : backend.AnchoredTwin e' t') (d : ContactId)
    (m : Message) : backend.NewFor e e' d m ↔ t.store.messages[m.id]? = none ∧
      t'.store.messages[m.id]? = some m ∧ t.store.Advertises d m.group := by
  constructor
  · rintro ⟨hmissing, hstored, groups, hgroups, hshared⟩
    rw [h.twin.contactSubscriptions, Except.ok.injEq] at hgroups
    subst hgroups
    refine ⟨(h.twin.message m.id).symm.trans hmissing, (h'.twin.message m.id).symm.trans hstored,
      Memory.mem_contactSubscriptions_iff.mp hshared⟩
  · rintro ⟨hmissing, hstored, hadv⟩
    exact ⟨(h.twin.message m.id).trans hmissing, (h'.twin.message m.id).trans hstored,
      _, h.twin.contactSubscriptions d, Memory.mem_contactSubscriptions_iff.mpr hadv⟩

/-- Let an operation name a contact and no other, and not remove it. What is held of any other
contact stays as it is, and so do its rows, but for messages in its groups that the operation
stores. These are received from the contact that the operation names, and the other contact
gets a new row of each. -/
theorem contact_frame (he : backend.Reaches e) {α : Type} (operation : Operation α) (sink : Sink)
    {c d : ContactId} (hd : d ≠ c) (hc : c ∈ operation.named)
    (honly : ∀ c' ∈ operation.named, c' = c)
    (hkept : ¬ (Step.perform operation sink).Drops c) :
    let e' := e.step (.perform operation sink)
    backend.held e'.store d = backend.held e.store d ∧
      (∀ m, backend.NewFor e e' d m → operation.Brings m (some c) ∧
        e.view (Store.status d m.id) = .ok none ∧
        ∃ row, e'.view (Store.status d m.id) = .ok (some row) ∧ row.status = .new) ∧
      ∀ id, (¬ ∃ m, m.id = id ∧ backend.NewFor e e' d m) →
        e'.view (Store.status d id) = e.view (Store.status d id) := by
  intro e'
  obtain ⟨t, h⟩ := AnchoredTwin.of_reaches he
  have h' : backend.AnchoredTwin e' (t.step (.perform operation sink)) := h.step _
  have hs := h.twin.consistent
  have hallows := operation.allows_log hs.keyed sink
  have hlog : ∀ x ∈ operation.log t sink, x.Concerns c := fun x hx =>
    Operation.concerns_of_mem_log h.anchored hc honly hkept hx
  have hstore : (t.step (.perform operation sink)).store =
      t.store.changes (operation.log t sink) := Engine.store_step t _
  refine ⟨h.held_step (fun hnamed => hd (honly d hnamed)) ?_, fun m hm => ?_, fun id hnone => ?_⟩
  · rw [hstore]
    exact Memory.held_changes hlog hd
  · obtain ⟨hmissing, hstored, hadv⟩ := (h.newFor_iff h' d m).mp hm
    rw [hstore] at hstored
    have hbrings : operation.Brings m (some c) := by
      rcases Memory.messages_of_changes hstored with hbefore | ⟨sender, hx⟩
      · rw [hmissing] at hbefore
        cases hbefore
      · obtain rfl : sender = some c := hlog _ hx
        exact Operation.causes_of_mem_log hx
    obtain ⟨hbefore, row, hrow, hnew⟩ :=
      (Memory.delivery_changes_iff hs hallows hlog hd m.id).1 ⟨m, hmissing, hstored, hadv⟩
    refine ⟨hbrings, (h.twin.status d m.id).trans (congrArg _ hbefore), row, ?_, hnew⟩
    rw [h'.twin.status, hstore, hrow]
  · rw [h.twin.status, h'.twin.status, hstore]
    refine congrArg _ ((Memory.delivery_changes_iff hs hallows hlog hd id).2 ?_)
    rintro ⟨m, hmissing, hstored, hadv⟩
    obtain rfl : m.id = id := h'.twin.consistent.keyed (hstore ▸ hstored)
    exact hnone ⟨m, rfl, (h.newFor_iff h' d m).mpr ⟨hmissing, hstore ▸ hstored, hadv⟩⟩

end Backend

namespace Sample

/-- The same batch was sent to two contacts. -/
def both : List Step :=
  pair ++ [.perform (.receiveSubscriptions ⟨2⟩ ⟨[group], 1⟩) {}, .perform (.addLocal message) {},
    ask 1, .perform (.generateBatchFrom ⟨2⟩ (.fresh 1024 none) (nonce 1) [message.id]) {}]

end Sample

/-- Of two contacts to which the same batch is outstanding, one acknowledges it. -/
theorem Backend.contact_frame_ack :
    let e := (Backend.memory.start {} 0).run Sample.both
    let e' := e.step (.perform (.receiveAck ⟨1⟩ [Sample.batch 1]) {})
    (Memory.sentBatch e.store ⟨2⟩ (Sample.batch 1)).map SentRecord.messages =
        some [Sample.message.id] ∧
      (Memory.sentBatch e.store ⟨1⟩ (Sample.batch 1)).isSome ∧
      (Memory.sentBatch e'.store ⟨1⟩ (Sample.batch 1)).isNone ∧
      Memory.held e'.store ⟨2⟩ = Memory.held e.store ⟨2⟩ ∧
      ∀ id, e'.view (Store.status ⟨2⟩ id) = e.view (Store.status ⟨2⟩ id) := by
  intro e e'
  obtain ⟨hheld, hnew, hrows⟩ := @Backend.contact_frame .memory e ⟨{}, 0, Sample.both, rfl⟩ _
    (.receiveAck ⟨1⟩ [Sample.batch 1]) {} ⟨1⟩ ⟨2⟩ (by decide) (List.mem_singleton.mpr rfl)
    (fun _ hc => List.mem_singleton.mp hc) id
  refine ⟨by decide +kernel, by decide +kernel, by decide +kernel, hheld, fun id => hrows id ?_⟩
  rintro ⟨m, -, hm⟩
  exact (hnew m hm).1

end MessageSync
