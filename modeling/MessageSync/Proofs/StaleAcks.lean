import MessageSync.Proofs.ContentAddresses
import MessageSync.Proofs.SenderView
import MessageSync.Proofs.WrittenBatches

/-!
# Acks that come too late

An ack names batches by their addresses. The address of a batch is the hash of its nonce and
its messages, so that messages which are sent again go into a batch with another address, as
long as no nonce is used twice (`Backend.Twin.nodup_batchesTo`). A batch that was acknowledged
or lost is then never outstanding again (`Engine.sentBatch_run_eq_none`), and an ack that only
names such batches, or batches that were never sent, changes nothing
(`Backend.receiveAck_of_stale`).
-/

namespace MessageSync

open Cbor

/-! ## Nonces in batches -/

/-- Batches with the same body have the same nonce. -/
lemma Batch.nonce_eq_of_body {x y : Batch} (h : x.body = y.body) : x.nonce = y.nonce := by
  unfold body at h
  rw [List.append_assoc, List.append_assoc] at h
  exact (Nonce.apart trivial trivial (List.append_cancel_left h)).1

/-- Batches with the same packet have the same nonce, also if the packet is too long to be
received. -/
lemma Batch.nonce_eq_of_encode {x y : Batch}
    (h : (Packet.batch x).encode = (Packet.batch y).encode) : x.nonce = y.nonce := by
  -- the names of the form and of the field come before the nonce
  simp only [Packet.encode, Batch.encode, Write.variant, Write.record, List.flatMap_cons,
    List.flatMap_nil, List.append_nil, List.append_assoc, List.length_cons, List.length_nil,
    List.append_cancel_left_eq] at h
  exact (Nonce.apart trivial trivial h).1

/-! ## What is sent in a history -/

namespace Engine

variable {σ : Type} [Store σ]

/-- What is written for a contact in a history. -/
def writtenTo (e : Engine σ) (c : ContactId) : List Step → List Bytes
  | [] => []
  | step :: rest => step.wrote e c ++ (e.step step).writtenTo c rest

lemma mem_batchesTo_cons {e : Engine σ} {c : ContactId} {step : Step} {rest : List Step}
    {b : BatchId} : b ∈ e.batchesTo c (step :: rest) ↔
      (∃ messages, step.sent e = some (c, ⟨b, messages⟩)) ∨ b ∈ (e.step step).batchesTo c rest := by
  rw [batchesTo, List.mem_append]
  refine or_congr_left ⟨fun h => ?_, ?_⟩
  · obtain ⟨⟨c', batch⟩, hbatch, rfl⟩ := List.mem_map.mp h
    obtain ⟨hsent, hc⟩ := List.mem_filter.mp hbatch
    obtain rfl : c' = c := of_decide_eq_true hc
    exact ⟨batch.messages, Option.mem_toList.mp hsent⟩
  · rintro ⟨messages, hsent⟩
    rw [hsent]
    simp

lemma nodup_batchesTo_cons {e : Engine σ} {c : ContactId} {step : Step} {rest : List Step}
    (hrest : ((e.step step).batchesTo c rest).Nodup)
    (hfirst : ∀ batch, step.sent e = some (c, batch) → batch.id ∉ (e.step step).batchesTo c rest) :
    (e.batchesTo c (step :: rest)).Nodup := by
  rw [batchesTo]
  cases hsent : step.sent e with
  | none => exact hrest
  | some sent =>
    obtain ⟨c', batch⟩ := sent
    by_cases hc : c' = c
    · subst hc
      simpa using ⟨hfirst batch hsent, hrest⟩
    · simpa [hc] using hrest

end Engine

/-- Whether no two batches among some packets differ in their bodies but not in the hashes of
these. -/
def Batch.HashesApart (packets : List Bytes) : Prop :=
  ∀ x y : Batch, (Packet.batch x).encode ∈ packets → (Packet.batch y).encode ∈ packets →
    BatchId.ofBody x.body = BatchId.ofBody y.body → x.body = y.body

/-- A batch that is sent is written, with the nonce of the step. -/
lemma Operation.nonce_of_sent {α : Type} {operation : Operation α} {e : Engine Memory}
    {sink : Sink} {c : ContactId} {batch : SentBatch}
    (h : operation.sent e sink = some (c, batch)) :
    ∃ x : Batch, (Packet.batch x).encode ∈ operation.wrote e sink c ∧ x.id = batch.id ∧
      (Step.perform operation sink).nonce = some x.nonce := by
  obtain ⟨x, hwrote, hid, -⟩ := Operation.wrote_of_sent h
  obtain ⟨-, packet, hpacket, hencode⟩ := Operation.mem_wrote hwrote
  refine ⟨x, hwrote, hid, ?_⟩
  cases operation with
  | generateBatch c' writer nonce =>
    obtain rfl := Option.some.inj hpacket
    exact congrArg some (Batch.nonce_eq_of_encode hencode).symm
  | generateBatchFrom c' writer nonce requested =>
    obtain rfl := Option.some.inj hpacket
    exact congrArg some (Batch.nonce_eq_of_encode hencode).symm
  | receiveRequest c' offer request writer nonce =>
    obtain ⟨requested, -, rfl⟩ := Option.map_eq_some_iff.mp hpacket
    exact congrArg some (Batch.nonce_eq_of_encode hencode).symm
  | _ => cases h

namespace Backend.Twin

variable {backend : Backend} {e : Engine backend.Data} {e' : Engine Memory} {c : ContactId}

lemma batchesTo (h : backend.Twin e e') (history : List Step) :
    e.batchesTo c history = e'.batchesTo c history := by
  induction history generalizing e e' with
  | nil => rfl
  | cons step rest ih => rw [Engine.batchesTo, Engine.batchesTo, h.sent, ih (h.step step)]

lemma nonce_of_sent (h : backend.Twin e e') {step : Step} {batch : SentBatch}
    (hsent : step.sent e = some (c, batch)) :
    ∃ x : Batch, (Packet.batch x).encode ∈ step.wrote e c ∧ x.id = batch.id ∧
      step.nonce = some x.nonce := by
  rw [h.sent] at hsent
  rw [h.wrote]
  cases step with
  | perform operation sink => exact Operation.nonce_of_sent hsent
  | setClock _ | setGate _ => cases hsent

/-- Every address that is used in a history is that of a batch that was written, with one of
the nonces of the history. -/
lemma exists_of_mem_batchesTo (h : backend.Twin e e') {history : List Step} {b : BatchId}
    (hb : b ∈ e.batchesTo c history) : ∃ x : Batch,
      (Packet.batch x).encode ∈ e.writtenTo c history ∧ x.id = b ∧
        x.nonce ∈ history.filterMap Step.nonce := by
  induction history generalizing e e' with
  | nil => cases hb
  | cons step rest ih =>
    rcases Engine.mem_batchesTo_cons.mp hb with ⟨messages, hsent⟩ | hb
    · obtain ⟨x, hwrote, hid, hnonce⟩ := h.nonce_of_sent hsent
      refine ⟨x, List.mem_append_left _ hwrote, hid, ?_⟩
      exact List.mem_filterMap.mpr ⟨step, List.mem_cons_self, hnonce⟩
    · obtain ⟨x, hwritten, hid, hnonce⟩ := ih (h.step step) hb
      refine ⟨x, List.mem_append_right _ hwritten, hid, ?_⟩
      obtain ⟨later, hlater, hnonce⟩ := List.mem_filterMap.mp hnonce
      exact List.mem_filterMap.mpr ⟨later, List.mem_cons_of_mem step hlater, hnonce⟩

/-- No address is used twice, if no nonce is and hashes are apart. -/
theorem nodup_batchesTo (h : backend.Twin e e') {history : List Step}
    (hnonces : (history.filterMap Step.nonce).Nodup)
    (hhash : Batch.HashesApart (e.writtenTo c history)) : (e.batchesTo c history).Nodup := by
  induction history generalizing e e' with
  | nil => exact List.nodup_nil
  | cons step rest ih =>
    have hnonces' : (rest.filterMap Step.nonce).Nodup :=
      hnonces.sublist ((List.sublist_cons_self step rest).filterMap Step.nonce)
    have hhash' : Batch.HashesApart ((e.step step).writtenTo c rest) := fun x y hx hy =>
      hhash x y (List.mem_append_right _ hx) (List.mem_append_right _ hy)
    refine Engine.nodup_batchesTo_cons (ih (h.step step) hnonces' hhash') fun batch hsent hb => ?_
    obtain ⟨x, hx, hid, hnonce⟩ := h.nonce_of_sent hsent
    obtain ⟨y, hy, hid', hnonce'⟩ := (h.step step).exists_of_mem_batchesTo hb
    -- two batches with one address have one nonce, which is used here and later
    have hbody : x.body = y.body :=
      hhash x y (List.mem_append_left _ hx) (List.mem_append_right _ hy) (hid.trans hid'.symm)
    rw [← Batch.nonce_eq_of_body hbody] at hnonce'
    rw [List.filterMap_cons_some hnonce] at hnonces
    exact (List.nodup_cons.mp hnonces).1 hnonce'

end Backend.Twin

/-! ## Batches that are not outstanding any more -/

namespace Memory

variable {s : Memory} {c : ContactId} {b : BatchId}

lemma sentBatch_acks (ids : List BatchId) (b : BatchId) :
    (s.changes (ids.map (.ack c))).sentBatch c b = if b ∈ ids then none else s.sentBatch c b := by
  induction ids generalizing s with
  | nil => rfl
  | cons a rest ih =>
    rw [List.map_cons, changes_cons, ih, sentBatch_ack]
    by_cases ha : b = a
    · subst ha
      simp
    · simp [ha]

lemma mem_of_mem_lostAmong {ids : List BatchId} {cutoff : Int64}
    (h : b ∈ (s.lostAmong c cutoff ids).map Prod.fst) : b ∈ ids := by
  induction ids generalizing s with
  | nil => cases h
  | cons a rest ih =>
    unfold lostAmong at h
    split at h
    · exact List.mem_cons_of_mem a (ih h)
    · rcases List.mem_cons.mp h with rfl | h
      · exact List.mem_cons_self
      · exact List.mem_cons_of_mem a (ih h)

end Memory

namespace Engine

/-- A batch that is not outstanding stays so in a history in which its address is not used. -/
lemma sentBatch_run_eq_none {e : Engine Memory} {c : ContactId} {b : BatchId} {history : List Step}
    (h : e.store.sentBatch c b = none) (hb : b ∉ e.batchesTo c history) :
    (e.run history).store.sentBatch c b = none := by
  induction history generalizing e with
  | nil => exact h
  | cons step rest ih =>
    rw [mem_batchesTo_cons, not_or] at hb
    refine ih ?_ hb.2
    by_contra hsome
    obtain ⟨r, hr⟩ := Option.ne_none_iff_exists'.mp hsome
    rcases step.sentBatch_of_step hr with hold | hsent
    · rw [h] at hold
      cases hold
    · exact hb.1 ⟨r.messages, hsent⟩

/-- After an ack, none of its batches is outstanding. -/
lemma sentBatch_of_acks {e : Engine Memory} (hs : e.store.Consistent) {c : ContactId} {b : BatchId}
    {step : Step} (h : step.Acks c b) : (e.step step).store.sentBatch c b = none := by
  cases step with
  | setClock _ | setGate _ => cases h
  | perform operation sink =>
    cases operation with
    | receiveAck c' batches =>
      obtain ⟨rfl, hb⟩ := h
      rw [store_step, Step.log, Operation.log, Memory.about]
      by_cases hc : c' ∈ e.store.contacts
      · rw [if_pos hc, Memory.sentBatch_acks, if_pos hb]
      · rw [if_neg hc]
        by_contra hsome
        obtain ⟨r, hr⟩ := Option.ne_none_iff_exists'.mp hsome
        exact hc (hs.owned c' b r hr)
    | _ => cases h

end Engine

/-! ## Acks that are ignored -/

section

variable {σ : Type} [Store σ]

/-- Whether a step declares a batch of a contact lost. -/
def Step.Loses (e : Engine σ) (c : ContactId) (b : BatchId) : Step → Prop
  | .perform (.findLost c') sink =>
    c' = c ∧ ∃ lost, ((Engine.findLost c').runOn e sink).1 = .ok lost ∧ b ∈ lost
  | _ => False

/-- Whether an ack of a batch would come too late after a history, or for nothing: no batch
with this address was sent to the contact, or the batch was declared lost, or an ack of it came
after it was sent. -/
def Engine.Stale (e : Engine σ) (c : ContactId) (history : List Step) (b : BatchId) : Prop :=
  b ∉ e.batchesTo c history ∨ ∃ done step rest, history = done ++ step :: rest ∧
    (step.Loses (e.run done) c b ∨ step.Acks c b ∧ b ∈ e.batchesTo c done)

/-- An ack that finds none of its batches outstanding is ignored. -/
lemma Engine.receiveAck_runOn_of_none {e : Engine σ} {c : ContactId} {batches : List BatchId}
    (hread : (Store.containsContact c e.store).2 = e.store)
    (hnone : ∀ b ∈ batches, Store.removeAckedBatch c b e.store = (.ok [], e.store)) (sink : Sink) :
    ((receiveAck c batches).runOn e sink).2 = ⟨e, [], sink⟩ := by
  have hacked : removeAcked c batches (e.store, sink) = (.ok [], (e.store, sink)) := by
    induction batches with
    | nil => rfl
    | cons b rest ih =>
      rw [List.forall_mem_cons] at hnone
      rw [removeAcked, Txn.bind_apply, Txn.query_of_ok hnone.1]
      dsimp only
      rw [Txn.bind_apply, ih hnone.2]
      rfl
  obtain ⟨answer, hrequire⟩ : ∃ answer,
      Txn.requireContact c (e.store, sink) = (answer, (e.store, sink)) := by
    rw [Txn.requireContact, Txn.bind_apply, Txn.query]
    rcases hknown : Store.containsContact c e.store with ⟨x | known, s⟩
    · rw [hknown] at hread
      exact ⟨_, by rw [← hread]⟩
    · rw [hknown] at hread
      obtain rfl : s = e.store := hread
      cases known with
      | true => exact ⟨_, rfl⟩
      | false => exact ⟨_, rfl⟩
  rw [Act.runOn, receiveAck, Act.bind_apply, Act.transaction, Txn.bind_apply, hrequire]
  cases answer with
  | error x => rfl
  | ok answer =>
    dsimp only
    rw [hacked]
    rfl

end

/-- Batches that are declared lost are among those that count as lost. -/
lemma Engine.findLost_eq_ok {t : Turn Memory} {c : ContactId} {lost : List BatchId}
    (h : (findLost c t).1 = .ok lost) : c ∈ t.engine.store.contacts ∧
      ∀ b ∈ lost, b ∈ t.engine.store.lostOf c (lossCutoff t.engine.config t.engine.now) := by
  rw [findLost_apply] at h
  dsimp only at h
  split at h
  · next hc =>
    obtain rfl := Except.ok.inj h
    exact ⟨hc, fun b hb => Memory.mem_of_mem_lostAmong hb⟩
  · cases h

/-- A batch of a contact is declared lost only if it was outstanding, and is not any more
afterwards. -/
lemma Step.Loses.sentBatch {e : Engine Memory} {c : ContactId} {b : BatchId} {step : Step}
    (h : step.Loses e c b) :
    (∃ r, e.store.sentBatch c b = some r) ∧ (e.step step).store.sentBatch c b = none := by
  cases step with
  | setClock _ | setGate _ => cases h
  | perform operation sink =>
    cases operation with
    | findLost c' =>
      obtain ⟨rfl, lost, hlost, hb⟩ := h
      rw [Act.runOn] at hlost
      obtain ⟨hc, hmem⟩ := Engine.findLost_eq_ok hlost
      obtain ⟨batch, hbatch, rfl⟩ := List.mem_map.mp (hmem b hb)
      obtain ⟨hlisted, hat⟩ := List.mem_filter.mp hbatch
      have hr := ((e.store.mem_outstandingOf_iff c' batch).mp hlisted).2
      refine ⟨⟨_, hr⟩, ?_⟩
      rw [Engine.store_step, Step.log, Operation.log, Memory.about, if_pos hc]
      refine Memory.sentBatch_loses (fun r hr' => ?_) (.inl (hmem batch.id hb))
      rw [hr] at hr'
      rw [← Option.some.inj hr']
      exact of_decide_eq_true hat
    | _ => cases h

namespace Backend.Twin

variable {backend : Backend} {e : Engine backend.Data} {e' : Engine Memory} {c : ContactId}
  {b : BatchId}

lemma loses (h : backend.Twin e e') {step : Step} (hlost : step.Loses e c b) :
    step.Loses e' c b := by
  cases step with
  | setClock _ | setGate _ => cases hlost
  | perform operation sink =>
    cases operation with
    | findLost c' =>
      obtain ⟨hc, lost, hanswer, hb⟩ := hlost
      exact ⟨hc, lost, (h.plain (.findLost c') rfl sink).1.symm.trans hanswer, hb⟩
    | _ => cases hlost

/-- An ack of a batch that is not outstanding leaves the store alone, whichever it is. -/
lemma removeAckedBatch_of_none (h : backend.Twin e e') (hnone : e'.store.sentBatch c b = none) :
    Store.removeAckedBatch c b e.store = (.ok [], e.store) := by
  cases backend with
  | memory =>
    obtain ⟨rfl, -⟩ := h
    have hremove : Memory.removeAckedBatch e.store c b = ([], e.store) :=
      Memory.removeAckedBatch_of_none hnone
    exact congrArg (fun r => (Except.ok r.1, r.2)) hremove
  | relational =>
    have hrow := (Engine.Mirrors.store h).batch c b
    rw [hnone, Option.map_none] at hrow
    have hremove : Relational.removeAckedBatch e.store c b = ([], e.store) := by
      unfold Relational.removeAckedBatch
      rw [Std.ExtTreeMap.contains_eq_isSome_getElem?, hrow]
      rfl
    exact congrArg (fun r => (Except.ok r.1, r.2)) hremove

/-- A batch whose ack would come too late is not outstanding. -/
lemma sentBatch_of_stale (h : backend.Twin e e') {history : List Step}
    (hnone : e'.store.sentBatch c b = none) (hids : (e.batchesTo c history).Nodup)
    (hstale : e.Stale c history b) : (e'.run history).store.sentBatch c b = none := by
  rcases hstale with hunused | ⟨done, step, rest, rfl, hclosed⟩
  · rw [h.batchesTo] at hunused
    exact Engine.sentBatch_run_eq_none hnone hunused
  rw [h.batchesTo, Engine.batchesTo_append] at hids
  have hdone := h.run done
  -- the batch was sent before the step, after which it is not outstanding
  obtain ⟨hused, hclosed⟩ : b ∈ e'.batchesTo c done ∧
      ((e'.run done).step step).store.sentBatch c b = none := by
    rcases hclosed with hlost | ⟨hacks, hused⟩
    · obtain ⟨⟨r, hr⟩, hafter⟩ := (hdone.loses hlost).sentBatch
      refine ⟨?_, hafter⟩
      by_contra hunused
      rw [Engine.sentBatch_run_eq_none hnone hunused] at hr
      cases hr
    · rw [h.batchesTo] at hused
      exact ⟨hused, Engine.sentBatch_of_acks hdone.consistent hacks⟩
  -- and its address is not used again
  have hlater : b ∉ ((e'.run done).step step).batchesTo c rest := by
    intro hb
    exact (List.nodup_append.mp hids).2.2 b hused b (Engine.mem_batchesTo_cons.mpr (.inr hb)) rfl
  rw [Engine.run_append, Engine.run_cons]
  exact Engine.sentBatch_run_eq_none hclosed hlater

end Backend.Twin

/-- Let an engine come to a state by a history that uses no nonce twice, and in which no two
bodies of batches for a contact have the same hash. An ack of the contact that only names
batches which were declared lost, or were acknowledged, or were never sent to it leaves the
engine as it is and reports nothing, whatever was sent since. -/
theorem Backend.receiveAck_of_stale {backend : Backend} {config : SyncConfig} {now : Int64}
    {history : List Step} {c : ContactId} {batches : List BatchId}
    (hnonces : (history.filterMap Step.nonce).Nodup)
    (hhash : Batch.HashesApart ((backend.start config now).writtenTo c history))
    (hstale : ∀ b ∈ batches, (backend.start config now).Stale c history b) (sink : Sink) :
    let e := (backend.start config now).run history
    ((Engine.receiveAck c batches).runOn e sink).2.engine = e ∧
      ((Engine.receiveAck c batches).runOn e sink).2.events = [] := by
  intro e
  have hstart := Twin.start backend config now
  have hids := hstart.nodup_batchesTo hnonces hhash
  have hempty (b : BatchId) : Memory.empty.sentBatch c b = none := by
    simp [Memory.empty, Memory.sentBatch]
  have hnone (b : BatchId) (hb : b ∈ batches) :
      Store.removeAckedBatch c b e.store = (.ok [], e.store) :=
    (hstart.run history).removeAckedBatch_of_none
      (hstart.sentBatch_of_stale (hempty b) hids (hstale b hb))
  rw [Engine.receiveAck_runOn_of_none (backend.containsContact_snd c e.store) hnone sink]
  exact ⟨rfl, rfl⟩

namespace Sample

/-- The contact asks for the message, the batch is lost, and the message is sent again. -/
def lossy : List Step :=
  opening ++ [ask 1, .setClock 1000000, .perform (.findLost contact) {}, ask 2]

lemma writtenTo_lossy : (Backend.memory.start {} 0).writtenTo contact lossy =
    [(Packet.batch ⟨nonce 1, [message.raw]⟩).encode,
      (Packet.batch ⟨nonce 2, [message.raw]⟩).encode] := by
  decide +kernel

lemma hashesApart_lossy :
    Batch.HashesApart ((Backend.memory.start {} 0).writtenTo contact lossy) := by
  have hbatch (x : Batch)
      (hx : (Packet.batch x).encode ∈ (Backend.memory.start {} 0).writtenTo contact lossy) :
      x = ⟨nonce 1, [message.raw]⟩ ∨ x = ⟨nonce 2, [message.raw]⟩ := by
    rw [writtenTo_lossy, List.mem_cons, List.mem_singleton] at hx
    exact hx.imp
      (fun h => Packet.batch.inj (Packet.encode_inj (by decide +kernel) h))
      (fun h => Packet.batch.inj (Packet.encode_inj (by decide +kernel) h))
  intro x y hx hy hhash
  rcases hbatch x hx with rfl | rfl <;> rcases hbatch y hy with rfl | rfl
  · rfl
  · exact absurd hhash batch_ne
  · exact absurd hhash.symm batch_ne
  · rfl

lemma stale_lossy : (Backend.memory.start {} 0).Stale contact lossy (batch 1) := by
  refine .inr ⟨opening ++ [ask 1, .setClock 1000000], .perform (.findLost contact) {}, [ask 2],
    rfl, .inl ⟨rfl, [batch 1], eq_ok_of_toOption ?_, List.mem_singleton.mpr rfl⟩⟩
  decide +kernel

end Sample

/-- After a batch was lost and its message was sent again, a late ack of the first batch changes
nothing, and the second batch stays outstanding. -/
theorem Backend.receiveAck_of_stale_lossy :
    let e := (Backend.memory.start {} 0).run Sample.lossy
    (e.store.sentBatch Sample.contact (Sample.batch 2)).map SentRecord.messages =
        some [Sample.message.id] ∧
      ((Engine.receiveAck Sample.contact [Sample.batch 1]).runOn e {}).2.engine = e ∧
      ((Engine.receiveAck Sample.contact [Sample.batch 1]).runOn e {}).2.events = [] := by
  intro e
  refine ⟨by decide +kernel, ?_⟩
  refine Backend.receiveAck_of_stale (by decide) Sample.hashesApart_lossy (fun b hb => ?_) {}
  obtain rfl := List.mem_singleton.mp hb
  exact Sample.stale_lossy

end MessageSync
