import MessageSync.Proofs.Lifecycle
import MessageSync.Proofs.StaleAcks

/-!
# Records of outstanding batches

A batch that is sent is recorded, with its messages and the time. The record stays as it is
until the contact acknowledges the batch, a search finds it old enough to be lost, or the
contact is removed (`Step.Ends`). If no two batches have the same identifier, every message
that counts as sent is in such a record, so that a search will make it new again unless
the contact shows that it has it (`Backend.outstanding_records_run`).
-/

namespace MessageSync

/-! ## What ends a record -/

namespace Step

/-- Whether a step is the removal of a contact. -/
def Drops (c : ContactId) : Step → Prop
  | .perform (.removeContact c') _ => c' = c
  | _ => False

/-- Whether a step ends the record of a batch: an ack of the contact names the batch, a search
for the lost batches of the contact finds it old enough, or the contact is removed. -/
def Ends {σ : Type} (step : Step) (e : Engine σ) (batch : OutstandingBatch) : Prop :=
  step.Acks batch.contact batch.id ∨
    step.Searches batch.contact ∧ batch.sentAt ≤ Engine.lossCutoff e.config e.now ∨
    step.Drops batch.contact

/-- A contact is removed only by its removal. -/
lemma drops_of_mem_log {step : Step} {e : Engine Memory} {c : ContactId}
    (h : .removeContact c ∈ step.log e) : step.Drops c := by
  cases step with
  | setClock _ | setGate _ => cases h
  | perform operation sink =>
    have hpart : Memory.Part.contacts ∈ operation.parts :=
      Operation.parts_of_mem_log h (by simp [Change.parts])
    cases operation with
    | removeContact c' =>
      exact (Change.removeContact.inj (List.mem_singleton.mp (Memory.mem_about h).2)).symm
    | addContact _ => cases List.mem_singleton.mp h
    | receiveSubscriptions _ _ | receiveTransports _ _ =>
      rw [log, Operation.log] at h
      split at h
      · cases h
      · cases List.mem_singleton.mp h
    | _ => simp [Operation.parts] at hpart

end Step

/-! ## Messages that count as sent -/

namespace Memory

variable {s : Memory} {c : ContactId}

/-- Every message that counts as sent to a contact is in an outstanding batch. -/
def Covered (s : Memory) (c : ContactId) : Prop :=
  ∀ id, s.status c id = some .sent → s.Outgoing c id

/-- A batch may go if none of its messages counts as sent any more. -/
lemma Covered.erase {s' : Memory} (h : s.Covered c) {b : BatchId} {r : SentRecord}
    (hr : s.sentBatch c b = some r)
    (hbatch : ∀ b', s'.sentBatch c b' = if b' = b then none else s.sentBatch c b')
    (hstatus : ∀ id, s'.status c id = some .sent →
      id ∉ r.messages ∧ s.status c id = some .sent) : s'.Covered c := by
  intro id hsent
  obtain ⟨hnot, hold⟩ := hstatus id hsent
  obtain ⟨b', r', hr', hid⟩ := h id hold
  have hne : b' ≠ b := by
    rintro rfl
    rw [hr] at hr'
    rw [Option.some.inj hr'] at hnot
    exact hnot hid
  exact ⟨b', r', (hbatch b').trans ((if_neg hne).trans hr'), hid⟩

/-- What is sent stays covered, unless a batch takes the place of an outstanding one. -/
lemma Covered.change (h : s.Covered c) (hs : s.Consistent) {x : Change} (hx : s.Permits x)
    (hfresh : ∀ b messages sentAt, x = .send c b messages sentAt → s.sentBatch c b = none) :
    (s.change x).Covered c := by
  by_cases habout : x.About c
  · cases x with
    | send c' b messages sentAt =>
      obtain rfl : c' = c := habout
      intro id hsent
      rw [status_send hx.2.2] at hsent
      by_cases hid : id ∈ messages
      · exact ⟨b, _, (sentBatch_send b).trans (if_pos rfl), hid⟩
      · rw [if_neg hid] at hsent
        obtain ⟨b', r', hr', hmem⟩ := h id hsent
        have hne : b' ≠ b := by
          rintro rfl
          rw [hfresh b' messages sentAt rfl] at hr'
          cases hr'
        exact ⟨b', r', (sentBatch_send b').trans ((if_neg hne).trans hr'), hmem⟩
    | ack c' b =>
      obtain rfl : c' = c := habout
      cases hr : s.sentBatch c' b with
      | none =>
        rw [change_ack_of_none hr]
        exact h
      | some r =>
        refine h.erase hr (sentBatch_ack b) fun id hsent => ?_
        rw [status_ack hr] at hsent
        split at hsent
        · obtain ⟨_, -, heq⟩ := Option.map_eq_some_iff.mp hsent
          cases heq
        · next hid => exact ⟨hid, hsent⟩
    | lose c' b cutoff =>
      obtain rfl : c' = c := habout
      rcases s.lose_cases c' b cutoff with ⟨r, hr, hat⟩ | hsame
      · refine h.erase hr (sentBatch_lose hr hat) fun id hsent => ?_
        rw [status_lose hr hat] at hsent
        split at hsent
        · cases hsent
        · next hnot => exact ⟨fun hid => hnot ⟨hid, hsent⟩, hsent⟩
      · rw [hsame]
        exact h
    | removeContact c' =>
      obtain rfl : c' = c := habout
      intro id hsent
      rw [status_removeContact] at hsent
      cases hsent
    | _ => exact habout.elim
  -- no other change makes a message sent, or touches the batches
  · intro id hsent
    have heffect := effect_change hs habout id
    rw [hsent] at heffect
    rw [outgoing_of_eq (sentBatch_change habout)]
    generalize hold : s.status c id = old at heffect
    cases heffect with
    | same => exact h id hold

lemma Covered.changes {log : List Change} (h : s.Covered c) (hs : s.Consistent)
    (hlog : s.Allows log) (hsend : ∀ b messages sentAt, .send c b messages sentAt ∉ log) :
    (s.changes log).Covered c := by
  induction log generalizing s with
  | nil => exact h
  | cons x rest ih =>
    have hfirst : (s.change x).Covered c := by
      refine h.change hs hlog.1 fun b messages sentAt heq => ?_
      exact absurd (heq ▸ List.mem_cons_self) (hsend b messages sentAt)
    exact ih hfirst (hs.change hlog.1) hlog.2 fun b messages sentAt hmem =>
      hsend b messages sentAt (List.mem_cons_of_mem x hmem)

/-- Losing other batches leaves a record as it is. -/
lemma sentBatch_loses_other {b : BatchId} {ids : List BatchId} (hb : b ∉ ids) (cutoff : Int64) :
    (s.changes (ids.map (.lose c · cutoff))).sentBatch c b = s.sentBatch c b := by
  induction ids generalizing s with
  | nil => rfl
  | cons a rest ih =>
    rw [List.mem_cons, not_or] at hb
    rw [List.map_cons, changes_cons, ih hb.2, sentBatch_lose_other hb.1]

end Memory

/-! ## Steps -/

namespace Engine

variable {e : Engine Memory} {c : ContactId}

/-- A step keeps what is sent covered, if a batch that it sends takes the place of no other. -/
lemma covered_step (hs : e.store.Consistent) (h : e.store.Covered c) (step : Step)
    (hfresh : ∀ batch, step.sent e = some (c, batch) → e.store.sentBatch c batch.id = none) :
    (e.step step).store.Covered c := by
  have hlog := step.allows_log hs.keyed
  rw [store_step]
  by_cases hsends : ∃ batch, step.sent e = some (c, batch)
  · obtain ⟨batch, hsent⟩ := hsends
    rw [Step.log_of_sent hsent] at hlog ⊢
    refine h.change hs hlog.1 fun b messages sentAt heq => ?_
    obtain ⟨-, rfl, -⟩ := Change.send.inj heq
    exact hfresh batch hsent
  · refine h.changes hs hlog fun b messages sentAt hmem => hsends ?_
    cases step with
    | setClock _ | setGate _ => cases hmem
    | perform operation sink => exact ⟨_, Operation.causes_of_mem_log hmem⟩

variable {b : BatchId} {r : SentRecord}

/-- A step that ends a record deletes it. -/
lemma sentBatch_of_ends (hs : e.store.Consistent) (hr : e.store.sentBatch c b = some r)
    {step : Step} (h : step.Ends e ⟨c, b, r.messages, r.sentAt⟩) :
    (e.step step).store.sentBatch c b = none := by
  have hc := hs.owned c b r hr
  rcases h with hacks | ⟨hsearch, hat⟩ | hdrops
  · exact sentBatch_of_acks hs hacks
  · cases step with
    | setClock _ | setGate _ => cases hsearch
    | perform operation sink =>
      cases operation with
      | findLost c' =>
        obtain rfl : c' = c := hsearch
        rw [store_step, Step.log, Operation.log, Memory.about, if_pos hc, logLost]
        refine Memory.sentBatch_loses (fun r' hr' => ?_) (.inl ?_)
        · rw [hr] at hr'
          rw [← Option.some.inj hr']
          exact hat
        · refine List.mem_map.mpr ⟨⟨c', b, r.messages, r.sentAt⟩, ?_, rfl⟩
          exact List.mem_filter.mpr ⟨Memory.mem_outstandingOf hr, decide_eq_true hat⟩
      | _ => cases hsearch
  · cases step with
    | setClock _ | setGate _ => cases hdrops
    | perform operation sink =>
      cases operation with
      | removeContact c' =>
        obtain rfl : c' = c := hdrops
        rw [store_step, Step.log, Operation.log, Memory.about, if_pos hc]
        show (e.store.removeContact c').sentBatch c' b = none
        rw [Memory.sentBatch_removeContact, if_pos rfl]
      | _ => cases hdrops

/-- A step that does not end a record leaves it as it is, unless it sends another batch with
the same identifier. -/
lemma sentBatch_of_not_ends (hr : e.store.sentBatch c b = some r) {step : Step}
    (h : ¬ step.Ends e ⟨c, b, r.messages, r.sentAt⟩)
    (hfresh : ∀ batch, step.sent e = some (c, batch) → batch.id ≠ b) :
    (e.step step).store.sentBatch c b = some r := by
  rw [← hr, store_step]
  rcases step.log_about e c with hquiet | ⟨batch, hsent⟩ | ⟨ids, sink, rfl, hacks⟩ |
    ⟨sink, rfl, hlost⟩ | hgone
  · exact Memory.sentBatch_changes hquiet b
  · rw [Step.log_of_sent hsent, Memory.changes_cons, Memory.changes_nil, Memory.sentBatch_send,
      if_neg (Ne.symm (hfresh batch hsent))]
  · have hb : b ∉ ids := fun hb => h (.inl ⟨rfl, hb⟩)
    rw [hacks, Memory.sentBatch_acks, if_neg hb]
  · rw [hlost, logLost]
    refine Memory.sentBatch_loses_other (fun hb => h (.inr (.inl ⟨rfl, ?_⟩))) _
    -- the batches that are lost are old enough
    obtain ⟨batch, hbatch, rfl⟩ := List.mem_map.mp hb
    obtain ⟨hlisted, hat⟩ := List.mem_filter.mp hbatch
    have hrecord := ((e.store.mem_outstandingOf_iff c batch).mp hlisted).2
    rw [hr] at hrecord
    rw [Option.some.inj hrecord]
    exact of_decide_eq_true hat
  · exact absurd (Step.drops_of_mem_log (hgone ▸ List.mem_singleton.mpr rfl))
      fun hdrops => h (.inr (.inr hdrops))

/-! ## Histories -/

/-- A record stays as it is in a history that does not end it, and is gone after any other, if
no other batch is sent with the same identifier. -/
lemma sentBatch_run (hs : e.store.Consistent) (hr : e.store.sentBatch c b = some r)
    {history : List Step} (hb : b ∉ e.batchesTo c history) :
    e.Always (fun e step => ¬ step.Ends e ⟨c, b, r.messages, r.sentAt⟩) history ∧
        (e.run history).store.sentBatch c b = some r ∨
      ¬ e.Always (fun e step => ¬ step.Ends e ⟨c, b, r.messages, r.sentAt⟩) history ∧
        (e.run history).store.sentBatch c b = none := by
  induction history generalizing e with
  | nil => exact .inl ⟨trivial, hr⟩
  | cons step rest ih =>
    rw [mem_batchesTo_cons, not_or] at hb
    by_cases hends : step.Ends e ⟨c, b, r.messages, r.sentAt⟩
    · have hgone := sentBatch_run_eq_none (sentBatch_of_ends hs hr hends) hb.2
      exact .inr ⟨fun h => h.1 hends, hgone⟩
    · have hkept : (e.step step).store.sentBatch c b = some r := by
        refine sentBatch_of_not_ends hr hends ?_
        rintro ⟨_, messages⟩ hsent rfl
        exact hb.1 ⟨messages, hsent⟩
      exact (ih (consistent_step hs step) hkept hb.2).imp
        (fun h => ⟨⟨hends, h.1⟩, h.2⟩) fun h => ⟨fun halways => h.1 halways.2, h.2⟩

/-- What is sent stays covered in a history in which every batch has an identifier of its own. -/
lemma covered_run (hs : e.store.Consistent) (h : e.store.Covered c) {history : List Step}
    (hfree : ∀ b ∈ e.batchesTo c history, e.store.sentBatch c b = none)
    (hids : (e.batchesTo c history).Nodup) : (e.run history).store.Covered c := by
  induction history generalizing e with
  | nil => exact h
  | cons step rest ih =>
    have hfirst (batch : SentBatch) (hsent : step.sent e = some (c, batch)) :
        batch.id ∈ e.batchesTo c (step :: rest) := mem_batchesTo_cons.mpr (.inl ⟨_, hsent⟩)
    have hsplit := List.nodup_append.mp hids
    refine ih (consistent_step hs step) (covered_step hs h step fun batch hsent =>
      hfree _ (hfirst batch hsent)) (fun b hb => ?_) hsplit.2.1
    -- the step sends no batch with an identifier of a later one
    by_contra hsome
    obtain ⟨r, hr⟩ := Option.ne_none_iff_exists'.mp hsome
    rcases step.sentBatch_of_step hr with hold | hsent
    · rw [hfree b (mem_batchesTo_cons.mpr (.inr hb))] at hold
      cases hold
    · refine hsplit.2.2 b ?_ b hb rfl
      rw [hsent]
      simp

/-- Let batches that are sent have distinct identifiers. Then a batch that is sent later takes
the place of no outstanding batch. -/
lemma sentBatch_of_later (hnone : ∀ b, e.store.sentBatch c b = none) {done rest : List Step}
    (hids : (e.batchesTo c (done ++ rest)).Nodup) (hb : b ∈ (e.run done).batchesTo c rest) :
    (e.run done).store.sentBatch c b = none := by
  rw [batchesTo_append] at hids
  refine sentBatch_run_eq_none (hnone b) fun hused => ?_
  exact (List.nodup_append.mp hids).2.2 b hused b hb rfl

/-- A message that counts as sent turns new in a search for lost batches, if a batch with it is
old enough. -/
lemma status_of_search {id : MessageId} (hs : e.store.Consistent)
    (hsent : e.store.status c id = some .sent) (hr : e.store.sentBatch c b = some r)
    (hid : id ∈ r.messages) (hat : r.sentAt ≤ lossCutoff e.config e.now) (sink : Sink) :
    (e.step (.perform (.findLost c) sink)).store.status c id = some .new := by
  have hsearch : (Step.perform (.findLost c) sink).Searches c := rfl
  have hgone := sentBatch_of_ends hs hr (.inr (.inl ⟨hsearch, hat⟩))
  exact status_of_searches hs hsearch hsent hr hid hgone

end Engine

/-! ## Either store -/

namespace Backend

lemma Twin.ends_iff {backend : Backend} {e : Engine backend.Data} {e' : Engine Memory}
    (h : backend.Twin e e') (step : Step) (batch : OutstandingBatch) :
    step.Ends e batch ↔ step.Ends e' batch := by
  unfold Step.Ends
  rw [h.config, h.now]

lemma Twin.always_not_ends_iff {backend : Backend} {e : Engine backend.Data} {e' : Engine Memory}
    (h : backend.Twin e e') (history : List Step) (batch : OutstandingBatch) :
    e.Always (fun e step => ¬ step.Ends e batch) history ↔
      e'.Always (fun e step => ¬ step.Ends e batch) history :=
  always_iff (fun h step => not_congr (h.ends_iff step batch)) h history

/-- Let the batches that are sent to a contact in a history have distinct identifiers. After
the history, every message that counts as sent to the contact is in an outstanding batch, and
turns new in a search for lost batches if the batch is old enough by then. And each batch that
is outstanding at a point of the history is outstanding at its end, with the same messages and
time, if no step since that point ended it; otherwise no batch with its identifier is. -/
theorem outstanding_records_run (backend : Backend) (config : SyncConfig) (now : Int64)
    (done rest : List Step) (c : ContactId)
    (hids : ((backend.start config now).batchesTo c (done ++ rest)).Nodup) :
    let e := (backend.start config now).run done
    let e' := e.run rest
    ∃ before after, e.view (Store.outstandingBatches c) = .ok before ∧
      e'.view (Store.outstandingBatches c) = .ok after ∧
      (∀ id d, e'.view (Store.status c id) = .ok (some d) → d.status = .sent →
        ∃ batch ∈ after, id ∈ batch.messages ∧
          (batch.sentAt ≤ Engine.lossCutoff e'.config e'.now → ∀ sink, ∃ d',
            (e'.step (.perform (.findLost c) sink)).view (Store.status c id) = .ok (some d') ∧
              d'.status = .new)) ∧
      ∀ batch ∈ before,
        (e.Always (fun e step => ¬ step.Ends e batch) rest → batch ∈ after) ∧
        (¬ e.Always (fun e step => ¬ step.Ends e batch) rest →
          batch.id ∉ after.map OutstandingBatch.id) := by
  intro e e'
  have hstart := Twin.start backend config now
  have htwin := hstart.run done
  have hend := htwin.run rest
  have hnone (b : BatchId) : Memory.empty.sentBatch c b = none := by
    simp [Memory.empty, Memory.sentBatch]
  rw [hstart.batchesTo] at hids
  refine ⟨_, _, htwin.outstanding c, hend.outstanding c, fun id d hd hsent => ?_,
    fun batch hbatch => ?_⟩
  · have hcovered :
        (((Engine.start Memory.empty config now).run done).run rest).store.Covered c := by
      rw [← Engine.run_append]
      refine Engine.covered_run hstart.consistent (fun id h => ?_) (fun b _ => hnone b) hids
      simp [Engine.start, Memory.empty, Memory.status, Memory.delivery] at h
    have hstatus := (Memory.status_eq_some_iff _ c id .sent).mpr
      ⟨d, Except.ok.inj ((hend.status c id).symm.trans hd), hsent⟩
    obtain ⟨b, r, hr, hid⟩ := hcovered id hstatus
    refine ⟨_, Memory.mem_outstandingOf hr, hid, fun hat sink => ?_⟩
    rw [hend.config, hend.now] at hat
    have hnew := Engine.status_of_search hend.consistent hstatus hr hid hat sink
    obtain ⟨d', hd', hstatus'⟩ := (Memory.status_eq_some_iff _ c id .new).mp hnew
    exact ⟨d', ((hend.step _).status c id).trans (congrArg Except.ok hd'), hstatus'⟩
  · obtain ⟨hc, hr⟩ := (Memory.mem_outstandingOf_iff _ c batch).mp hbatch
    subst hc
    -- the batch is outstanding, so that its identifier is not used again
    have hunused : batch.id ∉
        ((Engine.start Memory.empty config now).run done).batchesTo batch.contact rest := by
      intro hused
      rw [Engine.sentBatch_of_later hnone hids hused] at hr
      cases hr
    have hrun := Engine.sentBatch_run htwin.consistent hr hunused
    rw [htwin.always_not_ends_iff rest batch]
    refine ⟨fun halways => ?_, fun hended => ?_⟩
    · obtain ⟨-, hkept⟩ := hrun.resolve_right fun h => h.1 halways
      exact (Memory.mem_outstandingOf_iff _ _ batch).mpr ⟨rfl, hkept⟩
    · obtain ⟨-, hgone⟩ := hrun.resolve_left fun h => hended h.1
      rw [Memory.mem_ids_outstandingOf_iff, hgone]
      simp

/-- A message is in two batches of the contact, and an ack of the first leaves the second. -/
theorem outstanding_records_relapse :
    let e := (Backend.memory.start {} 0).run Sample.relapse
    let ack := Step.perform (.receiveAck Sample.contact [Sample.batch 1]) {}
    ((Backend.memory.start {} 0).batchesTo Sample.contact (Sample.relapse ++ [ack])).Nodup ∧
      ∃ before after, e.view (Store.outstandingBatches Sample.contact) = .ok before ∧
        (e.step ack).view (Store.outstandingBatches Sample.contact) = .ok after ∧
        (∀ n, n = 1 ∨ n = 2 → Sample.batch n ∈ before.map OutstandingBatch.id) ∧
        ∀ batch ∈ before,
          (batch.id ≠ Sample.batch 1 → batch ∈ after) ∧
          (batch.id = Sample.batch 1 → batch.id ∉ after.map OutstandingBatch.id) := by
  intro e ack
  have hids : ((Backend.memory.start {} 0).batchesTo Sample.contact
      (Sample.relapse ++ [ack])).Nodup := by decide +kernel
  obtain ⟨before, after, hbefore, hafter, -, hrecords⟩ :=
    outstanding_records_run .memory {} 0 Sample.relapse [ack] Sample.contact hids
  refine ⟨hids, before, after, hbefore, hafter, fun n hn => ?_, fun batch hbatch =>
    ⟨fun hne => ?_, fun heq => ?_⟩⟩
  · obtain rfl := Except.ok.inj hbefore
    obtain ⟨r, hr, -⟩ := Option.map_eq_some_iff.mp (Sample.sentBatch_relapse n hn)
    exact List.mem_map_of_mem (Memory.mem_outstandingOf hr)
  -- the one step is an ack, which ends the batch that it names
  · refine (hrecords batch hbatch).1 ⟨?_, trivial⟩
    rintro (⟨-, hmem⟩ | ⟨hsearch, -⟩ | hdrops)
    · exact hne (List.mem_singleton.mp hmem)
    · exact hsearch
    · exact hdrops
  · have hcontact : batch.contact = Sample.contact := by
      obtain rfl := Except.ok.inj hbefore
      exact ((Memory.mem_outstandingOf_iff _ _ batch).mp hbatch).1
    refine (hrecords batch hbatch).2 fun halways => halways.1 (.inl ?_)
    exact ⟨hcontact.symm, List.mem_singleton.mpr heq⟩

end Backend

end MessageSync
