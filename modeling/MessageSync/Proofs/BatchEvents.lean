import MessageSync.Proofs.Engine.Reports
import MessageSync.Proofs.SenderView

/-!
# Events account for batches

An engine reports the batches that it sends, and that are acknowledged or lost. While no
identifier of a batch is used twice, none is reported twice of either kind, and what is
outstanding should be what was reported as sent and not as closed. This fails in one case
only: a batch whose messages are all out of sight of the contact is removed by an ack, but not
reported (`Step.Hushes`). With such batches left out, the account is exact
(`Backend.outstanding_eq_announced`).
-/

namespace MessageSync

variable {σ : Type} [Store σ]

/-- Whether a step is an ack of an outstanding batch of which the contact may see no message. -/
def Step.Hushes (step : Step) (e : Engine σ) (c : ContactId) (b : BatchId) : Prop :=
  step.Acks c b ∧ ∃ batches, e.view (Store.outstandingBatches c) = .ok batches ∧
    ∃ batch ∈ batches, batch.id = b ∧
      ∀ id ∈ batch.messages, e.view (Store.status c id) = .ok none

namespace Engine

/-- Whether an ack of a batch of which the contact could see no message came in a history, while
the batch was outstanding. -/
def Hushed (e : Engine σ) (c : ContactId) (b : BatchId) : List Step → Prop
  | [] => False
  | step :: rest => step.Hushes e c b ∨ (e.step step).Hushed c b rest

/-- What the events of a history announce of the batches for a contact. -/
def announced (e : Engine σ) (c : ContactId) (history : List Step) : List Milestone :=
  (e.reported history).filterMap (Event.milestone c)

lemma hushed_append (e : Engine σ) (c : ContactId) (b : BatchId) (done rest : List Step) :
    e.Hushed c b (done ++ rest) ↔ e.Hushed c b done ∨ (e.run done).Hushed c b rest := by
  induction done generalizing e with
  | nil => simp [Hushed, run_nil]
  | cons step steps ih => rw [List.cons_append, Hushed, Hushed, ih, or_assoc, run_cons]

lemma announced_cons (e : Engine σ) (c : ContactId) (step : Step) (rest : List Step) :
    e.announced c (step :: rest) =
      (step.reported e).filterMap (Event.milestone c) ++ (e.step step).announced c rest :=
  List.filterMap_append

end Engine

namespace Backend.Twin

variable {backend : Backend} {e : Engine backend.Data} {e' : Engine Memory} {c : ContactId}
  {b : BatchId}

/-- The acks that are not reported are those of batches out of sight. -/
lemma hushes_iff (h : backend.Twin e e') (step : Step) :
    step.Hushes e c b ↔ .acked b false ∈ e'.store.milestones c (step.log e') := by
  have hnone (id : MessageId) :
      e.view (Store.status c id) = .ok none ↔ e'.store.delivery c id = none := by
    rw [h.status]
    exact ⟨Except.ok.inj, congrArg Except.ok⟩
  have hlisted : step.Hushes e c b ↔
      step.Acks c b ∧ ∃ r, e'.store.sentBatch c b = some r ∧ e'.store.shows c r = false := by
    simp only [Step.Hushes, hnone, Memory.shows_eq_false_iff]
    refine and_congr_right fun _ => ⟨?_, ?_⟩
    · rintro ⟨batches, hview, batch, hmem, rfl, hhidden⟩
      exact ⟨_, ((h.mem_outstanding_iff hview batch).mp hmem).2, hhidden⟩
    · rintro ⟨r, hr, hhidden⟩
      exact ⟨_, h.outstanding c, _, Memory.mem_outstandingOf hr, rfl, hhidden⟩
  rw [hlisted, Step.acked_mem_milestones h.consistent]

/-- The balance of the batches for a contact is kept in a history that uses no identifier twice.
What is announced in it are its milestones, but for the acks of batches out of sight. -/
lemma accounts_run (h : backend.Twin e e') {past : List Milestone}
    (hpast : e'.store.Accounts c past) {history : List Step}
    (hids : (past.filterMap Milestone.opened ++ e.batchesTo c history).Nodup) :
    ∃ more, (e'.run history).store.Accounts c (past ++ more) ∧
      e.announced c history = more.filter Milestone.reported ∧
      ∀ b, e.Hushed c b history ↔ .acked b false ∈ more := by
  induction history generalizing e e' past with
  | nil => exact ⟨[], (List.append_nil past).symm ▸ hpast, rfl, fun b => by simp [Engine.Hushed]⟩
  | cons step rest ih =>
    let first := e'.store.milestones c (step.log e')
    rw [Engine.batchesTo, h.sent, ← step.sentTo_log] at hids
    obtain ⟨hstep, hrest⟩ :=
      hpast.extend h.consistent (step.allows_log h.consistent.keyed) hids
    rw [← Engine.store_step] at hstep
    obtain ⟨more, haccounts, hannounced, hhushed⟩ := ih (h.step step) hstep hrest
    refine ⟨first ++ more, ?_, ?_, fun b => ?_⟩
    · rw [← List.append_assoc]
      exact haccounts
    · rw [Engine.announced_cons, hannounced, h.announced_eq, step.announced_eq,
        List.filter_append]
    · rw [Engine.Hushed, hhushed, h.hushes_iff, List.mem_append]

end Backend.Twin

namespace Backend

/-- Let no identifier of a batch for a contact be used twice in a history. No batch is announced
as sent twice, and none as acknowledged or lost twice. Batches that an ack removes while all
their messages are out of sight are announced as sent and never as closed. While the contact is
there, the outstanding batches are, but for these, those that were announced as sent and not
as closed. -/
theorem outstanding_eq_announced {backend : Backend} {config : SyncConfig} {now : Int64}
    {history : List Step} {c : ContactId}
    (hids : ((backend.start config now).batchesTo c history).Nodup) :
    let start := backend.start config now
    let sent := (start.announced c history).filterMap Milestone.opened
    let closed := (start.announced c history).filterMap Milestone.closed
    sent.Nodup ∧ closed.Nodup ∧ (∀ b, start.Hushed c b history → b ∈ sent ∧ b ∉ closed) ∧
      ((start.run history).view (Store.containsContact c) = .ok true →
        ∃ batches, (start.run history).view (Store.outstandingBatches c) = .ok batches ∧
          ∀ b, b ∈ batches.map OutstandingBatch.id ↔
            b ∈ sent ∧ b ∉ closed ∧ ¬ start.Hushed c b history) := by
  intro start sent closed
  have hstart := Twin.start backend config now
  have htwin := hstart.run history
  obtain ⟨all, hall, hannounced, hhushed⟩ := hstart.accounts_run (.empty c) hids
  rw [List.nil_append] at hall
  have hsent : sent = all.filterMap Milestone.opened := by
    rw [← Milestone.filterMap_opened_filter, ← hannounced]
  have hclosed (b : BatchId) : b ∈ all.filterMap Milestone.closed ↔
      b ∈ closed ∨ start.Hushed c b history := by
    rw [Milestone.mem_filterMap_closed_iff, ← hannounced, hhushed]
  refine ⟨?_, ?_, fun b hb => ⟨?_, fun hmem => ?_⟩, fun hcontains => ?_⟩
  · rw [hsent]
    exact hall.opened
  · refine hall.closed.sublist ?_
    show ((start.announced c history).filterMap _).Sublist _
    rw [hannounced]
    exact List.filter_sublist.filterMap _
  · rw [hsent]
    exact hall.opened_of_closed b ((hclosed b).mpr (.inr hb))
  -- a batch is closed by one milestone, which is either announced or not
  · obtain ⟨m, hm, hm'⟩ := List.mem_filterMap.mp hmem
    rw [hannounced, List.mem_filter] at hm
    have heq := hall.eq_of_closed hm.1 ((hhushed b).mp hb) hm' rfl
    rw [heq] at hm
    cases hm.2
  · have hc : ¬ ((Engine.start Memory.empty config now).run history).store.Gone c := by
      rw [htwin.containsContact] at hcontains
      exact fun hgone => hgone.1 (Std.ExtTreeMap.contains_iff_mem.mp (Except.ok.inj hcontains))
    refine ⟨_, htwin.outstanding c, fun b => ?_⟩
    rw [← not_or, ← hclosed, hsent, Memory.mem_ids_outstandingOf_iff]
    constructor
    · exact hall.of_outstanding b
    · rintro ⟨hopen, hnot⟩
      exact (hall.outstanding b hopen hnot).resolve_right hc

end Backend

/-! ## A batch that goes unreported -/

namespace Sample

/-- The contact asks for the message, which is deleted afterwards. -/
def deletion : List Step := opening ++ [ask 1, .perform (.expire 1000) {}]

/-- The contact acknowledges a message that was deleted. -/
def unseen : List Step := deletion ++ [.perform (.receiveAck contact [batch 1]) {}]

/-- A store in memory without rows has none of a contact. -/
lemma status_eq_none {e : Engine Memory} (h : e.store.deliveries.toList.length = 0) (c : ContactId)
    (id : MessageId) : e.view (Store.status c id) = .ok none := by
  refine congrArg Except.ok (Option.eq_none_iff_forall_ne_some.mpr fun d hd => ?_)
  have hmem : ((⟨c, id⟩ : ContactKey MessageId), d) ∈ e.store.deliveries.toList :=
    (Table.mem_toList_iff _ _).mpr hd
  rw [List.eq_nil_of_length_eq_zero h] at hmem
  cases hmem

lemma hushed_unseen : (Backend.memory.start {} 0).Hushed contact (batch 1) unseen := by
  let e : Engine Memory := (Backend.memory.start {} 0).run deletion
  have hbatch : (e.store.sentBatch contact (batch 1)).isSome := by decide +kernel
  have hempty : e.store.deliveries.toList.length = 0 := by decide +kernel
  obtain ⟨r, hr⟩ := Option.isSome_iff_exists.mp hbatch
  refine (Engine.hushed_append _ _ _ deletion _).mpr (.inr (.inl ?_))
  exact ⟨⟨rfl, List.mem_singleton.mpr rfl⟩, _, rfl, _, Memory.mem_outstandingOf hr, rfl,
    fun id _ => status_eq_none hempty contact id⟩

end Sample

namespace Backend

/-- A batch that was acknowledged after its message was deleted was announced as sent, and is not
announced as closed. -/
theorem outstanding_eq_announced_unseen :
    let start := memory.start {} 0
    Sample.batch 1 ∈ (start.announced Sample.contact Sample.unseen).filterMap Milestone.opened ∧
      Sample.batch 1 ∉
        (start.announced Sample.contact Sample.unseen).filterMap Milestone.closed := by
  intro start
  have hids : (start.batchesTo Sample.contact Sample.unseen).Nodup := by decide +kernel
  exact (outstanding_eq_announced hids).2.2.1 _ Sample.hushed_unseen

/-- The outstanding batches of a contact are not always those that were announced as sent and not
as closed. -/
theorem not_outstanding_eq_announced :
    ¬ ∀ (backend : Backend) (config : SyncConfig) (now : Int64) (history : List Step)
        (c : ContactId), ((backend.start config now).batchesTo c history).Nodup →
      let start := backend.start config now
      (start.run history).view (Store.containsContact c) = .ok true →
        ∃ batches, (start.run history).view (Store.outstandingBatches c) = .ok batches ∧
          ∀ b, b ∈ batches.map OutstandingBatch.id ↔
            b ∈ (start.announced c history).filterMap Milestone.opened ∧
              b ∉ (start.announced c history).filterMap Milestone.closed := by
  intro h
  obtain ⟨batches, hview, hiff⟩ := h memory {} 0 Sample.unseen Sample.contact
    (by decide +kernel) (Sample.eq_ok_of_toOption (by decide +kernel))
  have hlisted : Sample.batch 1 ∈ batches.map OutstandingBatch.id := by
    refine (hiff (Sample.batch 1)).mpr ⟨?_, ?_⟩
    · decide +kernel
    · decide +kernel
  -- but no batch is left
  let e : Engine Memory := (memory.start {} 0).run Sample.unseen
  have hempty : e.store.outstanding.toList.length = 0 := by decide +kernel
  obtain rfl : batches = [] :=
    (Except.ok.inj hview).symm.trans (Sample.outstandingOf_eq_nil hempty Sample.contact)
  cases hlisted

end Backend

end MessageSync
