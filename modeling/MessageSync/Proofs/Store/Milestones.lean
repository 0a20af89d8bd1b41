import Mathlib.Data.List.Nodup
import MessageSync.Proofs.Store.Exact

/-!
# Milestones of batches

A batch for a contact is sent, and closed when it is acknowledged or lost.
`Memory.milestones` reads these points off a run of changes. While no identifier is sent
twice, they balance (`Memory.Accounts`): each batch is closed once at most, and what is
outstanding is what was sent and not closed, until the contact is removed.
-/

namespace MessageSync

/-- A point in the life of a batch. -/
inductive Milestone where
  | sent (b : BatchId)
  /-- An ack found the batch outstanding. `visible` tells whether the contact could see one of
  its messages then. -/
  | acked (b : BatchId) (visible : Bool)
  | lost (b : BatchId)
deriving DecidableEq

namespace Milestone

/-- The batch that becomes outstanding. -/
def opened : Milestone → Option BatchId
  | sent b => some b
  | acked _ _ | lost _ => none

/-- The batch that ceases to be outstanding. -/
def closed : Milestone → Option BatchId
  | sent _ => none
  | acked b _ | lost b => some b

/-- Whether a milestone is reported. -/
def reported : Milestone → Bool
  | sent _ | lost _ => true
  | acked _ visible => visible

/-- All batches that are opened are reported. -/
lemma filterMap_opened_filter (past : List Milestone) :
    (past.filter reported).filterMap opened = past.filterMap opened := by
  rw [List.filterMap_filter]
  refine congrArg (List.filterMap · past) (funext fun m => ?_)
  cases m with
  | acked _ visible => cases visible <;> rfl
  | _ => rfl

/-- All batches that are closed are reported, but for those whose ack is not. -/
lemma mem_filterMap_closed_iff {past : List Milestone} {b : BatchId} :
    b ∈ past.filterMap closed ↔
      b ∈ (past.filter reported).filterMap closed ∨ acked b false ∈ past := by
  simp only [List.mem_filterMap, List.mem_filter]
  constructor
  · rintro ⟨m, hm, hb⟩
    by_cases hreported : m.reported
    · exact .inl ⟨m, ⟨hm, hreported⟩, hb⟩
    · cases m with
      | acked b' visible =>
        obtain rfl := Option.some.inj hb
        obtain rfl : visible = false := Bool.eq_false_iff.mpr hreported
        exact .inr hm
      | _ => exact absurd rfl hreported
  · rintro (⟨m, ⟨hm, -⟩, hb⟩ | hm)
    · exact ⟨m, hm, hb⟩
    · exact ⟨_, hm, rfl⟩

end Milestone

/-- The batch that a change sends to a contact. -/
def Change.sentTo (c : ContactId) : Change → Option BatchId
  | .send c' b _ _ => if c' = c then some b else none
  | _ => none

namespace Memory

/-- Whether a contact may see one of the messages of a batch. -/
def shows (s : Memory) (c : ContactId) (r : SentRecord) : Bool :=
  r.messages.any fun id => (s.delivery c id).isSome

/-- The milestone of a batch for a contact that a change is. -/
def milestone (s : Memory) (c : ContactId) : Change → Option Milestone
  | .send c' b _ _ => if c' = c then some (.sent b) else none
  | .ack c' b => if c' = c then (s.sentBatch c b).map fun r => .acked b (s.shows c r) else none
  | .lose c' b cutoff =>
    if c' = c ∧ (s.sentBatch c b).any (·.sentAt ≤ cutoff) then some (.lost b) else none
  | _ => none

/-- The milestones of the batches for a contact in a run of changes. -/
def milestones (s : Memory) (c : ContactId) : List Change → List Milestone
  | [] => []
  | x :: log => (s.milestone c x).toList ++ (s.change x).milestones c log

variable {s : Memory} {c : ContactId} {log : List Change} {past : List Milestone}

lemma milestone_eq_none {x : Change} (h : ¬ x.About c) : s.milestone c x = none := by
  cases x with
  | send _ _ _ _ | ack _ _ => exact if_neg h
  | lose _ _ _ => exact if_neg fun hboth => h hboth.1
  | _ => rfl

lemma milestone_ack (s : Memory) (c : ContactId) (b : BatchId) :
    s.milestone c (.ack c b) = (s.sentBatch c b).map fun r => .acked b (s.shows c r) := if_pos rfl

lemma milestone_lose {b : BatchId} {r : SentRecord} (hr : s.sentBatch c b = some r)
    {cutoff : Int64} (hat : r.sentAt ≤ cutoff) :
    s.milestone c (.lose c b cutoff) = some (.lost b) := by
  refine if_pos ⟨rfl, ?_⟩
  rw [hr]
  exact decide_eq_true hat

lemma milestone_lose_of_not {b : BatchId} {cutoff : Int64}
    (h : ∀ r, s.sentBatch c b = some r → ¬ r.sentAt ≤ cutoff) :
    s.milestone c (.lose c b cutoff) = none := by
  refine if_neg fun hboth => ?_
  obtain ⟨r, hr, hat⟩ := (Option.any_eq_true _ _).mp hboth.2
  exact h r hr (of_decide_eq_true hat)

/-- A batch that is not lost stays as it is. -/
lemma milestone_lose_cases (s : Memory) (c : ContactId) (b : BatchId) (cutoff : Int64) :
    (∃ r, s.sentBatch c b = some r ∧ r.sentAt ≤ cutoff) ∨
      s.milestone c (.lose c b cutoff) = none ∧ s.change (.lose c b cutoff) = s := by
  by_cases hlost : ∃ r, s.sentBatch c b = some r ∧ r.sentAt ≤ cutoff
  · exact .inl hlost
  · refine .inr ⟨milestone_lose_of_not fun r hr hat => hlost ⟨r, hr, hat⟩, ?_⟩
    exact (s.lose_cases c b cutoff).resolve_left hlost

lemma milestones_eq_nil (h : ∀ x ∈ log, ∀ s : Memory, s.milestone c x = none) :
    s.milestones c log = [] := by
  induction log generalizing s with
  | nil => rfl
  | cons x rest ih =>
    rw [milestones, h x List.mem_cons_self, ih fun y hy => h y (List.mem_cons_of_mem x hy)]
    rfl

/-- The batches that are opened are those that are sent. -/
lemma opened_milestone (s : Memory) (c : ContactId) (x : Change) :
    (s.milestone c x).bind Milestone.opened = x.sentTo c := by
  cases x with
  | send c' _ _ _ => by_cases hc : c' = c <;> simp [milestone, Change.sentTo, Milestone.opened, hc]
  | ack c' b =>
    by_cases hc : c' = c
    · cases hr : s.sentBatch c b <;>
        simp [milestone, Change.sentTo, Milestone.opened, hc, hr]
    · simp [milestone, Change.sentTo, hc]
  | lose _ _ _ =>
    simp only [milestone, Change.sentTo]
    split <;> rfl
  | _ => rfl

lemma opened_milestones (s : Memory) (c : ContactId) (log : List Change) :
    (s.milestones c log).filterMap Milestone.opened = log.filterMap (Change.sentTo c) := by
  induction log generalizing s with
  | nil => rfl
  | cons x rest ih =>
    rw [milestones, List.filterMap_append, ih, List.filterMap_cons, ← s.opened_milestone c x]
    cases s.milestone c x with
    | none => rfl
    | some m => cases hm : m.opened <;> simp [hm]

/-! ## Acks -/

lemma shows_eq_false_iff (s : Memory) (c : ContactId) (r : SentRecord) :
    s.shows c r = false ↔ ∀ id ∈ r.messages, s.delivery c id = none := by
  simp [shows]

/-- An ack takes no message out of sight. -/
lemma shows_ack (s : Memory) (c : ContactId) (b : BatchId) (r : SentRecord) :
    (s.change (.ack c b)).shows c r = s.shows c r := by
  have hdelivery (id : MessageId) :
      ((s.change (.ack c b)).delivery c id).isSome = (s.delivery c id).isSome := by
    cases hb : s.sentBatch c b with
    | none => rw [change_ack_of_none hb]
    | some r' =>
      show ((s.removeAckedBatch c b).2.delivery c id).isSome = _
      rw [delivery_removeAckedBatch hb]
      split
      · exact Option.isSome_map
      · rfl
  simp only [shows, hdelivery]

/-- Each milestone is that of a change. -/
lemma exists_of_mem_milestones {m : Milestone} (h : m ∈ s.milestones c log) :
    ∃ x ∈ log, ∃ s' : Memory, s'.milestone c x = some m := by
  induction log generalizing s with
  | nil => cases h
  | cons x rest ih =>
    rcases List.mem_append.mp h with hfirst | hrest
    · exact ⟨x, List.mem_cons_self, s, Option.mem_toList.mp hfirst⟩
    · obtain ⟨y, hy, hm⟩ := ih hrest
      exact ⟨y, List.mem_cons_of_mem x hy, hm⟩

lemma mem_log_of_acked {b : BatchId} {visible : Bool}
    (h : .acked b visible ∈ s.milestones c log) : .ack c b ∈ log := by
  obtain ⟨x, hx, s', hm⟩ := exists_of_mem_milestones h
  cases x with
  | send _ _ _ _ | lose _ _ _ =>
    simp only [milestone] at hm
    split at hm <;> cases hm
  | ack c' b' =>
    simp only [milestone] at hm
    split at hm
    · next hc =>
      obtain ⟨r, -, heq⟩ := Option.map_eq_some_iff.mp hm
      rwa [hc, (Milestone.acked.inj heq).1] at hx
    · cases hm
  | _ => cases hm

lemma mem_log_of_lost {b : BatchId} (h : .lost b ∈ s.milestones c log) :
    ∃ cutoff, .lose c b cutoff ∈ log := by
  obtain ⟨x, hx, s', hm⟩ := exists_of_mem_milestones h
  cases x with
  | send _ _ _ _ | ack _ _ =>
    simp only [milestone] at hm
    split at hm <;> simp at hm
  | lose c' b' cutoff =>
    simp only [milestone] at hm
    split at hm
    · next hboth =>
      rw [hboth.1, Milestone.lost.inj (Option.some.inj hm)] at hx
      exact ⟨cutoff, hx⟩
    · cases hm
  | _ => cases hm

/-- Of acks in turn, those find their batch that name it first. -/
lemma acked_mem_milestones_acks {b : BatchId} {visible : Bool} (ids : List BatchId) :
    .acked b visible ∈ s.milestones c (ids.map (.ack c)) ↔
      b ∈ ids ∧ ∃ r, s.sentBatch c b = some r ∧ s.shows c r = visible := by
  induction ids generalizing s with
  | nil => simp [milestones]
  | cons a rest ih =>
    rw [List.map_cons, milestones, List.mem_append, ih, milestone_ack, Option.mem_toList]
    simp only [sentBatch_ack, shows_ack, List.mem_cons]
    by_cases heq : b = a
    · subst heq
      simp [Option.map_eq_some_iff]
    · have hne : a ≠ b := Ne.symm heq
      simp [Option.map_eq_some_iff, heq, hne]

/-! ## The balance -/

/-- The batches that were opened and closed for a contact, against those outstanding. -/
structure Accounts (s : Memory) (c : ContactId) (past : List Milestone) : Prop where
  /-- No batch was sent twice. -/
  opened : (past.filterMap Milestone.opened).Nodup
  /-- No batch was closed twice. -/
  closed : (past.filterMap Milestone.closed).Nodup
  opened_of_closed : ∀ b ∈ past.filterMap Milestone.closed, b ∈ past.filterMap Milestone.opened
  of_outstanding : ∀ b, (s.sentBatch c b).isSome →
    b ∈ past.filterMap Milestone.opened ∧ b ∉ past.filterMap Milestone.closed
  outstanding : ∀ b ∈ past.filterMap Milestone.opened, b ∉ past.filterMap Milestone.closed →
    (s.sentBatch c b).isSome ∨ s.Gone c

namespace Accounts

lemma empty (c : ContactId) : Memory.empty.Accounts c [] where
  opened := List.nodup_nil
  closed := List.nodup_nil
  opened_of_closed _ h := h
  of_outstanding b h := by simp [Memory.empty, sentBatch] at h
  outstanding _ h := (List.not_mem_nil h).elim

/-- A batch is closed by one milestone only. -/
lemma eq_of_closed (h : s.Accounts c past) {m m' : Milestone} (hm : m ∈ past) (hm' : m' ∈ past)
    {b : BatchId} (hb : m.closed = some b) (hb' : m'.closed = some b) : m = m' := by
  have hpairwise := List.pairwise_filterMap.mp h.closed
  have hsymm : Std.Symm fun m m' : Milestone =>
      ∀ b, m.closed = some b → ∀ b', m'.closed = some b' → b ≠ b' :=
    ⟨fun _ _ hne a ha a' ha' heq => hne a' ha' a ha heq.symm⟩
  by_contra hne
  exact hpairwise.forall hm hm' hne b hb b hb' rfl

/-- Nothing that matters to the balance happens. -/
lemma of_same (h : s.Accounts c past) {s' : Memory}
    (hbatch : ∀ b, s'.sentBatch c b = s.sentBatch c b) (hgone : s.Gone c → s'.Gone c) :
    s'.Accounts c past where
  opened := h.opened
  closed := h.closed
  opened_of_closed := h.opened_of_closed
  of_outstanding b hb := h.of_outstanding b (hbatch b ▸ hb)
  outstanding b hb hb' := by
    rw [hbatch]
    exact (h.outstanding b hb hb').imp_right hgone

lemma send (h : s.Accounts c past) {b : BatchId} {messages : List MessageId} {sentAt : Int64}
    (hfresh : b ∉ past.filterMap Milestone.opened) :
    (s.change (.send c b messages sentAt)).Accounts c (past ++ [.sent b]) := by
  have hopened : (past ++ [Milestone.sent b]).filterMap Milestone.opened =
      past.filterMap Milestone.opened ++ [b] := List.filterMap_append
  have hclosed : (past ++ [Milestone.sent b]).filterMap Milestone.closed =
      past.filterMap Milestone.closed := by
    rw [List.filterMap_append]
    exact List.append_nil _
  constructor
  · rw [hopened, ← List.concat_eq_append]
    exact h.opened.concat hfresh
  · rw [hclosed]
    exact h.closed
  · intro a ha
    rw [hclosed] at ha
    rw [hopened]
    exact List.mem_append_left _ (h.opened_of_closed a ha)
  · intro a ha
    rw [hopened, hclosed]
    rw [sentBatch_send] at ha
    split at ha
    · next heq =>
      subst heq
      refine ⟨List.mem_append_right _ (List.mem_singleton.mpr rfl), fun hmem => ?_⟩
      exact hfresh (h.opened_of_closed a hmem)
    · obtain ⟨hmem, hnot⟩ := h.of_outstanding a ha
      exact ⟨List.mem_append_left _ hmem, hnot⟩
  · intro a ha hnot
    rw [hclosed] at hnot
    rw [hopened, List.mem_append, List.mem_singleton] at ha
    rw [sentBatch_send]
    split
    · exact .inl rfl
    · next hne => exact (h.outstanding a (ha.resolve_right hne) hnot).imp_right (·.change _)

/-- A batch that is outstanding is closed. -/
lemma close (h : s.Accounts c past) {x : Change} {m : Milestone} {b : BatchId}
    (hm : m.closed = some b) (hm' : m.opened = none) (hb : (s.sentBatch c b).isSome)
    (hbatch : ∀ a, (s.change x).sentBatch c a = if a = b then none else s.sentBatch c a) :
    (s.change x).Accounts c (past ++ [m]) := by
  have hopened : (past ++ [m]).filterMap Milestone.opened = past.filterMap Milestone.opened := by
    rw [List.filterMap_append, List.filterMap_cons_none hm']
    exact List.append_nil _
  have hclosed : (past ++ [m]).filterMap Milestone.closed =
      past.filterMap Milestone.closed ++ [b] := by
    rw [List.filterMap_append, List.filterMap_cons_some hm]
    rfl
  obtain ⟨hmem, hnot⟩ := h.of_outstanding b hb
  constructor
  · rw [hopened]
    exact h.opened
  · rw [hclosed, ← List.concat_eq_append]
    exact h.closed.concat hnot
  · intro a ha
    rw [hclosed, List.mem_append, List.mem_singleton] at ha
    rw [hopened]
    rcases ha with ha | rfl
    · exact h.opened_of_closed a ha
    · exact hmem
  · intro a ha
    rw [hopened, hclosed, List.mem_append, List.mem_singleton, not_or]
    rw [hbatch] at ha
    split at ha
    · cases ha
    · next hne => exact ⟨(h.of_outstanding a ha).1, (h.of_outstanding a ha).2, hne⟩
  · intro a ha ha'
    rw [hopened] at ha
    rw [hclosed, List.mem_append, List.mem_singleton, not_or] at ha'
    rw [hbatch, if_neg ha'.2]
    exact (h.outstanding a ha ha'.1).imp_right (·.change _)

/-- With its contact, all outstanding batches go. -/
lemma removeContact (h : s.Accounts c past) (hs : s.Consistent) :
    (s.change (.removeContact c)).Accounts c past := by
  have hnone (b : BatchId) : (s.change (.removeContact c)).sentBatch c b = none := by
    show (s.removeContact c).sentBatch c b = none
    rw [sentBatch_removeContact, if_pos rfl]
  refine ⟨h.opened, h.closed, h.opened_of_closed, fun b hb => ?_, fun b hb hb' => ?_⟩
  · rw [hnone] at hb
    cases hb
  · refine .inr ?_
    rcases h.outstanding b hb hb' with hsome | hgone
    · obtain ⟨r, hr⟩ := Option.isSome_iff_exists.mp hsome
      refine ⟨?_, hs.numbered c (hs.owned c b r hr)⟩
      show c ∉ s.contacts.erase c
      simp
    · exact hgone.change _

/-- A change keeps the balance, unless it sends a batch with an identifier that was used. -/
theorem change (h : s.Accounts c past) (hs : s.Consistent) (x : Change)
    (hfresh : ∀ b, x.sentTo c = some b → b ∉ past.filterMap Milestone.opened) :
    (s.change x).Accounts c (past ++ (s.milestone c x).toList) := by
  by_cases habout : x.About c
  · cases x with
    | send c' b messages sentAt =>
      obtain rfl : c' = c := habout
      have hone : s.milestone c' (.send c' b messages sentAt) = some (.sent b) := if_pos rfl
      rw [hone]
      exact h.send (hfresh b (if_pos rfl))
    | ack c' b =>
      obtain rfl : c' = c := habout
      rw [milestone_ack]
      cases hr : s.sentBatch c' b with
      | none =>
        rw [change_ack_of_none hr]
        exact (List.append_nil past).symm ▸ h
      | some r => exact h.close rfl rfl (by rw [hr]; rfl) (sentBatch_ack b)
    | lose c' b cutoff =>
      obtain rfl : c' = c := habout
      rcases s.milestone_lose_cases c' b cutoff with ⟨r, hr, hat⟩ | ⟨hnone, hsame⟩
      · rw [milestone_lose hr hat]
        exact h.close rfl rfl (by rw [hr]; rfl) (sentBatch_lose hr hat)
      · rw [hnone, hsame]
        exact (List.append_nil past).symm ▸ h
    | removeContact c' =>
      obtain rfl : c' = c := habout
      exact (List.append_nil past).symm ▸ h.removeContact hs
    | _ => exact absurd habout id
  · rw [milestone_eq_none habout]
    exact (List.append_nil past).symm ▸ h.of_same (sentBatch_change habout) (·.change x)

/-- A run of changes keeps the balance, if no identifier of a batch is used twice. -/
theorem changes (h : s.Accounts c past) (hs : s.Consistent) (hlog : s.Allows log)
    (hids : (past.filterMap Milestone.opened ++ log.filterMap (Change.sentTo c)).Nodup) :
    (s.changes log).Accounts c (past ++ s.milestones c log) := by
  induction log generalizing s past with
  | nil => exact (List.append_nil past).symm ▸ h
  | cons x rest ih =>
    have hopened : (past ++ (s.milestone c x).toList).filterMap Milestone.opened ++
        rest.filterMap (Change.sentTo c) =
          past.filterMap Milestone.opened ++ (x :: rest).filterMap (Change.sentTo c) := by
      rw [List.filterMap_append, List.append_assoc, ← (s.change x).opened_milestones c rest,
        ← List.filterMap_append, ← s.opened_milestones c (x :: rest), milestones]
    have hfirst := h.change hs x fun b hb hmem => by
      rw [List.filterMap_cons_some hb] at hids
      exact (List.nodup_append.mp hids).2.2 b hmem b List.mem_cons_self rfl
    have hrest := ih hfirst (hs.change hlog.1) hlog.2 (hopened ▸ hids)
    rw [changes_cons, milestones, ← List.append_assoc]
    exact hrest

/-- A run of changes keeps the balance, with the identifiers that come after it still new. -/
lemma extend (h : s.Accounts c past) (hs : s.Consistent) (hlog : s.Allows log)
    {later : List BatchId} (hids : (past.filterMap Milestone.opened ++
      (log.filterMap (Change.sentTo c) ++ later)).Nodup) :
    (s.changes log).Accounts c (past ++ s.milestones c log) ∧
      ((past ++ s.milestones c log).filterMap Milestone.opened ++ later).Nodup := by
  rw [← List.append_assoc] at hids
  refine ⟨h.changes hs hlog (List.nodup_append.mp hids).1, ?_⟩
  rw [List.filterMap_append, opened_milestones]
  exact hids

end Accounts

end Memory

end MessageSync
