import MessageSync.Proofs.DeliveryOrder
import MessageSync.Proofs.Store.Closing

/-!
# Which batches are lost

A search for the lost batches of a contact looks for those that were sent as long ago as the
engine waits for an ack. It compares their times with a cutoff, which is computed in 64 bits and
stops at the end of their range. As long as no time is negative or the last one there is, that
is no restriction: a batch is lost exactly if the time since then is at least the one
configured, both taken as numbers (`Engine.le_lossCutoff_iff`).

The batches are lost one after the other. When two of them have a message in common, it turns
new with the first, and is not counted for the second (`Engine.returned`). In the end it is all
the same as if they had been closed together (`Backend.findLost_eq`).
-/

namespace MessageSync

/-- Whether a batch was sent at least as long ago as an engine waits for an ack. -/
def OutstandingBatch.overdue (batch : OutstandingBatch) (config : SyncConfig) (now : Int64) :
    Bool :=
  (config.retransmitAfter : Int) ≤ now.toInt - batch.sentAt.toInt

namespace Engine

section
variable {σ : Type} [Store σ]

/-- Whether a message counts as sent to a contact. -/
def countsSent (e : Engine σ) (c : ContactId) (id : MessageId) : Bool :=
  match e.view (Store.status c id) with
  | .ok (some d) => d.status = .sent
  | _ => false

/-- The messages that turn new when a batch is lost after others: they count as sent, and none
of the others has them. -/
def returned (e : Engine σ) (c : ContactId) (before : List OutstandingBatch)
    (batch : OutstandingBatch) : List MessageId :=
  batch.messages.filter fun id => e.countsSent c id && before.all fun b => !b.messages.contains id

/-- What is reported of batches that are lost in turn. -/
def lossReports (e : Engine σ) (c : ContactId) (lost : List OutstandingBatch) : List Event :=
  lost.mapIdx fun i batch => .batchLost c batch.id (e.returned c (lost.take i) batch).length

end

/-! ## The cutoff -/

/-- The cutoff is where the time that the engine waits has just passed. -/
lemma le_lossCutoff_iff {config : SyncConfig} {now sentAt : Int64}
    (hnow : 0 ≤ now ∧ now < Int64.maxValue) (hsent : 0 ≤ sentAt ∧ sentAt < Int64.maxValue) :
    sentAt ≤ lossCutoff config now ↔
      (config.retransmitAfter : Int) ≤ now.toInt - sentAt.toInt := by
  have hmin : Int64.minValue.toInt = -2 ^ 63 := by decide
  have hmax : Int64.maxValue.toInt = 2 ^ 63 - 1 := by decide
  have hzero : (0 : Int64).toInt = 0 := rfl
  rw [Int64.le_iff_toInt_le, Int64.lt_iff_toInt_lt, hmax, hzero] at hnow hsent
  rw [Int64.le_iff_toInt_le]
  unfold lossCutoff
  rw [Int64.toInt_ofInt_of_le (by omega) (by omega)]
  omega

/-! ## Over a store in memory -/

end Engine

/-- The messages that a lost batch returns are those that count as sent. -/
lemma Memory.returnSent_fst {c : ContactId} {ids : List MessageId} (h : ids.Nodup)
    (t : Table (ContactKey MessageId) Delivery) :
    (returnSent c ids t).1 =
      ids.filter fun id =>
        (t[(⟨c, id⟩ : ContactKey MessageId)]?).any fun d : Delivery => d.status = .sent := by
  induction ids generalizing t with
  | nil => rfl
  | cons id rest ih =>
    obtain ⟨hid, hrest⟩ := List.nodup_cons.mp h
    -- the others are not touched by what becomes of the first
    have hothers : ∀ a ∈ rest,
        (t.modify ⟨c, id⟩ Delivery.asLost)[(⟨c, a⟩ : ContactKey MessageId)]? =
          t[(⟨c, a⟩ : ContactKey MessageId)]? := by
      intro a ha
      have hne : ¬ (⟨c, id⟩ : ContactKey MessageId) = ⟨c, a⟩ := by
        intro heq
        exact hid ((ContactKey.mk.inj heq).2 ▸ ha)
      rw [Table.getElem?_modify, if_neg hne]
    rw [returnSent_cons, List.filter_cons]
    dsimp only
    rw [ih hrest]
    rw [List.filter_congr fun a ha => congrArg (Option.any _) (hothers a ha)]

/-- A message is covered by batches that are listed if one of them has it. -/
lemma Memory.covers_ids {s : Memory} {c : ContactId} {listed : List OutstandingBatch}
    (h : ∀ b ∈ listed, b ∈ s.outstandingOf c) (id : MessageId) :
    s.covers c (listed.map OutstandingBatch.id) id = true ↔ ∃ b ∈ listed, id ∈ b.messages := by
  rw [covers_eq_true_iff]
  constructor
  · rintro ⟨b, hb, r, hr, hid⟩
    obtain ⟨batch, hbatch, rfl⟩ := List.mem_map.mp hb
    have hr' := ((s.mem_outstandingOf_iff c batch).mp (h batch hbatch)).2
    obtain rfl := Option.some.inj (hr.symm.trans hr')
    exact ⟨batch, hbatch, hid⟩
  · rintro ⟨batch, hbatch, hid⟩
    exact ⟨batch.id, List.mem_map_of_mem hbatch, _,
      ((s.mem_outstandingOf_iff c batch).mp (h batch hbatch)).2, hid⟩

/-- Closing the listed batches of one kind leaves the others. -/
lemma Memory.outstandingOf_close_filter (s : Memory) (c : ContactId) (f : Delivery → Delivery)
    (p : OutstandingBatch → Bool) :
    (s.close c f (((s.outstandingOf c).filter p).map OutstandingBatch.id)).outstandingOf c =
      (s.outstandingOf c).filter fun batch => !p batch := by
  rw [outstandingOf_close]
  refine List.filter_congr fun b hb => ?_
  have hmem : b.id ∈ ((s.outstandingOf c).filter p).map OutstandingBatch.id ↔ p b = true := by
    refine ⟨fun hid => ?_, fun hp => List.mem_map_of_mem (List.mem_filter.mpr ⟨hb, hp⟩)⟩
    obtain ⟨b', hb', heq⟩ := List.mem_map.mp hid
    obtain ⟨hlisted, hp⟩ := List.mem_filter.mp hb'
    exact List.inj_on_of_nodup_map (s.nodup_outstandingOf c) hlisted hb heq ▸ hp
  simp only [hmem]
  cases p b <;> rfl

/-- Of the rows that a loss changes, those are new that were new or sent. -/
lemma Delivery.status_asLost (d : Delivery) :
    d.asLost.status = .new ↔ d.status = .new ∨ d.status = .sent := by
  rcases d with ⟨_ | _ | _, sendable⟩ <;> simp [asLost]

lemma Memory.Distinct.close {s : Memory} (h : s.Distinct) (c : ContactId)
    (f : Delivery → Delivery) (batches : List BatchId) : (s.close c f batches).Distinct := by
  intro c' b r hr
  rw [sentBatch_close, Option.ite_none_left_eq_some] at hr
  exact h c' b r hr.2

namespace Engine

variable {e : Engine Memory} {c : ContactId}

lemma countsSent_eq (e : Engine Memory) (c : ContactId) (id : MessageId) :
    e.countsSent c id = (e.store.delivery c id).any (·.status = .sent) := by
  have hview : e.view (Store.status c id) = .ok (e.store.delivery c id) := rfl
  rw [countsSent, hview]
  cases e.store.delivery c id with
  | none => rfl
  | some d => rfl

/-- Once a batch is lost, none of its messages counts as sent, and the others do as before. -/
lemma countsSent_close {batch : OutstandingBatch}
    (hr : e.store.sentBatch c batch.id = some ⟨batch.messages, batch.sentAt⟩) (id : MessageId) :
    ({ e with store := e.store.close c .asLost [batch.id] } : Engine Memory).countsSent c id =
      (e.countsSent c id && !batch.messages.contains id) := by
  rw [countsSent_eq, countsSent_eq, Memory.delivery_close_of_some hr]
  by_cases hid : id ∈ batch.messages
  · rw [if_pos ⟨rfl, hid⟩]
    cases e.store.delivery c id with
    | none => rfl
    | some d =>
      rcases d with ⟨_ | _ | _, sendable⟩ <;> simp [Delivery.asLost, hid]
  · rw [if_neg fun h => hid h.2]
    simp [hid]

lemma returned_close {first : OutstandingBatch}
    (hr : e.store.sentBatch c first.id = some ⟨first.messages, first.sentAt⟩)
    (before : List OutstandingBatch) (batch : OutstandingBatch) :
    ({ e with store := e.store.close c .asLost [first.id] } : Engine Memory).returned c before
      batch = e.returned c (first :: before) batch := by
  unfold returned
  simp only [countsSent_close hr, List.all_cons, Bool.and_assoc]

/-- The batches that are lost in turn, each with the number of messages that it returns. -/
lemma lostAmong_eq {cutoff : Int64} {lost : List OutstandingBatch}
    (hids : (lost.map OutstandingBatch.id).Nodup)
    (hlost : ∀ b ∈ lost, e.store.sentBatch c b.id = some ⟨b.messages, b.sentAt⟩ ∧
      b.sentAt ≤ cutoff ∧ b.messages.Nodup) :
    e.store.lostAmong c cutoff (lost.map OutstandingBatch.id) =
      lost.mapIdx fun i b => (b.id, (e.returned c (lost.take i) b).length) := by
  induction lost generalizing e with
  | nil => rfl
  | cons first rest ih =>
    obtain ⟨hr, hat, hnodup⟩ := hlost first List.mem_cons_self
    obtain ⟨hfirst, hrest⟩ := List.nodup_cons.mp hids
    have hclose : (e.store.removeLostBatch c first.id cutoff).2 =
        e.store.close c .asLost [first.id] :=
      Memory.change_lose fun r hr' => Option.some.inj (hr'.symm.trans hr) ▸ hat
    have hreturned : (e.store.removeLostBatch c first.id cutoff).1 =
        some (e.returned c [] first) := by
      rw [Memory.removeLostBatch_of_le hr hat, returned]
      dsimp only
      rw [Memory.returnSent_fst hnodup]
      refine congrArg some (List.filter_congr fun id _ => ?_)
      rw [countsSent_eq, List.all_nil, Bool.and_true]
      rfl
    have hnext := ih (e := { e with store := e.store.close c .asLost [first.id] }) hrest
      fun b hb => by
        obtain ⟨hb', hrest⟩ := hlost b (List.mem_cons_of_mem first hb)
        refine ⟨?_, hrest⟩
        dsimp only
        rw [Memory.sentBatch_close_singleton, if_neg fun h => hfirst ?_, hb']
        exact h.2 ▸ List.mem_map_of_mem hb
    simp only [returned_close hr] at hnext
    rw [List.map_cons, Memory.lostAmong, hreturned, hclose, hnext, List.mapIdx_cons]
    rfl

/-- The batches of a contact that are overdue. -/
def overdue (e : Engine Memory) (c : ContactId) : List OutstandingBatch :=
  (e.store.outstandingOf c).filter (·.overdue e.config e.now)

/-- Once the overdue batches are closed, none is overdue. -/
lemma overdue_close (e : Engine Memory) (c : ContactId) :
    let store := e.store.close c .asLost ((e.overdue c).map OutstandingBatch.id)
    ({ e with store } : Engine Memory).overdue c = [] := by
  intro store
  have hleft : store.outstandingOf c =
      (e.store.outstandingOf c).filter fun batch => !batch.overdue e.config e.now :=
    e.store.outstandingOf_close_filter c .asLost _
  rw [overdue, hleft, List.filter_filter]
  exact List.filter_eq_nil_iff.mpr fun b _ => by simp

/-- What a search for lost batches comes to. -/
lemma findLost_runOn (hc : c ∈ e.store.contacts) (hdistinct : e.store.Distinct)
    (hnow : 0 ≤ e.now ∧ e.now < Int64.maxValue)
    (htimes : ∀ b ∈ e.store.outstandingOf c, 0 ≤ b.sentAt ∧ b.sentAt < Int64.maxValue)
    (sink : Sink) :
    (findLost c).runOn e sink = (.ok ((e.overdue c).map OutstandingBatch.id),
      ⟨{ e with store := e.store.close c .asLost ((e.overdue c).map OutstandingBatch.id) },
        e.lossReports c (e.overdue c), sink⟩) := by
  have hlate : e.store.lostOf c (lossCutoff e.config e.now) =
      (e.overdue c).map OutstandingBatch.id := by
    refine congrArg (List.map _) (List.filter_congr fun b hb => decide_eq_decide.mpr ?_)
    exact le_lossCutoff_iff hnow (htimes b hb)
  have hids : ((e.overdue c).map OutstandingBatch.id).Nodup :=
    (e.store.nodup_outstandingOf c).sublist (List.filter_sublist.map _)
  have hlost : ∀ b ∈ e.overdue c, e.store.sentBatch c b.id = some ⟨b.messages, b.sentAt⟩ ∧
      b.sentAt ≤ lossCutoff e.config e.now ∧ b.messages.Nodup := by
    intro b hb
    obtain ⟨hmem, hdue⟩ := List.mem_filter.mp hb
    have hr := ((e.store.mem_outstandingOf_iff c b).mp hmem).2
    exact ⟨hr, (le_lossCutoff_iff hnow (htimes b hmem)).mpr (of_decide_eq_true hdue),
      hdistinct c b.id _ hr⟩
  have hclose : e.store.changes (((e.overdue c).map OutstandingBatch.id).map
        (.lose c · (lossCutoff e.config e.now))) =
      e.store.close c .asLost ((e.overdue c).map OutstandingBatch.id) := by
    refine Memory.changes_lose fun b hb r hr => ?_
    obtain ⟨batch, hbatch, rfl⟩ := List.mem_map.mp hb
    obtain ⟨hr', hat, -⟩ := hlost batch hbatch
    rw [hr] at hr'
    exact Option.some.inj hr' ▸ hat
  have hanswer : (e.store.lostAmong c (lossCutoff e.config e.now)
      ((e.overdue c).map OutstandingBatch.id)).map Prod.fst =
        (e.overdue c).map OutstandingBatch.id := by
    rw [lostAmong_eq hids hlost]
    exact List.ext_getElem? fun i => by simp [Function.comp_def]
  have hevents : (e.store.lostAmong c (lossCutoff e.config e.now)
      ((e.overdue c).map OutstandingBatch.id)).map (fun x => .batchLost c x.1 x.2) =
        e.lossReports c (e.overdue c) := by
    rw [lostAmong_eq hids hlost]
    exact List.ext_getElem? fun i => by simp [lossReports, Function.comp_def]
  rw [Act.runOn, findLost_apply]
  dsimp only
  rw [if_pos hc, hlate, hanswer, hevents, Turn.after, hclose]
  rfl

end Engine

/-! ## Either store -/

namespace Backend

/-- The store after a search for lost batches: the batches that it found are gone, and the rows
of the contact for their messages say new instead of sent. -/
def released : (backend : Backend) → backend.Data → ContactId → List BatchId → backend.Data
  | .memory, s, c, batches => Memory.close s c .asLost batches
  | .relational, s, c, batches => Relational.close s c .asLost batches

variable {backend : Backend} {e : Engine backend.Data} {t : Engine Memory} {c : ContactId}

lemma spares_released (s : backend.Data) (c : ContactId) (batches : List BatchId) :
    backend.Spares s (backend.released s c batches) := by
  cases backend with
  | memory => trivial
  | relational => exact ⟨rfl, rfl⟩

/-- An engine that a history leads to has a twin in which no batch has a message twice. -/
lemma Reaches.exists_distinct (h : backend.Reaches e) :
    ∃ t, backend.Twin e t ∧ t.store.Distinct := by
  obtain ⟨config, now, history, rfl⟩ := h
  refine ⟨_, (Twin.start backend config now).run history, ?_⟩
  refine Engine.distinct_run Memory.Consistent.empty (fun c b r hr => ?_) history
  simp [Engine.start, Memory.empty, Memory.sentBatch] at hr

namespace Twin

lemma countsSent (h : backend.Twin e t) (c : ContactId) (id : MessageId) :
    e.countsSent c id = t.countsSent c id := by
  rw [Engine.countsSent, h.status, Engine.countsSent_eq]
  cases t.store.delivery c id <;> rfl

lemma lossReports (h : backend.Twin e t) (c : ContactId) (lost : List OutstandingBatch) :
    e.lossReports c lost = t.lossReports c lost := by
  unfold Engine.lossReports Engine.returned
  simp only [h.countsSent]

lemma released (h : backend.Twin e t) (c : ContactId) (batches : List BatchId) :
    backend.Twin { e with store := backend.released e.store c batches }
      { t with store := t.store.close c .asLost batches } := by
  cases backend with
  | memory =>
    obtain ⟨rfl, hs⟩ := h
    exact ⟨rfl, hs.close c .asLost batches⟩
  | relational =>
    exact { h with store := (Engine.Mirrors.store h).close c Delivery.toRow_asLost batches }

lemma released_nil (h : backend.Twin e t) : backend.released e.store c [] = e.store := by
  have hnil := h.released c []
  rw [Memory.close_nil] at hnil
  exact congrArg Engine.store (hnil.eq h (spares_released e.store c []))

/-- A search comes to the same over either store. -/
lemma findLost (h : backend.Twin e t) (hc : c ∈ t.store.contacts) (hdistinct : t.store.Distinct)
    (hnow : 0 ≤ t.now ∧ t.now < Int64.maxValue)
    (htimes : ∀ b ∈ t.store.outstandingOf c, 0 ≤ b.sentAt ∧ b.sentAt < Int64.maxValue)
    (sink : Sink) :
    (Engine.findLost c).runOn e sink = (.ok ((t.overdue c).map OutstandingBatch.id),
      ⟨{ e with store := backend.released e.store c ((t.overdue c).map OutstandingBatch.id) },
        e.lossReports c (t.overdue c), sink⟩) := by
  have hrun := Engine.findLost_runOn hc hdistinct hnow htimes sink
  rw [h.lossReports]
  exact h.runOn_eq (.findLost c) rfl rfl hrun (h.released c _) (spares_released e.store c _)

/-- A search at the end of a search finds nothing. -/
lemma findLost_again (h : backend.Twin e t) (hc : c ∈ t.store.contacts)
    (hdistinct : t.store.Distinct) (hnow : 0 ≤ t.now ∧ t.now < Int64.maxValue)
    (htimes : ∀ b ∈ t.store.outstandingOf c, 0 ≤ b.sentAt ∧ b.sentAt < Int64.maxValue)
    (sink : Sink) :
    let e' : Engine backend.Data :=
      { e with store := backend.released e.store c ((t.overdue c).map OutstandingBatch.id) }
    (Engine.findLost c).runOn e' sink = (.ok [], ⟨e', [], sink⟩) := by
  intro e'
  have hnext := h.released c ((t.overdue c).map OutstandingBatch.id)
  have hrun := hnext.findLost hc (hdistinct.close c .asLost _) hnow (fun b hb => ?_) sink
  · rw [t.overdue_close c, List.map_nil, hnext.released_nil] at hrun
    exact hrun
  · rw [Memory.outstandingOf_close] at hb
    exact htimes b (List.mem_filter.mp hb).1

end Twin

/-- Let no time be negative or the last one there is. A search for the lost batches of a contact
answers those that were sent at least as long ago as is waited for an ack, in the order in which
they were sent, and reports each with the number of its messages that turn new. Their records
are gone then, their messages are new again if they counted as sent, and all else is as it was.
Another search right after it finds nothing. -/
theorem findLost_eq (he : backend.Reaches e) (hc : e.view (Store.containsContact c) = .ok true)
    (hnow : 0 ≤ e.now ∧ e.now < Int64.maxValue) :
    ∃ batches, e.view (Store.outstandingBatches c) = .ok batches ∧
      ((∀ batch ∈ batches, 0 ≤ batch.sentAt ∧ batch.sentAt < Int64.maxValue) → ∀ sink,
        let lost := batches.filter (·.overdue e.config e.now)
        let e' : Engine backend.Data :=
          { e with store := backend.released e.store c (lost.map OutstandingBatch.id) }
        (Engine.findLost c).runOn e sink =
          (.ok (lost.map OutstandingBatch.id), ⟨e', e.lossReports c lost, sink⟩) ∧
        lost.Pairwise (fun a b => a.compareSent b = .lt) ∧
        (∀ batch ∈ lost, batch.messages.Nodup) ∧
        e'.view (Store.outstandingBatches c) =
          .ok (batches.filter fun batch => !batch.overdue e.config e.now) ∧
        (∀ id, (∃ d, e'.view (Store.status c id) = .ok (some d) ∧ d.status = .new) ↔
          ∃ d, e.view (Store.status c id) = .ok (some d) ∧
            (d.status = .new ∨ d.status = .sent ∧ ∃ batch ∈ lost, id ∈ batch.messages)) ∧
        ∀ sink', (Engine.findLost c).runOn e' sink' = (.ok [], ⟨e', [], sink'⟩)) := by
  obtain ⟨t, htwin, hdistinct⟩ := he.exists_distinct
  have hcontact := htwin.mem_contacts hc
  refine ⟨_, htwin.outstanding c, fun htimes sink => ?_⟩
  intro lost e'
  have hlost : lost = t.overdue c := by
    show List.filter _ _ = List.filter _ _
    rw [htwin.config, htwin.now]
  have hlisted : ∀ b ∈ lost, b ∈ t.store.outstandingOf c := fun b hb => (List.mem_filter.mp hb).1
  have hafter := htwin.released c (lost.map OutstandingBatch.id)
  rw [htwin.now] at hnow
  have hrun := htwin.findLost hcontact hdistinct hnow htimes sink
  have hagain := htwin.findLost_again hcontact hdistinct hnow htimes
  rw [← hlost] at hrun hagain
  refine ⟨hrun, (t.store.pairwise_outstandingOf c).filter _, fun b hb => ?_, ?_, fun id => ?_,
    hagain⟩
  · exact hdistinct c b.id _ ((t.store.mem_outstandingOf_iff c b).mp (hlisted b hb)).2
  · rw [hafter.outstanding, Memory.outstandingOf_close_filter]
  · rw [hafter.status, htwin.status, Memory.delivery_close]
    simp only [true_and, Memory.covers_ids hlisted]
    cases t.store.delivery c id with
    | none => simp
    | some d =>
      simp only [Option.map_some, Except.ok.injEq, Option.some.injEq, exists_eq_left']
      split
      · next hid => simp only [Delivery.status_asLost, hid, and_true]
      · next hid => simp only [hid, and_false, or_false]

/-- Two batches with the same message are lost as soon as they are due. The message is counted for
the first of them. -/
theorem findLost_eq_relapse :
    let e := (Backend.relational.start {} 0).run (Sample.relapse ++ [.setClock 60000])
    let batch (n : UInt8) : OutstandingBatch :=
      ⟨Sample.contact, Sample.batch n, [Sample.message.id], 0⟩
    let store := Relational.close e.store Sample.contact .asLost [Sample.batch 2, Sample.batch 1]
    e.view (Store.outstandingBatches Sample.contact) = .ok [batch 2, batch 1] ∧
      (Engine.findLost Sample.contact).runOn e {} =
        (.ok [Sample.batch 2, Sample.batch 1], ⟨{ e with store },
          [.batchLost Sample.contact (Sample.batch 2) 1,
            .batchLost Sample.contact (Sample.batch 1) 0], {}⟩) ∧
      (Engine.findLost Sample.contact).runOn { e with store } {} =
        (.ok [], ⟨{ e with store }, [], {}⟩) := by
  intro e batch store
  have hc : e.view (Store.containsContact Sample.contact) = .ok true :=
    Sample.eq_ok_of_toOption (by decide +kernel)
  have hbatches : e.view (Store.outstandingBatches Sample.contact) = .ok [batch 2, batch 1] := by
    have hrows : ((e.store.outstanding.toList.filter fun x => x.1.contact = Sample.contact).map
        fun x => ⟨Sample.contact, x.1.item, e.store.batchMessages Sample.contact x.1.item, x.2⟩) =
          [batch 2, batch 1] := by decide +kernel
    -- both were sent at the same time, and their rows are in the order of their identifiers
    have hsorted : [batch 2, batch 1].Pairwise (OutstandingBatch.earlier · ·) := by decide +kernel
    show Except.ok (List.mergeSort _ OutstandingBatch.earlier) = _
    rw [hrows, List.mergeSort_of_pairwise hsorted]
  have hnow : 0 ≤ e.now ∧ e.now < Int64.maxValue := by decide +kernel
  obtain ⟨batches, hview, hfind⟩ := @findLost_eq .relational e Sample.contact
    ⟨{}, 0, Sample.relapse ++ [.setClock 60000], rfl⟩ hc hnow
  obtain rfl : [batch 2, batch 1] = batches := Except.ok.inj (hbatches.symm.trans hview)
  have hdue : [batch 2, batch 1].filter (·.overdue e.config e.now) = [batch 2, batch 1] := by
    decide +kernel
  have hreports : e.lossReports Sample.contact [batch 2, batch 1] =
      [.batchLost Sample.contact (Sample.batch 2) 1,
        .batchLost Sample.contact (Sample.batch 1) 0] := by decide +kernel
  obtain ⟨hrun, -, -, -, -, hagain⟩ := hfind (by decide +kernel) {}
  rw [hdue] at hrun hagain
  rw [hreports] at hrun
  exact ⟨hbatches, hrun, hagain {}⟩

end Backend

end MessageSync
