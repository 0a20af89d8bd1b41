import MessageSync.Proofs.Engine.Race
import MessageSync.Proofs.Lifecycle

/-!
# Searches for lost batches in races

The candidates of a search are out of date as soon as they were collected: by the time that one
is tried it may have been acknowledged, found lost by another search, or gone with its contact.
A search that tries it nonetheless does nothing, so that what is reported lost was outstanding
until then, and is closed once (`Backend.race_run`).
-/

namespace MessageSync

/-- The batch for a contact that an event reports as lost. -/
def Event.lostTo (c : ContactId) : Event → Option BatchId
  | .batchLost c' b _ => if c' = c then some b else none
  | _ => none

/-- The batch that is lost. -/
def Milestone.lostBatch : Milestone → Option BatchId
  | lost b => some b
  | sent _ | acked _ _ => none

namespace Race

variable {σ : Type} [Store σ]

/-- The batches that moves in turn report as lost. -/
def lost (r : Race σ) (c : ContactId) (moves : List Move) : List BatchId :=
  (r.reports moves).filterMap (Event.lostTo c)

/-- The cutoff with which a move searches for lost batches of a contact. -/
def cutoff (r : Race σ) (c : ContactId) : Move → Option Int64
  | .perform (.perform (.findLost c') _) =>
    if c' = c then some (Engine.lossCutoff r.engine.config r.engine.now) else none
  | .lose i => (r.due i).bind fun (search, _) =>
    if search.contact = c then some search.cutoff else none
  | _ => none

/-- Whether a move takes note of an ack of an outstanding batch. -/
def Acks (r : Race σ) (c : ContactId) (b : BatchId) : Move → Prop
  | .perform step => step.Acks c b ∧ ∃ batches,
    r.engine.view (Store.outstandingBatches c) = .ok batches ∧ b ∈ batches.map OutstandingBatch.id
  | _ => False

/-- Whether a move takes note of an ack of an outstanding batch with this message. -/
def Confirms (r : Race σ) (c : ContactId) (id : MessageId) : Move → Prop
  | .perform step => step.Removes r.engine c id
  | _ => False

/-- Whether a move searches for lost batches and removes one, which was outstanding and was sent
early enough. -/
def Loses (r : Race σ) (c : ContactId) (b : BatchId) (m : Move) : Prop :=
  ∃ cutoff, r.cutoff c m = some cutoff ∧ ∃ before after,
    r.engine.view (Store.outstandingBatches c) = .ok before ∧
    (r.move m).engine.view (Store.outstandingBatches c) = .ok after ∧
    (∃ batch ∈ before, batch.id = b ∧ batch.sentAt ≤ cutoff) ∧
    b ∉ after.map OutstandingBatch.id

/-- Whether a contact may see a message before each of these moves, and after the last. -/
def Shows (r : Race σ) (c : ContactId) (id : MessageId) : List Move → Prop
  | [] => ∃ d, r.engine.view (Store.status c id) = .ok (some d)
  | m :: rest => (∃ d, r.engine.view (Store.status c id) = .ok (some d)) ∧
    (r.move m).Shows c id rest

lemma Shows.first {r : Race σ} {c : ContactId} {id : MessageId} {moves : List Move}
    (h : r.Shows c id moves) : ∃ d, r.engine.view (Store.status c id) = .ok (some d) := by
  cases moves with
  | nil => exact h
  | cons m rest => exact h.1

end Race

/-! ## What is lost -/

lemma Event.lostTo_eq (c : ContactId) (event : Event) :
    event.lostTo c = (event.milestone c).bind Milestone.lostBatch := by
  cases event with
  | batchSent c' b n | batchAcked c' b | batchLost c' b n =>
    by_cases hc : c' = c <;> simp [lostTo, milestone, Milestone.lostBatch, hc]
  | _ => rfl

lemma Event.filterMap_lostTo (c : ContactId) (events : List Event) :
    events.filterMap (lostTo c) =
      (events.filterMap (milestone c)).filterMap Milestone.lostBatch := by
  rw [List.filterMap_filterMap]
  exact congrArg (List.filterMap · events) (funext fun event => event.lostTo_eq c)

namespace Milestone

lemma lostBatch_eq_some_iff {m : Milestone} {b : BatchId} :
    m.lostBatch = some b ↔ m = .lost b := by
  cases m <;> simp [lostBatch]

lemma mem_lostBatch_reported {past : List Milestone} {b : BatchId} :
    b ∈ (past.filter reported).filterMap lostBatch ↔ .lost b ∈ past := by
  simp only [List.mem_filterMap, List.mem_filter, lostBatch_eq_some_iff]
  constructor
  · rintro ⟨m, ⟨hm, -⟩, rfl⟩
    exact hm
  · exact fun hm => ⟨_, ⟨hm, rfl⟩, rfl⟩

end Milestone

namespace Memory

variable {s : Memory} {c : ContactId} {past : List Milestone}

/-- No batch is lost twice if none is closed twice. -/
lemma Accounts.nodup_lost (h : s.Accounts c past) :
    ((past.filter Milestone.reported).filterMap Milestone.lostBatch).Nodup := by
  have hclosed := (List.pairwise_filterMap.mp h.closed).filter Milestone.reported
  refine List.pairwise_filterMap.mpr (hclosed.imp fun {m m'} hne b hb b' hb' => ?_)
  rw [Milestone.lostBatch_eq_some_iff] at hb hb'
  subst hb hb'
  exact hne b rfl b' rfl

/-- What is seen stays so when a batch of some contact is lost. -/
lemma seen_lose (hs : s.Consistent) {id : MessageId} (hseen : s.status c id = some .seen)
    {c' : ContactId} {b : BatchId} {cutoff : Int64} {status : Status}
    (hafter : (s.change (.lose c' b cutoff)).status c id = some status) : status = .seen := by
  by_cases hc : c' = c
  · rw [hc, status_lose_of_ne (by simp [hseen]), hseen] at hafter
    exact (Option.some.inj hafter).symm
  · have heffect := effect_change hs (x := .lose c' b cutoff) (c := c) hc id
    rw [hafter, hseen] at heffect
    cases heffect with
    | same | told _ _ => rfl

/-- Of batches that are searched in turn, those that are lost were outstanding until then. -/
lemma lost_mem_milestones_loses {b : BatchId} {cutoff : Int64} (ids : List BatchId)
    (h : .lost b ∈ s.milestones c (ids.map (.lose c · cutoff))) :
    (∃ r, s.sentBatch c b = some r ∧ r.sentAt ≤ cutoff) ∧
      (s.changes (ids.map (.lose c · cutoff))).sentBatch c b = none := by
  induction ids generalizing s with
  | nil => cases h
  | cons a rest ih =>
    rw [List.map_cons, milestones] at h
    rw [List.map_cons, changes_cons]
    rcases s.milestone_lose_cases c a cutoff with ⟨r, hr, hat⟩ | ⟨hnone, hsame⟩
    · have hbatch := sentBatch_lose hr hat
      rw [milestone_lose hr hat] at h
      rcases List.mem_cons.mp h with hfirst | hrest
      · obtain rfl := Milestone.lost.inj hfirst
        refine ⟨⟨r, hr, hat⟩, sentBatch_loses_of_none ?_ rest cutoff⟩
        rw [hbatch, if_pos rfl]
      · obtain ⟨⟨r', hr', hat'⟩, hgone⟩ := ih hrest
        rw [hbatch] at hr'
        exact ⟨⟨r', (Option.ite_none_left_eq_some.mp hr').2, hat'⟩, hgone⟩
    · rw [hnone] at h
      rw [hsame] at h ⊢
      exact ih h

end Memory

/-- What a step loses is what a search finds lost. -/
lemma Step.lost_mem_milestones {step : Step} {e : Engine Memory} {c : ContactId} {b : BatchId}
    (h : .lost b ∈ e.store.milestones c (step.log e)) :
    (∃ sink, step = .perform (.findLost c) sink) ∧
      (∃ r, e.store.sentBatch c b = some r ∧ r.sentAt ≤ Engine.lossCutoff e.config e.now) ∧
      (e.step step).store.sentBatch c b = none := by
  rw [Engine.store_step]
  rcases step.log_about e c with hquiet | ⟨batch, hsent⟩ | ⟨ids, sink, -, hacks⟩ |
    ⟨sink, rfl, hlost⟩ | hgone
  · rw [Memory.milestones_eq_nil fun x hx s => Memory.milestone_eq_none (hquiet x hx)] at h
    cases h
  · rw [Step.log_of_sent hsent, Memory.milestones_send] at h
    cases List.mem_singleton.mp h
  · rw [hacks] at h
    obtain ⟨cutoff, hmem⟩ := Memory.mem_log_of_lost h
    obtain ⟨_, -, heq⟩ := List.mem_map.mp hmem
    cases heq
  · rw [hlost, Engine.logLost] at h ⊢
    exact ⟨⟨sink, rfl⟩, Memory.lost_mem_milestones_loses _ h⟩
  · rw [hgone] at h
    cases h

namespace Race

variable {r : Race Memory} {c : ContactId} {b : BatchId} {id : MessageId}

/-- What a move loses is what the search that it is of finds lost. -/
lemma lost_mem_milestones {m : Move} (h : .lost b ∈ r.engine.store.milestones c (r.log m)) :
    ∃ cutoff, r.cutoff c m = some cutoff ∧
      (∃ record, r.engine.store.sentBatch c b = some record ∧ record.sentAt ≤ cutoff) ∧
      (r.move m).engine.store.sentBatch c b = none := by
  cases m with
  | perform step =>
    obtain ⟨⟨sink, rfl⟩, hbatch, hgone⟩ := Step.lost_mem_milestones h
    exact ⟨_, if_pos rfl, hbatch, hgone⟩
  | collect _ _ => cases h
  | lose i =>
    rw [store_move]
    simp only [cutoff, log] at h ⊢
    cases hdue : r.due i with
    | none =>
      rw [hdue] at h
      cases h
    | some due =>
      obtain ⟨search, a⟩ := due
      rw [hdue] at h
      obtain ⟨_, hmem⟩ := Memory.mem_log_of_lost h
      obtain ⟨hc, hone⟩ := Memory.mem_about hmem
      obtain ⟨rfl, rfl, -⟩ := Change.lose.inj (List.mem_singleton.mp hone)
      dsimp only at h ⊢
      rw [Memory.about, if_pos hc] at h ⊢
      exact ⟨_, if_pos rfl, Memory.lost_mem_milestones_loses [b] h⟩

/-! ## Seen messages -/

/-- What is seen stays so in a move, unless it is hidden. -/
lemma seen_move (hs : r.engine.store.Consistent) (m : Move)
    (hseen : r.engine.store.status c id = some .seen) {status : Status}
    (hafter : (r.move m).engine.store.status c id = some status) : status = .seen := by
  cases m with
  | perform step =>
    have hcases := Engine.status_step_cases hs step hseen hafter
    simpa using hcases
  | collect c' cutoff =>
    rw [store_move, log, Memory.changes_nil, hseen] at hafter
    exact (Option.some.inj hafter).symm
  | lose i =>
    rw [store_move] at hafter
    rcases r.log_lose i with hlog | ⟨c', b, cutoff, hlog⟩
    · rw [hlog, Memory.changes_nil, hseen] at hafter
      exact (Option.some.inj hafter).symm
    · rw [hlog, Memory.changes_cons, Memory.changes_nil] at hafter
      exact Memory.seen_lose hs hseen hafter

/-- An ack of a batch makes its messages seen. -/
lemma seen_of_acks (hs : r.engine.store.Consistent) {step : Step} {record : SentRecord}
    (hb : r.engine.store.sentBatch c b = some record) (hid : id ∈ record.messages)
    (hacks : step.Acks c b) {status : Status}
    (hafter : (r.engine.step step).store.status c id = some status) : status = .seen := by
  cases step with
  | setClock _ | setGate _ => cases hacks
  | perform operation sink =>
    cases operation with
    | receiveAck c' ids =>
      obtain ⟨rfl, hmem⟩ := hacks
      rw [Engine.store_step, Step.log, Operation.log, Memory.about,
        if_pos (hs.owned c' b record hb), Memory.status_acks_of_mem hmem hb hid] at hafter
      obtain ⟨_, -, heq⟩ := Option.map_eq_some_iff.mp hafter
      exact heq.symm
    | _ => cases hacks

end Race

/-! ## Either store -/

namespace Backend

/-- A race over an empty store, before any search. -/
def race (backend : Backend) (config : SyncConfig) (now : Int64) : Race backend.Data :=
  ⟨backend.start config now, []⟩

namespace RaceTwin

variable {backend : Backend} {r : Race backend.Data} {r' : Race Memory} {c : ContactId}
  {b : BatchId} {id : MessageId}

lemma status_eq (h : backend.RaceTwin r r') {d : Delivery}
    (hd : r.engine.view (Store.status c id) = .ok (some d)) :
    r'.engine.store.status c id = some d.status :=
  congrArg (Option.map Delivery.status) (Except.ok.inj ((h.engine.status c id).symm.trans hd))

lemma cutoff_eq (h : backend.RaceTwin r r') (c : ContactId) (m : Race.Move) :
    r.cutoff c m = r'.cutoff c m := by
  unfold Race.cutoff
  simp only [h.due, h.engine.config, h.engine.now]

/-- What is reported lost was outstanding. -/
lemma loses (h : backend.RaceTwin r r') {m : Race.Move}
    (hlost : .lost b ∈ r'.engine.store.milestones c (r'.log m)) : r.Loses c b m := by
  obtain ⟨cutoff, hcutoff, ⟨record, hrecord, hat⟩, hgone⟩ := Race.lost_mem_milestones hlost
  refine ⟨cutoff, (h.cutoff_eq c m).trans hcutoff, _, _, h.engine.outstanding c,
    (h.move m).1.engine.outstanding c, ⟨_, Memory.mem_outstandingOf hrecord, rfl, hat⟩, ?_⟩
  rw [Memory.mem_ids_outstandingOf_iff, hgone]
  simp

/-- An ack of an outstanding batch closes it. -/
lemma acked_of_acks (h : backend.RaceTwin r r') {m : Race.Move} (hacks : r.Acks c b m) :
    ∃ visible, .acked b visible ∈ r'.engine.store.milestones c (r'.log m) := by
  cases m with
  | perform step =>
    obtain ⟨hstep, batches, hview, hb⟩ := hacks
    obtain rfl := Except.ok.inj ((h.engine.outstanding c).symm.trans hview)
    rw [Memory.mem_ids_outstandingOf_iff] at hb
    obtain ⟨r, hr⟩ := Option.isSome_iff_exists.mp hb
    exact ⟨_, (step.acked_mem_milestones h.engine.consistent).mpr ⟨hstep, _, hr, rfl⟩⟩
  | _ => exact hacks.elim

/-- What is seen stays so as long as the contact may see it. -/
lemma seen_run (h : backend.RaceTwin r r') {moves : List Race.Move}
    (hshows : r.Shows c id moves) (hseen : r'.engine.store.status c id = some .seen) :
    ∃ d, (r.run moves).engine.view (Store.status c id) = .ok (some d) ∧ d.status = .seen := by
  induction moves generalizing r r' with
  | nil =>
    obtain ⟨d, hd⟩ := hshows
    exact ⟨d, hd, Option.some.inj ((h.status_eq hd).symm.trans hseen)⟩
  | cons m rest ih =>
    obtain ⟨d, hd⟩ := hshows.2.first
    have hafter := (h.move m).1.status_eq hd
    rw [Race.seen_move h.engine.consistent m hseen hafter] at hafter
    exact ih (h.move m).1 hshows.2 hafter

/-- The messages of a batch that is acknowledged are seen. -/
lemma seen_of_confirms (h : backend.RaceTwin r r') {m : Race.Move} (hconfirms : r.Confirms c id m)
    {moves : List Race.Move} (hshows : (r.move m).Shows c id moves) :
    ∃ d, ((r.move m).run moves).engine.view (Store.status c id) = .ok (some d) ∧
      d.status = .seen := by
  cases m with
  | perform step =>
    obtain ⟨b, record, hrecord, hid, hacks⟩ := (h.engine.removes_iff step id).mp hconfirms
    obtain ⟨d, hd⟩ := hshows.first
    have hafter := (h.move (.perform step)).1.status_eq hd
    rw [Race.seen_of_acks h.engine.consistent hrecord hid hacks hafter] at hafter
    exact (h.move (.perform step)).1.seen_run hshows hafter
  | _ => exact hconfirms.elim

end RaceTwin

/-- Let searches for lost batches race with each other and with all operations, and let no
identifier of a batch for a contact be used twice. No batch is reported lost twice, and none
is that an ack removed. What a move reports lost was outstanding right before it, sent no later
than the cutoff of the search, and is not outstanding after it. The messages of a batch that an
ack removes are seen from then on, as long as the contact may see them. -/
theorem race_run {backend : Backend} {config : SyncConfig} {now : Int64}
    {moves : List Race.Move} {c : ContactId}
    (hids : ((backend.race config now).batchesTo c moves).Nodup) :
    let start := backend.race config now
    (start.lost c moves).Nodup ∧
      ∀ done m rest, moves = done ++ m :: rest →
        let r := start.run done
        (∀ b, r.Acks c b m → b ∉ start.lost c moves) ∧
        (∀ b ∈ r.lost c [m], r.Loses c b m) ∧
        ∀ id, r.Confirms c id m → ∀ more, (r.move m).Shows c id more →
          ∃ d, ((r.move m).run more).engine.view (Store.status c id) = .ok (some d) ∧
            d.status = .seen := by
  intro start
  let start' : Race Memory := ⟨.start Memory.empty config now, []⟩
  have htwin : backend.RaceTwin start start' := ⟨Twin.start backend config now, rfl⟩
  rw [htwin.batchesTo] at hids
  have hempty : start'.engine.store.Accounts c [] := .empty c
  have hall : (start'.run moves).engine.store.Accounts c (start'.milestones c moves) :=
    Race.accounts_run .empty hempty hids
  have hlost (b : BatchId) : b ∈ start.lost c moves ↔ .lost b ∈ start'.milestones c moves := by
    rw [Race.lost, Event.filterMap_lostTo, htwin.filterMap_reports,
      Milestone.mem_lostBatch_reported]
  refine ⟨?_, ?_⟩
  · rw [Race.lost, Event.filterMap_lostTo, htwin.filterMap_reports]
    exact hall.nodup_lost
  rintro done m rest rfl r
  have hr : backend.RaceTwin r (start'.run done) := htwin.run done
  refine ⟨fun b hacks hmem => ?_, fun b hb => ?_, fun id hconfirms more hshows => ?_⟩
  -- a batch is closed by one milestone, so it is not both acknowledged and lost
  · obtain ⟨visible, hacked⟩ := hr.acked_of_acks hacks
    have hacked' : .acked b visible ∈ start'.milestones c (done ++ m :: rest) := by
      rw [Race.milestones_append]
      exact List.mem_append_right _ (List.mem_append_left _ hacked)
    cases hall.eq_of_closed hacked' ((hlost b).mp hmem) rfl rfl
  · rw [Race.lost, Event.filterMap_lostTo, hr.filterMap_reports,
      Milestone.mem_lostBatch_reported] at hb
    refine hr.loses ?_
    rwa [Race.milestones, Race.milestones, List.append_nil] at hb
  · exact hr.seen_of_confirms hconfirms hshows

end Backend

namespace Sample

/-- The contact asked for its message, and a search collected the batch as a candidate. -/
def collected : List Race.Move :=
  (opening ++ [ask 1]).map .perform ++ [.collect contact 1000]

/-- The batch is acknowledged before the search tries it. -/
def overtaken : List Race.Move :=
  collected ++ [.perform (.perform (.receiveAck contact [batch 1]) {}), .lose 0]

end Sample

namespace Backend

/-- A candidate that is acknowledged before it is tried is not reported lost, and its message
is seen. -/
theorem race_run_overtaken :
    let start := memory.race {} 0
    ((start.run Sample.collected).due 0).map Prod.snd = some (Sample.batch 1) ∧
      Sample.batch 1 ∉ start.lost Sample.contact Sample.overtaken ∧
      ∃ d, (start.run Sample.overtaken).engine.view
        (Store.status Sample.contact Sample.message.id) = .ok (some d) ∧ d.status = .seen := by
  intro start
  let e : Engine Memory := (start.run Sample.collected).engine
  have hids : (start.batchesTo Sample.contact Sample.overtaken).Nodup := by decide +kernel
  have hbatch : ((e.store.sentBatch Sample.contact (Sample.batch 1)).any
      fun r => r.messages = [Sample.message.id]) := by decide +kernel
  obtain ⟨r, hr, hmessages⟩ := (Option.any_eq_true _ _).mp hbatch
  have hlisted := Memory.mem_outstandingOf hr
  have hid : Sample.message.id ∈ r.messages := by
    rw [of_decide_eq_true hmessages]
    exact List.mem_singleton.mpr rfl
  have hacks : Step.Acks Sample.contact (Sample.batch 1)
      (.perform (.receiveAck Sample.contact [Sample.batch 1]) {}) :=
    ⟨rfl, List.mem_singleton.mpr rfl⟩
  have hview : e.view (Store.outstandingBatches Sample.contact) =
      .ok (e.store.outstandingOf Sample.contact) := rfl
  obtain ⟨hapart, -, hseen⟩ := (race_run hids).2 Sample.collected _ [.lose 0] rfl
  refine ⟨by decide +kernel, hapart _ ⟨hacks, _, hview, List.mem_map_of_mem hlisted⟩, ?_⟩
  rw [Sample.overtaken, Race.run_append, Race.run_cons]
  refine hseen _ ⟨_, hview, _, hlisted, hid, hacks⟩ [.lose 0]
    ⟨⟨⟨.seen, true⟩, ?_⟩, ⟨.seen, true⟩, ?_⟩
  · exact Sample.eq_ok_of_toOption (by decide +kernel)
  · exact Sample.eq_ok_of_toOption (by decide +kernel)

-- left alone, the search reports the batch
example : (memory.race {} 0).lost Sample.contact (Sample.collected ++ [.lose 0]) =
    [Sample.batch 1] := by decide +kernel

end Backend

end MessageSync
