import MessageSync.Proofs.Engine.Outstanding
import MessageSync.Proofs.SenderView

/-!
# The life of a status

A message that a contact may see is new, sent or seen. It becomes sent when a batch with it is
recorded, and new again when such a batch is lost. It becomes seen when the contact shows that
it has it: in an ack, an offer or a batch. There it stays, as long as the contact may see it
(`Backend.status_step`).
-/

namespace MessageSync

/-! ## What moves a status -/

namespace Step

variable {σ : Type} [Store σ]

/-- Whether a step sends a batch with this message to a contact, and leaves it outstanding. -/
def Records (step : Step) (e : Engine σ) (c : ContactId) (id : MessageId) : Prop :=
  ∃ batches, (e.step step).view (Store.outstandingBatches c) = .ok batches ∧
    ∃ batch ∈ batches, id ∈ batch.messages ∧
      step.sent e = some (c, ⟨batch.id, batch.messages⟩)

/-- Whether a step is a search for the lost batches of a contact. -/
def Searches (c : ContactId) : Step → Prop
  | .perform (.findLost c') _ => c' = c
  | _ => False

/-- Whether a step is a search for lost batches that removes one with this message. -/
def Reclaims (step : Step) (e : Engine σ) (c : ContactId) (id : MessageId) : Prop :=
  step.Searches c ∧ ∃ before after, e.view (Store.outstandingBatches c) = .ok before ∧
    (e.step step).view (Store.outstandingBatches c) = .ok after ∧
    ∃ batch ∈ before, id ∈ batch.messages ∧ batch.id ∉ after.map OutstandingBatch.id

/-- Whether a contact offers a message in a step, or sends it. -/
def Tells (c : ContactId) (id : MessageId) : Step → Prop
  | .perform operation _ =>
    operation.Offers c id ∨ ∃ m, operation.Brings m (some c) ∧ m.id = id
  | _ => False

/-- Whether a contact shows in a step that it has a message: it acknowledges an outstanding
batch with it, offers it, or sends it. -/
def Shown (step : Step) (e : Engine σ) (c : ContactId) (id : MessageId) : Prop :=
  step.Removes e c id ∨ step.Tells c id

end Step

/-! ## Statuses under changes -/

namespace Memory

variable {s : Memory} {c : ContactId} {id : MessageId} {log : List Change}

/-- A status that no message can be shown with stays, goes, or turns to seen. -/
lemma status_changes_of_not_shows (hs : s.Consistent) (hlog : s.Allows log)
    (hkind : ∀ x ∈ log, ¬ x.Shows ∧ ¬ x.About c) (id : MessageId) :
    (s.changes log).status c id = s.status c id ∨ (s.changes log).status c id = none ∨
      (s.changes log).status c id = some .seen := by
  induction log generalizing s with
  | nil => exact .inl rfl
  | cons x rest ih =>
    obtain ⟨hshows, habout⟩ := hkind x List.mem_cons_self
    have hrest := ih (hs.change hlog.1) hlog.2 fun y hy => hkind y (List.mem_cons_of_mem x hy)
    have heffect := effect_change hs habout id
    rw [changes_cons]
    generalize (s.change x).status c id = next at heffect hrest
    generalize s.status c id = first at heffect ⊢
    cases heffect with
    | same => exact hrest
    | hidden _ _ => exact .inr (hrest.elim .inl fun h => h)
    | shown h => exact absurd h hshows
    | told _ _ => exact .inr (hrest.elim .inr fun h => h)

lemma status_acks (s : Memory) (c : ContactId) (id : MessageId) (ids : List BatchId) :
    (s.changes (ids.map (.ack c))).status c id = s.status c id ∨
      (s.changes (ids.map (.ack c))).status c id = (s.status c id).map fun _ => .seen := by
  induction ids generalizing s with
  | nil => exact .inl rfl
  | cons b rest ih =>
    have hrest := ih (s.change (.ack c b))
    rw [List.map_cons, changes_cons]
    cases hr : s.sentBatch c b with
    | none =>
      rw [change_ack_of_none hr] at hrest ⊢
      exact hrest
    | some r =>
      rw [status_ack hr] at hrest
      split at hrest
      · rw [Option.map_map] at hrest
        exact .inr (hrest.elim (fun h => h) fun h => h)
      · exact hrest

/-- The messages of an outstanding batch are seen once it is acknowledged. -/
lemma status_acks_of_mem {ids : List BatchId} {b : BatchId} (hb : b ∈ ids) {r : SentRecord}
    (hr : s.sentBatch c b = some r) (hid : id ∈ r.messages) :
    (s.changes (ids.map (.ack c))).status c id = (s.status c id).map fun _ => .seen := by
  induction ids generalizing s with
  | nil => cases hb
  | cons a rest ih =>
    rw [List.map_cons, changes_cons]
    by_cases heq : b = a
    · subst heq
      have hrest := (s.change (.ack c b)).status_acks c id rest
      rw [status_ack hr, if_pos hid, Option.map_map] at hrest
      exact hrest.elim (fun h => h) fun h => h
    · have hr' : (s.change (.ack c a)).sentBatch c b = some r := by
        rw [sentBatch_ack, if_neg heq, hr]
      rw [ih ((List.mem_cons.mp hb).resolve_left heq) hr']
      cases ha : s.sentBatch c a with
      | none => rw [change_ack_of_none ha]
      | some r' =>
        rw [status_ack ha]
        split
        · rw [Option.map_map]
          rfl
        · rfl

/-- Only what is sent can be lost. -/
lemma status_lose_of_ne (h : s.status c id ≠ some .sent) (b : BatchId) (cutoff : Int64) :
    (s.change (.lose c b cutoff)).status c id = s.status c id := by
  rcases s.lose_cases c b cutoff with ⟨r, hr, hat⟩ | hsame
  · rw [status_lose hr hat, if_neg fun hsent => h hsent.2]
  · rw [hsame]

lemma status_loses_of_ne (h : s.status c id ≠ some .sent) (ids : List BatchId) (cutoff : Int64) :
    (s.changes (ids.map (.lose c · cutoff))).status c id = s.status c id := by
  induction ids generalizing s with
  | nil => rfl
  | cons b rest ih =>
    have hfirst := status_lose_of_ne h b cutoff
    rw [List.map_cons, changes_cons, ih (hfirst ▸ h), hfirst]

/-- No batch becomes outstanding because others are lost. -/
lemma sentBatch_loses_of_none {b : BatchId} (h : s.sentBatch c b = none) (ids : List BatchId)
    (cutoff : Int64) : (s.changes (ids.map (.lose c · cutoff))).sentBatch c b = none :=
  sentBatch_loses (fun _ hr => by cases h.symm.trans hr) (.inr h)

/-- A message that is sent turns new if and only if one of the batches that are lost has it. -/
lemma status_loses (h : s.status c id = some .sent) (ids : List BatchId) (cutoff : Int64) :
    (s.changes (ids.map (.lose c · cutoff))).status c id = some .sent ∧
        (∀ b r, s.sentBatch c b = some r → id ∈ r.messages →
          (s.changes (ids.map (.lose c · cutoff))).sentBatch c b ≠ none) ∨
      (s.changes (ids.map (.lose c · cutoff))).status c id = some .new ∧
        ∃ b r, s.sentBatch c b = some r ∧ id ∈ r.messages ∧
          (s.changes (ids.map (.lose c · cutoff))).sentBatch c b = none := by
  induction ids generalizing s with
  | nil =>
    refine .inl ⟨h, fun b r hr _ hnone => ?_⟩
    cases hr.symm.trans hnone
  | cons a rest ih =>
    rw [List.map_cons, changes_cons]
    rcases s.lose_cases c a cutoff with ⟨r, hr, hat⟩ | hsame
    · have hstatus := status_lose hr hat id
      have hbatch := sentBatch_lose hr hat
      by_cases hid : id ∈ r.messages
      -- the message turns new here, and no other batch can be lost for it
      · rw [if_pos ⟨hid, h⟩] at hstatus
        have hgone : (s.change (.lose c a cutoff)).sentBatch c a = none := by
          rw [hbatch, if_pos rfl]
        refine .inr ⟨?_, a, r, hr, hid, sentBatch_loses_of_none hgone rest cutoff⟩
        rw [status_loses_of_ne (by rw [hstatus]; simp), hstatus]
      -- the lost batch is none of those with the message
      · rw [if_neg fun hboth => hid hboth.1] at hstatus
        have hother (b : BatchId) (r' : SentRecord) (hmem : id ∈ r'.messages) :
            s.sentBatch c b = some r' ↔ (s.change (.lose c a cutoff)).sentBatch c b = some r' := by
          rw [hbatch]
          split
          · next heq =>
            refine ⟨fun hb => ?_, fun hb => by cases hb⟩
            rw [heq, hr] at hb
            exact absurd ((Option.some.inj hb) ▸ hmem) hid
          · exact Iff.rfl
        rcases ih (hstatus.trans h) with ⟨hsent, hkept⟩ | ⟨hnew, b, r', hb, hmem, hgone⟩
        · exact .inl ⟨hsent, fun b r' hb hmem => hkept b r' ((hother b r' hmem).mp hb) hmem⟩
        · exact .inr ⟨hnew, b, r', (hother b r' hmem).mpr hb, hmem, hgone⟩
    · rw [hsame]
      exact ih h

end Memory

/-! ## Steps -/

namespace Engine

variable {e : Engine Memory} {c : ContactId} {id : MessageId}

/-- A step that is not about the batches of a contact keeps a status that it does not hide, or
turns it to seen. -/
lemma status_step_of_quiet (hs : e.store.Consistent) {step : Step}
    (hquiet : ∀ x ∈ step.log e, ¬ x.About c) {a b : Status} (ha : e.store.status c id = some a)
    (hb : (e.step step).store.status c id = some b) : b = a ∨ b = .seen := by
  have hlog := step.allows_log hs.keyed
  rw [Engine.store_step] at hb
  have hcases : (e.store.changes (step.log e)).status c id = e.store.status c id ∨
      (e.store.changes (step.log e)).status c id = some .seen := by
    rcases step.log_kind e with hkind | ⟨x, hx⟩ | hkind
    · rcases Memory.status_changes_of_not_shows hs hlog
        (fun x hx => ⟨hkind x hx, hquiet x hx⟩) id with hsame | hnone | hseen
      · exact .inl hsame
      · cases hb.symm.trans hnone
      · exact .inr hseen
    · have heffect := Memory.effect_change hs (hquiet x (hx ▸ List.mem_cons_self)) id
      rw [hx, Memory.changes_cons, Memory.changes_nil] at hb ⊢
      rw [ha, hb] at heffect ⊢
      cases heffect with
      | same => exact .inl rfl
      | told _ _ => exact .inr rfl
    · rcases Memory.status_changes_of_shows hs hlog hkind id with hsame | hseen | hnone
      · exact .inl hsame
      · exact .inr hseen
      · cases ha.symm.trans hnone
  rw [ha, hb] at hcases
  exact hcases.imp (fun h => Option.some.inj h) fun h => Option.some.inj h

/-- What a step can do to a status that is there before and after it. -/
lemma status_step_cases (hs : e.store.Consistent) (step : Step) {a b : Status}
    (ha : e.store.status c id = some a) (hb : (e.step step).store.status c id = some b) :
    b = a ∨ b = .seen ∨
      (a = .new ∧ b = .sent ∧ ∃ batch, step.sent e = some (c, batch) ∧ id ∈ batch.messages) ∨
      a = .sent ∧ b = .new ∧ step.Searches c ∧ ∃ b r, e.store.sentBatch c b = some r ∧
        id ∈ r.messages ∧ (e.step step).store.sentBatch c b = none := by
  have hlog := step.allows_log hs.keyed
  rw [Engine.store_step] at hb ⊢
  rcases step.log_about e c with hquiet | ⟨batch, hsent⟩ | ⟨ids, sink, -, hacks⟩ |
    ⟨sink, rfl, hlost⟩ | hgone
  · rw [← Engine.store_step] at hb
    rcases status_step_of_quiet hs hquiet ha hb with hsame | hseen
    · exact .inl hsame
    · exact .inr (.inl hseen)
  · rw [Step.log_of_sent hsent] at hb hlog
    rw [Memory.changes_cons, Memory.changes_nil, Memory.status_send hlog.1.2.2] at hb
    split at hb
    · next hid =>
      have hnew := (hlog.1.2.2 id hid).status
      rw [ha] at hnew
      exact .inr (.inr (.inl ⟨Option.some.inj hnew, (Option.some.inj hb).symm, batch, hsent, hid⟩))
    · rw [ha] at hb
      exact .inl (Option.some.inj hb).symm
  · rw [hacks] at hb
    rcases e.store.status_acks c id ids with hsame | hseen
    · rw [hsame, ha] at hb
      exact .inl (Option.some.inj hb).symm
    · rw [hseen, ha] at hb
      exact .inr (.inl (Option.some.inj hb).symm)
  · rw [hlost, logLost] at hb ⊢
    by_cases hsent : a = .sent
    · subst hsent
      rcases Memory.status_loses ha _ _ with ⟨hkept, -⟩ | ⟨hnew, hbatch⟩
      · rw [hkept] at hb
        exact .inl (Option.some.inj hb).symm
      · rw [hnew] at hb
        exact .inr (.inr (.inr ⟨rfl, (Option.some.inj hb).symm, rfl, hbatch⟩))
    · rw [Memory.status_loses_of_ne (by rw [ha]; simpa using hsent), ha] at hb
      exact .inl (Option.some.inj hb).symm
  · rw [hgone, Memory.changes_cons, Memory.changes_nil, Memory.status_removeContact] at hb
    cases hb

/-- The messages of a batch that a step sends are new before it and sent after it. -/
lemma status_of_sent (hs : e.store.Consistent) {step : Step} {batch : SentBatch}
    (hsent : step.sent e = some (c, batch)) (hid : id ∈ batch.messages) :
    e.store.status c id = some .new ∧ (e.step step).store.status c id = some .sent := by
  have hlog := step.allows_log hs.keyed
  rw [Engine.store_step]
  rw [Step.log_of_sent hsent] at hlog ⊢
  refine ⟨(hlog.1.2.2 id hid).status, ?_⟩
  rw [Memory.changes_cons, Memory.changes_nil, Memory.status_send hlog.1.2.2, if_pos hid]

/-- A search that removes a batch makes its messages new, if they are sent. -/
lemma status_of_searches (hs : e.store.Consistent) {step : Step} (hsearch : step.Searches c)
    (hsent : e.store.status c id = some .sent) {b : BatchId} {r : SentRecord}
    (hr : e.store.sentBatch c b = some r) (hid : id ∈ r.messages)
    (hgone : (e.step step).store.sentBatch c b = none) :
    (e.step step).store.status c id = some .new := by
  cases step with
  | setClock _ | setGate _ => cases hsearch
  | perform operation sink =>
    cases operation with
    | findLost c' =>
      obtain rfl : c' = c := hsearch
      rw [Engine.store_step, Step.log, Operation.log, Memory.about,
        if_pos (hs.owned c' b r hr), logLost] at hgone ⊢
      rcases Memory.status_loses hsent _ _ with ⟨-, hkept⟩ | ⟨hnew, -⟩
      · exact absurd hgone (hkept b r hr hid)
      · exact hnew
    | _ => cases hsearch

end Engine

lemma Step.tells_of_mem_log {step : Step} {e : Engine Memory} {x : Change} {c : ContactId}
    {id : MessageId} (hx : x ∈ step.log e) (htells : x.Tells c id) : step.Tells c id := by
  cases step with
  | setClock _ | setGate _ => cases hx
  | perform operation sink =>
    have hcauses := Operation.causes_of_mem_log hx
    cases x with
    | see c' id' =>
      obtain ⟨rfl, rfl⟩ := htells
      exact .inl hcauses
    | accept m sender =>
      obtain ⟨rfl, rfl⟩ := htells
      exact .inr ⟨m, hcauses, rfl⟩
    | _ => exact htells.elim

/-! ## Either store -/

namespace Backend

namespace Twin

variable {backend : Backend} {e : Engine backend.Data} {e' : Engine Memory} {c : ContactId}
  {id : MessageId}

lemma records_iff (h : backend.Twin e e') (step : Step) :
    step.Records e c id ↔ ∃ batch, step.sent e' = some (c, batch) ∧ id ∈ batch.messages := by
  unfold Step.Records
  rw [h.sent]
  constructor
  · rintro ⟨_, -, batch, -, hid, hsent⟩
    exact ⟨⟨batch.id, batch.messages⟩, hsent, hid⟩
  · rintro ⟨batch, hsent, hid⟩
    refine ⟨_, (h.step step).outstanding c, ⟨c, batch.id, batch.messages, e'.now⟩, ?_, hid, hsent⟩
    refine (Memory.mem_outstandingOf_iff _ c _).mpr ⟨rfl, ?_⟩
    rw [Engine.store_step, Step.log_of_sent hsent, Memory.changes_cons, Memory.changes_nil,
      Memory.sentBatch_send, if_pos rfl]

lemma reclaims_iff (h : backend.Twin e e') (step : Step) :
    step.Reclaims e c id ↔ step.Searches c ∧ ∃ b r, e'.store.sentBatch c b = some r ∧
      id ∈ r.messages ∧ (e'.step step).store.sentBatch c b = none := by
  unfold Step.Reclaims
  refine and_congr_right fun _ => ⟨?_, ?_⟩
  · rintro ⟨before, after, hbefore, hafter, batch, hbatch, hid, hgone⟩
    refine ⟨batch.id, _, ((h.mem_outstanding_iff hbefore batch).mp hbatch).2, hid, ?_⟩
    obtain rfl := Except.ok.inj (((h.step step).outstanding c).symm.trans hafter)
    rw [Memory.mem_ids_outstandingOf_iff] at hgone
    exact Option.not_isSome_iff_eq_none.mp hgone
  · rintro ⟨b, r, hr, hid, hgone⟩
    refine ⟨_, _, h.outstanding c, (h.step step).outstanding c, _, Memory.mem_outstandingOf hr,
      hid, ?_⟩
    rw [Memory.mem_ids_outstandingOf_iff, hgone]
    simp

end Twin

/-- Let a contact see a message before and after a step of an engine. The status of the message
is new before and sent after the step if and only if the step records a batch with it. A sent
message turns new if and only if the step is a search that removes an outstanding batch with
it. A message turns seen only if the contact shows that it has it, and stays seen then. -/
theorem status_step {backend : Backend} {e : Engine backend.Data} (he : backend.Reaches e)
    (step : Step) {c : ContactId} {id : MessageId} {d d' : Delivery}
    (hd : e.view (Store.status c id) = .ok (some d))
    (hd' : (e.step step).view (Store.status c id) = .ok (some d')) :
    (d.status = .new ∧ d'.status = .sent ↔ step.Records e c id) ∧
      (d.status = .sent → (d'.status = .new ↔ step.Reclaims e c id)) ∧
      (d'.status = .seen → d.status = .seen ∨ step.Shown e c id) ∧
      (d.status = .seen → d'.status = .seen) := by
  obtain ⟨t, htwin⟩ := Twin.of_reaches he
  have hs := htwin.consistent
  have hbefore : t.store.status c id = some d.status :=
    congrArg (Option.map Delivery.status) (Except.ok.inj ((htwin.status c id).symm.trans hd))
  have hafter : (t.step step).store.status c id = some d'.status :=
    congrArg (Option.map Delivery.status)
      (Except.ok.inj (((htwin.step step).status c id).symm.trans hd'))
  have hcases := Engine.status_step_cases hs step hbefore hafter
  refine ⟨?_, fun hsent => ?_, fun hseen => ?_, fun hseen => ?_⟩
  · rw [htwin.records_iff]
    refine ⟨fun ⟨hnew, hsent⟩ => ?_, fun ⟨batch, hbatch, hid⟩ => ?_⟩
    · rw [hnew, hsent] at hcases
      simpa using hcases
    · obtain ⟨hnew, hsent⟩ := Engine.status_of_sent hs hbatch hid
      exact ⟨Option.some.inj (hbefore.symm.trans hnew), Option.some.inj (hafter.symm.trans hsent)⟩
  · rw [htwin.reclaims_iff]
    refine ⟨fun hnew => ?_, fun ⟨hsearch, b, r, hr, hid, hgone⟩ => ?_⟩
    · rw [hsent, hnew] at hcases
      simpa using hcases
    · rw [hsent] at hbefore
      have hnew := Engine.status_of_searches hs hsearch hbefore hr hid hgone
      exact Option.some.inj (hafter.symm.trans hnew)
  · rw [hseen, Engine.store_step] at hafter
    rcases Memory.seen_of_changes hs (step.allows_log hs.keyed) hafter with
      hold | ⟨x, hx, htells⟩ | hacked
    · exact .inl (Option.some.inj (hbefore.symm.trans hold))
    · exact .inr (.inr (Step.tells_of_mem_log hx htells))
    · exact .inr (.inl ((htwin.removes_iff step id).mpr ((step.ackedIn_iff hs id).mp hacked)))
  · rw [hseen] at hcases
    simpa using hcases

/-- The contact asks for its new message: a batch with it is recorded. -/
theorem status_step_ask :
    let e := (Backend.memory.start {} 0).run Sample.opening
    ∃ d d', e.view (Store.status Sample.contact Sample.message.id) = .ok (some d) ∧
      (e.step (Sample.ask 1)).view (Store.status Sample.contact Sample.message.id) = .ok (some d') ∧
      d.status = .new ∧ d'.status = .sent ∧
      (Sample.ask 1).Records e Sample.contact Sample.message.id := by
  intro e
  have hd : e.view (Store.status Sample.contact Sample.message.id) = .ok (some ⟨.new, true⟩) :=
    Sample.eq_ok_of_toOption (by decide +kernel)
  have hd' : (e.step (Sample.ask 1)).view (Store.status Sample.contact Sample.message.id) =
      .ok (some ⟨.sent, true⟩) := Sample.eq_ok_of_toOption (by decide +kernel)
  have he : Backend.memory.Reaches e := ⟨{}, 0, Sample.opening, rfl⟩
  exact ⟨_, _, hd, hd', rfl, rfl, (status_step he (Sample.ask 1) hd hd').1.mp ⟨rfl, rfl⟩⟩

end Backend

end MessageSync
