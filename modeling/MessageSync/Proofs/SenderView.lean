import MessageSync.Proofs.OutstandingBatches
import MessageSync.Proofs.Store.Exact

/-!
# What a sender knows of a contact

While a contact shows nothing of what it has but by acks, and no messages are taken from its
sight, the rows of the contact tell exactly what was acknowledged: a message is seen if it
was in a batch that an ack removed, sent if it is in an outstanding batch, and new otherwise
(`Backend.sender_view_run`). Batches may be acknowledged in part, repeatedly, late or never,
and may be lost in between.
-/

namespace MessageSync

/-! ## Steps -/

/-- Whether an operation leaves alone what a contact has shown and may see: no new groups of
the contact are taken over, and no batch and no offer of it is received. -/
def Operation.Spares {σ : Type} [Store σ] (e : Engine σ) (sink : Sink) (c : ContactId) :
    {α : Type} → Operation α → Prop
  | _, .receiveSubscriptions c' update =>
    c' = c → ((Operation.receiveSubscriptions c' update).act.runOn e sink).1 ≠ .ok true
  | _, .receiveBatch c' _ | _, .receiveOffer c' _ => c' ≠ c
  | _, _ => True

namespace Step

variable {σ : Type} [Store σ]

/-- Whether a step leaves alone what a contact has shown, and deletes none of the messages
that the contact may see. -/
structure Spares (step : Step) (e : Engine σ) (c : ContactId) : Prop where
  operation : match step with
    | .perform operation sink => operation.Spares e sink c
    | _ => True
  messages : ∀ id d, e.view (Store.status c id) = .ok (some d) →
    (e.step step).view (Store.containsMessage id) = .ok true

/-- Whether a step removes an outstanding batch with this message because of an ack. -/
def Removes (step : Step) (e : Engine σ) (c : ContactId) (id : MessageId) : Prop :=
  ∃ batches, e.view (Store.outstandingBatches c) = .ok batches ∧
    ∃ batch ∈ batches, id ∈ batch.messages ∧ step.Acks c batch.id

end Step

namespace Engine

variable {σ : Type} [Store σ]

/-- Whether an ack removed a batch with this message in a history. -/
def Acked (e : Engine σ) (c : ContactId) (id : MessageId) : List Step → Prop
  | [] => False
  | step :: rest => step.Removes e c id ∨ (e.step step).Acked c id rest

/-- The identifiers of the batches that are sent to a contact in a history. -/
def batchesTo (e : Engine σ) (c : ContactId) : List Step → List BatchId
  | [] => []
  | step :: rest =>
    ((step.sent e).toList.filter fun s => s.1 = c).map (fun s => s.2.id) ++
      (e.step step).batchesTo c rest

end Engine

/-! ## Changes of a sparing step -/

namespace Memory

variable {s : Memory} {c : ContactId} {log : List Change}

lemma upholds_of_not_hides {x : Change} (htells : ∀ id, ¬ x.Tells c id) (hhides : ¬ x.Hides)
    (hsend : ∀ b messages sentAt, x ≠ .send c b messages sentAt) : s.Upholds c x where
  untold := htells
  kept h := absurd h hhides
  fresh b messages sentAt h := absurd h (hsend b messages sentAt)

/-- Changes that uphold exact statuses in every state do so in turn. -/
lemma upholdsAll_of_forall (h : ∀ x ∈ log, ∀ s : Memory, s.Upholds c x) : s.UpholdsAll c log := by
  induction log generalizing s with
  | nil => trivial
  | cons x rest ih =>
    exact ⟨h x List.mem_cons_self s, ih fun y hy => h y (List.mem_cons_of_mem x hy)⟩

/-- Messages that the contact does not see may be deleted. -/
lemma upholdsAll_forget {ids : List MessageId} (h : ∀ id ∈ ids, s.status c id = none) :
    s.UpholdsAll c (ids.map .forget) := by
  induction ids generalizing s with
  | nil => trivial
  | cons a rest ih =>
    have hstatus (id : MessageId) : (s.change (.forget a)).status c id = s.status c id := by
      show Option.map _ ((s.removeMessage a).delivery c id) = _
      rw [delivery_removeMessage]
      split
      · next heq => rw [← heq, h a List.mem_cons_self, Option.map_none]
      · rfl
    refine ⟨⟨fun _ => id, fun _ id hid => ?_, fun _ _ _ h => by cases h⟩, ih fun id hid => ?_⟩
    · rw [hstatus]
      exact hid
    · rw [hstatus]
      exact h id (List.mem_cons_of_mem a hid)

/-- New groups of another contact change nothing for this one. -/
lemma status_share_of_ne (hs : s.Keyed) {c' : ContactId} (hne : c' ≠ c) (groups : List Group)
    (timestamp : Int64) (id : MessageId) :
    (s.change (.share c' groups timestamp)).status c id = s.status c id := by
  rcases delivery_change_share hs c' groups timestamp with hrefused | hshared
  · rw [hrefused]
  · rw [status, hshared, if_neg (Ne.symm hne)]
    rfl

end Memory

namespace Step

variable {e : Engine Memory} {c : ContactId}

lemma upholds_unsubscribe {g : GroupId} {sink : Sink} (hs : e.store.Consistent)
    (h : (Step.perform (.unsubscribe g) sink).Spares e c) :
    e.store.Upholds c (.unsubscribe g e.now) where
  untold _ := id
  fresh _ _ _ h := by cases h
  kept := by
    intro _ id hid
    have hchange : e.store.change (.unsubscribe g e.now) = (e.store.removeSubscription g e.now).2 :=
      rfl
    by_cases hg : g ∈ e.store.subscriptions
    · -- the message is still there, so it is of another group
      obtain ⟨d, hd⟩ := Option.isSome_iff_exists.mp hid
      obtain ⟨d', hd', -⟩ := (e.store.status_eq_some_iff c id d).mp hd
      have hstored := h.messages id d' (congrArg Except.ok hd')
      have hmem : id ∈ (e.store.removeSubscription g e.now).2.messages := by
        have hstep : (e.step (.perform (.unsubscribe g) sink)).store =
            (e.store.removeSubscription g e.now).2 := Engine.store_step e _
        rw [← hstep]
        exact Std.ExtTreeMap.contains_iff_mem.mp (Except.ok.inj hstored)
      rw [Table.mem_iff_exists] at hmem
      obtain ⟨m, hm⟩ := hmem
      rw [Memory.messages_removeSubscription hs.keyed hg, Option.filter_eq_some_iff] at hm
      have hother : ¬ (e.store.messages[id]?).any (·.group = g) := by
        rw [hm.1]
        simpa using hm.2
      rw [hchange]
      unfold Memory.status
      rw [Memory.delivery_removeSubscription hs.keyed hg, if_neg hother]
      exact hid
    · rw [hchange, Memory.removeSubscription_of_not_mem hg]
      exact hid

lemma upholds_expire {wanted : Nat} {sink : Sink}
    (h : (Step.perform (.expire wanted) sink).Spares e c) :
    e.store.UpholdsAll c ((e.store.expiring wanted).map .forget) := by
  refine Memory.upholdsAll_forget fun id hid => ?_
  -- a message that the contact sees would still be stored after it was deleted
  by_contra hsome
  obtain ⟨d, hd⟩ := Option.ne_none_iff_exists'.mp hsome
  obtain ⟨d', hd', -⟩ := (e.store.status_eq_some_iff c id d).mp hd
  have hstored := Except.ok.inj (h.messages id d' (congrArg Except.ok hd'))
  rw [Std.ExtTreeMap.contains_iff_mem, Engine.store_step, Table.mem_iff_exists] at hstored
  obtain ⟨m, hm⟩ := hstored
  have hforget : e.store.changes ((e.store.expiring wanted).map .forget) =
      (e.store.expiring wanted).foldl Memory.removeMessage e.store := List.foldl_map
  change (e.store.changes ((e.store.expiring wanted).map .forget)).messages[id]? = some m at hm
  rw [hforget, Memory.messages_foldl_removeMessage, if_pos hid] at hm
  cases hm

lemma upholds_share {c' : ContactId} {update : SubscriptionUpdate} {sink : Sink}
    (hs : e.store.Consistent) (h : (Step.perform (.receiveSubscriptions c' update) sink).Spares e c)
    (hsize : ¬ Packet.mostGroups < update.groups.length) :
    e.store.Upholds c (.share c' update.groups update.timestamp) where
  untold _ := id
  fresh _ _ _ h := by cases h
  kept := by
    intro _ id hid
    by_cases hc : c' = c
    -- groups that are refused leave everything as it was
    · have hrefused := h.operation hc
      rw [Operation.act, Act.runOn, Engine.receiveSubscriptions_apply, if_neg hsize] at hrefused
      have hsame : e.store.change (.share c' update.groups update.timestamp) = e.store := by
        refine Memory.change_share_of_old fun r hr => ?_
        by_contra hat
        simp only [hr, if_neg hat] at hrefused
        exact absurd rfl hrefused
      rw [hsame]
      exact hid
    · rw [Memory.status_share_of_ne hs.keyed hc]
      exact hid

/-- The changes of a step that spares a contact uphold its exact statuses, if a batch that it
sends is no other one than those that are outstanding. -/
lemma upholds (step : Step) (hs : e.store.Consistent) (h : step.Spares e c)
    (hfresh : ∀ b messages, step.sent e = some (c, ⟨b, messages⟩) → e.store.sentBatch c b = none) :
    e.store.UpholdsAll c (step.log e) := by
  cases step with
  | setClock _ | setGate _ => trivial
  | perform operation sink =>
    -- nothing is shown by the contact
    have htells (x : Change) (hx : x ∈ operation.log e sink) (id : MessageId) :
        ¬ x.Tells c id := by
      intro htells
      have hcauses := Operation.causes_of_mem_log hx
      have hspares := h.operation
      cases x with
      | accept m sender =>
        obtain ⟨rfl, -⟩ := htells
        cases operation with
        | addLocal m' => cases hcauses.2
        | receiveBatch c' batch => exact hspares (Option.some.inj hcauses.2).symm
        | _ => exact hcauses
      | see c' id' =>
        obtain ⟨rfl, -⟩ := htells
        cases operation with
        | receiveOffer c'' offer => exact hspares hcauses.1
        | _ => exact hcauses
      | _ => exact htells
    rw [Step.log]
    by_cases hsend : ∃ b messages sentAt, .send c b messages sentAt ∈ operation.log e sink
    · obtain ⟨b, messages, sentAt, hmem⟩ := hsend
      have hcauses := Operation.causes_of_mem_log hmem
      rw [Operation.log_of_send hmem]
      refine ⟨⟨htells _ hmem, fun h => h.elim, fun b' messages' sentAt' heq => ?_⟩, trivial⟩
      obtain ⟨-, rfl, rfl, -⟩ := Change.send.inj heq
      exact hfresh b messages hcauses
    · have hquiet (hhides : ∀ x ∈ operation.log e sink, ¬ x.Hides) :
          e.store.UpholdsAll c (operation.log e sink) := by
        refine Memory.upholdsAll_of_forall fun x hx s => ?_
        apply Memory.upholds_of_not_hides (htells x hx) (hhides x hx)
        rintro b messages sentAt rfl
        exact hsend ⟨b, messages, sentAt, hx⟩
      cases operation with
      | unsubscribe g => exact ⟨upholds_unsubscribe hs h, trivial⟩
      | expire wanted => exact upholds_expire h
      | receiveSubscriptions c' update =>
        rw [Operation.log]
        split
        · trivial
        · next hsize => exact ⟨upholds_share hs h hsize, trivial⟩
      | _ =>
        refine hquiet fun x hx hhides => ?_
        have hcauses := Operation.causes_of_mem_log hx
        cases x with
        | unsubscribe _ _ | forget _ | share _ _ _ => exact hcauses
        | _ => exact hhides

end Step

/-! ## Histories -/

namespace Engine

variable {σ : Type} [Store σ]

lemma batchesTo_append (e : Engine σ) (c : ContactId) (done rest : List Step) :
    e.batchesTo c (done ++ rest) = e.batchesTo c done ++ (e.run done).batchesTo c rest := by
  induction done generalizing e with
  | nil => rfl
  | cons step steps ih =>
    rw [List.cons_append, batchesTo, batchesTo, ih, List.append_assoc]
    rfl

end Engine

namespace Backend.Twin

variable {backend : Backend} {e : Engine backend.Data} {e' : Engine Memory} {c : ContactId}

lemma spares (h : backend.Twin e e') {step : Step} (hspares : step.Spares e c) :
    step.Spares e' c where
  operation := by
    have hoperation := hspares.operation
    cases step with
    | setClock _ | setGate _ => trivial
    | perform operation sink =>
      cases operation with
      | receiveSubscriptions c' update =>
        intro hc
        rw [← (h.plain (.receiveSubscriptions c' update) rfl sink).1]
        exact hoperation hc
      | _ => exact hoperation
  messages := by
    intro id d hd
    have hview : e.view (Store.status c id) = .ok (some d) := (h.status c id).trans hd
    exact ((h.step step).containsMessage id).symm.trans (hspares.messages id d hview)

lemma removes_iff (h : backend.Twin e e') (step : Step) (id : MessageId) :
    step.Removes e c id ↔
      ∃ b r, e'.store.sentBatch c b = some r ∧ id ∈ r.messages ∧ step.Acks c b := by
  unfold Step.Removes
  rw [h.outstanding]
  constructor
  · rintro ⟨_, heq, batch, hbatch, hid, hacks⟩
    rw [← Except.ok.inj heq] at hbatch
    exact ⟨batch.id, _, ((e'.store.mem_outstandingOf_iff c batch).mp hbatch).2, hid, hacks⟩
  · rintro ⟨b, r, hr, hid, hacks⟩
    exact ⟨_, rfl, _, Memory.mem_outstandingOf hr, hid, hacks⟩

/-- The statuses of a contact stay exact while it is spared and no identifier of a batch is
used again. `used` has those that were. -/
lemma exact_run (h : backend.Twin e e') {acked : MessageId → Prop} {used : List BatchId}
    {history : List Step} (hexact : e'.store.Exact c acked)
    (hused : ∀ b r, e'.store.sentBatch c b = some r → b ∈ used)
    (hspares : e.Always (fun e step => step.Spares e c) history)
    (hids : (used ++ e.batchesTo c history).Nodup) :
    (e'.run history).store.Exact c fun id => acked id ∨ e.Acked c id history := by
  induction history generalizing e e' acked used with
  | nil => simpa only [Engine.Acked, or_false, Engine.run_nil] using hexact
  | cons step rest ih =>
    let sent := ((step.sent e).toList.filter fun s => s.1 = c).map fun s => s.2.id
    have hsent (b : BatchId) (messages : List MessageId)
        (hb : step.sent e' = some (c, ⟨b, messages⟩)) : b ∈ sent := by
      have hmem : (c, (⟨b, messages⟩ : SentBatch)) ∈ (step.sent e).toList.filter fun s => s.1 = c := by
        rw [h.sent, hb]
        simp
      exact List.mem_map_of_mem hmem
    have hids' : ((used ++ sent) ++ (e.step step).batchesTo c rest).Nodup := by
      rw [List.append_assoc]
      exact hids
    -- a batch of this step does not replace one that is outstanding
    have hup : e'.store.UpholdsAll c (step.log e') := by
      refine step.upholds h.consistent (h.spares hspares.1) fun b messages hb => ?_
      rw [Option.eq_none_iff_forall_ne_some]
      intro r hr
      have hdisjoint := (List.nodup_append.mp (List.nodup_append.mp hids').1).2.2
      exact hdisjoint b (hused b r hr) b (hsent b messages hb) rfl
    have hstep := hexact.changes h.consistent (step.allows_log h.consistent.keyed) hup
    rw [← Engine.store_step] at hstep
    have hnext := ih (h.step step) hstep (fun b r hr => ?_) hspares.2 hids'
    · have hremoves (id : MessageId) :
          e'.store.AckedIn c (step.log e') id ↔ step.Removes e c id :=
        (step.ackedIn_iff h.consistent id).trans (h.removes_iff step id).symm
      simpa only [hremoves, or_assoc, Engine.Acked, Engine.run_cons] using hnext
    · rcases step.sentBatch_of_step hr with hold | hb
      · exact List.mem_append_left _ (hused b r hold)
      · exact List.mem_append_right _ (hsent b _ hb)

end Backend.Twin

/-- Let a contact have no outstanding batch and only new messages, and let it be spared from
then on, with batches of distinct identifiers. At every point of such a history, a message
that the contact may see is seen if and only if an ack removed a batch with it, sent if and
only if it is in an outstanding batch, and new otherwise; and no two outstanding batches have
a message in common. -/
theorem Backend.sender_view_run {backend : Backend} {e : Engine backend.Data} {c : ContactId}
    {history done rest : List Step} (he : backend.Reaches e)
    (hnone : e.view (Store.outstandingBatches c) = .ok [])
    (hnew : ∀ id d, e.view (Store.status c id) = .ok (some d) → d.status = .new)
    (hspares : e.Always (fun e step => step.Spares e c) history)
    (hids : (e.batchesTo c history).Nodup) (hpoint : history = done ++ rest) :
    ∃ batches, (e.run done).view (Store.outstandingBatches c) = .ok batches ∧
      batches.Pairwise OutstandingBatch.Apart ∧
      ∀ id, ∃ row, (e.run done).view (Store.status c id) = .ok row ∧ ∀ d, row = some d →
        (d.status = .seen ↔ e.Acked c id done) ∧
        (d.status = .sent ↔ ∃ batch ∈ batches, id ∈ batch.messages) ∧
        (d.status = .new ↔ ¬ e.Acked c id done ∧ ¬ ∃ batch ∈ batches, id ∈ batch.messages) := by
  subst hpoint
  obtain ⟨e', htwin⟩ := Twin.of_reaches he
  -- at the start the statuses are exact, with nothing acknowledged
  have hnothing (b : BatchId) (r : SentRecord) : e'.store.sentBatch c b ≠ some r := by
    intro hr
    have hmem : (⟨c, b, r.messages, r.sentAt⟩ : OutstandingBatch) ∈ e'.store.outstandingOf c :=
      (e'.store.mem_outstandingOf_iff c _).mpr ⟨rfl, hr⟩
    rw [Except.ok.inj ((htwin.outstanding c).symm.trans hnone)] at hmem
    cases hmem
  have hstart (id : MessageId) (status : Status) (h : e'.store.status c id = some status) :
      status = .new := by
    obtain ⟨d, hd, rfl⟩ := (e'.store.status_eq_some_iff c id status).mp h
    exact hnew id d ((htwin.status c id).trans (congrArg Except.ok hd))
  have hexact : e'.store.Exact c fun _ => False := by
    constructor
    · intro b b' r r' id hr
      exact absurd hr (hnothing b r)
    · intro id
      constructor
      · intro hsent
        cases hstart id .sent hsent
      · rintro ⟨b, r, hr, -⟩
        exact absurd hr (hnothing b r)
    · intro id hseen
      cases hstart id .seen hseen
    · exact fun id h => h.elim
  rw [Engine.batchesTo_append] at hids
  have hids' : ([] ++ e.batchesTo c done).Nodup := (List.nodup_append.mp hids).1
  have hrun := htwin.exact_run hexact (fun b r hr => absurd hr (hnothing b r)) hspares.left hids'
  have hend := htwin.run done
  refine ⟨_, hend.outstanding c, (Memory.pairwise_apart_iff _ c).mpr hrun.disjoint, fun id => ?_⟩
  refine ⟨_, hend.status c id, fun d hd => ?_⟩
  have hstatus (status : Status) : d.status = status ↔
      (e'.run done).store.status c id = some status := by
    rw [Memory.status, hd, Option.map_some, Option.some.injEq]
  have hseen : d.status = .seen ↔ e.Acked c id done := by
    rw [hstatus]
    constructor
    · intro h
      exact (hrun.acked_of_seen id h).resolve_left not_false
    · intro h
      refine (hrun.seen_of_acked id (.inr h)).resolve_right fun hgone => ?_
      exact hgone.1 (hend.consistent.mem_contacts hd)
  have hsent : d.status = .sent ↔ ∃ batch ∈ (e'.run done).store.outstandingOf c,
      id ∈ batch.messages := by
    rw [hstatus, ← Memory.outgoing_iff]
    exact hrun.sent id
  refine ⟨hseen, hsent, ?_⟩
  rw [← hseen, ← hsent]
  cases d.status <;> simp

namespace Sample

/-- The contact asks for the message and acknowledges it. -/
def exchange : List Step := [ask 1, .perform (.receiveAck contact [batch 1]) {}]

/-- What holds of all rows of a store in memory holds of those of a contact. -/
lemma forall_status {e : Engine Memory} {P : MessageId → Delivery → Prop}
    (h : ∀ x ∈ e.store.deliveries.toList, P x.1.item x.2) (c : ContactId) (id : MessageId)
    (d : Delivery) (hd : e.view (Store.status c id) = .ok (some d)) : P id d :=
  h (⟨c, id⟩, d) ((Table.mem_toList_iff _ _).mpr (Except.ok.inj hd))

/-- A store in memory without records has none of a contact. -/
lemma outstandingOf_eq_nil {s : Memory} (h : s.outstanding.toList.length = 0) (c : ContactId) :
    s.outstandingOf c = [] := by
  rw [Memory.outstandingOf, List.eq_nil_of_length_eq_zero h, List.filterMap_nil,
    List.mergeSort_nil]

lemma outstandingOf_opening :
    ((Engine.start Memory.empty {} 0).run opening).store.outstandingOf contact = [] :=
  outstandingOf_eq_nil (by decide +kernel) contact

end Sample

/-- A contact that has one new message, asks for it and acknowledges it. -/
theorem Backend.sender_view_exchange :
    let e := (Backend.memory.start {} 0).run Sample.opening
    ∃ batches, (e.run Sample.exchange).view (Store.outstandingBatches Sample.contact) = .ok batches ∧
      batches.Pairwise OutstandingBatch.Apart ∧
      ∀ id, ∃ row, (e.run Sample.exchange).view (Store.status Sample.contact id) = .ok row ∧
        ∀ d, row = some d →
        (d.status = .seen ↔ e.Acked Sample.contact id Sample.exchange) ∧
        (d.status = .sent ↔ ∃ batch ∈ batches, id ∈ batch.messages) ∧
        (d.status = .new ↔ ¬ e.Acked Sample.contact id Sample.exchange ∧
          ¬ ∃ batch ∈ batches, id ∈ batch.messages) := by
  intro e
  -- nothing is ever deleted here
  have hkept (e' : Engine Memory) (step : Step) (h : ∀ x ∈ e'.store.deliveries.toList,
      (e'.step step).store.messages.contains x.1.item) (id : MessageId) (d : Delivery)
      (hd : e'.view (Store.status Sample.contact id) = .ok (some d)) :
      (e'.step step).view (Store.containsMessage id) = .ok true := by
    have hstored : (e'.step step).store.messages.contains id :=
      Sample.forall_status (P := fun id _ => (e'.step step).store.messages.contains id) h _ id d hd
    exact congrArg Except.ok hstored
  refine @Backend.sender_view_run .memory e Sample.contact Sample.exchange Sample.exchange []
    ⟨{}, 0, Sample.opening, rfl⟩ (congrArg Except.ok Sample.outstandingOf_opening) ?_ ?_ ?_
    (List.append_nil _).symm
  · exact Sample.forall_status (by decide +kernel) _
  · refine ⟨⟨trivial, hkept _ _ ?_⟩, ⟨trivial, hkept _ _ ?_⟩, trivial⟩
    · decide +kernel
    · decide +kernel
  · decide +kernel

end MessageSync
