import MessageSync.Proofs.Engine.Outstanding
import MessageSync.Proofs.Store.Milestones

/-!
# What is reported of batches

Operations are put together from pieces that only report events of a kind (`Act.Reports`), and
each has its own kind (`Operation.MayReport`). Few of them report anything of the batches of a
contact (`Operation.HandlesBatches`). Over a store in memory the reports of a step are read off
its changes: they announce all milestones but the acks of batches of which the contact can see
no message (`Step.announced_eq`).
-/

namespace MessageSync

/-! ## Events that operations may report -/

namespace Act

variable {σ α β : Type} {P : Event → Prop}

/-- An operation that only reports events of a kind. -/
def Reports (P : Event → Prop) (x : Act σ α) : Prop :=
  ∀ t, ∃ events, (x t).2.events = t.events ++ events ∧ ∀ event ∈ events, P event

/-- Nothing is reported. -/
lemma reports_of_eq {x : Act σ α} (h : ∀ t, (x t).2.events = t.events) : Reports P x :=
  fun t => ⟨[], (h t).trans (List.append_nil _).symm, fun _ h => (List.not_mem_nil h).elim⟩

lemma Reports.mono {Q : Event → Prop} {x : Act σ α} (h : Reports P x)
    (hPQ : ∀ event, P event → Q event) : Reports Q x := by
  intro t
  obtain ⟨events, hevents, hP⟩ := h t
  exact ⟨events, hevents, fun event hmem => hPQ event (hP event hmem)⟩

lemma reports_pure (a : α) : Reports P (pure a : Act σ α) := reports_of_eq fun _ => rfl

lemma reports_throw (e : SyncError) : Reports P (throw e : Act σ α) := reports_of_eq fun _ => rfl

lemma reports_transaction (body : Txn σ α) : Reports P (transaction body) := by
  refine reports_of_eq fun t => ?_
  unfold transaction
  rcases body (t.engine.store, t.sink) with ⟨_ | _, _⟩ <;> rfl

lemma reports_send (packet : Packet) : Reports P (Act.send packet : Act σ Unit) := by
  refine reports_of_eq fun t => ?_
  unfold Act.send
  rcases t.sink.send packet with ⟨_ | _, _⟩ <;> rfl

lemma reports_emit {event : Event} (h : P event) : Reports P (emit event : Act σ Unit) :=
  fun _ => ⟨[event], rfl, fun _ hmem => List.mem_singleton.mp hmem ▸ h⟩

lemma reports_bind {x : Act σ α} {f : α → Act σ β} (h : Reports P x) (hf : ∀ a, Reports P (f a)) :
    Reports P (x >>= f) := by
  intro t
  obtain ⟨events, hevents, hP⟩ := h t
  rw [bind_apply]
  rcases heq : x t with ⟨e | a, t'⟩
  · rw [heq] at hevents
    exact ⟨events, hevents, hP⟩
  · rw [heq] at hevents
    obtain ⟨more, hmore, hP'⟩ := hf a t'
    refine ⟨events ++ more, ?_, fun event hmem => ?_⟩
    · rw [hmore, hevents, List.append_assoc]
    · exact (List.mem_append.mp hmem).elim (hP event) (hP' event)

lemma reports_emitIf {p : Prop} [Decidable p] {event : Event} (h : P event) (a : α) :
    Reports P (if p then emit event >>= fun _ => pure a else pure a : Act σ α) := by
  split
  · exact reports_bind (reports_emit h) fun _ => reports_pure a
  · exact reports_pure a

lemma reports_throughGate {x : Act σ α} (h : Reports P x) : Reports P (throughGate x) := by
  intro t
  rw [throughGate_apply]
  cases t.engine.gate with
  | paused => exact reports_pure () t
  | closed => exact reports_pure () t
  | opened => exact h t

lemma reports_inOfferRound [Store σ] {c : ContactId} {x : Act σ α} (h : Reports P x) :
    Reports P (Engine.inOfferRound c x) := by
  intro t
  unfold Engine.inOfferRound
  dsimp only
  split
  · exact reports_pure () t
  · exact h { t with engine := { t.engine with openOffers := t.engine.openOffers.insert c () } }

lemma reports_emitAll {events : List Event} (h : ∀ event ∈ events, P event) :
    Reports P (Engine.emitAll events : Act σ Unit) := by
  intro t
  rw [emitAll_apply]
  exact ⟨events, rfl, h⟩

end Act

/-! ## Reports of batches -/

/-- The milestone of a batch for a contact that an event announces. -/
def Event.milestone (c : ContactId) : Event → Option Milestone
  | .batchSent c' b _ => if c' = c then some (.sent b) else none
  | .batchAcked c' b => if c' = c then some (.acked b true) else none
  | .batchLost c' b _ => if c' = c then some (.lost b) else none
  | _ => none

/-- Whether an operation sends a batch to a contact, or closes some. -/
def Operation.HandlesBatches (c : ContactId) : {α : Type} → Operation α → Prop
  | _, .generateBatch c' _ _ | _, .generateBatchFrom c' _ _ _ | _, .receiveRequest c' _ _ _ _
  | _, .receiveAck c' _ | _, .findLost c' => c' = c
  | _, _ => False

/-! ## What each operation may report -/

/-- The events that an operation may report. -/
def Operation.MayReport : {α : Type} → Operation α → Event → Prop
  | _, .addContact _, event => ∃ c, event = .contactAdded c
  | _, .removeContact c, event => event = .contactRemoved c
  | _, .subscribe _, event | _, .unsubscribe _, event => event = .localSubscriptionsUpdated
  | _, .setRating a r, event => event = .ratingChanged a r
  | _, .addLocal _, event => ∃ n, event = .messagesAdded none n
  | _, .receiveBatch c _, event => ∃ n, event = .messagesAdded (some c) n
  | _, .expire _, event => ∃ count bytes, event = .messagesExpired count bytes
  | _, .generateBatch c _ _, event | _, .generateBatchFrom c _ _ _, event =>
    ∃ b n, event = .batchSent c b n
  | _, .receiveRequest c _ _ _ _, event =>
    (∃ n, event = .messagesRequested c n) ∨ ∃ b n, event = .batchSent c b n
  | _, .receiveAck c _, event => ∃ b, event = .batchAcked c b
  | _, .findLost c, event => ∃ b n, event = .batchLost c b n
  | _, .receiveSubscriptions c _, event => event = .subscriptionsUpdated c
  | _, .receiveTransports c _, event => event = .transportsUpdated c
  | _, .setLocalTransports _, event => event = .localTransportsUpdated
  | _, _, _ => False

namespace Engine

variable {σ : Type}

lemma reports_reportSent (c : ContactId) (batch : SentBatch) :
    Act.Reports (fun event => ∃ b n, event = .batchSent c b n) (reportSent c batch : Act σ Unit) := by
  unfold reportSent
  split
  · exact Act.reports_emit ⟨_, _, rfl⟩
  · exact Act.reports_pure ()

variable [Store σ]

lemma reports_generateBatchFrom (c : ContactId) (writer : BatchWriter) (nonce : Nonce)
    (requested : List MessageId) : Act.Reports (fun event => ∃ b n, event = .batchSent c b n)
      (generateBatchFrom c writer nonce requested : Act σ SentBatch) := by
  open Act in
  refine reports_bind (reports_of_eq fun _ => rfl) fun now => ?_
  refine reports_bind (reports_transaction _) fun batch => ?_
  exact reports_bind (reports_reportSent c batch) fun _ => reports_pure batch

lemma reports_loseBatch (c : ContactId) (cutoff : Int64) (b : BatchId) :
    Act.Reports (fun event => ∃ b n, event = .batchLost c b n)
      (loseBatch c cutoff b : Act σ Bool) := by
  open Act in
  refine reports_bind (reports_transaction _) fun lost => ?_
  cases lost with
  | none => exact reports_pure false
  | some messages => exact reports_bind (reports_emit ⟨_, _, rfl⟩) fun _ => reports_pure true

lemma reports_loseAll (c : ContactId) (cutoff : Int64) (ids : List BatchId) :
    Act.Reports (fun event => ∃ b n, event = .batchLost c b n)
      (loseAll c cutoff (pure ()) ids : Act σ (List BatchId)) := by
  open Act in
  induction ids with
  | nil => exact reports_pure []
  | cons b rest ih =>
    refine reports_bind (reports_loseBatch c cutoff b) fun lost => ?_
    cases lost with
    | false => exact ih
    | true =>
      exact reports_bind (reports_pure ()) fun _ => reports_bind ih fun _ => reports_pure _

end Engine

/-- An operation reports nothing but what it may report. -/
theorem Operation.reports {σ α : Type} [Store σ] (operation : Operation α) :
    Act.Reports operation.MayReport (operation.act : Act σ α) := by
  open Act in
  cases operation with
  | addContact transports =>
    refine reports_bind (reports_transaction _) fun c => ?_
    exact reports_bind (reports_emit ⟨c, rfl⟩) fun _ => reports_pure c
  | removeContact c =>
    exact reports_bind (reports_transaction _) fun _ => reports_emit rfl
  | subscribe g | unsubscribe g =>
    refine reports_bind (reports_of_eq fun _ => rfl) fun now => ?_
    exact reports_bind (reports_transaction _) fun changed => reports_emitIf (by rfl) _
  | setRating a r =>
    exact reports_bind (reports_transaction _) fun old => reports_emitIf (by rfl) _
  | addLocal m | receiveBatch c batch =>
    refine reports_throughGate (reports_bind (reports_transaction _) fun stored => ?_)
    exact reports_emitIf ⟨_, rfl⟩ _
  | expire wanted =>
    exact reports_bind (reports_transaction _) fun expired => reports_emitIf ⟨_, _, rfl⟩ _
  | generateAck c writer | generateOffer c writer =>
    exact reports_bind (reports_of_eq fun _ => rfl) fun config => reports_transaction _
  | receiveOffer c offer =>
    refine reports_bind (reports_inOfferRound ?_) fun answer => reports_pure _
    refine reports_bind (reports_transaction _) fun flags => ?_
    refine reports_bind (reports_pure ()) fun _ => ?_
    exact reports_bind (reports_send _) fun _ => reports_pure _
  | receiveSubscriptions c update =>
    show Reports _ (Engine.receiveSubscriptions c update)
    unfold Engine.receiveSubscriptions
    split
    · exact reports_throw _
    · exact reports_bind (reports_transaction _) fun applied => reports_emitIf (by rfl) _
  | receiveTransports c update =>
    show Reports _ (Engine.receiveTransports c update)
    unfold Engine.receiveTransports
    split
    · exact reports_throw _
    · exact reports_bind (reports_transaction _) fun applied => reports_emitIf (by rfl) _
  | setLocalTransports transports =>
    refine reports_bind (reports_of_eq fun _ => rfl) fun now => ?_
    exact reports_bind (reports_transaction _) fun _ => reports_emit rfl
  | localTransports => exact reports_bind (reports_transaction _) fun found => reports_pure _
  | generateBatch c writer nonce =>
    refine reports_bind ?_ fun batch => reports_pure batch.recorded?
    refine reports_bind (reports_of_eq fun _ => rfl) fun now => ?_
    refine reports_bind (reports_transaction _) fun batch => ?_
    exact reports_bind (Engine.reports_reportSent c batch) fun _ => reports_pure batch
  | generateBatchFrom c writer nonce requested =>
    exact Engine.reports_generateBatchFrom c writer nonce requested
  | receiveRequest c offer request writer nonce =>
    show Reports _ (Engine.receiveRequest c offer request writer nonce)
    unfold Engine.receiveRequest
    split
    · exact reports_throw _
    · refine reports_bind (reports_emit (.inl ⟨_, rfl⟩)) fun _ => ?_
      exact (Engine.reports_generateBatchFrom c writer nonce _).mono fun _ h => .inr h
  | receiveAck c ids =>
    refine reports_bind (reports_transaction _) fun acked => reports_emitAll fun event hmem => ?_
    obtain ⟨b, -, rfl⟩ := List.mem_map.mp hmem
    exact ⟨b, rfl⟩
  | findLost c =>
    refine reports_bind (reports_of_eq fun _ => rfl) fun config => ?_
    refine reports_bind (reports_of_eq fun _ => rfl) fun now => ?_
    exact reports_bind (reports_transaction _) fun ids => Engine.reports_loseAll c _ ids
  | contacts | subscriptions | rating a | storedBytes | generateSubscriptions c
  | generateTransports c | contactSubscriptions c | contactTransports c | addSecrets xs | secrets
  | rotateSecret key period bytes | removeSecretsBefore c t period | nextOutgoing key
  | acceptIncoming key n | unseenConnections key => exact reports_transaction _

/-- Other operations may not report milestones. -/
lemma Operation.milestone_eq_none {α : Type} {operation : Operation α} {c : ContactId}
    (h : ¬ operation.HandlesBatches c) {event : Event} (hevent : operation.MayReport event) :
    event.milestone c = none := by
  cases operation with
  | addContact _ | addLocal _ | receiveBatch _ _ =>
    obtain ⟨_, rfl⟩ := hevent
    rfl
  | expire _ =>
    obtain ⟨_, _, rfl⟩ := hevent
    rfl
  | removeContact _ | subscribe _ | unsubscribe _ | setRating _ _ | receiveSubscriptions _ _
  | receiveTransports _ _ | setLocalTransports _ =>
    cases hevent
    rfl
  | generateBatch _ _ _ | generateBatchFrom _ _ _ _ | findLost _ =>
    obtain ⟨_, _, rfl⟩ := hevent
    exact if_neg h
  | receiveAck _ _ =>
    obtain ⟨_, rfl⟩ := hevent
    exact if_neg h
  | receiveRequest _ _ _ _ _ =>
    obtain ⟨_, rfl⟩ | ⟨_, _, rfl⟩ := hevent
    · rfl
    · exact if_neg h
  | _ => exact hevent.elim

/-- Other operations announce no milestone. -/
lemma Operation.filterMap_events_eq_nil {σ α : Type} [Store σ] {operation : Operation α}
    {c : ContactId} (h : ¬ operation.HandlesBatches c) (e : Engine σ) (sink : Sink) :
    (operation.act.runOn e sink).2.events.filterMap (Event.milestone c) = [] := by
  obtain ⟨events, hevents, hmay⟩ := operation.reports ⟨e, [], sink⟩
  rw [Act.runOn, hevents, List.filterMap_eq_nil_iff]
  exact fun event hmem => milestone_eq_none h (hmay event hmem)

/-! ## Reports over a store in memory -/

namespace Memory

variable {s : Memory} {c : ContactId}

lemma milestones_send (s : Memory) (c : ContactId) (b : BatchId) (messages : List MessageId)
    (sentAt : Int64) : s.milestones c [.send c b messages sentAt] = [.sent b] := by
  rw [milestones, milestone, if_pos rfl]
  rfl

/-- An ack lists no message if the contact sees none of them. -/
lemma isEmpty_removeAckedBatch {b : BatchId} {r : SentRecord} (hr : s.sentBatch c b = some r) :
    (s.removeAckedBatch c b).1.isEmpty = !s.shows c r := by
  have hvisible (id : MessageId) :
      s.deliveries.contains (⟨c, id⟩ : ContactKey MessageId) = (s.delivery c id).isSome :=
    Std.ExtTreeMap.contains_eq_isSome_getElem?
  rw [removeAckedBatch_of_some hr, Bool.eq_iff_iff]
  simp [shows, hvisible]

/-- Acks are reported that find their batch outstanding, and one of its messages visible. -/
lemma filter_milestones_acks (s : Memory) (c : ContactId) (ids : List BatchId) :
    (s.milestones c (ids.map (.ack c))).filter Milestone.reported =
      (s.ackedAmong c ids).map (Milestone.acked · true) := by
  induction ids generalizing s with
  | nil => rfl
  | cons b rest ih =>
    have hrest := ih (s.removeAckedBatch c b).2
    rw [List.map_cons, milestones, List.filter_append, change, hrest, milestone_ack, ackedAmong]
    cases hr : s.sentBatch c b with
    | none =>
      rw [removeAckedBatch_of_none hr]
      rfl
    | some r =>
      rw [isEmpty_removeAckedBatch hr, Option.map_some]
      cases s.shows c r <;> rfl

/-- Every batch that is lost is reported. -/
lemma filter_milestones_loses (s : Memory) (c : ContactId) (cutoff : Int64) (ids : List BatchId) :
    (s.milestones c (ids.map (.lose c · cutoff))).filter Milestone.reported =
      (s.lostAmong c cutoff ids).map fun e => .lost e.1 := by
  induction ids generalizing s with
  | nil => rfl
  | cons b rest ih =>
    have hrest := ih (s.removeLostBatch c b cutoff).2
    rw [List.map_cons, milestones, List.filter_append, change, hrest, lostAmong]
    cases hr : s.sentBatch c b with
    | none =>
      rw [removeLostBatch_of_none hr, milestone_lose_of_not fun r hr' => by cases hr.symm.trans hr']
      rfl
    | some r =>
      by_cases hat : r.sentAt ≤ cutoff
      · rw [removeLostBatch_of_le hr hat, milestone_lose hr hat]
        rfl
      · rw [removeLostBatch_of_later hr hat, milestone_lose_of_not fun r' hr' => by
          rwa [← Option.some.inj (hr.symm.trans hr')]]
        rfl

end Memory

lemma Operation.handlesBatches_of_sent {α : Type} {operation : Operation α} {e : Engine Memory}
    {sink : Sink} {c : ContactId} {batch : SentBatch}
    (h : operation.sent e sink = some (c, batch)) : operation.HandlesBatches c := by
  cases operation with
  | generateBatch _ _ _ | generateBatchFrom _ _ _ _ | receiveRequest _ _ _ _ _ =>
    obtain ⟨_, -, heq⟩ := Option.map_eq_some_iff.mp h
    exact congrArg Prod.fst heq
  | _ => cases h

/-- A batch that is written is announced as it is recorded. -/
lemma Engine.filterMap_sendBatch (t : Turn Memory) (c : ContactId) (nonce : Nonce)
    (picked : List MessageId × BatchWriter) :
    (t.sendBatch c nonce picked).2.events.filterMap (Event.milestone c) =
      t.events.filterMap (Event.milestone c) ++
        (t.engine.store.milestones c (t.engine.logBatch t.sink c nonce picked)).filter
          Milestone.reported := by
  unfold Turn.sendBatch logBatch Sink.onSent sending sentEvents
  rcases t.sink.send (.batch (picked.2.batch nonce)) with ⟨_ | _, sink⟩
  · exact (List.append_nil _).symm
  · by_cases hnone : picked.1 = []
    · simp [hnone, Memory.milestones]
    · have hone : (Event.batchSent c (picked.2.batch nonce).id picked.1.length).milestone c =
          some (.sent (picked.2.batch nonce).id) := if_pos rfl
      dsimp only
      rw [if_neg hnone, if_neg hnone, Memory.milestones_send, Turn.events_after,
        List.filterMap_append, List.filterMap_cons_some hone]
      rfl

/-- If there is no such contact, nothing is reported, as nothing is done. -/
lemma Engine.filterMap_about {α : Type} {s : Memory} {c : ContactId} {log : List Change}
    {r r' : Except SyncError α × Turn Memory}
    (h : r.2.events.filterMap (Event.milestone c) =
      (s.milestones c log).filter Milestone.reported)
    (h' : r'.2.events.filterMap (Event.milestone c) = []) :
    (if c ∈ s.contacts then r else r').2.events.filterMap (Event.milestone c) =
      (s.milestones c (s.about c log)).filter Milestone.reported := by
  unfold Memory.about
  split
  · exact h
  · exact h'

/-- The changes of other operations are no milestones. -/
lemma Operation.milestones_eq_nil {α : Type} {operation : Operation α} {c : ContactId}
    (h : ¬ operation.HandlesBatches c) (e : Engine Memory) (sink : Sink) :
    e.store.milestones c (operation.log e sink) = [] := by
  rcases (Step.perform operation sink).log_about e c with hquiet | ⟨batch, hsent⟩ |
    ⟨ids, _, heq, -⟩ | ⟨_, heq, -⟩ | hgone
  · exact Memory.milestones_eq_nil fun x hx s => Memory.milestone_eq_none (hquiet x hx)
  · exact absurd (Operation.handlesBatches_of_sent hsent) h
  · cases heq
    exact absurd rfl h
  · cases heq
    exact absurd rfl h
  · rw [show operation.log e sink = _ from hgone]
    rfl

/-- The reports of an operation announce the milestones that its changes are, but for acks that
are not reported. -/
theorem Operation.filterMap_events {α : Type} (operation : Operation α) (e : Engine Memory)
    (sink : Sink) (c : ContactId) :
    (operation.act.runOn e sink).2.events.filterMap (Event.milestone c) =
      (e.store.milestones c (operation.log e sink)).filter Milestone.reported := by
  by_cases hhandles : operation.HandlesBatches c
  · cases operation with
    | generateBatch c' writer nonce =>
      obtain rfl : c' = c := hhandles
      rw [Operation.act, Act.runOn, Engine.generateBatch_apply, Engine.sendOldest_apply]
      exact Engine.filterMap_about (Engine.filterMap_sendBatch ⟨e, [], sink⟩ c' nonce _) rfl
    | generateBatchFrom c' writer nonce requested =>
      obtain rfl : c' = c := hhandles
      rw [Operation.act, Act.runOn, Engine.generateBatchFrom_apply]
      exact Engine.filterMap_about (Engine.filterMap_sendBatch ⟨e, [], sink⟩ c' nonce _) rfl
    | receiveRequest c' offer request writer nonce =>
      obtain rfl : c' = c := hhandles
      rw [Operation.act, Act.runOn, Engine.receiveRequest_apply, Operation.log]
      cases request.requestedIds offer with
      | none => rfl
      | some requested =>
        dsimp only
        rw [Engine.generateBatchFrom_apply]
        let t : Turn Memory := ⟨e, [.messagesRequested c' requested.length], sink⟩
        exact Engine.filterMap_about (Engine.filterMap_sendBatch t c' nonce _) rfl
    | receiveAck c' ids =>
      obtain rfl : c' = c := hhandles
      rw [Operation.act, Act.runOn, Engine.receiveAck_apply]
      refine Engine.filterMap_about ?_ rfl
      rw [Memory.filter_milestones_acks, Turn.events_after, List.nil_append, List.filterMap_map,
        ← List.filterMap_eq_map]
      exact congrArg (List.filterMap · _) (funext fun b => if_pos rfl)
    | findLost c' =>
      obtain rfl : c' = c := hhandles
      rw [Operation.act, Act.runOn, Engine.findLost_apply]
      refine Engine.filterMap_about ?_ rfl
      rw [Engine.logLost, Memory.filter_milestones_loses, Turn.events_after, List.nil_append,
        List.filterMap_map, ← List.filterMap_eq_map]
      exact congrArg (List.filterMap · _) (funext fun e => if_pos rfl)
    | _ => exact hhandles.elim
  · rw [Operation.filterMap_events_eq_nil hhandles, Operation.milestones_eq_nil hhandles]
    rfl

/-! ## Steps -/

namespace Step

/-- What a step announces is read off its changes. -/
lemma announced_eq (step : Step) (e : Engine Memory) (c : ContactId) :
    (step.reported e).filterMap (Event.milestone c) =
      (e.store.milestones c (step.log e)).filter Milestone.reported := by
  cases step with
  | setClock _ | setGate _ => rfl
  | perform operation sink => exact operation.filterMap_events e sink c

/-- The acks of a step that find their batch outstanding. -/
lemma acked_mem_milestones {e : Engine Memory} (hs : e.store.Consistent) (step : Step)
    {c : ContactId} {b : BatchId} {visible : Bool} :
    .acked b visible ∈ e.store.milestones c (step.log e) ↔
      step.Acks c b ∧ ∃ r, e.store.sentBatch c b = some r ∧ e.store.shows c r = visible := by
  constructor
  · intro hmem
    have hack := Memory.mem_log_of_acked hmem
    cases step with
    | setClock _ | setGate _ => cases hack
    | perform operation sink =>
      have hcauses := Operation.causes_of_mem_log hack
      cases operation with
      | receiveAck c' ids =>
        obtain ⟨rfl, hb⟩ := hcauses
        have hc := (Memory.mem_about hack).1
        rw [Step.log, Operation.log, Memory.about, if_pos hc,
          Memory.acked_mem_milestones_acks] at hmem
        exact ⟨⟨rfl, hb⟩, hmem.2⟩
      | _ => cases hcauses
  · rintro ⟨hacks, r, hr, hvisible⟩
    cases step with
    | setClock _ | setGate _ => cases hacks
    | perform operation sink =>
      cases operation with
      | receiveAck c' ids =>
        obtain ⟨rfl, hb⟩ := hacks
        rw [Step.log, Operation.log, Memory.about, if_pos (hs.owned c' b r hr)]
        exact (Memory.acked_mem_milestones_acks ids).mpr ⟨hb, r, hr, hvisible⟩
      | _ => cases hacks

/-- The batches that a step sends to a contact are in its log. -/
lemma sentTo_log (step : Step) (e : Engine Memory) (c : ContactId) :
    (step.log e).filterMap (Change.sentTo c) =
      ((step.sent e).toList.filter fun s => s.1 = c).map fun s => s.2.id := by
  cases hsent : step.sent e with
  | none =>
    rw [List.filterMap_eq_nil_iff.mpr fun x hx => ?_]
    · rfl
    cases step with
    | setClock _ | setGate _ => cases hx
    | perform operation sink =>
      have hcauses := Operation.causes_of_mem_log hx
      cases x with
      | send c' b messages sentAt => cases hsent.symm.trans hcauses
      | _ => rfl
  | some sent =>
    obtain ⟨c', batch⟩ := sent
    rw [log_of_sent hsent]
    by_cases hc : c' = c <;> simp [Change.sentTo, hc]

end Step

/-- Steps of twins announce the same. -/
lemma Backend.Twin.announced_eq {backend : Backend} {e : Engine backend.Data} {e' : Engine Memory}
    (h : backend.Twin e e') (step : Step) (c : ContactId) :
    (step.reported e).filterMap (Event.milestone c) =
      (step.reported e').filterMap (Event.milestone c) := by
  cases step with
  | setClock _ | setGate _ => rfl
  | perform operation sink =>
    by_cases hplain : operation.plain
    · rw [Step.reported, Step.reported, (h.plain operation hplain sink).2.1]
    -- what is not plain is about secrets and transports
    · have hhandles : ¬ operation.HandlesBatches c := by
        cases operation with
        | generateTransports _ | contactTransports _ | localTransports | addSecrets _ | secrets
        | rotateSecret _ _ _ | removeSecretsBefore _ _ _ | nextOutgoing _ | acceptIncoming _ _
        | unseenConnections _ => exact id
        | _ => exact absurd rfl hplain
      rw [Step.reported, Step.reported, Operation.filterMap_events_eq_nil hhandles,
        Operation.filterMap_events_eq_nil hhandles]

end MessageSync
