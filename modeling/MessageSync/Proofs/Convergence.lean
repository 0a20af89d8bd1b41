import MessageSync.Peer.Scenario
import MessageSync.Proofs.Delivery
import MessageSync.Proofs.Peer

/-!
# Convergence of two peers

One peer sends batches to another one until there is nothing left to send
(`Peer.deliverBatches`), and then the other one sends acks until it owes none
(`Peer.deliverAcks`). Whatever both did before, the first loop carries over every message that
was eligible, each of them once, and the second one makes all of them seen
(`Backend.converge`).

Each batch takes at least one eligible message, and each ack settles at least one batch that is
owed, so that there are no more rounds than that.
-/

namespace MessageSync

namespace Peer

section
variable {σ τ : Type} [Store σ] [Store τ]

/-! ## Loops -/

/-- The messages of the batch that a peer would send next. -/
def nextMessages (p : Peer σ) (there : ContactId) (nonce : Nonce) : List MessageId :=
  match (p.perform (Engine.generateBatch there (.fresh capacity none) nonce) {}).1 with
  | .ok answer => (answer.map SentBatch.messages).getD []
  | .error _ => []

/-- Sends batches until there is nothing to send. Answers the batches, unless a delivery failed
or there were too few nonces to get that far. -/
def deliverBatches (there here : ContactId) :
    List Nonce → Peer σ → Peer τ → Option (List SentBatch) × Peer σ × Peer τ
  | [], p, q => (none, p, q)
  | nonce :: nonces, p, q =>
    match p.deliverBatch there q here nonce with
    | (.error _, after) => (none, after)
    | (.ok none, after) => (some [], after)
    | (.ok (some b), p', q') =>
      let (sent, after) := deliverBatches there here nonces p' q'
      (sent.map (⟨b, p.nextMessages there nonce⟩ :: ·), after)

/-- Sends acks until none is owed. Answers whether it got that far within some rounds. -/
def deliverAcks (there here : ContactId) : Nat → Peer σ → Peer τ → Bool × Peer σ × Peer τ
  | 0, p, q => (false, p, q)
  | rounds + 1, p, q =>
    match p.deliverAck there q here with
    | (.error _, after) => (false, after)
    | (.ok 0, after) => (true, after)
    | (.ok (_ + 1), p', q') => deliverAcks there here rounds p' q'

end

end Peer

/-! ## Loops of twins -/

namespace Backend.PeerTwin

variable {backend backend' : Backend} {p : Peer backend.Data} {p' : Peer Memory}
  {q : Peer backend'.Data} {q' : Peer Memory}

lemma nextMessages (h : backend.PeerTwin p p') (there : ContactId) (nonce : Nonce) :
    p.nextMessages there nonce = p'.nextMessages there nonce := by
  obtain ⟨answer, bytes, after, after', hp, hp', -⟩ :=
    h.perform (.generateBatch there (.fresh Peer.capacity none) nonce) rfl {}
  change p.perform (Engine.generateBatch there (.fresh Peer.capacity none) nonce) {} = _ at hp
  change p'.perform (Engine.generateBatch there (.fresh Peer.capacity none) nonce) {} = _ at hp'
  rw [Peer.nextMessages, Peer.nextMessages, hp, hp']

lemma deliverBatches (h : backend.PeerTwin p p') (h' : backend'.PeerTwin q q')
    (there here : ContactId) (nonces : List Nonce) :
    PairTwin backend backend' (Peer.deliverBatches there here nonces p q)
      (Peer.deliverBatches there here nonces p' q') := by
  induction nonces generalizing p p' q q' with
  | nil => exact ⟨rfl, h, h'⟩
  | cons nonce rest ih =>
    have hone := h.deliverBatch h' there here nonce
    have hnext := h.nextMessages there nonce
    unfold Peer.deliverBatches
    generalize p.deliverBatch there q here nonce = r at hone ⊢
    generalize p'.deliverBatch there q' here nonce = r' at hone ⊢
    obtain ⟨answer, after⟩ := r
    obtain ⟨answer', after'⟩ := r'
    obtain rfl : answer = answer' := hone.result
    match answer with
    | .error _ | .ok none => exact ⟨rfl, hone.left, hone.right⟩
    | .ok (some b) =>
      have hothers := ih hone.left hone.right
      refine ⟨?_, hothers.left, hothers.right⟩
      dsimp only
      rw [hothers.result, hnext]

lemma deliverAcks (h : backend.PeerTwin p p') (h' : backend'.PeerTwin q q')
    (there here : ContactId) (rounds : Nat) :
    PairTwin backend backend' (Peer.deliverAcks there here rounds p q)
      (Peer.deliverAcks there here rounds p' q') := by
  induction rounds generalizing p p' q q' with
  | zero => exact ⟨rfl, h, h'⟩
  | succ rounds ih =>
    have hone := h.deliverAck h' there here
    unfold Peer.deliverAcks
    generalize p.deliverAck there q here = r at hone ⊢
    generalize p'.deliverAck there q' here = r' at hone ⊢
    obtain ⟨answer, after⟩ := r
    obtain ⟨answer', after'⟩ := r'
    obtain rfl : answer = answer' := hone.result
    match answer with
    | .error _ | .ok 0 => exact ⟨rfl, hone.left, hone.right⟩
    | .ok (n + 1) => exact ih hone.left hone.right

end Backend.PeerTwin

namespace Peer

variable {p q : Peer Memory} {there here : ContactId}

/-! ## Sending all batches -/

lemma nextMessages_eq (hs : p.engine.store.Keyed) (hthere : there ∈ p.engine.store.contacts)
    (nonce : Nonce) : p.nextMessages there nonce = (p.load there).map Message.id := by
  rw [nextMessages, perform_eq, generateBatch_runOn hs hthere]
  exact (sentOf (p.parcel there nonce)).messages_recorded?

lemma flatMap_sentOf (batches : List ReceivedBatch) :
    (batches.map sentOf).flatMap SentBatch.messages =
      (batches.flatMap ReceivedBatch.messages).map Message.id := by
  rw [List.flatMap_map, List.map_flatMap]
  rfl

/-- The messages that arrive in some batches are more than the batches, if none is empty. -/
lemma length_le_messages {batches : List ReceivedBatch}
    (hsome : ∀ batch ∈ batches, batch.messages ≠ []) :
    batches.length ≤ (batches.flatMap ReceivedBatch.messages).length := by
  rw [List.length_flatMap]
  have hsum := List.length_le_sum_of_one_le (batches.map fun batch => batch.messages.length)
  rw [List.length_map] at hsum
  refine hsum fun size hmem => ?_
  obtain ⟨batch, hbatch, rfl⟩ := List.mem_map.mp hmem
  exact List.length_pos_iff.mpr (hsome batch hbatch)

/-- With more nonces than there are eligible messages, batches are sent until no message is
eligible. Each message goes into one of them, and all batches arrive. -/
theorem deliverBatches_of_sample {nonces : List Nonce} (hs : p.engine.store.Keyed)
    (hthere : there ∈ p.engine.store.contacts) (hhere : here ∈ q.engine.store.contacts)
    (hgate : q.engine.gate = .opened)
    (hsample : ∀ m ∈ p.engine.store.eligible there, m.IsSample ∧ m.size ≤ capacity)
    (hmany : (p.engine.store.eligible there).length < nonces.length) :
    ∃ (batches : List ReceivedBatch) (events events' : List Event), deliverBatches there here nonces p q =
        (some (batches.map sentOf),
          p.after (Memory.sends there (batches.map sentOf) p.engine.now) events,
          q.after (batches.flatMap (·.arrival here)) events') ∧
      (batches.flatMap ReceivedBatch.messages).Perm (p.engine.store.eligible there) ∧
      (∀ batch ∈ batches, batch.messages ≠ []) ∧
      (p.engine.store.changes
        (Memory.sends there (batches.map sentOf) p.engine.now)).eligible there = [] := by
  induction nonces generalizing p q with
  | nil => exact absurd hmany (Nat.not_lt_zero _)
  | cons nonce rest ih =>
    by_cases hnone : p.engine.store.eligible there = []
    · refine ⟨[], p.events, q.events, ?_, ?_, fun _ h => ?_, hnone⟩
      · rw [deliverBatches, deliverBatch_of_nil hs hthere hnone]
        rfl
      · rw [hnone]
        exact .refl _
      · cases h
    · obtain ⟨events, events', hone⟩ :=
        deliverBatch_of_sample hs hthere hhere hgate hnone hsample nonce
      have hload : p.load there ≠ [] :=
        Message.takeWithin_ne_nil hnone fun m hm => (hsample m hm).2
      let p' := p.dispatch there nonce events
      have hperm : (p.load there ++ p'.engine.store.eligible there).Perm
          (p.engine.store.eligible there) := perm_dispatch hs there nonce events
      let q' := q.after ((p.parcel there nonce).arrival here) events'
      have hgrows : q.engine.store.Grows q'.engine.store :=
        Memory.grows_changes _ fun _ => ReceivedBatch.arrives_of_mem
      have hhere' : here ∈ q'.engine.store.contacts := hgrows.contacts ▸ hhere
      have hsample' (m : Message) (hm : m ∈ p'.engine.store.eligible there) :
          m.IsSample ∧ m.size ≤ capacity :=
        hsample m (hperm.subset (List.mem_append_right _ hm))
      -- less is eligible after the first batch
      have hmany' : (p'.engine.store.eligible there).length < rest.length := by
        have hlength := hperm.length_eq
        have hpositive := List.length_pos_iff.mpr hload
        rw [List.length_append] at hlength
        rw [List.length_cons] at hmany
        omega
      obtain ⟨batches, events, events', hrest, hothers, hsome, hdone⟩ :=
        @ih p' q' hs hthere hhere' hgate hsample' hmany'
      refine ⟨p.parcel there nonce :: batches, events, events', ?_, ?_, ?_, hdone⟩
      · rw [deliverBatches, hone]
        show ((deliverBatches there here rest p' q').1.map _, _) = _
        rw [hrest, nextMessages_eq hs hthere, after_dispatch, after_after]
        rfl
      · rw [List.flatMap_cons]
        exact (hothers.append_left (p.load there)).trans hperm
      · exact List.forall_mem_cons.mpr ⟨hload, hsome⟩

/-! ## Sending all acks -/

/-- Whether a batch that was sent is confirmed, or awaits an ack that is owed. -/
def Tracks (p q : Peer Memory) (there here : ContactId) (x : SentBatch) : Prop :=
  (p.engine.store.Awaits there x.id x.messages ∧ x.id ∈ q.engine.store.toAckOf here) ∨
    p.engine.store.Confirmed there x.id x.messages

namespace Tracks

variable {x : SentBatch}

/-- An ack confirms what it names, and leaves the rest for later. -/
lemma deliverAck (h : Tracks p q there here x) (events events' : List Event) :
    Tracks (p.after ((q.acking here).map (.ack there)) events')
      (q.after [.settle here (q.acking here)] events) there here x := by
  rcases h with ⟨hawaits, howed⟩ | hconfirmed
  · have hacks := hawaits.acks (q.acking here)
    split at hacks
    · exact .inr hacks
    · next hleft =>
      refine .inl ⟨hacks, ?_⟩
      rw [Memory.mem_toAckOf_iff] at howed ⊢
      exact (Memory.mem_toAck_settle _ _).mpr ⟨hleft, howed⟩
  · exact .inr (hconfirmed.acks (q.acking here))

/-- Where nothing is owed any more, all is confirmed. -/
lemma confirmed (h : Tracks p q there here x) (hnone : q.engine.store.toAckOf here = []) :
    p.engine.store.Confirmed there x.id x.messages := by
  rcases h with ⟨-, howed⟩ | hconfirmed
  · rw [hnone] at howed
    cases howed
  · exact hconfirmed

end Tracks

/-- In more rounds than acks are owed, all of them are sent, which confirms the batches. -/
theorem deliverAcks_of_owed {rounds : Nat} {sent : List SentBatch}
    (hhere : here ∈ q.engine.store.contacts) (hthere : there ∈ p.engine.store.contacts)
    (hmost : 1 ≤ q.engine.config.maxAckIds) (hsent : ∀ x ∈ sent, Tracks p q there here x)
    (hrounds : (q.engine.store.toAckOf here).length < rounds) :
    ∃ q' p', deliverAcks here there rounds q p = (true, q', p') ∧
      ∀ x ∈ sent, p'.engine.store.Confirmed there x.id x.messages := by
  induction rounds generalizing p q with
  | zero => exact absurd hrounds (Nat.not_lt_zero _)
  | succ rounds ih =>
    obtain ⟨events, events', hone⟩ := @deliverAck_eq p q there here hhere hthere
    unfold deliverAcks
    rw [hone]
    cases hcount : (q.acking here).length with
    | zero =>
      have hnone := toAckOf_of_acking_eq_nil hmost (List.eq_nil_of_length_eq_zero hcount)
      exact ⟨_, _, rfl, fun x hx => ((hsent x hx).confirmed hnone).acks (q.acking here)⟩
    | succ n =>
      let p' := p.after ((q.acking here).map (.ack there)) events'
      let q' := q.after [.settle here (q.acking here)] events
      have hsent' : ∀ x ∈ sent, Tracks p' q' there here x :=
        fun x hx => (hsent x hx).deliverAck events events'
      have hsome : q.acking here ≠ [] := by
        rw [← List.length_pos_iff, hcount]
        exact Nat.succ_pos n
      have hlt : (q'.engine.store.toAckOf here).length < (q.engine.store.toAckOf here).length :=
        Memory.length_toAckOf_settle_lt hsome fun _ => toAckOf_of_mem_acking
      have hthere' : there ∈ p'.engine.store.contacts := by
        rw [store_after, Memory.contacts_changes (by simp [Change.parts])]
        exact hthere
      exact @ih p' q' hhere hthere' hmost hsent' (by omega)

/-- Once batches of eligible messages are sent under different identifiers and have arrived, acks
confirm all of them. -/
theorem deliverAcks_of_sent {batches : List ReceivedBatch} {events events' : List Event}
    {rounds : Nat} (hs : p.engine.store.Keyed) (hthere : there ∈ p.engine.store.contacts)
    (hhere : here ∈ q.engine.store.contacts) (hmost : 1 ≤ q.engine.config.maxAckIds)
    (hfrom : ∀ m ∈ batches.flatMap ReceivedBatch.messages, m ∈ p.engine.store.eligible there)
    (hids : ((batches.map sentOf).map SentBatch.id).Nodup)
    (hrounds : ((q.after (batches.flatMap (·.arrival here)) events').engine.store.toAckOf
      here).length < rounds) :
    ∃ q' p', deliverAcks here there rounds (q.after (batches.flatMap (·.arrival here)) events')
        (p.after (Memory.sends there (batches.map sentOf) p.engine.now) events) = (true, q', p') ∧
      ∀ x ∈ batches.map sentOf, p'.engine.store.Confirmed there x.id x.messages := by
  have hthere' : there ∈ (p.engine.store.changes
      (Memory.sends there (batches.map sentOf) p.engine.now)).contacts := by
    rw [Memory.contacts_changes (by simp [Memory.sends, Change.parts])]
    exact hthere
  have hhere' : here ∈ (q.engine.store.changes (batches.flatMap (·.arrival here))).contacts := by
    rw [(Memory.grows_changes _ fun _ => ReceivedBatch.arrives_of_mem_flatMap).contacts]
    exact hhere
  have hvisible : ∀ x ∈ batches.map sentOf, ∀ id ∈ x.messages,
      (p.engine.store.delivery there id).isSome := by
    intro x hx id hid
    have hmem : id ∈ (batches.map sentOf).flatMap SentBatch.messages :=
      List.mem_flatMap.mpr ⟨x, hx, hid⟩
    rw [flatMap_sentOf] at hmem
    obtain ⟨m, hm, rfl⟩ := List.mem_map.mp hmem
    obtain ⟨-, d, hd, -⟩ := (Memory.mem_eligible_iff hs there m).mp (hfrom m hm)
    exact Option.isSome_of_eq_some hd
  refine deliverAcks_of_owed hhere' hthere' hmost (fun x hx => .inl ⟨?_, ?_⟩) hrounds
  · exact Memory.awaits_sends hids hvisible p.engine.now hx
  · obtain ⟨batch, hbatch, rfl⟩ := List.mem_map.mp hx
    exact Memory.owed_of_arrival hbatch

end Peer

/-! ## Convergence -/

namespace Backend

variable {backend backend' : Backend} {there here : ContactId} {p p' : Peer backend.Data}
  {q q' : Peer backend'.Data}

/-- Whether batches carried all that was eligible at `p` over to `q`, which left the peers as
`p'` and `q'`. -/
structure Carried (there : ContactId) (p : Peer backend.Data) (q : Peer backend'.Data)
    (sent : List SentBatch) (p' : Peer backend.Data) (q' : Peer backend'.Data) : Prop where
  few : sent.length ≤ (backend.eligible p.engine.store there).length
  /-- Each message goes into one batch. -/
  once : (sent.flatMap SentBatch.messages).Perm
    ((backend.eligible p.engine.store there).map Message.id)
  distinct : ((backend.eligible p.engine.store there).map Message.id).Nodup
  none_left : backend.eligible p'.engine.store there = []
  stored : ∀ m ∈ backend.eligible p.engine.store there,
    q.view (Store.containsSubscription m.group) = .ok true → q.hasMessage m.id = .ok false →
      backend'.message q'.engine.store m.id = some m

/-- Whether messages are seen, and the batches that they went out in are not outstanding. -/
structure Settled (there : ContactId) (messages : List Message) (sent : List SentBatch)
    (p : Peer backend.Data) : Prop where
  seen : ∀ m ∈ messages, ∃ d, p.status there m.id = .ok (some d) ∧ d.status = .seen
  settled : ∃ batches, p.outstanding there = .ok batches ∧
    ∀ x ∈ sent, ∀ o ∈ batches, o.id ≠ x.id

/-- Batches carried over all that was eligible if they did so between twins in memory. -/
lemma PeerTwin.carried {e e' : Peer Memory} (h : backend.PeerTwin p e) (h' : backend'.PeerTwin q e')
    {batches : List ReceivedBatch} {events : List Event}
    (hafter : backend'.PeerTwin q' (e'.after (batches.flatMap (·.arrival here)) events))
    (hperm : (batches.flatMap ReceivedBatch.messages).Perm (e.engine.store.eligible there))
    (hsome : ∀ batch ∈ batches, batch.messages ≠ [])
    (hdone : backend.eligible p'.engine.store there = []) :
    Carried there p q (batches.map Peer.sentOf) p' q' := by
  have hnodup := Memory.nodup_eligible h.engine.consistent.keyed there
  have hids := (hperm.map Message.id).nodup_iff.mpr hnodup
  rw [← h.engine.eligible] at hperm hnodup
  refine ⟨?_, ?_, hnodup, hdone, fun m hm hgroup hnew => ?_⟩
  · rw [List.length_map, ← hperm.length_eq]
    exact Peer.length_le_messages hsome
  · rw [Peer.flatMap_sentOf]
    exact hperm.map Message.id
  · have hsubscribed : e'.engine.store.subscriptions.contains m.group = true :=
      Except.ok.inj ((h'.engine.containsSubscription m.group).symm.trans hgroup)
    have hmissing : e'.engine.store.messages.contains m.id = false :=
      Except.ok.inj ((h'.engine.containsMessage m.id).symm.trans hnew)
    rw [hafter.engine.message m.id]
    refine Memory.message_of_arrival hafter.engine.consistent.keyed hids
      (hperm.mem_iff.mpr hm) (Std.ExtTreeMap.contains_iff_mem.mp hsubscribed) fun hstored => ?_
    rw [Std.ExtTreeMap.contains_iff_mem.mpr hstored] at hmissing
    cases hmissing

/-- Twins in memory that confirm all batches have settled them. -/
lemma PeerTwin.settled {e : Peer Memory} (h : backend.PeerTwin p e) {messages : List Message}
    {sent : List SentBatch}
    (hsent : ∀ m ∈ messages, m.id ∈ sent.flatMap SentBatch.messages)
    (hconfirmed : ∀ x ∈ sent, e.engine.store.Confirmed there x.id x.messages) :
    Settled there messages sent p where
  seen := by
    intro m hm
    obtain ⟨x, hx, hid⟩ := List.mem_flatMap.mp (hsent m hm)
    obtain ⟨d, hd, hseen⟩ :=
      (Memory.status_eq_some_iff _ _ _ _).mp ((hconfirmed x hx).seen m.id hid)
    refine ⟨d, ?_, hseen⟩
    rw [← hd]
    exact h.engine.status there m.id
  settled := by
    refine ⟨_, h.engine.outstanding there, fun x hx o ho heq => ?_⟩
    obtain ⟨-, hsome⟩ := (Memory.mem_outstandingOf_iff _ _ o).mp ho
    rw [heq, (hconfirmed x hx).settled] at hsome
    cases hsome

/-- With more nonces than there are eligible messages, batches are sent between twins until no
message is eligible, and carry over all that was. -/
theorem PeerTwin.carries {e e' : Peer Memory} (h : backend.PeerTwin p e)
    (h' : backend'.PeerTwin q e') (hthere : there ∈ e.engine.store.contacts)
    (hhere : here ∈ e'.engine.store.contacts) (hgate : e'.engine.gate = .opened)
    (hsample : ∀ m ∈ e.engine.store.eligible there, m.IsSample ∧ m.size ≤ Peer.capacity)
    {nonces : List Nonce} (hmany : (e.engine.store.eligible there).length < nonces.length) :
    ∃ (batches : List ReceivedBatch) (events events' : List Event),
      PairTwin backend backend' (Peer.deliverBatches there here nonces p q)
        (some (batches.map Peer.sentOf),
          e.after (Memory.sends there (batches.map Peer.sentOf) e.engine.now) events,
          e'.after (batches.flatMap (·.arrival here)) events') ∧
      (batches.flatMap ReceivedBatch.messages).Perm (e.engine.store.eligible there) ∧
      Carried there p q (batches.map Peer.sentOf)
        (Peer.deliverBatches there here nonces p q).2.1
        (Peer.deliverBatches there here nonces p q).2.2 := by
  obtain ⟨batches, events, events', hloop, hperm, hsome, hdone⟩ :=
    Peer.deliverBatches_of_sample h.engine.consistent.keyed hthere hhere hgate hsample hmany
  have hpair := h.deliverBatches h' there here nonces
  rw [hloop] at hpair
  exact ⟨batches, events, events', hpair, hperm, h.carried h' hpair.right hperm hsome
    ((hpair.left.engine.eligible there).trans hdone)⟩

/-- Two peers that know each other converge, if the gate of the one that receives is open, an
ack may name a batch, and all eligible messages are sample messages that fit into a batch. In
one round for each eligible message and one more, batches under different identifiers carry over
all that is eligible. In one round for each ack that is then owed and one more, all is seen. -/
theorem converge (hp : backend.Reaches p.engine) (hq : backend'.Reaches q.engine)
    (hthere : p.view (Store.containsContact there) = .ok true)
    (hhere : q.view (Store.containsContact here) = .ok true)
    (hgate : q.engine.gate = .opened) (hmost : 1 ≤ q.engine.config.maxAckIds)
    (hsample : ∀ m ∈ backend.eligible p.engine.store there, m.IsSample ∧ m.size ≤ Peer.capacity)
    {nonces : List Nonce}
    (hmany : (backend.eligible p.engine.store there).length < nonces.length)
    (hids : ∀ sent, (Peer.deliverBatches there here nonces p q).1 = some sent →
      (sent.map SentBatch.id).Nodup) :
    ∃ sent p' q', Peer.deliverBatches there here nonces p q = (some sent, p', q') ∧
      Carried there p q sent p' q' ∧
      ∃ pending, q'.view (Store.batchesToAck here) = .ok pending ∧
        ∀ rounds, pending.length < rounds →
          ∃ q'' p'', Peer.deliverAcks here there rounds q' p' = (true, q'', p'') ∧
            Settled there (backend.eligible p.engine.store there) sent p'' := by
  obtain ⟨e, he⟩ := Twin.of_reaches hp
  obtain ⟨e', he'⟩ := Twin.of_reaches hq
  have htwin : backend.PeerTwin p ⟨e, p.events⟩ := ⟨he, rfl⟩
  have htwin' : backend'.PeerTwin q ⟨e', q.events⟩ := ⟨he', rfl⟩
  have hs := he.consistent
  have hcontact : there ∈ e.store.contacts := by
    rw [← Std.ExtTreeMap.contains_iff_mem]
    exact Except.ok.inj ((he.containsContact there).symm.trans hthere)
  have hcontact' : here ∈ e'.store.contacts := by
    rw [← Std.ExtTreeMap.contains_iff_mem]
    exact Except.ok.inj ((he'.containsContact here).symm.trans hhere)
  rw [he'.gate] at hgate
  rw [he'.config] at hmost
  rw [he.eligible] at hsample hmany ⊢
  obtain ⟨batches, events, events', hpair, hperm, hcarried⟩ :=
    htwin.carries htwin' hcontact hcontact' hgate hsample hmany
  have hresult : (Peer.deliverBatches there here nonces p q).1 = some (batches.map Peer.sentOf) :=
    hpair.result
  refine ⟨_, _, _, Prod.ext hresult rfl, hcarried, _, hpair.right.engine.batchesToAck here,
    fun rounds hrounds => ?_⟩
  have hmem : ∀ m ∈ e.store.eligible there,
      m.id ∈ (batches.map Peer.sentOf).flatMap SentBatch.messages := by
    intro m hm
    rw [Peer.flatMap_sentOf]
    exact List.mem_map_of_mem (hperm.mem_iff.mpr hm)
  obtain ⟨after, after', hacks, hconfirmed⟩ :=
    Peer.deliverAcks_of_sent hs.keyed hcontact hcontact' hmost
      (fun m hm => hperm.mem_iff.mp hm) (hids _ hresult) hrounds
  have hacked := hpair.right.deliverAcks hpair.left here there rounds
  rw [hacks] at hacked
  exact ⟨_, _, Prod.ext hacked.result rfl, hacked.right.settled hmem hconfirmed⟩

end Backend

namespace Link.Sample

/-- The message is written to the group, which the contact reads. -/
def posting : List Step :=
  [.perform (.subscribe group) {}, .perform (.addContact ∅) {},
    .perform (.receiveSubscriptions contact ⟨[group], 1⟩) {}, .perform (.addLocal message) {}]

/-- The group is subscribed to, and there is a contact. -/
def reading : List Step := [.perform (.subscribe group) {}, .perform (.addContact ∅) {}]

def poster : Peer Backend.memory.Data := ⟨(Backend.memory.start {} 0).run posting, []⟩

def reader : Peer Backend.relational.Data := ⟨(Backend.relational.start {} 0).run reading, []⟩

def nonces : List Nonce := [Scenario.nonce 0, Scenario.nonce 1]

lemma eligible_poster : Backend.memory.eligible poster.engine.store contact = [message] := by
  have hone : ((show Memory from poster.engine.store).deliveries.toList.filterMap fun e =>
      if e.1.contact = contact && e.2.eligible then
        (show Memory from poster.engine.store).messages[e.1.item]? else none) = [message] := by
    decide +kernel
  show Message.oldestFirst _ = _
  rw [hone, Message.oldestFirst, List.mergeSort_singleton]

lemma sample_poster : ∀ m ∈ Backend.memory.eligible poster.engine.store contact,
    m.IsSample ∧ m.size ≤ Peer.capacity := by
  intro m hm
  rw [eligible_poster, List.mem_singleton] at hm
  rw [hm]
  exact ⟨⟨group.id, none, 0, [7], rfl⟩, by decide +kernel⟩

/-- There is only one batch. -/
lemma nodup_sent {sent : List SentBatch}
    (h : (Peer.deliverBatches contact contact nonces poster reader).1 = some sent) :
    (sent.map SentBatch.id).Nodup := by
  have htwin : Backend.memory.PeerTwin poster
      ⟨(Engine.start Memory.empty {} 0).run posting, []⟩ :=
    ⟨(Backend.Twin.start .memory {} 0).run posting, rfl⟩
  have htwin' : Backend.relational.PeerTwin reader
      ⟨(Engine.start Memory.empty {} 0).run reading, []⟩ :=
    ⟨(Backend.Twin.start .relational {} 0).run reading, rfl⟩
  have heligible := (htwin.engine.eligible contact).symm.trans eligible_poster
  have hsample := sample_poster
  rw [htwin.engine.eligible] at hsample
  obtain ⟨batches, _, _, hpair, -, hcarried⟩ :=
    @Backend.PeerTwin.carries _ _ contact contact _ _ _ _ htwin htwin' (by decide +kernel)
      (by decide +kernel) (by decide +kernel) hsample nonces (by
        rw [heligible]
        exact Nat.lt_succ_self 1)
  have hfew := hcarried.few
  rw [eligible_poster] at hfew
  have hresult : batches.map Peer.sentOf = sent := Option.some.inj (hpair.result.symm.trans h)
  rw [hresult] at hfew
  cases sent with
  | nil => exact List.nodup_nil
  | cons x rest =>
    have hnone : rest = [] := List.eq_nil_of_length_eq_zero (Nat.le_zero.mp
      (Nat.le_of_succ_le_succ hfew))
    rw [hnone]
    exact List.nodup_singleton x.id

/-- The message goes out, is stored and is acknowledged. -/
theorem converge_poster :
    ∃ sent p' q', Peer.deliverBatches contact contact nonces poster reader = (some sent, p', q') ∧
      sent.flatMap SentBatch.messages = [message.id] ∧
      Backend.relational.message q'.engine.store message.id = some message ∧
      ∃ rounds q'' p'', Peer.deliverAcks contact contact rounds q' p' = (true, q'', p'') ∧
        ∃ d, p''.status contact message.id = .ok (some d) ∧ d.status = .seen := by
  have hmany : (Backend.memory.eligible poster.engine.store contact).length < nonces.length := by
    rw [eligible_poster]
    exact Nat.lt_succ_self 1
  obtain ⟨sent, p', q', hloop, hcarried, pending, -, hacks⟩ :=
    @Backend.converge .memory .relational contact contact poster reader ⟨{}, 0, posting, rfl⟩
      ⟨{}, 0, reading, rfl⟩ (by decide +kernel) (by decide +kernel) (by decide +kernel)
      (by decide +kernel) sample_poster nonces hmany fun _ => nodup_sent
  obtain ⟨q'', p'', hdone, hsettled⟩ := hacks (pending.length + 1) (Nat.lt_succ_self _)
  have honce := hcarried.once
  have hstored := hcarried.stored message
  have hseen := hsettled.seen message
  rw [eligible_poster] at honce hstored hseen
  have hmem : message ∈ [message] := List.mem_singleton.mpr rfl
  exact ⟨sent, p', q', hloop, List.perm_singleton.mp honce,
    hstored hmem (by decide +kernel) (by decide +kernel), _, q'', p'', hdone, hseen hmem⟩

end Link.Sample

end MessageSync
