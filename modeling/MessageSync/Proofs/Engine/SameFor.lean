import MessageSync.Proofs.Engine.Mirror
import MessageSync.Proofs.Engine.Origin
import MessageSync.Proofs.Store.SameFor

/-!
# Operations over stores that are the same for a contact

The operations that talk to a contact read nothing but what is kept about it. Over stores that
are the same for the contact, they answer, report and write the same (`Operation.same_runOn`),
and make the same changes (`Operation.log_same`), which are about the contact alone.
-/

namespace MessageSync

/-- The contact that an operation writes a packet for, or takes one from that is not stored. -/
def Operation.talksTo : {α : Type} → Operation α → Option ContactId
  | _, .generateBatch c _ _ | _, .generateBatchFrom c _ _ _ | _, .generateAck c _
  | _, .receiveAck c _ | _, .findLost c | _, .generateOffer c _ | _, .receiveOffer c _
  | _, .receiveRequest c _ _ _ _ | _, .generateSubscriptions c | _, .generateTransports c => some c
  | _, _ => none

/-- Such an operation changes only the deliveries, the batches and the acks of the contact. -/
lemma Operation.of_mem_log {α : Type} {operation : Operation α} {c : ContactId}
    (hc : operation.talksTo = some c) {e : Engine Memory} {sink : Sink} {x : Change}
    (hx : x ∈ operation.log e sink) : x.Of c := by
  have hbatch {c' : ContactId} {nonce : Nonce} {picked : List MessageId × BatchWriter}
      (h : x ∈ e.store.about c' (e.logBatch sink c' nonce picked)) : x.Of c' := by
    obtain ⟨-, -, rfl⟩ := Engine.mem_logBatch (Memory.mem_about h).2
    rfl
  cases operation with
  | generateBatch c' writer nonce =>
    obtain rfl := Option.some.inj hc
    exact hbatch hx
  | generateBatchFrom c' writer nonce requested =>
    obtain rfl := Option.some.inj hc
    exact hbatch hx
  | receiveRequest c' offer request writer nonce =>
    obtain rfl := Option.some.inj hc
    rw [log] at hx
    split at hx
    · cases hx
    · exact hbatch hx
  | generateAck c' writer =>
    obtain rfl := Option.some.inj hc
    obtain rfl := List.mem_singleton.mp (Sink.mem_onSent (Memory.mem_about hx).2).2
    rfl
  | receiveAck c' batches =>
    obtain rfl := Option.some.inj hc
    obtain ⟨b, -, rfl⟩ := List.mem_map.mp (Memory.mem_about hx).2
    rfl
  | findLost c' =>
    obtain rfl := Option.some.inj hc
    obtain ⟨b, -, rfl⟩ := List.mem_map.mp (Memory.mem_about hx).2
    rfl
  | receiveOffer c' offer =>
    obtain rfl := Option.some.inj hc
    rw [log] at hx
    split at hx
    · cases hx
    · obtain ⟨id, -, rfl⟩ := List.mem_map.mp (Memory.mem_about hx).2
      rfl
  | generateOffer _ _ | generateSubscriptions _ | generateTransports _ => cases hx
  | _ => cases hc

/-! ## What is read -/

lemma pick_congr {find find' : MessageId → Option Bytes} {ids : List MessageId}
    (h : ∀ id ∈ ids, find id = find' id) (writer : BatchWriter) :
    pick find writer ids = pick find' writer ids := by
  induction ids generalizing writer with
  | nil => rfl
  | cons id rest ih =>
    have hrest := ih fun a ha => h a (List.mem_cons_of_mem id ha)
    unfold pick
    rw [h id List.mem_cons_self]
    split
    · exact hrest writer
    · split
      · rfl
      · rw [hrest]

/-- What is returned of a lost batch is decided by the deliveries of the contact. -/
lemma Memory.returnSent_congr {c : ContactId} (ids : List MessageId)
    {t u : Table (ContactKey MessageId) Delivery}
    (h : ∀ id, t[(⟨c, id⟩ : ContactKey MessageId)]? = u[(⟨c, id⟩ : ContactKey MessageId)]?) :
    (returnSent c ids t).1 = (returnSent c ids u).1 := by
  induction ids generalizing t u with
  | nil => rfl
  | cons m rest ih =>
    have hrest := ih (t := t.modify ⟨c, m⟩ Delivery.asLost) (u := u.modify ⟨c, m⟩ Delivery.asLost)
      fun id => by rw [Table.getElem?_modify, Table.getElem?_modify, h]
    rw [returnSent_cons, returnSent_cons]
    dsimp only
    rw [h, hrest]

namespace Memory.SameFor

variable {c : ContactId} {s t : Memory}

/-- Losing a batch returns the same messages. -/
lemma lost (h : SameFor c s t) (b : BatchId) (cutoff : Int64) :
    (s.removeLostBatch c b cutoff).1 = (t.removeLostBatch c b cutoff).1 := by
  have hbatch := h.batches b
  cases hr : s.sentBatch c b with
  | none => rw [removeLostBatch_of_none hr, removeLostBatch_of_none (hbatch.symm.trans hr)]
  | some r =>
    have hr' := hbatch.symm.trans hr
    by_cases hat : r.sentAt ≤ cutoff
    · rw [removeLostBatch_of_le hr hat, removeLostBatch_of_le hr' hat]
      exact congrArg some (returnSent_congr r.messages h.deliveries)
    · rw [removeLostBatch_of_later hr hat, removeLostBatch_of_later hr' hat]

lemma lostAmong (h : SameFor c s t) (cutoff : Int64) (ids : List BatchId) :
    s.lostAmong c cutoff ids = t.lostAmong c cutoff ids := by
  induction ids generalizing s t with
  | nil => rfl
  | cons b rest ih =>
    have hrest := ih (h.change (x := .lose c b cutoff) rfl)
    unfold Memory.lostAmong
    rw [h.lost b cutoff]
    dsimp only
    split
    · exact hrest
    · exact congrArg _ hrest

/-- An ack shows the same messages to be seen. -/
lemma acked (h : SameFor c s t) (b : BatchId) :
    (s.removeAckedBatch c b).1 = (t.removeAckedBatch c b).1 := by
  have hbatch := h.batches b
  cases hr : s.sentBatch c b with
  | none => rw [removeAckedBatch_of_none hr, removeAckedBatch_of_none (hbatch.symm.trans hr)]
  | some r =>
    rw [removeAckedBatch_of_some hr, removeAckedBatch_of_some (hbatch.symm.trans hr)]
    exact List.filter_congr fun id _ => h.contains_deliveries id

lemma ackedAmong (h : SameFor c s t) (ids : List BatchId) :
    s.ackedAmong c ids = t.ackedAmong c ids := by
  induction ids generalizing s t with
  | nil => rfl
  | cons b rest ih =>
    have hrest := ih (h.change (x := .ack c b) rfl)
    unfold Memory.ackedAmong
    rw [h.acked b]
    dsimp only
    split
    · exact hrest
    · exact congrArg (b :: ·) hrest

lemma lostOf (h : SameFor c s t) (cutoff : Int64) : s.lostOf c cutoff = t.lostOf c cutoff := by
  unfold Memory.lostOf
  rw [h.outstandingOf]

lemma missingAmong (h : SameFor c s t) (offer : List MessageId) :
    Engine.missingAmong s c offer = Engine.missingAmong t c offer := by
  refine List.map_congr_left fun id _ => ?_
  rw [h.contains_deliveries]

lemma candidates (h : SameFor c s t) (hs : s.Consistent) (ht : t.Consistent) (capacity : Nat) :
    s.candidates c capacity = t.candidates c capacity := by
  unfold Memory.candidates
  rw [h.eligible hs ht]

end Memory.SameFor

/-! ## Engines -/

/-- Engines that are the same for a contact, over consistent stores. -/
structure Engine.SameFor (c : ContactId) (e e' : Engine Memory) : Prop where
  store : Memory.SameFor c e.store e'.store
  left : e.store.Consistent
  right : e'.store.Consistent
  config : e.config = e'.config
  now : e.now = e'.now
  openOffers : e.openOffers = e'.openOffers

namespace Engine.SameFor

variable {c : ContactId} {e e' : Engine Memory}

lemma picked (h : SameFor c e e') (writer : BatchWriter) :
    e.picked c writer = e'.picked c writer := by
  unfold Engine.picked
  rw [h.store.candidates h.left h.right]
  refine pick_congr (fun id hid => ?_) writer
  -- a message to try has a delivery, so that both stores hold it
  obtain ⟨m, hm, rfl⟩ := List.mem_map.mp hid
  have hel := (takeWithin_sublist _ _).subset hm
  obtain ⟨hstored', d, hd, -⟩ := (Memory.mem_eligible_iff h.right.keyed c m).mp hel
  rw [h.store.message h.left ((h.store.deliveries m.id).trans hd)]

lemma pickedFrom (h : SameFor c e e') (writer : BatchWriter) (requested : List MessageId) :
    e.pickedFrom c writer requested = e'.pickedFrom c writer requested := by
  unfold Engine.pickedFrom
  rw [h.store.rawIfSendable h.left]

lemma pickedAcks (h : SameFor c e e') (writer : IdWriter .batch) :
    e.pickedAcks c writer = e'.pickedAcks c writer := by
  unfold Engine.pickedAcks
  rw [h.store.toAckOf, h.config]

lemma about (h : SameFor c e e') (log : List Change) :
    e.store.about c log = e'.store.about c log :=
  if_congr h.store.contact rfl rfl

lemma logBatch (h : SameFor c e e') (sink : Sink) (nonce : Nonce)
    (picked : List MessageId × BatchWriter) :
    e.logBatch sink c nonce picked = e'.logBatch sink c nonce picked := by
  unfold Engine.logBatch
  rw [h.now]

end Engine.SameFor

/-! ## Operations -/

namespace Operation

variable {c : ContactId} {e e' : Engine Memory}

/-- An operation that talks to a contact makes the same changes to stores that are the same
for the contact. -/
theorem log_same (h : Engine.SameFor c e e') {α : Type} {operation : Operation α}
    (hc : operation.talksTo = some c) (sink : Sink) : operation.log e sink = operation.log e' sink := by
  cases operation with
  | generateBatch c' writer nonce =>
    obtain rfl := Option.some.inj hc
    rw [log, log, h.picked, h.logBatch, h.about]
  | generateBatchFrom c' writer nonce requested =>
    obtain rfl := Option.some.inj hc
    rw [log, log, h.pickedFrom, h.logBatch, h.about]
  | receiveRequest c' offer request writer nonce =>
    obtain rfl := Option.some.inj hc
    rw [log, log]
    cases request.requestedIds offer with
    | none => rfl
    | some requested =>
      dsimp only
      rw [h.pickedFrom, h.logBatch, h.about]
  | generateAck c' writer =>
    obtain rfl := Option.some.inj hc
    rw [log, log, h.pickedAcks, h.about]
  | receiveAck c' batches =>
    obtain rfl := Option.some.inj hc
    rw [log, log, h.about]
  | findLost c' =>
    obtain rfl := Option.some.inj hc
    rw [log, log, h.about, Engine.logLost, Engine.logLost, h.config, h.now, h.store.lostOf]
  | receiveOffer c' offer =>
    obtain rfl := Option.some.inj hc
    rw [log, log, h.openOffers, h.about]
  | generateOffer _ _ | generateSubscriptions _ | generateTransports _ => rfl
  | _ => cases hc

/-- Whether two runs came to the same answer, events and bytes. -/
def Shows {α : Type} {σ τ : Type} (r : Except SyncError α × Turn σ)
    (r' : Except SyncError α × Turn τ) : Prop :=
  r.1 = r'.1 ∧ r.2.events = r'.2.events ∧ r.2.sink = r'.2.sink

lemma Shows.map {α β σ τ : Type} {r : Except SyncError α × Turn σ}
    {r' : Except SyncError α × Turn τ} (h : Shows r r') (f : α → β) :
    Shows (r.1.map f, r.2) (r'.1.map f, r'.2) := ⟨congrArg (Except.map f) h.1, h.2⟩

section
variable {α : Type} (e e' : Engine Memory) (events : List Event) (sink : Sink)

lemma shows_about {e e' : Engine Memory} (h : Memory.SameFor c e.store e'.store)
    {r r' : Except SyncError α × Turn Memory} (hr : Shows r r') :
    Shows (if c ∈ e.store.contacts then r else (.error (.noSuchContact c), ⟨e, events, sink⟩))
      (if c ∈ e'.store.contacts then r' else (.error (.noSuchContact c), ⟨e', events, sink⟩)) := by
  by_cases hc : c ∈ e.store.contacts
  · rw [if_pos hc, if_pos (h.contact.mp hc)]
    exact hr
  · rw [if_neg hc, if_neg fun hc' => hc (h.contact.mpr hc')]
    exact ⟨rfl, rfl, rfl⟩

/-- What comes of sending a packet does not depend on the store. -/
lemma shows_send (packet : Packet) (a : α) {done done' failed failed' : Turn Memory}
    (hdone : done.events = done'.events) (hfailed : failed.events = failed'.events) :
    Shows
      (match sink.send packet with
        | (.ok (), sink) => (.ok a, { done with sink })
        | (.error e, sink) => (.error (.sink e), { failed with sink }))
      (match sink.send packet with
        | (.ok (), sink) => (.ok a, { done' with sink })
        | (.error e, sink) => (.error (.sink e), { failed' with sink })) := by
  rcases sink.send packet with ⟨_ | _, sink'⟩
  · exact ⟨rfl, hfailed, rfl⟩
  · exact ⟨rfl, hdone, rfl⟩

lemma shows_sendBatch (nonce : Nonce) (picked : List MessageId × BatchWriter) :
    Shows (Turn.sendBatch ⟨e, events, sink⟩ c nonce picked)
      (Turn.sendBatch ⟨e', events, sink⟩ c nonce picked) :=
  shows_send sink _ _ rfl rfl

lemma shows_sendIds {kind : IdKind} (packet : Packet) (ids : List (Id kind))
    (log log' : List Change) :
    Shows (Engine.sendIds ⟨e, events, sink⟩ packet ids log)
      (Engine.sendIds ⟨e', events, sink⟩ packet ids log') :=
  shows_send sink packet ids rfl rfl

end

/-- An operation that talks to a contact, and does not read properties, answers, reports and
writes the same over stores that are the same for the contact. -/
theorem same_runOn (h : Engine.SameFor c e e') {α : Type} {operation : Operation α}
    (hc : operation.talksTo = some c) (hplain : operation.plain) (sink : Sink) :
    Shows (operation.act.runOn e sink) (operation.act.runOn e' sink) := by
  have habout {r r' : Except SyncError α × Turn Memory} (hr : Shows r r') :
      Shows (if c ∈ e.store.contacts then r else (.error (.noSuchContact c), ⟨e, [], sink⟩))
        (if c ∈ e'.store.contacts then r' else (.error (.noSuchContact c), ⟨e', [], sink⟩)) :=
    shows_about [] sink h.store hr
  cases operation with
  | generateBatch c' writer nonce =>
    obtain rfl := Option.some.inj hc
    rw [act, Act.runOn, Act.runOn, Engine.generateBatch_apply, Engine.generateBatch_apply,
      Engine.sendOldest_apply, Engine.sendOldest_apply]
    refine (shows_about [] sink h.store ?_).map SentBatch.recorded?
    show Shows (Turn.sendBatch _ c' nonce (e.picked c' writer))
      (Turn.sendBatch _ c' nonce (e'.picked c' writer))
    rw [h.picked]
    exact shows_sendBatch e e' [] sink nonce _
  | generateBatchFrom c' writer nonce requested =>
    obtain rfl := Option.some.inj hc
    rw [act, Act.runOn, Act.runOn, Engine.generateBatchFrom_apply,
      Engine.generateBatchFrom_apply]
    refine habout ?_
    show Shows (Turn.sendBatch _ c' nonce (e.pickedFrom c' writer requested))
      (Turn.sendBatch _ c' nonce (e'.pickedFrom c' writer requested))
    rw [h.pickedFrom]
    exact shows_sendBatch e e' [] sink nonce _
  | receiveRequest c' offer request writer nonce =>
    obtain rfl := Option.some.inj hc
    rw [act, Act.runOn, Act.runOn, Engine.receiveRequest_apply, Engine.receiveRequest_apply]
    cases request.requestedIds offer with
    | none => exact ⟨rfl, rfl, rfl⟩
    | some requested =>
      dsimp only
      rw [Engine.generateBatchFrom_apply, Engine.generateBatchFrom_apply]
      refine shows_about [.messagesRequested c' requested.length] sink h.store ?_
      show Shows (Turn.sendBatch _ c' nonce (e.pickedFrom c' writer requested))
        (Turn.sendBatch _ c' nonce (e'.pickedFrom c' writer requested))
      rw [h.pickedFrom]
      exact shows_sendBatch e e' _ sink nonce _
  | generateAck c' writer =>
    obtain rfl := Option.some.inj hc
    rw [act, Act.runOn, Act.runOn, Engine.generateAck_apply, Engine.generateAck_apply]
    refine habout ?_
    show Shows (Engine.sendIds _ (.ack (e.pickedAcks c' writer).2.ids) (e.pickedAcks c' writer).1 _)
      (Engine.sendIds _ (.ack (e'.pickedAcks c' writer).2.ids) (e'.pickedAcks c' writer).1 _)
    rw [h.pickedAcks]
    exact shows_sendIds e e' [] sink _ _ _ _
  | receiveAck c' batches =>
    obtain rfl := Option.some.inj hc
    rw [act, Act.runOn, Act.runOn, Engine.receiveAck_apply, Engine.receiveAck_apply]
    exact habout ⟨rfl, congrArg (List.map _) (h.store.ackedAmong batches), rfl⟩
  | findLost c' =>
    obtain rfl := Option.some.inj hc
    rw [act, Act.runOn, Act.runOn, Engine.findLost_apply, Engine.findLost_apply]
    dsimp only
    rw [h.config, h.now, h.store.lostOf, h.store.lostAmong]
    exact habout ⟨rfl, rfl, rfl⟩
  | generateOffer c' writer =>
    obtain rfl := Option.some.inj hc
    rw [act, Act.runOn, Act.runOn, Engine.generateOffer_apply, Engine.generateOffer_apply]
    refine habout ?_
    dsimp only
    rw [h.store.candidates h.left h.right, h.config]
    exact shows_sendIds e e' [] sink _ _ _ _
  | receiveOffer c' offer =>
    obtain rfl := Option.some.inj hc
    rw [act, Act.runOn, Act.runOn, Engine.receiveOffer_apply, Engine.receiveOffer_apply]
    dsimp only
    rw [h.openOffers]
    by_cases hopen : c' ∈ e'.openOffers
    · rw [if_pos hopen, if_pos hopen]
      exact ⟨rfl, rfl, rfl⟩
    · rw [if_neg hopen, if_neg hopen]
      refine habout ?_
      rw [h.store.missingAmong]
      exact shows_send sink _ _ rfl rfl
  | generateSubscriptions c' =>
    obtain rfl := Option.some.inj hc
    rw [act, Act.runOn, Act.runOn, Engine.generateSubscriptions_apply,
      Engine.generateSubscriptions_apply]
    refine habout ?_
    dsimp only
    rw [h.store.subscriptions, h.store.subscriptionsAt]
    exact shows_send sink _ _ rfl rfl
  | generateTransports _ => cases hplain
  | _ => cases hc

end Operation

end MessageSync
