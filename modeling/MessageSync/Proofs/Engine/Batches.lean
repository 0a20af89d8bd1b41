import MessageSync.Proofs.Engine.Basic
import MessageSync.Proofs.Store.Frame

/-!
# Running operations on batches, offers and requests

What sending, acknowledging, losing, offering and requesting come to over a store in
memory. `pick` is the choice of messages for a batch, and `Turn.sendBatch` what becomes
of the batch when it is written.
-/

namespace MessageSync

/-! ## Choosing -/

/-- Puts messages into a batch in turn, up to the first that does not fit; those that
`find` does not find are passed over. -/
def pick (find : MessageId → Option Bytes) (writer : BatchWriter) :
    List MessageId → List MessageId × BatchWriter
  | [] => ([], writer)
  | id :: rest =>
    match find id with
    | none => pick find writer rest
    | some raw =>
      match writer.write raw with
      | none => ([], writer)
      | some writer => (id :: (pick find writer rest).1, (pick find writer rest).2)

lemma pick_sublist (find : MessageId → Option Bytes) (ids : List MessageId)
    (writer : BatchWriter) : (pick find writer ids).1.Sublist ids := by
  induction ids generalizing writer with
  | nil => exact List.Sublist.slnil
  | cons id rest ih =>
    unfold pick
    split
    · exact (ih writer).cons id
    · split
      · exact List.nil_sublist _
      · next writer' _ => exact (ih writer').cons_cons id

/-- What was written so far, and then the picked messages in order. -/
lemma pick_messages (find : MessageId → Option Bytes) (ids : List MessageId)
    (writer : BatchWriter) :
    ∃ raws, (pick find writer ids).2.messages = writer.messages ++ raws ∧
      (pick find writer ids).1.map find = raws.map some := by
  induction ids generalizing writer with
  | nil => exact ⟨[], (List.append_nil _).symm, rfl⟩
  | cons id rest ih =>
    unfold pick
    split
    · exact ih writer
    · next raw hfind =>
      split
      · exact ⟨[], (List.append_nil _).symm, rfl⟩
      · next writer' hwrite =>
        obtain ⟨raws, hraws, hmap⟩ := ih writer'
        have hmessages : writer'.messages = writer.messages ++ [raw] := by
          unfold BatchWriter.write at hwrite
          split at hwrite
          · cases hwrite
          · rw [← Option.some.inj hwrite]
        refine ⟨raw :: raws, ?_, ?_⟩
        · rw [hraws, hmessages, List.append_assoc]
          rfl
        · rw [List.map_cons, List.map_cons, hfind, hmap]

namespace SentBatch

variable {batch batch' : SentBatch}

lemma recorded?_of_ne_nil (h : batch.messages ≠ []) : batch.recorded? = some batch := if_neg h

lemma recorded?_eq_none_iff : batch.recorded? = none ↔ batch.messages = [] := by
  unfold recorded?
  split <;> simp [*]

lemma recorded?_eq_some_iff :
    batch.recorded? = some batch' ↔ batch.messages ≠ [] ∧ batch = batch' :=
  Option.ite_none_left_eq_some.trans (and_congr_right fun _ => Option.some_inj)

/-- A batch that is not recorded has no messages. -/
lemma messages_recorded? (batch : SentBatch) :
    (batch.recorded?.map messages).getD [] = batch.messages := by
  by_cases h : batch.messages = []
  · rw [recorded?_eq_none_iff.mpr h, h]
    rfl
  · rw [recorded?_of_ne_nil h]
    rfl

end SentBatch

/-- The changes that come with a batch that was written. -/
def sending (c : ContactId) (batch : SentBatch) (now : Int64) : List Change :=
  if batch.messages = [] then [] else [.send c batch.id batch.messages now]

/-- The events that come with a batch that was written. -/
def sentEvents (c : ContactId) (batch : SentBatch) : List Event :=
  if batch.messages = [] then [] else [.batchSent c batch.id batch.messages.length]

/-- What comes of writing a batch of picked messages. -/
def Turn.sendBatch (t : Turn Memory) (c : ContactId) (nonce : Nonce)
    (picked : List MessageId × BatchWriter) : Except SyncError SentBatch × Turn Memory :=
  let batch : SentBatch := ⟨(picked.2.batch nonce).id, picked.1⟩
  match t.sink.send (.batch (picked.2.batch nonce)) with
  | (.ok (), sink) =>
    (.ok batch, { t.after (sending c batch t.engine.now) (sentEvents c batch) with sink })
  | (.error e, sink) => (.error (.sink e), { t with sink })

/-! ## What is counted -/

namespace Memory

/-- The batches among some acknowledged ones that had a visible message. -/
def ackedAmong (s : Memory) (c : ContactId) : List BatchId → List BatchId
  | [] => []
  | b :: rest =>
    let acked := (s.removeAckedBatch c b).2.ackedAmong c rest
    if (s.removeAckedBatch c b).1.isEmpty then acked else b :: acked

/-- The batches that are lost when some are in turn, and how many messages each returns. -/
def lostAmong (s : Memory) (c : ContactId) (cutoff : Int64) : List BatchId → List (BatchId × Nat)
  | [] => []
  | b :: rest =>
    let lost := (s.removeLostBatch c b cutoff).2.lostAmong c cutoff rest
    match (s.removeLostBatch c b cutoff).1 with
    | none => lost
    | some ids => (b, ids.length) :: lost

/-- The batches that count as lost. -/
def lostOf (s : Memory) (c : ContactId) (cutoff : Int64) : List BatchId :=
  ((s.outstandingOf c).filter fun b => b.sentAt ≤ cutoff).map OutstandingBatch.id

/-- The messages to try for a batch of at most `capacity` bytes. -/
def candidates (s : Memory) (c : ContactId) (capacity : Nat) : List MessageId :=
  (Message.takeWithin capacity (s.eligible c)).map Message.id

end Memory

namespace Engine

open Act

variable (t : Turn Memory)

/-! ## Sending -/

lemma fill_apply {find : MessageId → Query Memory (Option Bytes)}
    {found : Memory → MessageId → Option Bytes}
    (hfind : ∀ id s, find id s = (.ok (found s id), s)) (ids : List MessageId)
    (writer : BatchWriter) (s : Memory) (sink : Sink) :
    Engine.fill find writer ids (s, sink) = (.ok (pick (found s) writer ids), (s, sink)) := by
  have hquery (id : MessageId) : Txn.query (find id) (s, sink) =
      (.ok (found s id), (s, sink)) := by
    simp only [Txn.query, hfind]
  induction ids generalizing writer with
  | nil => rfl
  | cons id rest ih =>
    simp only [Engine.fill, Txn.bind_apply, hquery, pick]
    cases found s id with
    | none => exact ih writer
    | some raw =>
      cases hwrite : writer.write raw with
      | none => simp [hwrite]
      | some writer' => simp [hwrite, Txn.map_apply, ih]

lemma finishBatch_apply (c : ContactId) (writer : BatchWriter) (nonce : Nonce)
    (sent : List MessageId) (now : Int64) (s : Memory) (sink : Sink) :
    Engine.finishBatch c writer nonce sent now (s, sink) =
      let batch : SentBatch := ⟨(writer.batch nonce).id, sent⟩
      match sink.send (.batch (writer.batch nonce)) with
      | (.ok (), sink) => (.ok batch, (s.changes (sending c batch now), sink))
      | (.error e, sink) => (.error (.sink e), (s, sink)) := by
  have hadd (b : BatchId) (sink : Sink) :
      Txn.query (Store.addOutstandingBatch c b sent now) (s, sink) =
        (.ok (), (s.addOutstandingBatch c b sent now, sink)) := rfl
  simp only [Engine.finishBatch, Txn.bind_apply, Txn.write, BatchWriter.finish, sending]
  rcases sink.send (.batch (writer.batch nonce)) with ⟨_ | _, sink⟩
  · rfl
  · by_cases hsent : sent = []
    · simp [hsent]
    · simp [hsent, Txn.bind_apply, hadd, Memory.change]

lemma reportSent_apply (c : ContactId) (batch : SentBatch) :
    Engine.reportSent c batch t = (.ok (), t.after [] (sentEvents c batch)) := by
  unfold Engine.reportSent sentEvents
  by_cases h : batch.messages = []
  · simp [h]
  · simp [h, Turn.after]

/-- Both ways of choosing messages for a batch end like this. -/
lemma sendBatch_apply (c : ContactId) (nonce : Nonce) {body : Txn Memory SentBatch}
    {picked : List MessageId × BatchWriter}
    (hbody : body (t.engine.store, t.sink) =
      finishBatch c picked.2 nonce picked.1 t.engine.now (t.engine.store, t.sink)) :
    (transaction body >>= fun batch => reportSent c batch >>= fun _ => pure batch) t =
      t.sendBatch c nonce picked := by
  simp only [bind_apply, transaction, hbody, finishBatch_apply, Turn.sendBatch]
  rcases t.sink.send (.batch (picked.2.batch nonce)) with ⟨_ | _, sink⟩
  · rfl
  · simp [reportSent_apply, Turn.after]

lemma sendOldest_apply (c : ContactId) (writer : BatchWriter) (nonce : Nonce) :
    Engine.sendOldest c writer nonce t =
      let s := t.engine.store
      if c ∈ s.contacts then
        t.sendBatch c nonce <| pick (fun id => (s.messages[id]?).map Message.raw) writer <|
          s.candidates c writer.capacity
      else (.error (.noSuchContact c), t) := by
  rw [Engine.sendOldest, bind_apply, clock_apply]
  by_cases hc : c ∈ t.engine.store.contacts
  · simp only [hc, if_true]
    rw [bind_apply, transaction_requireContact, if_pos hc, ← bind_apply]
    apply sendBatch_apply t c nonce
    have hcandidates : Txn.query (Store.sendableMessages c writer.capacity)
        (t.engine.store, t.sink) =
        (.ok (t.engine.store.candidates c writer.capacity), (t.engine.store, t.sink)) := rfl
    have hraw (id : MessageId) (s : Memory) : Store.rawMessage id s =
        (.ok ((s.messages[id]?).map Message.raw), s) := rfl
    simp only [Txn.bind_apply, hcandidates, fill_apply hraw]
  · simp only [bind_apply, transaction_requireContact, hc, if_false]

/-- The answer of sending a batch has the batch if it has messages. -/
lemma generateBatch_apply {σ : Type} [Store σ] (c : ContactId) (writer : BatchWriter)
    (nonce : Nonce) (t : Turn σ) :
    Engine.generateBatch c writer nonce t =
      ((sendOldest c writer nonce t).1.map SentBatch.recorded?, (sendOldest c writer nonce t).2) :=
  bind_pure_apply _ _ t

lemma generateBatch_runOn_eq {σ : Type} [Store σ] (e : Engine σ) (sink : Sink) (c : ContactId)
    (writer : BatchWriter) (nonce : Nonce) :
    let sent := (sendOldest c writer nonce).runOn e sink
    (generateBatch c writer nonce).runOn e sink = (sent.1.map SentBatch.recorded?, sent.2) := by
  rw [Act.runOn, Act.runOn, generateBatch_apply]

/-- An answer to sending a batch comes of a batch that was written. -/
lemma exists_of_generateBatch {σ : Type} [Store σ] {e : Engine σ} {sink : Sink} {c : ContactId}
    {writer : BatchWriter} {nonce : Nonce} {answer : Option SentBatch}
    (h : ((generateBatch c writer nonce).runOn e sink).1 = .ok answer) :
    ∃ batch, ((sendOldest c writer nonce).runOn e sink).1 = .ok batch ∧
      answer = batch.recorded? := by
  rw [generateBatch_runOn_eq] at h
  cases hsent : ((sendOldest c writer nonce).runOn e sink).1 with
  | error x =>
    rw [hsent] at h
    cases h
  | ok batch =>
    rw [hsent] at h
    exact ⟨batch, rfl, (Except.ok.inj h).symm⟩

lemma generateBatchFrom_apply (c : ContactId) (writer : BatchWriter) (nonce : Nonce)
    (requested : List MessageId) :
    Engine.generateBatchFrom c writer nonce requested t =
      let s := t.engine.store
      if c ∈ s.contacts then
        t.sendBatch c nonce (pick (s.rawIfSendable c) writer requested.eraseDups)
      else (.error (.noSuchContact c), t) := by
  rw [Engine.generateBatchFrom, bind_apply, clock_apply]
  by_cases hc : c ∈ t.engine.store.contacts
  · simp only [hc, if_true]
    rw [bind_apply, transaction_requireContact, if_pos hc, ← bind_apply]
    apply sendBatch_apply t c nonce
    have hraw (id : MessageId) (s : Memory) : Store.rawIfSendable c id s =
        (.ok (s.rawIfSendable c id), s) := rfl
    simp only [Txn.bind_apply, fill_apply hraw]
  · simp only [bind_apply, transaction_requireContact, hc, if_false]

/-! ## Acknowledging -/

lemma writeAll_snd {kind : IdKind} (ids : List (Id kind)) (w : IdWriter kind) :
    (w.writeAll ids).2.ids = w.ids ++ (w.writeAll ids).1 := by
  induction ids generalizing w with
  | nil => exact (List.append_nil _).symm
  | cons id rest ih =>
    unfold IdWriter.writeAll IdWriter.write
    by_cases hfull : w.most ≤ w.ids.length
    · simp [hfull]
    · simp [hfull, ih]

/-- As many identifiers are written as there is room for. -/
lemma writeAll_fst {kind : IdKind} (ids : List (Id kind)) (w : IdWriter kind) :
    (w.writeAll ids).1 = ids.take (w.most - w.ids.length) := by
  induction ids generalizing w with
  | nil => exact List.take_nil.symm
  | cons id rest ih =>
    unfold IdWriter.writeAll IdWriter.write
    by_cases hfull : w.most ≤ w.ids.length
    · simp [hfull]
    · obtain ⟨room, hroom⟩ : ∃ room, w.most - w.ids.length = room + 1 :=
        ⟨w.most - w.ids.length - 1, by omega⟩
      have hrest : w.most - (w.ids.length + 1) = room := by omega
      simp [hfull, ih, hroom, hrest]

lemma mem_of_mem_writeAll {kind : IdKind} {ids : List (Id kind)} {w : IdWriter kind}
    {id : Id kind} (h : id ∈ (w.writeAll ids).1) : id ∈ ids := by
  induction ids generalizing w with
  | nil => cases h
  | cons a rest ih =>
    unfold IdWriter.writeAll at h
    split at h
    · cases h
    · rcases List.mem_cons.mp h with heq | hrest
      · exact heq ▸ List.mem_cons_self
      · exact List.mem_cons_of_mem a (ih hrest)

/-- What comes of writing an ack or an offer of identifiers that are answered. -/
def sendIds {kind : IdKind} (t : Turn Memory) (packet : Packet) (ids : List (Id kind))
    (log : List Change) : Except SyncError (List (Id kind)) × Turn Memory :=
  match t.sink.send packet with
  | (.ok (), sink) => (.ok ids, { t.after log [] with sink })
  | (.error e, sink) => (.error (.sink e), { t with sink })

lemma generateAck_apply (c : ContactId) (writer : IdWriter .batch) :
    Engine.generateAck c writer t =
      let acked := writer.writeAll ((t.engine.store.toAckOf c).take t.engine.config.maxAckIds)
      if c ∈ t.engine.store.contacts then
        sendIds t (.ack acked.2.ids) acked.1 [.settle c acked.1]
      else (.error (.noSuchContact c), t) := by
  rw [Engine.generateAck, bind_apply, settings_apply]
  simp only [transaction_requireContact]
  split
  · have hpending (s : Memory) (sink : Sink) : Txn.query (Store.batchesToAck c) (s, sink) =
        (.ok (s.toAckOf c), (s, sink)) := rfl
    have hsettle (ids : List BatchId) (s : Memory) (sink : Sink) :
        Txn.query (Store.removeBatchesToAck c ids) (s, sink) =
          (.ok (), (s.change (.settle c ids), sink)) := rfl
    simp only [transaction, Txn.bind_apply, hpending, Txn.write, IdWriter.finish, sendIds]
    rcases t.sink.send (.ack _) with ⟨_ | _, sink⟩
    · rfl
    · simp [hsettle, Turn.after]
  · rfl

lemma removeAcked_apply (c : ContactId) (ids : List BatchId) (s : Memory) (sink : Sink) :
    Engine.removeAcked c ids (s, sink) =
      (.ok (s.ackedAmong c ids), (s.changes (ids.map (.ack c)), sink)) := by
  induction ids generalizing s with
  | nil => rfl
  | cons b rest ih =>
    have hremove : Txn.query (Store.removeAckedBatch c b) (s, sink) =
        (.ok (s.removeAckedBatch c b).1, ((s.removeAckedBatch c b).2, sink)) := rfl
    simp only [Engine.removeAcked, Txn.bind_apply, hremove, ih]
    rfl

lemma receiveAck_apply (c : ContactId) (ids : List BatchId) :
    Engine.receiveAck c ids t =
      if c ∈ t.engine.store.contacts then
        (.ok (), t.after (ids.map (.ack c))
          ((t.engine.store.ackedAmong c ids).map (Event.batchAcked c)))
      else (.error (.noSuchContact c), t) := by
  rw [Engine.receiveAck, bind_apply, transaction_requireContact]
  by_cases hc : c ∈ t.engine.store.contacts
  · simp only [hc, if_true, transaction, removeAcked_apply, emitAll_apply]
    rfl
  · simp only [hc, if_false]

/-! ## Losing -/

lemma loseBatch_apply {c : ContactId} (hc : c ∈ t.engine.store.contacts) (cutoff : Int64)
    (b : BatchId) :
    Engine.loseBatch c cutoff b t =
      match (t.engine.store.removeLostBatch c b cutoff).1 with
      | none => (.ok false, t.after [.lose c b cutoff] [])
      | some ids => (.ok true, t.after [.lose c b cutoff] [.batchLost c b ids.length]) := by
  have hask : ask (Store.removeLostBatch c b cutoff) t =
      (.ok (t.engine.store.removeLostBatch c b cutoff).1, t.after [.lose c b cutoff] []) :=
    ask_change rfl
  rw [Engine.loseBatch, bind_apply, askAbout_apply, if_pos hc, hask]
  cases (t.engine.store.removeLostBatch c b cutoff).1 with
  | none => rfl
  | some ids => simp [bind_apply, Turn.after]

lemma loseAll_apply {c : ContactId} (cutoff : Int64) (ids : List BatchId) (t : Turn Memory)
    (hc : c ∈ t.engine.store.contacts) :
    Engine.loseAll c cutoff (pure ()) ids t =
      let lost := t.engine.store.lostAmong c cutoff ids
      (.ok (lost.map Prod.fst), t.after (ids.map (.lose c · cutoff))
        (lost.map fun e => .batchLost c e.1 e.2)) := by
  induction ids generalizing t with
  | nil => simp [Engine.loseAll, Memory.lostAmong]
  | cons b rest ih =>
    have hcontacts : (t.engine.store.change (.lose c b cutoff)).contacts =
        t.engine.store.contacts := (Memory.contacts_change (by simp [Change.parts])).1
    -- the contact is still there for the rest of the batches
    have hc' (events : List Event) :
        c ∈ (t.after [.lose c b cutoff] events).engine.store.contacts := by
      show c ∈ (t.engine.store.change (.lose c b cutoff)).contacts
      rw [hcontacts]
      exact hc
    rw [Engine.loseAll, bind_apply, loseBatch_apply t hc]
    unfold Memory.lostAmong
    cases (t.engine.store.removeLostBatch c b cutoff).1 with
    | none =>
      simp only [Bool.false_eq_true, if_false, ih _ (hc' _)]
      rw [Turn.after_after]
      rfl
    | some batch =>
      simp only [if_true, bind_apply, pure_apply, ih _ (hc' _)]
      rw [Turn.after_after]
      rfl

lemma findLost_apply (c : ContactId) :
    Engine.findLost c t =
      let cutoff := lossCutoff t.engine.config t.engine.now
      let ids := t.engine.store.lostOf c cutoff
      let lost := t.engine.store.lostAmong c cutoff ids
      if c ∈ t.engine.store.contacts then
        (.ok (lost.map Prod.fst), t.after (ids.map (.lose c · cutoff))
          (lost.map fun e => .batchLost c e.1 e.2))
      else (.error (.noSuchContact c), t) := by
  have hask (cutoff : Int64) : ask (Store.lostBatches c cutoff) t =
      (.ok (t.engine.store.lostOf c cutoff), t) := rfl
  simp only [Engine.findLost, Engine.findLostHeard, bind_apply, settings_apply, clock_apply,
    Engine.lostCandidates, askAbout_apply]
  by_cases hc : c ∈ t.engine.store.contacts
  · simp only [hc, if_true, hask, loseAll_apply _ _ t hc]
  · simp only [hc, if_false]

/-! ## Offering and requesting -/

lemma generateOffer_apply (c : ContactId) (writer : IdWriter .message) :
    Engine.generateOffer c writer t =
      let candidates := t.engine.store.candidates c Store.unlimited
      let offered := writer.writeAll (candidates.take t.engine.config.maxOfferIds)
      if c ∈ t.engine.store.contacts then sendIds t (.offer offered.2.ids) offered.1 []
      else (.error (.noSuchContact c), t) := by
  rw [Engine.generateOffer, bind_apply, settings_apply]
  simp only [transaction_requireContact]
  split
  · have hcandidates (s : Memory) (sink : Sink) :
        Txn.query (Store.sendableMessages c Store.unlimited) (s, sink) =
          (.ok (s.candidates c Store.unlimited), (s, sink)) := rfl
    simp only [transaction, Txn.bind_apply, hcandidates, Txn.write, IdWriter.finish, sendIds,
      Turn.after_nil]
    rcases t.sink.send (.offer _) with ⟨_ | _, sink⟩ <;> rfl
  · rfl

lemma receiveRequest_apply (c : ContactId) (offer : List MessageId) (request : Request)
    (writer : BatchWriter) (nonce : Nonce) :
    Engine.receiveRequest c offer request writer nonce t =
      match request.requestedIds offer with
      | none => (.error (.violation (.requestMismatch request.size offer.length)), t)
      | some requested =>
        Engine.generateBatchFrom c writer nonce requested
          (t.after [] [.messagesRequested c requested.length]) := by
  unfold Engine.receiveRequest Request.appliedTo
  cases request.requestedIds offer with
  | none => simp only [throw_apply]
  | some requested => simp only [bind_apply, emit_apply, Turn.after, Memory.changes_nil]

/-- Which of the offered messages a contact may not see. -/
def missingAmong (s : Memory) (c : ContactId) (offer : List MessageId) : List Bool :=
  offer.map fun id => !s.deliveries.contains ⟨c, id⟩

lemma flagMissing_apply (c : ContactId) (offer : List MessageId) (s : Memory) (sink : Sink) :
    Engine.flagMissing c offer (s, sink) =
      (.ok (missingAmong s c offer), (s.changes (offer.map (.see c)), sink)) := by
  induction offer generalizing s with
  | nil => rfl
  | cons id rest ih =>
    have hsee : Txn.query (Store.setSeenIfVisible c id) (s, sink) =
        (.ok (s.deliveries.contains ⟨c, id⟩), ((s.setSeenIfVisible c id).2, sink)) := rfl
    have hsame : missingAmong (s.setSeenIfVisible c id).2 c rest = missingAmong s c rest := by
      unfold missingAmong Memory.setSeenIfVisible
      simp only [Std.ExtTreeMap.contains_modify]
    simp only [Engine.flagMissing, Txn.bind_apply, hsee, ih, hsame]
    rfl

lemma receiveOffer_apply (c : ContactId) (offer : List MessageId) :
    Engine.receiveOffer c offer t =
      if c ∈ t.engine.openOffers then (.error (.violation (.concurrentOffer c)), t)
      else if c ∈ t.engine.store.contacts then
        let request := Request.ofFlags (missingAmong t.engine.store c offer)
        match t.sink.send (.request request) with
        | (.ok (), sink) => (.ok request, { t.after (offer.map (.see c)) [] with sink })
        | (.error e, sink) => (.error (.sink e), { t.after (offer.map (.see c)) [] with sink })
      else (.error (.noSuchContact c), t) := by
  simp only [Engine.receiveOffer, Engine.receiveOfferWhile, bind_apply, Engine.inOfferRound,
    Std.ExtTreeMap.contains_iff_mem]
  by_cases hopen : c ∈ t.engine.openOffers
  · simp only [hopen, if_true]
  · -- the round leaves no trace
    have hround : (t.engine.openOffers.insert c ()).erase c = t.engine.openOffers :=
      Table.erase_insert hopen ()
    simp only [hopen, if_false, transaction_requireContact]
    by_cases hc : c ∈ t.engine.store.contacts
    · simp only [hc, if_true, transaction, flagMissing_apply, Act.send, pure_apply]
      rcases t.sink.send _ with ⟨_ | _, sink⟩
      · simp [hround, Turn.after]
      · simp [hround, Turn.after]
    · simp [hc, hround]

end Engine

end MessageSync
