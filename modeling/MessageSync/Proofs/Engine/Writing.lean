import MessageSync.Proofs.Engine.Backend

/-!
# What operations write

`Step.wrote` lists what a step writes for a contact, as bytes, and `Step.committed` the batches
of a contact that it stores. Over a store in memory, `Operation.packet` is the packet that an
operation writes: what is written is the encoding of that packet (`Operation.mem_wrote`), and
that of a batch is written when the batch is sent (`Operation.wrote_of_sent`).
-/

namespace MessageSync

/-! ## Packets and batches of a step -/

namespace Operation

variable {σ : Type} [Store σ]

/-- The contact that an operation writes a batch, an ack, an offer or a request for. -/
def recipient : {α : Type} → Operation α → Option ContactId
  | _, .generateBatch c _ _ | _, .generateBatchFrom c _ _ _ | _, .generateAck c _
  | _, .generateOffer c _ | _, .receiveOffer c _ | _, .receiveRequest c _ _ _ _ => some c
  | _, _ => none

/-- Whether an operation with this answer wrote all of its packet. A sink that fails to flush
took the packet before. -/
def wroteAll {α : Type} : Except SyncError α → Bool
  | .ok _ | .error (.sink .flushFailed) => true
  | .error _ => false

/-- The bytes that an operation writes for a contact, unless the packet is cut short. -/
def wrote (e : Engine σ) (sink : Sink) (c : ContactId) {α : Type} (operation : Operation α) :
    List Bytes :=
  if operation.recipient = some c ∧ wroteAll (operation.act.runOn e sink).1 then
    [(operation.act.runOn e sink).2.sink.taken.drop sink.taken.length]
  else []

/-- The batches of a contact that an operation stores, and is done with. -/
def committed (e : Engine σ) (sink : Sink) (c : ContactId) :
    {α : Type} → Operation α → List ReceivedBatch
  | _, .receiveBatch c' batch =>
    match ((receiveBatch c' batch).act.runOn e sink).1 with
    | .ok (.passed _) => if c' = c then [batch] else []
    | _ => []
  | _, _ => []

end Operation

namespace Step

variable {σ : Type} [Store σ]

/-- What a step writes for a contact. -/
def wrote (e : Engine σ) (c : ContactId) : Step → List Bytes
  | .perform operation sink => operation.wrote e sink c
  | _ => []

/-- The batches of a contact that a step stores. -/
def committed (e : Engine σ) (c : ContactId) : Step → List ReceivedBatch
  | .perform operation sink => operation.committed e sink c
  | _ => []

end Step

/-! ## Sinks -/

/-- Whether a sink has room for a packet, and can be flushed. -/
def Sink.Takes (sink : Sink) (packet : Packet) : Prop :=
  (∀ limit, sink.limit = some limit → packet.encode.length ≤ limit - sink.taken.length) ∧
    sink.flushFails = false

/-- A packet is sent exactly if the sink takes it. -/
lemma Sink.send_eq_ok_iff (sink : Sink) (packet : Packet) :
    (sink.send packet).1 = .ok () ↔ sink.Takes packet := by
  unfold send write Takes
  cases sink.limit with
  | none => cases sink.flushFails <;> simp
  | some limit =>
    dsimp only
    by_cases hroom : packet.encode.length ≤ limit - sink.taken.length
    · rw [if_pos hroom]
      cases sink.flushFails <;> simp [hroom]
    · rw [if_neg hroom]
      simp [hroom]

/-- A sink has all of a packet unless it closed. -/
lemma Sink.taken_send (sink : Sink) (packet : Packet) (h : (sink.send packet).1 ≠ .error .closed) :
    (sink.send packet).2.taken = sink.taken ++ packet.encode := by
  unfold send write at h ⊢
  cases hlimit : sink.limit with
  | none =>
    dsimp only
    split <;> rfl
  | some limit =>
    simp only [hlimit] at h
    dsimp only at h ⊢
    by_cases hroom : packet.encode.length ≤ limit - sink.taken.length
    · rw [if_pos hroom]
      dsimp only
      split <;> rfl
    · rw [if_neg hroom] at h
      exact absurd rfl h

/-- A sink has a part of a packet, from its beginning. -/
lemma Sink.exists_taken_send (sink : Sink) (packet : Packet) :
    ∃ n, (sink.send packet).2.taken = sink.taken ++ packet.encode.take n := by
  unfold send write
  cases sink.limit with
  | none =>
    refine ⟨packet.encode.length, ?_⟩
    rw [List.take_length]
    dsimp only
    split <;> rfl
  | some limit =>
    dsimp only
    by_cases hroom : packet.encode.length ≤ limit - sink.taken.length
    · refine ⟨packet.encode.length, ?_⟩
      rw [if_pos hroom, List.take_length]
      dsimp only
      split <;> rfl
    · rw [if_neg hroom]
      exact ⟨limit - sink.taken.length, rfl⟩

/-! ## Packets over a store in memory -/

/-- The messages for an offer. -/
def Engine.pickedOffer (e : Engine Memory) (c : ContactId) (writer : IdWriter .message) :
    List MessageId × IdWriter .message :=
  writer.writeAll ((e.store.candidates c Store.unlimited).take e.config.maxOfferIds)

namespace Operation

/-- The packet that an operation writes, unless it fails before. -/
def packet (e : Engine Memory) : {α : Type} → Operation α → Option Packet
  | _, .generateBatch c writer nonce => some (.batch ((e.picked c writer).2.batch nonce))
  | _, .generateBatchFrom c writer nonce requested =>
    some (.batch ((e.pickedFrom c writer requested).2.batch nonce))
  | _, .generateAck c writer => some (.ack (e.pickedAcks c writer).2.ids)
  | _, .generateOffer c writer => some (.offer (e.pickedOffer c writer).2.ids)
  | _, .receiveOffer c offer =>
    some (.request (.ofFlags (Engine.missingAmong e.store c offer)))
  | _, .receiveRequest c offer request writer nonce =>
    (request.requestedIds offer).map fun requested =>
      .batch ((e.pickedFrom c writer requested).2.batch nonce)
  | _, _ => none

/-- Whether a run left a sink alone, or handed a packet to it. A run that wrote all of its
packet handed it over, and the sink did not close. -/
def Hands {α : Type} (sink : Sink) (packet : Packet) (r : Except SyncError α × Turn Memory) :
    Prop :=
  (r.2.sink = sink ∧ ¬ wroteAll r.1) ∨
    (r.2.sink = (sink.send packet).2 ∧ (wroteAll r.1 → (sink.send packet).1 ≠ .error .closed))

section
variable {α : Type} {t : Turn Memory} {packet : Packet} {r : Except SyncError α × Turn Memory}

/-- An operation about a contact that does not exist leaves the sink alone. -/
lemma hands_about {c : ContactId} (h : Hands t.sink packet r) : Hands t.sink packet
    (if c ∈ t.engine.store.contacts then r else (.error (.noSuchContact c), t)) := by
  split
  · exact h
  · exact .inl ⟨rfl, Bool.false_ne_true⟩

/-- What is read off the answer makes no difference. -/
lemma Hands.map {β : Type} {sink : Sink} (h : Hands sink packet r) (f : α → β) :
    Hands sink packet (r.1.map f, r.2) := by
  have hall : wroteAll (r.1.map f) = wroteAll r.1 := by
    cases r.1 with
    | ok a => rfl
    | error e =>
      cases e with
      | sink e => cases e <;> rfl
      | _ => rfl
  unfold Hands at h ⊢
  rw [hall]
  exact h

/-- Sending a packet hands it over, whatever else comes of it. -/
lemma hands_send (sink : Sink) (packet : Packet) (a : α) (t t' : Turn Memory) :
    Hands sink packet <|
      match sink.send packet with
      | (.ok (), sink) => (.ok a, { t with sink })
      | (.error e, sink) => (.error (.sink e), { t' with sink }) := by
  unfold Hands
  rcases sink.send packet with ⟨_ | _, sink'⟩
  · refine .inr ⟨rfl, fun hall hclosed => ?_⟩
    rw [Except.error.inj hclosed] at hall
    cases hall
  · exact .inr ⟨rfl, fun _ h => by cases h⟩

lemma hands_sendBatch (t : Turn Memory) (c : ContactId) (nonce : Nonce)
    (picked : List MessageId × BatchWriter) :
    Hands t.sink (.batch (picked.2.batch nonce)) (t.sendBatch c nonce picked) :=
  hands_send t.sink _ _ _ t

lemma hands_sendIds {kind : IdKind} (t : Turn Memory) (packet : Packet) (ids : List (Id kind))
    (log : List Change) : Hands t.sink packet (Engine.sendIds t packet ids log) :=
  hands_send t.sink packet ids _ t

end

/-- An operation hands over its packet, or nothing. -/
lemma hands_packet {α : Type} {operation : Operation α} {e : Engine Memory} {packet : Packet}
    (h : operation.packet e = some packet) (sink : Sink) :
    Hands sink packet (operation.act.runOn e sink) := by
  let t : Turn Memory := ⟨e, [], sink⟩
  cases operation with
  | generateBatch c writer nonce =>
    obtain rfl := Option.some.inj h
    rw [act, Act.runOn, Engine.generateBatch_apply, Engine.sendOldest_apply]
    exact (hands_about (t := t) (hands_sendBatch t c nonce _)).map SentBatch.recorded?
  | generateBatchFrom c writer nonce requested =>
    obtain rfl := Option.some.inj h
    rw [act, Act.runOn, Engine.generateBatchFrom_apply]
    exact hands_about (t := t) (hands_sendBatch t c nonce _)
  | generateAck c writer =>
    obtain rfl := Option.some.inj h
    rw [act, Act.runOn, Engine.generateAck_apply]
    exact hands_about (t := t) (hands_sendIds t _ _ _)
  | generateOffer c writer =>
    obtain rfl := Option.some.inj h
    rw [act, Act.runOn, Engine.generateOffer_apply]
    exact hands_about (t := t) (hands_sendIds t _ _ _)
  | receiveOffer c offer =>
    obtain rfl := Option.some.inj h
    rw [act, Act.runOn, Engine.receiveOffer_apply]
    by_cases hopen : c ∈ t.engine.openOffers
    · rw [if_pos hopen]
      exact .inl ⟨rfl, Bool.false_ne_true⟩
    · rw [if_neg hopen]
      exact hands_about (t := t) (hands_send sink _ _ _ _)
  | receiveRequest c offer request writer nonce =>
    obtain ⟨requested, hrequested, rfl⟩ := Option.map_eq_some_iff.mp h
    let t' : Turn Memory := t.after [] [.messagesRequested c requested.length]
    rw [act, Act.runOn, Engine.receiveRequest_apply, hrequested]
    dsimp only
    rw [Engine.generateBatchFrom_apply]
    exact hands_about (t := t') (hands_sendBatch t' c nonce _)
  | _ => cases h

section
variable {α : Type} {operation : Operation α} {e : Engine Memory} {packet : Packet}

/-- What an operation writes is its packet. -/
lemma writes_packet (h : operation.packet e = some packet) (sink : Sink)
    (hall : wroteAll (operation.act.runOn e sink).1) :
    (operation.act.runOn e sink).2.sink.taken = sink.taken ++ packet.encode := by
  rcases hands_packet h sink with ⟨-, hnot⟩ | ⟨hsink, hopen⟩
  · exact absurd hall hnot
  · rw [hsink]
    exact sink.taken_send packet (hopen hall)

/-- What an operation writes is a part of its packet, even if it fails. -/
lemma exists_taken (h : operation.packet e = some packet) (sink : Sink) :
    ∃ n, (operation.act.runOn e sink).2.sink.taken = sink.taken ++ packet.encode.take n := by
  rcases hands_packet h sink with ⟨hsink, -⟩ | ⟨hsink, -⟩
  · exact ⟨0, by rw [hsink, List.take_zero, List.append_nil]⟩
  · rw [hsink]
    exact sink.exists_taken_send packet

end

/-- An operation that writes has a packet. -/
lemma exists_packet {α : Type} {operation : Operation α} {e : Engine Memory} {sink : Sink}
    {c : ContactId} (hc : operation.recipient = some c)
    (hall : wroteAll (operation.act.runOn e sink).1) :
    ∃ packet, operation.packet e = some packet := by
  cases operation with
  | receiveRequest c offer request writer nonce =>
    cases hrequested : request.requestedIds offer with
    | none =>
      rw [act, Act.runOn, Engine.receiveRequest_apply, hrequested] at hall
      cases hall
    | some requested => exact ⟨_, congrArg (Option.map _) hrequested⟩
  | generateBatch _ _ _ | generateBatchFrom _ _ _ _ | generateAck _ _ | generateOffer _ _
  | receiveOffer _ _ => exact ⟨_, rfl⟩
  | _ => cases hc

/-- All that is written for a contact is the packet of the operation. -/
theorem mem_wrote {α : Type} {operation : Operation α} {e : Engine Memory} {sink : Sink}
    {c : ContactId} {bytes : Bytes} (h : bytes ∈ operation.wrote e sink c) :
    operation.recipient = some c ∧
      ∃ packet, operation.packet e = some packet ∧ bytes = packet.encode := by
  unfold wrote at h
  split at h
  · next hwrote =>
    obtain ⟨packet, hpacket⟩ := exists_packet hwrote.1 hwrote.2
    refine ⟨hwrote.1, packet, hpacket, ?_⟩
    rw [List.mem_singleton.mp h, writes_packet hpacket sink hwrote.2, List.drop_left]
  · cases h

/-- The packet of an operation that gives an answer is written. -/
lemma wrote_of_ok {α : Type} {operation : Operation α} {e : Engine Memory} {sink : Sink}
    {c : ContactId} {packet : Packet} {a : α} (hc : operation.recipient = some c)
    (hpacket : operation.packet e = some packet) (h : (operation.act.runOn e sink).1 = .ok a) :
    packet.encode ∈ operation.wrote e sink c := by
  have hall : wroteAll (operation.act.runOn e sink).1 := by rw [h, wroteAll]
  rw [wrote, if_pos ⟨hc, hall⟩, writes_packet hpacket sink hall, List.drop_left]
  exact List.mem_singleton.mpr rfl

/-! ## Batches that are sent -/

lemma ok_of_recorded {answer : Except SyncError SentBatch} {batch : SentBatch}
    (h : SentBatch.recorded answer = some batch) : answer = .ok batch := by
  cases answer with
  | error e => cases h
  | ok sent =>
    rw [(SentBatch.recorded?_eq_some_iff.mp h).2]

/-- The answer to sending a batch is what was picked. -/
lemma ok_sendBatch {t : Turn Memory} {c c' : ContactId} {nonce : Nonce}
    {picked : List MessageId × BatchWriter} {batch : SentBatch}
    (h : (if c ∈ t.engine.store.contacts then t.sendBatch c' nonce picked
      else (.error (.noSuchContact c), t)).1 = .ok batch) :
    batch = ⟨(picked.2.batch nonce).id, picked.1⟩ := by
  split at h
  · unfold Turn.sendBatch at h
    split at h
    · exact (Except.ok.inj h).symm
    · cases h
  · cases h

/-- The answer to writing identifiers is those that were picked. -/
lemma ok_sendIds {kind : IdKind} {t : Turn Memory} {c : ContactId} {packet : Packet}
    {ids ids' : List (Id kind)} {log : List Change}
    (h : (if c ∈ t.engine.store.contacts then Engine.sendIds t packet ids log
      else (.error (.noSuchContact c), t)).1 = .ok ids') : ids' = ids := by
  split at h
  · unfold Engine.sendIds at h
    split at h
    · exact (Except.ok.inj h).symm
    · cases h
  · cases h

end Operation

/-- Whether a batch has the raw forms of some stored messages. -/
def Batch.Carries (x : Batch) (s : Memory) (ids : List MessageId) : Prop :=
  ∀ id ∈ ids, ∃ m, s.messages[id]? = some m ∧ m.raw ∈ x.messages

namespace Engine

/-- A batch has the raw forms of the messages that were picked for it, if these were found in
the store. -/
lemma carries_pick {s : Memory} {find : MessageId → Option Bytes} {ids : List MessageId}
    {writer : BatchWriter} (nonce : Nonce)
    (hfind : ∀ id raw, find id = some raw → ∃ m, s.messages[id]? = some m ∧ m.raw = raw) :
    ((pick find writer ids).2.batch nonce).Carries s (pick find writer ids).1 := by
  intro id hid
  obtain ⟨raws, hmessages, hmap⟩ := pick_messages find ids writer
  have hfound : find id ∈ raws.map some := by
    rw [← hmap]
    exact List.mem_map_of_mem hid
  obtain ⟨raw, hraw, hsome⟩ := List.mem_map.mp hfound
  obtain ⟨m, hm, rfl⟩ := hfind id raw hsome.symm
  refine ⟨m, hm, ?_⟩
  show m.raw ∈ (pick find writer ids).2.messages
  rw [hmessages]
  exact List.mem_append_right _ hraw

variable (e : Engine Memory) (c : ContactId) (writer : BatchWriter) (nonce : Nonce)

lemma carries_picked :
    ((e.picked c writer).2.batch nonce).Carries e.store (e.picked c writer).1 :=
  carries_pick nonce fun _ _ h => Option.map_eq_some_iff.mp h

lemma carries_pickedFrom (requested : List MessageId) :
    ((e.pickedFrom c writer requested).2.batch nonce).Carries e.store
      (e.pickedFrom c writer requested).1 := by
  refine carries_pick nonce fun id raw h => ?_
  unfold Memory.rawIfSendable at h
  split at h
  · split at h
    · exact Option.map_eq_some_iff.mp h
    · cases h
  · cases h

end Engine

/-- A batch that is sent is written, with the raw forms of its messages. -/
theorem Operation.wrote_of_sent {α : Type} {operation : Operation α} {e : Engine Memory}
    {sink : Sink} {c : ContactId} {batch : SentBatch}
    (h : operation.sent e sink = some (c, batch)) :
    ∃ x : Batch, (Packet.batch x).encode ∈ operation.wrote e sink c ∧ x.id = batch.id ∧
      x.Carries e.store batch.messages := by
  cases operation with
  | generateBatch c' writer nonce =>
    rw [Engine.sent_eq_recorded] at h
    obtain ⟨batch, hrecorded, heq⟩ := Option.map_eq_some_iff.mp h
    obtain ⟨rfl, rfl⟩ := Prod.mk.inj heq
    have hok := ok_of_recorded hrecorded
    have hanswer : ((generateBatch c' writer nonce).act.runOn e sink).1 =
        .ok batch.recorded? := by
      rw [act, Engine.generateBatch_runOn_eq, hok, Except.map]
    -- there is an answer, so that the packet was written, and the answer is what was picked
    have hwrote := wrote_of_ok rfl rfl hanswer
    rw [Act.runOn, Engine.sendOldest_apply] at hok
    obtain rfl := ok_sendBatch hok
    exact ⟨_, hwrote, rfl, e.carries_picked c' writer nonce⟩
  | generateBatchFrom c' writer nonce requested =>
    obtain ⟨_, hrecorded, heq⟩ := Option.map_eq_some_iff.mp h
    obtain ⟨rfl, rfl⟩ := Prod.mk.inj heq
    have hok := ok_of_recorded hrecorded
    have hwrote := wrote_of_ok rfl rfl hok
    rw [act, Act.runOn, Engine.generateBatchFrom_apply] at hok
    obtain rfl := ok_sendBatch hok
    exact ⟨_, hwrote, rfl, e.carries_pickedFrom c' writer nonce requested⟩
  | receiveRequest c' offer request writer nonce =>
    obtain ⟨_, hrecorded, heq⟩ := Option.map_eq_some_iff.mp h
    obtain ⟨rfl, rfl⟩ := Prod.mk.inj heq
    have hok := ok_of_recorded hrecorded
    cases hrequested : request.requestedIds offer with
    | none =>
      rw [act, Act.runOn, Engine.receiveRequest_apply, hrequested] at hok
      cases hok
    | some requested =>
      have hpacket : (receiveRequest c' offer request writer nonce).packet e =
          some (.batch ((e.pickedFrom c' writer requested).2.batch nonce)) :=
        congrArg (Option.map _) hrequested
      have hwrote := wrote_of_ok rfl hpacket hok
      rw [act, Act.runOn, Engine.receiveRequest_apply, hrequested] at hok
      dsimp only at hok
      rw [Engine.generateBatchFrom_apply] at hok
      obtain rfl := ok_sendBatch hok
      exact ⟨_, hwrote, rfl, e.carries_pickedFrom c' writer nonce requested⟩
  | _ => cases h

/-! ## Batches that are stored -/

/-- A batch that is to be acknowledged was stored. -/
theorem Operation.committed_of_mem_log {α : Type} {operation : Operation α} {e : Engine Memory}
    {sink : Sink} {c : ContactId} {b : BatchId} (h : .owe c b ∈ operation.log e sink) :
    ∃ batch ∈ operation.committed e sink c, batch.id = b := by
  have hcauses := causes_of_mem_log h
  cases operation with
  | receiveBatch c' batch =>
    obtain ⟨rfl, rfl⟩ := hcauses
    refine ⟨batch, ?_, rfl⟩
    rw [log] at h
    split at h
    · next hgate =>
      -- the batch came through the gate, from a contact that exists
      obtain ⟨hc, -⟩ := Memory.mem_about h
      have hanswer : ((receiveBatch c' batch).act.runOn e sink).1 =
          .ok (.passed (e.store.countNew c' batch.messages)) := by
        rw [act, Act.runOn, Engine.receiveBatch, Act.throughGate_apply, hgate]
        dsimp only
        rw [Engine.storeBatch_apply]
        dsimp only
        rw [if_pos hc]
        rfl
      rw [committed, hanswer]
      dsimp only
      rw [if_pos rfl]
      exact List.mem_singleton.mpr rfl
    · cases h
  | _ => cases hcauses

/-! ## Twins -/

namespace Backend.Twin

variable {backend : Backend} {e : Engine backend.Data} {e' : Engine Memory}

lemma wrote (h : backend.Twin e e') (step : Step) (c : ContactId) :
    step.wrote e c = step.wrote e' c := by
  cases step with
  | setClock _ | setGate _ => rfl
  | perform operation sink =>
    rw [Step.wrote, Step.wrote, Operation.wrote, Operation.wrote]
    by_cases hc : operation.recipient = some c
    -- no packet for a contact has encoded properties or secrets in it
    · have hplain : operation.plain := by
        cases operation with
        | generateBatch _ _ _ | generateBatchFrom _ _ _ _ | generateAck _ _ | generateOffer _ _
        | receiveOffer _ _ | receiveRequest _ _ _ _ _ => rfl
        | _ => cases hc
      obtain ⟨hanswer, -, hsink⟩ := h.plain operation hplain sink
      rw [hanswer, hsink]
    · rw [if_neg fun hboth => hc hboth.1, if_neg fun hboth => hc hboth.1]

lemma committed (h : backend.Twin e e') (step : Step) (c : ContactId) :
    step.committed e c = step.committed e' c := by
  cases step with
  | setClock _ | setGate _ => rfl
  | perform operation sink =>
    rw [Step.committed, Step.committed]
    cases operation with
    | receiveBatch c' batch =>
      rw [Operation.committed, Operation.committed, (h.plain (.receiveBatch c' batch) rfl sink).1]
    | _ => rfl

end Backend.Twin

end MessageSync
