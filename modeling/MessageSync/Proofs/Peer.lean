import MessageSync.Peer.Basic
import MessageSync.Proofs.Engine.Backend
import MessageSync.Proofs.SampleMessage
import MessageSync.Proofs.Store.Exchange
import MessageSync.Proofs.WrittenBatches

/-!
# Deliveries between peers

A delivery between peers over any stores comes to the same as between their twins over stores
in memory (`Backend.PeerTwin`). There, one delivery of a batch takes the oldest messages that
fit, and all of them arrive at the other peer (`Peer.deliverBatch_of_sample`), and one delivery
of an ack settles some of the batches that are owed, if any are (`Peer.deliverAck_eq`).
-/

namespace MessageSync

open Cbor

/-! ## Twins -/

namespace Peer

lemma perform_eq {σ α : Type} (p : Peer σ) (act : Act σ α) (sink : Sink) :
    p.perform act sink = ((act.runOn p.engine sink).1, (act.runOn p.engine sink).2.sink.taken,
      ⟨(act.runOn p.engine sink).2.engine, p.events ++ (act.runOn p.engine sink).2.events⟩) := rfl

/-- A peer after some changes of its store. -/
def after (p : Peer Memory) (log : List Change) (events : List Event) : Peer Memory :=
  ⟨{ p.engine with store := p.engine.store.changes log }, events⟩

@[simp] lemma store_after (p : Peer Memory) (log : List Change) (events : List Event) :
    (p.after log events).engine.store = p.engine.store.changes log := rfl

lemma after_after (p : Peer Memory) (log log' : List Change) (events events' : List Event) :
    (p.after log events).after log' events' = p.after (log ++ log') events' := by
  unfold after
  rw [Memory.changes_append]

end Peer

namespace Backend

/-- Peers with the same events, over engines that are twins. -/
structure PeerTwin (backend : Backend) (p : Peer backend.Data) (p' : Peer Memory) : Prop where
  engine : backend.Twin p.engine p'.engine
  events : p.events = p'.events

/-- Whether a delivery came to the same between peers and between their twins. -/
structure PairTwin (backend backend' : Backend) {ρ : Type}
    (r : ρ × Peer backend.Data × Peer backend'.Data) (r' : ρ × Peer Memory × Peer Memory) :
    Prop where
  result : r.1 = r'.1
  left : backend.PeerTwin r.2.1 r'.2.1
  right : backend'.PeerTwin r.2.2 r'.2.2

namespace PeerTwin

variable {backend backend' : Backend} {p : Peer backend.Data} {p' : Peer Memory}
  {q : Peer backend'.Data} {q' : Peer Memory}

/-- A plain operation comes to the same for twins. -/
lemma perform (h : backend.PeerTwin p p') {α : Type} (operation : Operation α)
    (hplain : operation.plain) (sink : Sink) :
    ∃ answer bytes after after', p.perform operation.act sink = (answer, bytes, after) ∧
      p'.perform operation.act sink = (answer, bytes, after') ∧ backend.PeerTwin after after' := by
  obtain ⟨hanswer, hevents, hsink⟩ := h.engine.plain operation hplain sink
  refine ⟨_, _, _, ⟨(operation.act.runOn p'.engine sink).2.engine,
    p'.events ++ (operation.act.runOn p'.engine sink).2.events⟩,
    p.perform_eq operation.act sink, ?_, ?_⟩
  · rw [Peer.perform_eq, hanswer, hsink]
  · exact ⟨h.engine.step (.perform operation sink), by rw [h.events, hevents]⟩

lemma deliverBatch (h : backend.PeerTwin p p') (h' : backend'.PeerTwin q q')
    (there here : ContactId) (nonce : Nonce) :
    PairTwin backend backend' (p.deliverBatch there q here nonce)
      (p'.deliverBatch there q' here nonce) := by
  obtain ⟨answer, bytes, after, after', hp, hp', htwin⟩ :=
    h.perform (.generateBatch there (.fresh Peer.capacity none) nonce) rfl {}
  change p.perform (Engine.generateBatch there (.fresh Peer.capacity none) nonce) {} = _ at hp
  change p'.perform (Engine.generateBatch there (.fresh Peer.capacity none) nonce) {} = _ at hp'
  unfold Peer.deliverBatch
  rw [hp, hp']
  match answer with
  | .error _ | .ok none => exact ⟨rfl, htwin, h'⟩
  | .ok (some sent) =>
    dsimp only
    cases Peer.receivedBatch bytes with
    | error v => exact ⟨rfl, htwin, h'⟩
    | ok batch =>
      obtain ⟨answer, bytes, after, after', hq, hq', htwin'⟩ :=
        h'.perform (.receiveBatch here batch) rfl {}
      change q.perform (Engine.receiveBatch here batch) {} = _ at hq
      change q'.perform (Engine.receiveBatch here batch) {} = _ at hq'
      dsimp only
      rw [hq, hq']
      cases answer with
      | error e => exact ⟨rfl, htwin, htwin'⟩
      | ok stored => exact ⟨rfl, htwin, htwin'⟩

lemma deliverAck (h : backend.PeerTwin p p') (h' : backend'.PeerTwin q q')
    (there here : ContactId) :
    PairTwin backend backend' (p.deliverAck there q here) (p'.deliverAck there q' here) := by
  obtain ⟨answer, bytes, after, after', hp, hp', htwin⟩ :=
    h.perform (.generateAck there (AckWriter.fresh none)) rfl {}
  change p.perform (Engine.generateAck there (AckWriter.fresh none)) {} = _ at hp
  change p'.perform (Engine.generateAck there (AckWriter.fresh none)) {} = _ at hp'
  unfold Peer.deliverAck
  rw [hp, hp']
  cases answer with
  | error e => exact ⟨rfl, htwin, h'⟩
  | ok acked =>
    dsimp only
    cases Peer.receivedAck bytes with
    | error v => exact ⟨rfl, htwin, h'⟩
    | ok batches =>
      obtain ⟨answer, bytes, after, after', hq, hq', htwin'⟩ :=
        h'.perform (.receiveAck here batches) rfl {}
      change q.perform (Engine.receiveAck here batches) {} = _ at hq
      change q'.perform (Engine.receiveAck here batches) {} = _ at hq'
      dsimp only
      rw [hq, hq']
      cases answer with
      | error e => exact ⟨rfl, htwin, htwin'⟩
      | ok _ => exact ⟨rfl, htwin, htwin'⟩

end PeerTwin

end Backend

/-! ## Messages that a writer takes -/

namespace BatchWriter

/-- The messages that a writer takes in turn, up to the first that it refuses. -/
def load (w : BatchWriter) : List Message → List Message
  | [] => []
  | m :: rest =>
    match w.write m.raw with
    | none => []
    | some w => m :: w.load rest

/-- What does not fit anyway need not be offered to a writer. -/
theorem load_takeWithin (w : BatchWriter) (messages : List Message) :
    w.load (Message.takeWithin w.capacity messages) = w.load messages := by
  induction messages generalizing w with
  | nil => rfl
  | cons m rest ih =>
    rw [Message.takeWithin]
    split_ifs with hfits
    · rw [load, load]
      cases hwrite : w.write m.raw with
      | none => rfl
      | some next =>
        have hroom : next.capacity = w.capacity - m.size := by
          unfold BatchWriter.write at hwrite
          split_ifs at hwrite
          obtain rfl := Option.some.inj hwrite
          exact (Nat.sub_sub _ _ _).symm
        dsimp only
        rw [← hroom, ih next]
    · have hrefused : w.write m.raw = none := if_pos (.inr (Nat.lt_of_not_le hfits))
      rw [load, load, hrefused]

/-- A writer takes all messages that fit, if their number is not limited. -/
lemma load_eq_self {w : BatchWriter} {messages : List Message} (hmost : w.mostMessages = none)
    (hfits : Message.totalSize messages ≤ w.capacity) : w.load messages = messages := by
  induction messages generalizing w with
  | nil => rfl
  | cons m rest ih =>
    have hsize : m.raw.length + Message.totalSize rest ≤ w.limit - w.used := hfits
    let next : BatchWriter :=
      { w with used := w.used + m.raw.length, messages := w.messages ++ [m.raw] }
    have hroom : Message.totalSize rest ≤ next.capacity := by
      show Message.totalSize rest ≤ w.limit - (w.used + m.raw.length)
      omega
    have hwrite : w.write m.raw = some next := by
      refine if_neg ?_
      rw [isFull, hmost, capacity, not_or, not_lt]
      exact ⟨Bool.false_ne_true, by omega⟩
    rw [load, hwrite]
    exact congrArg (m :: ·) (ih hmost hroom)

/-- What is picked for a batch is what the writer takes, if all of it is found. -/
lemma pick_eq_load (find : MessageId → Option Bytes) {messages : List Message}
    (hfind : ∀ m ∈ messages, find m.id = some m.raw) (w : BatchWriter) :
    (pick find w (messages.map Message.id)).1 = (w.load messages).map Message.id ∧
      (pick find w (messages.map Message.id)).2.messages =
        w.messages ++ (w.load messages).map Message.raw := by
  induction messages generalizing w with
  | nil => exact ⟨rfl, (List.append_nil _).symm⟩
  | cons m rest ih =>
    obtain ⟨hm, hrest⟩ := List.forall_mem_cons.mp hfind
    rw [List.map_cons, pick, hm, load]
    dsimp only
    cases hwrite : w.write m.raw with
    | none => exact ⟨rfl, (List.append_nil _).symm⟩
    | some next =>
      obtain ⟨hids, hraws⟩ := ih hrest next
      refine ⟨congrArg (m.id :: ·) hids, hraws.trans ?_⟩
      rw [messages_write hwrite, List.append_assoc]
      rfl

end BatchWriter

/-- What is picked for a batch are the eligible messages, up to the first that does not fit. -/
lemma Engine.picked_eq_load {e : Engine Memory} (hs : e.store.Keyed) (c : ContactId)
    (w : BatchWriter) :
    (e.picked c w).1 = (w.load (e.store.eligible c)).map Message.id ∧
      (e.picked c w).2.messages = w.messages ++ (w.load (e.store.eligible c)).map Message.raw := by
  have hfind (m : Message) (hm : m ∈ Message.takeWithin w.capacity (e.store.eligible c)) :
      (e.store.messages[m.id]?).map Message.raw = some m.raw := by
    rw [((Memory.mem_eligible_iff hs c m).mp ((takeWithin_sublist _ _).subset hm)).1]
    rfl
  rw [← BatchWriter.load_takeWithin]
  exact BatchWriter.pick_eq_load (fun id => (e.store.messages[id]?).map Message.raw) hfind w

/-- The packet of a batch is received if its messages fit into a batch between peers. -/
lemma Batch.decode_of_rawSize_le {x : Batch} (hne : ∀ raw ∈ x.messages, raw ≠ [])
    (hsize : x.rawSize ≤ Peer.capacity) :
    Packet.decode (Packet.batch x).encode = .ok (.batch x) := by
  -- there are no more messages than bytes
  have hcount : x.messages.length ≤ x.rawSize := by
    have hsum := List.length_le_sum_of_one_le (x.messages.map List.length)
    rw [List.length_map] at hsum
    refine hsum fun size hmem => ?_
    obtain ⟨raw, hraw, rfl⟩ := List.mem_map.mp hmem
    exact List.length_pos_iff.mpr (hne raw hraw)
  have hcapacity : Peer.capacity = 65536 := rfl
  have hlongest : Packet.longest = 1048576 := rfl
  have hword : UInt32.size = 4294967296 := rfl
  have hframing : x.framing ≤ 61 + 5 * x.messages.length := by
    refine framing_le (by omega) fun raw hraw => ?_
    have hle : raw.length ≤ x.rawSize :=
      List.single_le_sum (fun _ _ => Nat.zero_le _) _ (List.mem_map_of_mem hraw)
    omega
  rw [decode_packet, if_pos (by omega)]

lemma Message.totalSize_eq (messages : List Message) :
    totalSize messages = ((messages.map raw).map List.length).sum := by
  rw [List.map_map]
  induction messages with
  | nil => rfl
  | cons m rest ih =>
    show m.raw.length + totalSize rest = _
    rw [ih, List.map_cons, List.sum_cons]
    rfl

namespace Peer

/-! ## One batch -/

/-- The messages that the next batch to a contact takes. -/
def load (p : Peer Memory) (there : ContactId) : List Message :=
  Message.takeWithin capacity (p.engine.store.eligible there)

/-- The next batch to a contact, as it is received. -/
def parcel (p : Peer Memory) (there : ContactId) (nonce : Nonce) : ReceivedBatch :=
  ⟨Batch.id ⟨nonce, (p.load there).map Message.raw⟩, p.load there⟩

/-- What is answered of a batch when it is sent. -/
def sentOf (batch : ReceivedBatch) : SentBatch := ⟨batch.id, batch.messages.map Message.id⟩

/-- A peer once it sent the next batch to a contact. -/
def dispatch (p : Peer Memory) (there : ContactId) (nonce : Nonce) (events : List Event) :
    Peer Memory :=
  p.after [.send there (p.parcel there nonce).id ((p.load there).map Message.id) p.engine.now]
    events

variable {p q : Peer Memory} {there here : ContactId}

lemma load_sublist (p : Peer Memory) (there : ContactId) :
    (p.load there).Sublist (p.engine.store.eligible there) := Engine.takeWithin_sublist _ _

lemma after_dispatch (p : Peer Memory) (there : ContactId) (nonce : Nonce) (log : List Change)
    (events events' : List Event) :
    (p.dispatch there nonce events).after log events' =
      p.after (.send there (p.parcel there nonce).id ((p.load there).map Message.id)
        p.engine.now :: log) events' := p.after_after _ log events events'

/-- What is not sent yet stays eligible. -/
lemma perm_dispatch (hs : p.engine.store.Keyed) (there : ContactId) (nonce : Nonce)
    (events : List Event) :
    (p.load there ++ (p.dispatch there nonce events).engine.store.eligible there).Perm
      (p.engine.store.eligible there) :=
  Memory.perm_eligible_send hs (p.load_sublist there) (p.parcel there nonce).id p.engine.now

lemma picked_load (hs : p.engine.store.Keyed) (there : ContactId) :
    (p.engine.picked there (.fresh capacity none)).1 = (p.load there).map Message.id ∧
      (p.engine.picked there (.fresh capacity none)).2.messages =
        (p.load there).map Message.raw := by
  have hload : (BatchWriter.fresh capacity none).load (p.engine.store.eligible there) =
      p.load there := by
    rw [← BatchWriter.load_takeWithin]
    exact BatchWriter.load_eq_self rfl (Message.totalSize_takeWithin_le _ _)
  obtain ⟨hids, hraws⟩ := Engine.picked_eq_load hs there (.fresh capacity none)
  rw [hload] at hids hraws
  exact ⟨hids, hraws⟩

/-- A sink without limits takes any packet. -/
lemma send_fresh (packet : Packet) :
    ({} : Sink).send packet = (.ok (), { taken := packet.encode }) := rfl

/-- A batch is written with all messages that fit. -/
lemma generateBatch_runOn (hs : p.engine.store.Keyed) (hthere : there ∈ p.engine.store.contacts)
    (nonce : Nonce) :
    (Engine.generateBatch there (.fresh capacity none) nonce).runOn p.engine {} =
      (.ok (sentOf (p.parcel there nonce)).recorded?,
        { (⟨p.engine, [], {}⟩ : Turn Memory).after
            (sending there (sentOf (p.parcel there nonce)) p.engine.now)
            (sentEvents there (sentOf (p.parcel there nonce))) with
          sink := { taken := (Packet.batch ⟨nonce, (p.load there).map Message.raw⟩).encode } }) := by
  obtain ⟨hids, hraws⟩ := picked_load hs there
  have hbatch : (p.engine.picked there (.fresh capacity none)).2.batch nonce =
      ⟨nonce, (p.load there).map Message.raw⟩ := congrArg (Batch.mk nonce) hraws
  have hsend : (Engine.sendOldest there (.fresh capacity none) nonce).runOn p.engine {} =
      (⟨p.engine, [], {}⟩ : Turn Memory).sendBatch there nonce
        (p.engine.picked there (.fresh capacity none)) := by
    rw [Act.runOn, Engine.sendOldest_apply]
    exact if_pos hthere
  rw [Engine.generateBatch_runOn_eq, hsend, Turn.sendBatch, hbatch, hids, send_fresh]
  rfl

/-- A peer without eligible messages has nothing to send. -/
theorem deliverBatch_of_nil (hs : p.engine.store.Keyed) (hthere : there ∈ p.engine.store.contacts)
    (hnone : p.engine.store.eligible there = []) (nonce : Nonce) :
    p.deliverBatch there q here nonce = (.ok none, p, q) := by
  have hload : p.load there = [] := by
    rw [load, hnone]
    rfl
  have hsent : sentOf (p.parcel there nonce) = ⟨Batch.id ⟨nonce, []⟩, []⟩ := by
    rw [sentOf, parcel, hload]
    rfl
  unfold deliverBatch
  rw [perform_eq, generateBatch_runOn hs hthere, hsent]
  dsimp only
  rw [SentBatch.recorded?_eq_none_iff.mpr rfl]
  show (Except.ok none, (⟨p.engine, p.events ++ []⟩ : Peer Memory), q) = _
  rw [List.append_nil]

/-- The packet of a batch is received as the batch. -/
lemma receivedBatch_parcel (hsample : ∀ m ∈ p.engine.store.eligible there, m.IsSample)
    (nonce : Nonce) :
    receivedBatch (Packet.batch ⟨nonce, (p.load there).map Message.raw⟩).encode =
      .ok (p.parcel there nonce) := by
  have hload (m : Message) (hm : m ∈ p.load there) : m.IsSample :=
    hsample m ((p.load_sublist there).subset hm)
  have hsize : Message.totalSize (p.load there) ≤ capacity := Message.totalSize_takeWithin_le _ _
  have hdecode : Packet.decode (Packet.batch ⟨nonce, (p.load there).map Message.raw⟩).encode =
      .ok (.batch ⟨nonce, (p.load there).map Message.raw⟩) := by
    refine Batch.decode_of_rawSize_le (fun raw hraw => ?_) ?_
    · obtain ⟨m, hm, rfl⟩ := List.mem_map.mp hraw
      exact (hload m hm).raw_ne_nil
    · rw [Batch.rawSize, ← Message.totalSize_eq]
      exact hsize
  have hparse : parseAll parseSample ((p.load there).map Message.raw) = .ok (p.load there) := by
    refine parseAll_raws fun m hm => (hload m hm).parse ?_
    have hle : m.size ≤ Message.totalSize (p.load there) := by
      rw [Message.totalSize_eq, List.map_map]
      exact List.single_le_sum (fun _ _ => Nat.zero_le _) _ (List.mem_map_of_mem hm)
    have hcapacity : capacity = 65536 := rfl
    omega
  unfold receivedBatch
  rw [hdecode]
  show Batch.parse parseSample _ = _
  rw [Batch.parse, hparse]
  rfl

/-- A batch is stored by an engine with an open gate. -/
lemma receiveBatch_runOn {e : Engine Memory} (hgate : e.gate = .opened)
    (hhere : here ∈ e.store.contacts) (batch : ReceivedBatch) :
    ∃ stored events, (Engine.receiveBatch here batch).runOn e {} =
      (.ok (.passed stored), ⟨{ e with store := e.store.changes (batch.arrival here) }, events, {}⟩) := by
  have hpass : (Engine.receiveBatch here batch).runOn e {} =
      ((Engine.storeBatch here batch ⟨e, [], {}⟩).1.map .passed,
        (Engine.storeBatch here batch ⟨e, [], {}⟩).2) := by
    rw [Act.runOn, Engine.receiveBatch, Act.throughGate_apply, hgate]
  have hstore := Engine.storeBatch_apply ⟨e, [], {}⟩ here batch
  dsimp only at hstore
  rw [if_pos hhere] at hstore
  rw [hpass, hstore]
  exact ⟨_, _, rfl⟩

/-- If some messages are eligible, all of them sample messages that fit into a batch, the oldest
ones are sent that together fit. All of them arrive. -/
theorem deliverBatch_of_sample (hs : p.engine.store.Keyed)
    (hthere : there ∈ p.engine.store.contacts) (hhere : here ∈ q.engine.store.contacts)
    (hgate : q.engine.gate = .opened) (hsome : p.engine.store.eligible there ≠ [])
    (hsample : ∀ m ∈ p.engine.store.eligible there, m.IsSample ∧ m.size ≤ capacity)
    (nonce : Nonce) :
    ∃ events events', p.deliverBatch there q here nonce =
      (.ok (some (p.parcel there nonce).id), p.dispatch there nonce events,
        q.after ((p.parcel there nonce).arrival here) events') := by
  have hload : p.load there ≠ [] :=
    Message.takeWithin_ne_nil hsome fun m hm => (hsample m hm).2
  have hids : (p.load there).map Message.id ≠ [] := by simpa using hload
  obtain ⟨stored, events', hreceive⟩ := receiveBatch_runOn hgate hhere (p.parcel there nonce)
  have hpacket := receivedBatch_parcel (fun m hm => (hsample m hm).1) nonce
  have hsending : sending there (sentOf (p.parcel there nonce)) p.engine.now =
      [.send there (p.parcel there nonce).id ((p.load there).map Message.id) p.engine.now] :=
    if_neg hids
  have hrecorded : (sentOf (p.parcel there nonce)).recorded? =
      some (sentOf (p.parcel there nonce)) := SentBatch.recorded?_of_ne_nil hids
  refine ⟨p.events ++ ([] ++ sentEvents there (sentOf (p.parcel there nonce))),
    q.events ++ events', ?_⟩
  unfold deliverBatch
  rw [perform_eq, generateBatch_runOn hs hthere, hsending, hrecorded]
  dsimp only
  rw [hpacket]
  dsimp only
  rw [perform_eq, hreceive]
  rfl

end Peer

/-! ## Acks that are received -/

lemma Cbor.length_ident_le {kind : IdKind} (id : Id kind) : (Write.ident id).length ≤ 66 := by
  have hnumbers := headSizes_bytes_le id.bytes
  rw [id.length_bytes] at hnumbers
  rw [Write.ident, length_byteArray, id.length_bytes]
  have hhead : headSize 32 = 2 := rfl
  omega

/-- The size of a packet that only lists identifiers. -/
lemma Packet.length_listing_le {kind : IdKind} (form field : String) {ids : List (Id kind)}
    (hmost : ids.length ≤ 1000) :
    (Write.variant form (Write.record [(field, Write.array Write.ident ids)])).length ≤
      (Write.text form).length + (Write.text field).length + 66007 := by
  have hids : (ids.map fun id => (Write.ident id).length).sum ≤
      (ids.map fun id => (Write.ident id).length).length * 66 := by
    refine List.sum_le_card_nsmul _ 66 fun n hn => ?_
    obtain ⟨id, -, rfl⟩ := List.mem_map.mp hn
    exact length_ident_le id
  rw [List.length_map] at hids
  have hhead : headSize ids.length ≤ 5 := headSize_le_five (by
    show ids.length < 4294967296
    omega)
  have hone : headSize 1 = 1 := rfl
  simp only [Write.variant, Write.record, List.length_append, length_head, List.flatMap_cons,
    List.flatMap_nil, List.length_cons, List.length_nil, length_array_eq, Nat.zero_add, hone]
  omega

/-- The packet of an ack of no more batches than there may be is received. -/
lemma Packet.decode_ack {ids : List BatchId} (hmost : ids.length ≤ mostAcked) :
    decode (Packet.ack ids).encode = .ok (.ack ids) := by
  have hlisting := length_listing_le "Ack" "batches" hmost
  have hform : (Write.text "Ack").length = 4 := by decide
  have hfield : (Write.text "batches").length = 8 := by decide
  have hlen : ((Packet.ack ids).encode ++ []).length ≤ longest := by
    rw [hform, hfield] at hlisting
    rw [List.append_nil]
    exact hlisting.trans (by decide)
  have hread := decode_append (p := .ack ids) (if_neg (Nat.not_lt.mpr hmost)) hlen
  rw [List.append_nil] at hread
  exact hread

namespace Peer

/-! ## One ack -/

variable {p q : Peer Memory} {there here : ContactId}

/-- The batches that the next ack to a contact names. -/
def acking (q : Peer Memory) (here : ContactId) : List BatchId :=
  (q.engine.pickedAcks here (AckWriter.fresh none)).1

lemma acking_eq (q : Peer Memory) (here : ContactId) :
    q.acking here =
      ((q.engine.store.toAckOf here).take q.engine.config.maxAckIds).take Packet.mostAcked :=
  Engine.writeAll_fst _ _

lemma toAckOf_of_mem_acking {b : BatchId} (h : b ∈ q.acking here) :
    b ∈ q.engine.store.toAckOf here := by
  rw [acking_eq] at h
  exact List.mem_of_mem_take (List.mem_of_mem_take h)

/-- Some batch is acknowledged if there are any, and an ack may name one. -/
lemma toAckOf_of_acking_eq_nil (hmost : 1 ≤ q.engine.config.maxAckIds)
    (h : q.acking here = []) : q.engine.store.toAckOf here = [] := by
  have hlength := congrArg List.length (q.acking_eq here)
  have hbound : Packet.mostAcked = 1000 := rfl
  rw [h, List.length_nil, List.length_take, List.length_take] at hlength
  exact List.eq_nil_of_length_eq_zero (by omega)

/-- An ack settles the batches that it names, in the order in which it names them. -/
theorem deliverAck_eq (hhere : here ∈ q.engine.store.contacts)
    (hthere : there ∈ p.engine.store.contacts) :
    ∃ events events', q.deliverAck here p there =
      (.ok (q.acking here).length, q.after [.settle here (q.acking here)] events,
        p.after ((q.acking here).map (.ack there)) events') := by
  have hids : (q.engine.pickedAcks here (AckWriter.fresh none)).2.ids = q.acking here :=
    Engine.writeAll_snd _ _
  have hgenerate : (Engine.generateAck here (AckWriter.fresh none)).runOn q.engine {} =
      (.ok (q.acking here), { (⟨q.engine, [], {}⟩ : Turn Memory).after
        [.settle here (q.acking here)] [] with
          sink := { taken := (Packet.ack (q.acking here)).encode } }) := by
    rw [Act.runOn, Engine.generateAck_apply]
    dsimp only
    rw [if_pos hhere]
    show Engine.sendIds _ (.ack (q.engine.pickedAcks here (AckWriter.fresh none)).2.ids) _ _ = _
    unfold Engine.sendIds
    rw [hids, send_fresh]
    rfl
  have hdecode : Packet.decode (Packet.ack (q.acking here)).encode =
      .ok (.ack (q.acking here)) := by
    refine Packet.decode_ack ?_
    rw [acking_eq, List.length_take]
    exact Nat.min_le_left _ _
  have hreceived : receivedAck (Packet.ack (q.acking here)).encode = .ok (q.acking here) := by
    unfold receivedAck
    rw [hdecode]
    rfl
  have hreceive := Engine.receiveAck_apply ⟨p.engine, [], {}⟩ there (q.acking here)
  dsimp only at hreceive
  rw [if_pos hthere] at hreceive
  refine ⟨q.events ++ ([] ++ []), p.events ++ ([] ++ (p.engine.store.ackedAmong there
    (q.acking here)).map (Event.batchAcked there)), ?_⟩
  unfold deliverAck
  rw [perform_eq, hgenerate]
  dsimp only
  rw [hreceived]
  dsimp only
  rw [perform_eq, Act.runOn, hreceive]
  rfl

end Peer

end MessageSync
