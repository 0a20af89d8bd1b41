import MessageSync.Proofs.Eligibility
import MessageSync.Proofs.SampleMessage
import MessageSync.Proofs.WrittenBatches

/-!
# Batches arrive as they were stored

A batch goes through two formats: that of packets, and that of the messages in it, which the
library does not know. The messages that an engine picks go into the packet as their raw forms,
and its address is computed from these on both sides. If the messages are sample messages, the
packet of a batch that is not too long is therefore parsed to what the sender has stored, under
the address that the sender answered (`Backend.parse_sent`).
-/

namespace MessageSync

/-! ## Packets of sample messages -/

/-- Sample messages are parsed from the packet of a batch that is not too long. -/
lemma Batch.parse_sample {nonce : Nonce} {messages : List Message}
    (hsample : ∀ m ∈ messages, m.IsSample)
    (hlen : (Packet.batch ⟨nonce, messages.map Message.raw⟩).encode.length ≤ Packet.longest) :
    let batch : Batch := ⟨nonce, messages.map Message.raw⟩
    Packet.decode (Packet.batch batch).encode = .ok (.batch batch) ∧
      batch.parse parseSample = .ok ⟨batch.id, messages⟩ := by
  intro batch
  rw [batch.length_encode] at hlen
  have hparse : parseAll parseSample (messages.map Message.raw) = .ok messages := by
    refine parseAll_raws fun m hm => (hsample m hm).parse (Packet.lt_of_le_longest ?_)
    have hle : m.raw.length ≤ batch.rawSize := List.single_le_sum (fun _ _ => Nat.zero_le _) _
      (List.mem_map_of_mem (List.mem_map_of_mem hm))
    show m.raw.length ≤ Packet.longest
    omega
  refine ⟨?_, ?_⟩
  · rw [batch.decode_packet, if_pos hlen]
  · rw [parse, hparse]
    rfl

/-! ## Batches that are sent -/

/-- What a sink took of a batch is the packet of the messages that are answered, under the
address that is answered. -/
lemma Engine.exists_sent {e : Engine Memory} (hs : e.store.Keyed) {c : ContactId}
    {limit : Nat} {most : Option Nat} {nonce : Nonce} {sink : Sink} {answer : Option SentBatch}
    (h : ((Operation.generateBatch c (.fresh limit most) nonce).act.runOn e sink).1 = .ok answer) :
    ∃ messages : List Message, (∀ m ∈ messages, e.store.messages[m.id]? = some m) ∧
      answer = SentBatch.recorded?
        ⟨Batch.id ⟨nonce, messages.map Message.raw⟩, messages.map Message.id⟩ ∧
      ((Operation.generateBatch c (.fresh limit most) nonce).act.runOn e sink).2.sink.taken =
        sink.taken ++ (Packet.batch ⟨nonce, messages.map Message.raw⟩).encode := by
  obtain ⟨messages, hready, hids, hraws⟩ := exists_picked hs c (.fresh limit most)
  have hbatch : (e.picked c (.fresh limit most)).2.batch nonce =
      ⟨nonce, messages.map Message.raw⟩ := congrArg (Batch.mk nonce) hraws
  have hpacket : (Operation.generateBatch c (.fresh limit most) nonce).packet e =
      some (.batch ((e.picked c (.fresh limit most)).2.batch nonce)) := rfl
  have htaken := Operation.writes_packet hpacket sink (by rw [h, Operation.wroteAll])
  refine ⟨messages, fun m hm => (hready m hm).1, ?_, ?_⟩
  · obtain ⟨sent, hsent, rfl⟩ := exists_of_generateBatch h
    rw [Act.runOn, sendOldest_apply] at hsent
    have hpicked := Operation.ok_sendBatch hsent
    change sent = ⟨((e.picked c (.fresh limit most)).2.batch nonce).id,
      (e.picked c (.fresh limit most)).1⟩ at hpicked
    rw [hpicked, hbatch, hids]
  · rw [htaken, hbatch]

/-- If all stored messages are sample messages, then what is written of a batch, if it is not
too long, is decoded and parsed to a batch with the nonce that was given. If there is a batch in
the answer, the parsed one is under its address, and has as messages what is stored under its
identifiers; otherwise it has no messages. -/
theorem Backend.parse_sent {backend : Backend} {e : Engine backend.Data}
    (he : backend.Reaches e)
    (hsample : ∀ id m, backend.message e.store id = some m → m.IsSample) {c : ContactId}
    {limit : Nat} {most : Option Nat} {nonce : Nonce} {sink : Sink} {answer : Option SentBatch}
    (hsent : ((Operation.generateBatch c (.fresh limit most) nonce).act.runOn e sink).1 =
      .ok answer)
    (hlen : (((Operation.generateBatch c (.fresh limit most) nonce).act.runOn e
      sink).2.sink.taken.drop sink.taken.length).length ≤ Packet.longest) :
    ∃ batch received,
      Packet.decode (((Operation.generateBatch c (.fresh limit most) nonce).act.runOn e
        sink).2.sink.taken.drop sink.taken.length) = .ok (.batch batch) ∧
      batch.nonce = nonce ∧ batch.parse parseSample = .ok received ∧
      (answer = none → received.messages = []) ∧
      ∀ sent, answer = some sent → received.id = sent.id ∧
        received.messages.map some = sent.messages.map (backend.message e.store) := by
  obtain ⟨t, htwin⟩ := Twin.of_reaches he
  obtain ⟨hanswer, -, hsink⟩ :=
    htwin.plain (.generateBatch c (.fresh limit most) nonce) rfl sink
  rw [hanswer] at hsent
  rw [hsink] at hlen ⊢
  obtain ⟨messages, hstored, rfl, htaken⟩ := Engine.exists_sent htwin.consistent.keyed hsent
  rw [htaken, List.drop_left] at hlen ⊢
  have hmessage (m : Message) (hm : m ∈ messages) : backend.message e.store m.id = some m := by
    rw [htwin.message, hstored m hm]
  obtain ⟨hdecode, hparse⟩ :=
    Batch.parse_sample (fun m hm => hsample m.id m (hmessage m hm)) hlen
  refine ⟨_, _, hdecode, rfl, hparse, fun hnone => ?_, fun sent hsome => ?_⟩
  · exact List.map_eq_nil_iff.mp (SentBatch.recorded?_eq_none_iff.mp hnone)
  · obtain ⟨-, rfl⟩ := SentBatch.recorded?_eq_some_iff.mp hsome
    refine ⟨rfl, ?_⟩
    rw [List.map_map]
    exact List.map_congr_left fun m hm => (hmessage m hm).symm

namespace Sample

lemma length_author : (List.replicate 32 (5 : UInt8)).length = 32 := rfl

/-- An author who is rated good. -/
def author : AuthorId := ⟨List.replicate 32 5, length_author⟩

/-- A message of this author. -/
def signed : Message := sampleMessage group.id (some author) (-1) [7, 200]

/-- There is a contact that may see a message of the author. -/
def publishing : List Step :=
  [.perform (.subscribe group) {}, .perform (.addContact ∅) {}, share [group] 1,
    .perform (.setRating author .good) {}, .perform (.addLocal signed) {}]

lemma isSample_publishing {id : MessageId} {m : Message}
    (h : Backend.memory.message ((Backend.memory.start {} 0).run publishing).store id = some m) :
    m.IsSample := by
  have hone : (show Memory from
      ((Backend.memory.start {} 0).run publishing).store).messages.toList =
        [(signed.id, signed)] := by
    decide +kernel
  have hmem := (Table.mem_toList_iff _ (id, m)).mpr h
  rw [hone, List.mem_singleton] at hmem
  rw [show m = signed from congrArg Prod.snd hmem]
  exact ⟨group.id, some author, -1, [7, 200], rfl⟩

end Sample

/-- The message of an author goes out, and is parsed to what is stored. -/
theorem Backend.parse_sent_signed :
    let e := (Backend.memory.start {} 0).run Sample.publishing
    let operation : Operation (Option SentBatch) :=
      .generateBatch Sample.contact (.fresh 1024 none) (Sample.nonce 1)
    ∃ batch received,
      Packet.decode (operation.act.runOn e {}).2.sink.taken = .ok (.batch batch) ∧
      batch.parse parseSample = .ok received ∧ received.messages = [Sample.signed] := by
  intro e operation
  have he : Backend.memory.Reaches e := ⟨{}, 0, Sample.publishing, rfl⟩
  have hsent : (operation.act.runOn e {}).1.toOption =
      some (some ⟨Batch.id ⟨Sample.nonce 1, [Sample.signed.raw]⟩, [Sample.signed.id]⟩) := by
    decide +kernel
  have hlen : ((operation.act.runOn e {}).2.sink.taken.drop 0).length ≤ Packet.longest := by
    decide +kernel
  have hstored : Backend.memory.message e.store Sample.signed.id = some Sample.signed := by
    decide +kernel
  obtain ⟨batch, received, hdecode, -, hparse, -, hsome⟩ := Backend.parse_sent he
    (fun _ _ => Sample.isSample_publishing) (Sample.eq_ok_of_toOption hsent) hlen
  -- nothing was written before
  change Packet.decode ((operation.act.runOn e {}).2.sink.taken.drop 0) = _ at hdecode
  rw [List.drop_zero] at hdecode
  have hmessages := (hsome _ rfl).2
  rw [List.map_singleton, hstored] at hmessages
  obtain ⟨m, hreceived, hm⟩ := List.map_eq_singleton_iff.mp hmessages
  rw [Option.some.inj hm] at hreceived
  exact ⟨batch, received, hdecode, hparse, hreceived⟩

end MessageSync
