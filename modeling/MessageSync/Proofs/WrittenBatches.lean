import Mathlib.Algebra.Order.BigOperators.Group.List
import MessageSync.Proofs.Engine.Writing
import MessageSync.Proofs.Truncation

/-!
# Sizes of written batches

A batch writer bounds the raw bytes of a batch, while the reader of packets bounds encoded
bytes. The packet of a batch has `Batch.framing` bytes around its raw messages
(`Batch.length_encode`), so that a batch within the limits of its writer is received exactly
if there is room left for these (`BatchWriter.decode_finish`).
-/

namespace MessageSync

open Cbor

/-! ## Sizes of items -/

namespace Cbor

/-- The number of bytes of a head with the number `n`. -/
def headSize (n : Nat) : Nat :=
  if n < 24 then 1
  else if n < UInt8.size then 2
  else if n < UInt16.size then 3
  else if n < UInt32.size then 5
  else 9

/-- The number of bytes of heads with these numbers. -/
def headSizes (numbers : List Nat) : Nat := (numbers.map headSize).sum

lemma headSize_pos (n : Nat) : 1 ≤ headSize n := by
  unfold headSize
  split_ifs <;> omega

lemma headSize_le_two {n : Nat} (h : n < UInt8.size) : headSize n ≤ 2 := by
  unfold headSize
  split_ifs
  · omega
  · exact le_rfl

lemma headSize_le_five {n : Nat} (h : n < UInt32.size) : headSize n ≤ 5 := by
  unfold headSize
  split_ifs <;> omega

lemma length_le_headSizes (numbers : List Nat) : numbers.length ≤ headSizes numbers := by
  have hsum := List.length_le_sum_of_one_le (numbers.map headSize)
  rw [List.length_map] at hsum
  refine hsum fun size hsize => ?_
  obtain ⟨n, -, rfl⟩ := List.mem_map.mp hsize
  exact headSize_pos n

lemma headSizes_le {numbers : List Nat} {most : Nat} (h : ∀ n ∈ numbers, headSize n ≤ most) :
    headSizes numbers ≤ numbers.length * most := by
  have hsum := List.sum_le_card_nsmul (numbers.map headSize) most
  rw [List.length_map, Nat.nsmul_eq_mul] at hsum
  refine hsum fun size hsize => ?_
  obtain ⟨n, hn, rfl⟩ := List.mem_map.mp hsize
  exact h n hn

/-- A byte takes at most two bytes as a number. -/
lemma headSizes_bytes_le (content : Bytes) :
    headSizes (content.map UInt8.toNat) ≤ content.length * 2 := by
  have hsizes : headSizes (content.map UInt8.toNat) ≤ (content.map UInt8.toNat).length * 2 := by
    refine headSizes_le fun n hn => ?_
    obtain ⟨b, -, rfl⟩ := List.mem_map.mp hn
    exact headSize_le_two b.toNat_lt
  rw [List.length_map] at hsizes
  exact hsizes

lemma length_head (major n : Nat) : (Write.head major n).length = headSize n := by
  unfold Write.head headSize
  split_ifs <;> simp [length_bigEndian]

lemma length_byteString (content : Bytes) :
    (Write.byteString content).length = headSize content.length + content.length := by
  rw [Write.byteString, List.length_append, length_head]

lemma length_array_eq {α : Type} (element : α → Bytes) (elements : List α) :
    (Write.array element elements).length =
      headSize elements.length + (elements.map fun a => (element a).length).sum := by
  rw [Write.array, List.length_append, length_head, List.length_flatMap]

lemma length_byteArray (content : Bytes) :
    (Write.byteArray content).length =
      headSize content.length + headSizes (content.map UInt8.toNat) := by
  have hnumber (b : UInt8) : (Write.number b.toNat).length = headSize b.toNat := length_head 0 _
  rw [Write.byteArray, length_array_eq, headSizes, List.map_map]
  simp only [hnumber]
  rfl

end Cbor

/-! ## Sizes of batches -/

namespace Batch

/-- The number of bytes of the raw messages of a batch. -/
def rawSize (b : Batch) : Nat := (b.messages.map List.length).sum

/-- The number of bytes of the packet of a batch that are not of its raw messages: the names
of the form and of the fields, the nonce, the number of messages and the length of each. -/
def framing (b : Batch) : Nat :=
  24 + headSizes (b.nonce.bytes.map UInt8.toNat) + headSize b.messages.length +
    headSizes (b.messages.map List.length)

/-- The size of the packet of a batch. -/
theorem length_encode (b : Batch) : (Packet.batch b).encode.length = b.framing + b.rawSize := by
  have hnonce : (Write.byteArray b.nonce.bytes).length =
      1 + headSizes (b.nonce.bytes.map UInt8.toNat) := by
    rw [length_byteArray, b.nonce.length_bytes]
    rfl
  have hmessages : (Write.array Write.byteString b.messages).length =
      headSize b.messages.length + headSizes (b.messages.map List.length) + b.rawSize := by
    rw [length_array_eq]
    simp only [length_byteString]
    rw [List.sum_map_add, rawSize, headSizes, List.map_map, Nat.add_assoc]
    rfl
  have hform : (Write.text "Batch").length = 6 := by decide
  have hfirst : (Write.text "nonce").length = 6 := by decide
  have hsecond : (Write.text "messages").length = 9 := by decide
  have hone : headSize 1 = 1 := rfl
  have htwo : headSize 2 = 1 := rfl
  simp only [Packet.encode, encode, Write.variant, Write.record, List.length_append, length_head,
    List.flatMap_cons, List.flatMap_nil, List.length_cons, List.length_nil, hnonce, hmessages,
    hform, hfirst, hsecond, framing, Nat.zero_add, Nat.reduceAdd, hone, htwo]
  omega

/-- No batch has a packet of less than this around its messages. -/
lemma le_framing (b : Batch) : 41 + b.messages.length ≤ b.framing := by
  have hnonce := length_le_headSizes (b.nonce.bytes.map UInt8.toNat)
  have hlengths := length_le_headSizes (b.messages.map List.length)
  have hcount := headSize_pos b.messages.length
  rw [List.length_map, b.nonce.length_bytes, Nonce.size] at hnonce
  rw [List.length_map] at hlengths
  rw [framing]
  omega

/-- The packet of a batch has at most this around messages that are not excessively long. -/
lemma framing_le {b : Batch} (hcount : b.messages.length < UInt32.size)
    (hraw : ∀ raw ∈ b.messages, raw.length < UInt32.size) :
    b.framing ≤ 61 + 5 * b.messages.length := by
  have hnonce := headSizes_bytes_le b.nonce.bytes
  have hlengths : headSizes (b.messages.map List.length) ≤
      (b.messages.map List.length).length * 5 := by
    refine headSizes_le fun n hn => ?_
    obtain ⟨raw, hmem, rfl⟩ := List.mem_map.mp hn
    exact headSize_le_five (hraw raw hmem)
  have hhead := headSize_le_five hcount
  rw [b.nonce.length_bytes, Nonce.size] at hnonce
  rw [List.length_map] at hlengths
  rw [framing]
  omega

/-- The packet of a batch is received unless it is too long. -/
theorem decode_packet (b : Batch) : Packet.decode (Packet.batch b).encode =
    if b.framing + b.rawSize ≤ Packet.longest then .ok (.batch b)
    else .error (.packetTooLong (b.framing + b.rawSize)) := by
  have hlength := b.length_encode
  split_ifs with hfits
  · have hread : ((Packet.batch b).encode ++ []).length ≤ Packet.longest →
        Packet.decode ((Packet.batch b).encode ++ []) = .ok (.batch b) := Packet.decode_append rfl
    rw [List.append_nil] at hread
    exact hread (by omega)
  · rw [Packet.decode, if_pos (by omega), hlength]

end Batch

/-! ## Batches of a writer -/

namespace BatchWriter

/-- Offers messages to a writer in turn. Returns those that it takes. -/
def writeEach (w : BatchWriter) : List Bytes → List Bytes × BatchWriter
  | [] => ([], w)
  | raw :: rest =>
    match w.write raw with
    | none => w.writeEach rest
    | some w =>
      let (taken, w) := w.writeEach rest
      (raw :: taken, w)

/-- Whether a writer is within limits on the raw bytes and on the messages of a batch. -/
structure Within (bytes : Nat) (count : Option Nat) (w : BatchWriter) : Prop where
  limit : w.limit = bytes
  mostMessages : w.mostMessages = count
  used : w.used = (w.messages.map List.length).sum
  used_le : w.used ≤ bytes
  length_le : ∀ n, count = some n → w.messages.length ≤ n

variable {limit : Nat} {most : Option Nat} {w w' : BatchWriter}

lemma Within.fresh (limit : Nat) (most : Option Nat) :
    Within (min limit Packet.longest) most (.fresh limit most) :=
  ⟨rfl, rfl, rfl, Nat.zero_le _, fun n _ => Nat.zero_le n⟩

lemma messages_write {raw : Bytes} (h : w.write raw = some w') :
    w'.messages = w.messages ++ [raw] := by
  unfold write at h
  split_ifs at h
  rw [← Option.some.inj h]

/-- A writer takes a message only if it stays within its limits. -/
lemma Within.write {raw : Bytes} (h : w.Within limit most) (hwrite : w.write raw = some w') :
    w'.Within limit most := by
  have hmessages := messages_write hwrite
  unfold BatchWriter.write at hwrite
  split_ifs at hwrite with hfull
  have hfits : raw.length ≤ limit - w.used := by
    have hroom : ¬ w.capacity < raw.length := fun hlt => hfull (.inr hlt)
    rw [capacity, h.limit] at hroom
    omega
  have hcount (n : Nat) (hn : most = some n) : w.messages.length < n := by
    have hopen : ¬ w.isFull := fun hall => hfull (.inl hall)
    rw [isFull, h.mostMessages, hn] at hopen
    simpa using hopen
  obtain rfl := Option.some.inj hwrite
  refine ⟨h.limit, h.mostMessages, ?_, ?_, fun n hn => ?_⟩
  · rw [hmessages, List.map_append, List.sum_append, ← h.used]
    rfl
  · have hbytes := h.used_le
    show w.used + raw.length ≤ limit
    omega
  · have hless := hcount n hn
    rw [hmessages, List.length_append, List.length_singleton]
    exact hless

lemma Within.writeEach (h : w.Within limit most) (raws : List Bytes) :
    (w.writeEach raws).2.Within limit most := by
  induction raws generalizing w with
  | nil => exact h
  | cons raw rest ih =>
    rw [BatchWriter.writeEach]
    cases hwrite : w.write raw with
    | none => exact ih h
    | some w' => exact ih (h.write hwrite)

/-- The messages of a writer are those that it took. -/
lemma messages_writeEach (w : BatchWriter) (raws : List Bytes) :
    (w.writeEach raws).2.messages = w.messages ++ (w.writeEach raws).1 := by
  induction raws generalizing w with
  | nil => exact (List.append_nil _).symm
  | cons raw rest ih =>
    rw [writeEach]
    cases hwrite : w.write raw with
    | none => exact ih w
    | some w' =>
      dsimp only
      rw [ih w', messages_write hwrite, List.append_assoc]
      rfl

lemma messages_fresh (limit : Nat) (most : Option Nat) (raws : List Bytes) :
    ((fresh limit most).writeEach raws).2.messages = ((fresh limit most).writeEach raws).1 :=
  messages_writeEach (fresh limit most) raws

/-- A sink without limits takes the whole packet of a batch. -/
lemma finish_eq (w : BatchWriter) (nonce : Nonce) (before : Bytes) :
    w.finish nonce { taken := before } = (.ok (w.batch nonce).id, w.empty,
      { taken := before ++ (Packet.batch (w.batch nonce)).encode }) := rfl

/-- The packet of a batch is received if the limits of its writer leave room for what is
around its messages. -/
lemma Within.decode_batch {n : Nat} (h : w.Within limit (some n)) (nonce : Nonce)
    (hroom : limit + 61 + 5 * n ≤ Packet.longest) :
    Packet.decode (Packet.batch (w.batch nonce)).encode = .ok (.batch (w.batch nonce)) := by
  have hraw : (w.batch nonce).rawSize ≤ limit := by
    rw [Batch.rawSize, batch, ← h.used]
    exact h.used_le
  have hcount := h.length_le n rfl
  have hlongest : Packet.longest < UInt32.size := by decide
  have hframing : (w.batch nonce).framing ≤ 61 + 5 * w.messages.length := by
    refine Batch.framing_le (b := w.batch nonce) ?_ fun raw hmem => ?_
    · show w.messages.length < UInt32.size
      omega
    · have hle : raw.length ≤ (w.batch nonce).rawSize :=
        List.single_le_sum (fun _ _ => Nat.zero_le _) _ (List.mem_map_of_mem hmem)
      omega
  rw [Batch.decode_packet, if_pos (by omega)]

end BatchWriter

/-! ## Batches that are recorded -/

/-- What is written of a batch that an engine records is received unless it is too long. -/
theorem Backend.decode_of_sent {backend : Backend} {e : Engine backend.Data}
    (he : backend.Reaches e) {step : Step} {c : ContactId} {sent : SentBatch}
    (h : step.sent e = some (c, sent)) :
    ∃ x : Batch, x.id = sent.id ∧ (Packet.batch x).encode ∈ step.wrote e c ∧
      Packet.decode (Packet.batch x).encode =
        if x.framing + x.rawSize ≤ Packet.longest then .ok (.batch x)
        else .error (.packetTooLong (x.framing + x.rawSize)) := by
  obtain ⟨e', htwin⟩ := Twin.of_reaches he
  rw [htwin.sent] at h
  cases step with
  | setClock _ | setGate _ => cases h
  | perform operation sink =>
    obtain ⟨x, hwrote, hid, -⟩ := Operation.wrote_of_sent h
    rw [htwin.wrote]
    exact ⟨x, hid, hwrote, x.decode_packet⟩

/-- A fresh writer that is offered messages, and hands over to a sink without limits, answers
the address of the batch of those that it took. The packet of this batch is received unless
its size, with at least 41 bytes and one for each message around the raw messages, goes beyond
what a packet may have; a limit that leaves 61 bytes and five for each message is low enough.
The batches that an engine records are received under the same condition. -/
theorem BatchWriter.decode_finish (limit : Nat) (most : Option Nat) (nonce : Nonce)
    (raws : List Bytes) (before : Bytes) :
    let written := (fresh limit most).writeEach raws
    let batch : Batch := ⟨nonce, written.1⟩
    let finished := written.2.finish nonce { taken := before }
    let code := finished.2.2.taken.drop before.length
    finished.1 = .ok batch.id ∧
      (Packet.decode code =
        if batch.framing + batch.rawSize ≤ Packet.longest then .ok (.batch batch)
        else .error (.packetTooLong (batch.framing + batch.rawSize))) ∧
      batch.rawSize ≤ min limit Packet.longest ∧ 41 + written.1.length ≤ batch.framing ∧
      (∀ n, most = some n → limit + 61 + 5 * n ≤ Packet.longest →
        Packet.decode code = .ok (.batch batch)) ∧
      ∀ (backend : Backend) (e : Engine backend.Data), backend.Reaches e →
        ∀ (step : Step) (c : ContactId) (sent : SentBatch), step.sent e = some (c, sent) →
          ∃ x : Batch, x.id = sent.id ∧ (Packet.batch x).encode ∈ step.wrote e c ∧
            Packet.decode (Packet.batch x).encode =
              if x.framing + x.rawSize ≤ Packet.longest then .ok (.batch x)
              else .error (.packetTooLong (x.framing + x.rawSize)) := by
  intro written batch finished code
  have hwithin := (Within.fresh limit most).writeEach raws
  have hbatch : written.2.batch nonce = batch :=
    congrArg (Batch.mk nonce) (messages_fresh limit most raws)
  have hfinish : finished = _ := finish_eq written.2 nonce before
  have hcode : code = (Packet.batch batch).encode := by
    show finished.2.2.taken.drop before.length = _
    rw [hfinish, hbatch]
    exact List.drop_left
  refine ⟨?_, ?_, ?_, batch.le_framing, fun n hn hroom => ?_, fun backend e he step c sent h => ?_⟩
  · rw [hfinish, hbatch]
  · rw [hcode]
    exact batch.decode_packet
  · have hused := hwithin.used_le
    rw [hwithin.used, messages_fresh] at hused
    exact hused
  · subst hn
    rw [hcode, ← hbatch]
    exact hwithin.decode_batch nonce (by omega)
  · exact Backend.decode_of_sent he h

/-- A batch with as many raw bytes as a packet may have is written, and not received. -/
theorem BatchWriter.not_decode_finish :
    ¬ ∀ (limit : Nat) (most : Option Nat) (nonce : Nonce) (raws : List Bytes),
      let written := (fresh limit most).writeEach raws
      Packet.decode (written.2.finish nonce {}).2.2.taken = .ok (.batch ⟨nonce, written.1⟩) := by
  intro h
  obtain ⟨raw, hraw⟩ : ∃ raw : Bytes, raw.length = Packet.longest :=
    ⟨List.replicate Packet.longest 0, List.length_replicate⟩
  let nonce : Nonce := ⟨List.replicate Nonce.size 0, List.length_replicate⟩
  let large : Batch := ⟨nonce, [raw]⟩
  have htaken : ((fresh Packet.longest none).writeEach [raw]).1 = [raw] := by
    have hfits : ¬ ((fresh Packet.longest none).isFull ∨
        (fresh Packet.longest none).capacity < raw.length) := by
      rw [hraw]
      decide
    rw [writeEach, write, if_neg hfits]
    rfl
  have hreceived := h Packet.longest none nonce [raw]
  dsimp only at hreceived
  rw [finish_eq, batch, messages_fresh, htaken, List.nil_append] at hreceived
  -- what is around the message makes the packet too long
  have hlong : ¬ large.framing + large.rawSize ≤ Packet.longest := by
    have hframing := large.le_framing
    have hsize : large.rawSize = raw.length := List.sum_singleton
    omega
  have hrefused := large.decode_packet
  rw [if_neg hlong, hreceived] at hrefused
  cases hrefused

end MessageSync
