import MessageSync.Proofs.Engine.Writing
import MessageSync.Proofs.WrittenBatches

/-!
# One writer for many batches

A writer goes on to the next batch when it has finished one, also if its sink failed, which can
begin at any byte of a packet, or when the sink is flushed. A log of what came of each call tells
the messages that were taken since the last batch (`BatchWriter.pending`) and all batches so far
(`BatchWriter.batches`). The writer always has the room that these messages leave, and unless the
sink closed on the way, it has the packets of these batches and nothing else
(`BatchWriter.run_fresh`).
-/

namespace MessageSync.BatchWriter

/-! ## Calls -/

/-- What is done with a writer, or happens to its sink. -/
inductive Call where
  | write (raw : Bytes)
  | finish (nonce : Nonce)
  /-- From now on the sink takes so many bytes in all, and flushing it fails, or does not. -/
  | restrict (limit : Option Nat) (flushFails : Bool)

/-- What came of a call. -/
inductive Entry where
  | taken (raw : Bytes)
  | refused (raw : Bytes)
  | finished (nonce : Nonce) (result : Except SinkError BatchId)
  | restricted

/-- A writer with its sink. -/
structure Desk where
  writer : BatchWriter
  sink : Sink

namespace Desk

/-- Makes a call. A message that is refused leaves everything as it was. -/
def call (desk : Desk) : Call → Entry × Desk
  | .write raw =>
    match desk.writer.write raw with
    | some writer => (.taken raw, { desk with writer })
    | none => (.refused raw, desk)
  | .finish nonce =>
    let (result, writer, sink) := desk.writer.finish nonce desk.sink
    (.finished nonce result, ⟨writer, sink⟩)
  | .restrict limit flushFails =>
    (.restricted, { desk with sink := { desk.sink with limit, flushFails } })

/-- Makes calls in turn, and logs what came of each. -/
def run (desk : Desk) : List Call → List Entry × Desk
  | [] => ([], desk)
  | call :: rest =>
    let (entry, desk) := desk.call call
    let (log, desk) := desk.run rest
    (entry :: log, desk)

end Desk

/-! ## What a log tells -/

/-- The messages that are in no batch yet, with what came of one more call. -/
def Entry.collect (pending : List Bytes) : Entry → List Bytes
  | taken raw => pending ++ [raw]
  | finished _ _ => []
  | refused _ | restricted => pending

/-- The batch that a call finished, of the messages that were in none. -/
def Entry.batch? (pending : List Bytes) : Entry → Option Batch
  | finished nonce _ => some ⟨nonce, pending⟩
  | _ => none

/-- The messages that were taken since a batch was finished last, whether or not the sink
failed. -/
def pending (log : List Entry) : List Bytes := log.foldl Entry.collect []

/-- The batches of a log that begins with messages that are in no batch yet. -/
def batchesAfter (pending : List Bytes) : List Entry → List Batch
  | [] => []
  | entry :: rest => (entry.batch? pending).toList ++ batchesAfter (entry.collect pending) rest

/-- The batches that were finished, each with the messages that were taken since the one before
it. -/
def batches (log : List Entry) : List Batch := batchesAfter [] log

/-- Whether the sink closed when a batch was finished, so that a part of a packet is missing. -/
def Entry.Cut : Entry → Prop
  | finished _ result => result = .error .closed
  | _ => False

instance : DecidablePred Entry.Cut
  | .finished _ result => inferInstanceAs (Decidable (result = .error .closed))
  | .taken _ | .refused _ | .restricted => isFalse id

/-! ## One call -/

variable {limit : Nat} {most : Option Nat} {w : BatchWriter} {sink : Sink} {desk : Desk}
variable {messages : List Bytes}

/-- A batch is answered by its address if the sink takes the packet, and the writer is empty
afterwards in any case. -/
lemma finish_eq_send (w : BatchWriter) (nonce : Nonce) (sink : Sink) : w.finish nonce sink =
    ((sink.send (.batch (w.batch nonce))).1.map fun _ => (w.batch nonce).id, w.empty,
      (sink.send (.batch (w.batch nonce))).2) := by
  unfold finish
  dsimp only
  rcases sink.send (.batch (w.batch nonce)) with ⟨_ | _, _⟩ <;> rfl

/-- A writer without messages is within the same limits. -/
lemma Within.empty (h : w.Within limit most) : w.empty.Within limit most :=
  ⟨h.limit, h.mostMessages, rfl, Nat.zero_le _, fun _ _ => Nat.zero_le _⟩

/-- What a writer still takes, and what it has, make up its limit. -/
lemma Within.capacity_add (h : w.Within limit most) :
    w.capacity + (w.messages.map List.length).sum = limit := by
  have hle := h.used_le
  rw [capacity, h.limit, ← h.used]
  omega

/-- A writer refuses a message exactly if it has as many as it may, or no room for this one. -/
lemma Within.write_eq_none_iff (h : w.Within limit most) (raw : Bytes) : w.write raw = none ↔
    (∃ n, most = some n ∧ n ≤ w.messages.length) ∨ w.capacity < raw.length := by
  have hfull : w.isFull ↔ ∃ n, most = some n ∧ n ≤ w.messages.length := by
    rw [isFull, h.mostMessages]
    cases most <;> simp
  rw [← hfull, BatchWriter.write]
  split_ifs with hrefused <;> simp [hrefused]

/-- A writer that is within limits, and has the messages that are in no batch yet. -/
structure Desk.Tracks (limit : Nat) (most : Option Nat) (messages : List Bytes) (desk : Desk) :
    Prop where
  within : desk.writer.Within limit most
  messages : desk.writer.messages = messages

namespace Desk

/-- After a call, the writer has the messages that are then in no batch. -/
lemma Tracks.call (h : desk.Tracks limit most messages) (c : Call) :
    (desk.call c).2.Tracks limit most ((desk.call c).1.collect messages) := by
  obtain ⟨hwithin, rfl⟩ := h
  cases c with
  | write raw =>
    rw [Desk.call]
    cases hwrite : desk.writer.write raw with
    | none => exact ⟨hwithin, rfl⟩
    | some w' => exact ⟨hwithin.write hwrite, messages_write hwrite⟩
  | finish nonce =>
    have hafter : (desk.call (.finish nonce)).2.writer = desk.writer.empty :=
      congrArg (·.2.1) (desk.writer.finish_eq_send nonce desk.sink)
    exact ⟨hafter ▸ hwithin.empty, congrArg BatchWriter.messages hafter⟩
  | restrict _ _ => exact ⟨hwithin, rfl⟩

/-- Unless it closes, the sink has the packet of the batch that a call finished, and nothing of
any other call. -/
lemma Tracks.taken_call (h : desk.Tracks limit most messages) (c : Call)
    (hopen : ¬ (desk.call c).1.Cut) : (desk.call c).2.sink.taken = desk.sink.taken ++
      ((desk.call c).1.batch? messages).toList.flatMap fun b => (Packet.batch b).encode := by
  cases c with
  | write raw =>
    rw [Desk.call]
    cases desk.writer.write raw <;> exact (List.append_nil _).symm
  | finish nonce =>
    let batch := desk.writer.batch nonce
    have hbatch : batch = ⟨nonce, messages⟩ := congrArg (Batch.mk nonce) h.messages
    have hafter : (desk.call (.finish nonce)).2.sink = (desk.sink.send (.batch batch)).2 :=
      congrArg (·.2.2) (desk.writer.finish_eq_send nonce desk.sink)
    have hsent : (desk.sink.send (.batch batch)).1 ≠ .error .closed := by
      intro hclosed
      refine hopen ?_
      show (desk.writer.finish nonce desk.sink).1 = _
      rw [finish_eq_send, hclosed]
      rfl
    rw [hafter, Sink.taken_send _ _ hsent, hbatch]
    exact congrArg (desk.sink.taken ++ ·) (List.append_nil _).symm
  | restrict _ _ => exact (List.append_nil _).symm

/-- A message is refused by the writer, which then stays as it is. -/
lemma call_write_refused_iff (desk : Desk) (raw : Bytes) :
    (desk.call (.write raw)).1 = .refused raw ↔ desk.writer.write raw = none := by
  rw [Desk.call]
  cases desk.writer.write raw <;> simp

lemma call_of_refused {raw : Bytes} (h : (desk.call (.write raw)).1 = .refused raw) :
    (desk.call (.write raw)).2 = desk := by
  have hrefused := (desk.call_write_refused_iff raw).mp h
  rw [Desk.call, hrefused]

/-- A batch that is finished is answered by its address, exactly if the sink takes the packet. -/
lemma Tracks.finished_iff (h : desk.Tracks limit most messages) (nonce : Nonce) (id : BatchId) :
    let batch : Batch := ⟨nonce, messages⟩
    (desk.call (.finish nonce)).1 = .finished nonce (.ok id) ↔
      id = batch.id ∧ desk.sink.Takes (.batch batch) := by
  intro batch
  have hbatch : desk.writer.batch nonce = batch := congrArg (Batch.mk nonce) h.messages
  have hanswer : (desk.call (.finish nonce)).1 =
      .finished nonce ((desk.sink.send (.batch batch)).1.map fun _ => batch.id) := by
    rw [← hbatch]
    exact congrArg (Entry.finished nonce ·.1) (desk.writer.finish_eq_send nonce desk.sink)
  rw [hanswer, ← Sink.send_eq_ok_iff]
  cases (desk.sink.send (.batch batch)).1 with
  | error x => simp [Except.map]
  | ok _ => simp [Except.map, eq_comm]

/-! ## All calls -/

/-- After any calls, the writer has the messages that are then in no batch. -/
lemma Tracks.run (h : desk.Tracks limit most messages) (calls : List Call) :
    (desk.run calls).2.Tracks limit most ((desk.run calls).1.foldl Entry.collect messages) := by
  induction calls generalizing desk messages with
  | nil => exact h
  | cons c rest ih => exact ih (h.call c)

/-- While the sink does not close, it gets the packets of the batches one after the other. -/
lemma Tracks.taken_run (h : desk.Tracks limit most messages) {calls : List Call}
    (hopen : ∀ entry ∈ (desk.run calls).1, ¬ entry.Cut) :
    (desk.run calls).2.sink.taken = desk.sink.taken ++
      (batchesAfter messages (desk.run calls).1).flatMap fun b => (Packet.batch b).encode := by
  induction calls generalizing desk messages with
  | nil => exact (List.append_nil _).symm
  | cons c rest ih =>
    obtain ⟨hfirst, hrest⟩ := List.forall_mem_cons.mp hopen
    refine (ih (h.call c) hrest).trans ?_
    rw [h.taken_call c hfirst, List.append_assoc, ← List.flatMap_append]
    rfl

end Desk

/-- A writer for batches with a limit on their raw bytes, which is at most the length of a packet,
and a limit on their messages, if there is one. After any calls, and whatever its sink did, the
room of the writer and the messages that were taken since a batch was finished last make up the
limit. It refuses the next message exactly if these are as many as there may be, or the message is
longer than the room, and then nothing changes. The next batch that is finished has these messages
and the nonce that is given. This succeeds exactly if the sink has room for its packet and can be
flushed, and then the address of this batch is answered. Unless the sink closed while it was
written to, it has taken the packets of all batches that were finished, in turn, also of those for
which only flushing it failed. -/
theorem run_fresh (limit : Nat) (most : Option Nat) (sink : Sink) (calls : List Call) :
    let start : Desk := ⟨fresh limit most, sink⟩
    let log := (start.run calls).1
    let desk := (start.run calls).2
    (desk.writer.used ≤ desk.writer.limit ∧
        desk.writer.capacity + ((pending log).map List.length).sum =
          min limit Packet.longest) ∧
      (∀ raw, ((desk.call (.write raw)).1 = .refused raw ↔
            (∃ n, most = some n ∧ n ≤ (pending log).length) ∨
              desk.writer.capacity < raw.length) ∧
          ((desk.call (.write raw)).1 = .refused raw → (desk.call (.write raw)).2 = desk)) ∧
      (∀ nonce id, let batch : Batch := ⟨nonce, pending log⟩
        (desk.call (.finish nonce)).1 = .finished nonce (.ok id) ↔
          id = batch.id ∧ desk.sink.Takes (.batch batch)) ∧
      ((∀ entry ∈ log, ¬ entry.Cut) →
        desk.sink.taken = sink.taken ++
          (batches log).flatMap fun b => (Packet.batch b).encode) := by
  intro start log desk
  have hstart : start.Tracks (min limit Packet.longest) most [] := ⟨.fresh limit most, rfl⟩
  have htracks : desk.Tracks (min limit Packet.longest) most (pending log) := hstart.run calls
  refine ⟨⟨?_, ?_⟩, fun raw => ⟨?_, Desk.call_of_refused⟩, htracks.finished_iff, hstart.taken_run⟩
  · rw [htracks.within.limit]
    exact htracks.within.used_le
  · rw [← htracks.messages]
    exact htracks.within.capacity_add
  · rw [← htracks.messages, Desk.call_write_refused_iff]
    exact htracks.within.write_eq_none_iff raw

/-- A writer with room for ten bytes fills a batch, refuses what is too long and goes on with the
next batch. Its sink has room for that one too. -/
theorem run_fresh_refilled :
    let first : Batch := ⟨⟨List.replicate 16 1, rfl⟩, [[1, 2, 3, 4, 5, 6], [7, 8, 9, 10]]⟩
    let second : Batch := ⟨⟨List.replicate 16 2, rfl⟩, [[12]]⟩
    let start : Desk := ⟨fresh 10 none, { limit := some 100 }⟩
    let calls : List Call := [.write [1, 2, 3, 4, 5, 6], .write [7, 8, 9, 10, 11],
      .write [7, 8, 9, 10], .finish first.nonce, .write [12]]
    let desk := (start.run calls).2
    desk.sink.taken = (Packet.batch first).encode ∧ desk.writer.capacity = 9 ∧
      (desk.call (.finish second.nonce)).1 = .finished second.nonce (.ok second.id) := by
  intro first second start calls desk
  obtain ⟨⟨-, hroom⟩, -, hfinish, htaken⟩ := run_fresh 10 none { limit := some 100 } calls
  have hpending : pending (start.run calls).1 = [[12]] := by decide +kernel
  have hbatches : batches (start.run calls).1 = [first] := by decide +kernel
  rw [hpending] at hroom hfinish
  rw [hbatches] at htaken
  refine ⟨?_, Nat.add_right_cancel hroom, (hfinish second.nonce second.id).mpr ⟨rfl, ?_, rfl⟩⟩
  · exact (htaken (by decide +kernel)).trans (List.append_nil _)
  · intro limit hlimit
    have hlimited : desk.sink.limit = some 100 := by decide +kernel
    obtain rfl : 100 = limit := Option.some.inj (hlimited.symm.trans hlimit)
    decide +kernel

/-- A writer is empty again when its sink closed after five bytes of a batch. -/
example :
    let start : Desk := ⟨fresh 10 none, { limit := some 5 }⟩
    let calls : List Call := [.write [1, 2, 3, 4, 5, 6], .write [7, 8, 9, 10, 11],
      .write [7, 8, 9, 10], .finish ⟨List.replicate 16 0, rfl⟩]
    (start.run calls).2.writer.capacity = 10 ∧ (start.run calls).2.sink.taken.length = 5 := by
  decide +kernel

end MessageSync.BatchWriter
