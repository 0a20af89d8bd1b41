import MessageSync.Proofs.OfferRound
import MessageSync.Proofs.Store.Closing

/-!
# What goes into a batch

The messages that may go to a contact wait in a queue, in the order of their age. A batch takes
the longest part of the front of the queue that a writer has room for
(`BatchWriter.prefix_load_iff`), although the queue is cut twice: by the store, which counts
bytes, and by the writer, which counts bytes and messages. The batch is then recorded, and the
rows of its messages say that they were sent; nothing else changes (`Backend.dispatched`).
-/

namespace MessageSync

/-! ## Room for messages -/

namespace BatchWriter

variable {w : BatchWriter} {queue messages : List Message}

/-- Whether a writer has room for some more messages. -/
structure HasRoom (w : BatchWriter) (messages : List Message) : Prop where
  size : Message.totalSize messages ≤ w.capacity
  number : ∀ most, w.mostMessages = some most → messages.length ≤ most - w.messages.length

lemma hasRoom_nil (w : BatchWriter) : w.HasRoom [] := ⟨Nat.zero_le _, fun _ _ => Nat.zero_le _⟩

/-- A writer that is empty has room by its limits. -/
lemma hasRoom_fresh_iff {limit : Nat} {count : Option Nat} :
    (fresh limit count).HasRoom messages ↔
      Message.totalSize messages ≤ min limit Packet.longest ∧
        ∀ most, count = some most → messages.length ≤ most :=
  ⟨fun h => ⟨h.size, h.number⟩, fun h => ⟨h.1, h.2⟩⟩

/-- There is room for a message and others, if the message can be written and there is room for
the others then. -/
lemma hasRoom_cons_iff {m : Message} {next : BatchWriter} (h : w.write m.raw = some next) :
    w.HasRoom (m :: messages) ↔ next.HasRoom messages := by
  have hsize : Message.totalSize (m :: messages) = m.raw.length + Message.totalSize messages := rfl
  unfold write at h
  split at h
  · cases h
  · next hroom =>
    obtain ⟨hfull, hfits⟩ := not_or.mp hroom
    obtain rfl := Option.some.inj h
    have hcapacity : ({ w with
        used := w.used + m.raw.length
        messages := w.messages ++ [m.raw] } : BatchWriter).capacity = w.capacity - m.raw.length :=
      (Nat.sub_sub _ _ _).symm
    constructor
    · rintro ⟨hbytes, hnumber⟩
      refine ⟨by omega, fun most hmost => ?_⟩
      have hle := hnumber most hmost
      dsimp only at hmost ⊢
      rw [List.length_cons] at hle
      rw [List.length_append, List.length_singleton]
      omega
    · rintro ⟨hbytes, hnumber⟩
      refine ⟨by omega, fun most hmost => ?_⟩
      have hle := hnumber most hmost
      unfold isFull at hfull
      rw [hmost] at hfull
      have hmore : ¬ most ≤ w.messages.length := fun hmost => hfull (decide_eq_true hmost)
      dsimp only at hle
      rw [List.length_append, List.length_singleton] at hle
      rw [List.length_cons]
      omega

/-- There is no room for a message that cannot be written. -/
lemma not_hasRoom_cons {m : Message} (h : w.write m.raw = none) : ¬ w.HasRoom (m :: messages) := by
  have hsize : Message.totalSize (m :: messages) = m.raw.length + Message.totalSize messages := rfl
  rintro ⟨hbytes, hnumber⟩
  unfold write at h
  split at h
  · next hroom =>
    rcases hroom with hfull | hlarge
    · unfold isFull at hfull
      split at hfull
      · next most hmost =>
        have hle := hnumber most hmost
        have hmore := of_decide_eq_true hfull
        rw [List.length_cons] at hle
        omega
      · cases hfull
    · omega
  · cases h

lemma load_isPrefix (w : BatchWriter) (queue : List Message) : w.load queue <+: queue := by
  induction queue generalizing w with
  | nil => exact List.nil_prefix
  | cons m rest ih =>
    rw [load]
    split
    · exact List.nil_prefix
    · next next _ => exact List.prefix_cons_inj m |>.mpr (ih next)

/-- What a writer takes of a queue is as much of its front as there is room for. -/
theorem prefix_load_iff (h : messages <+: queue) :
    messages <+: w.load queue ↔ w.HasRoom messages := by
  induction queue generalizing w messages with
  | nil =>
    obtain rfl := List.prefix_nil.mp h
    exact iff_of_true List.nil_prefix w.hasRoom_nil
  | cons m rest ih =>
    cases messages with
    | nil => exact iff_of_true List.nil_prefix w.hasRoom_nil
    | cons m' messages =>
      obtain ⟨rfl, hrest⟩ := List.cons_prefix_cons.mp h
      rw [load]
      cases hwrite : w.write m'.raw with
      | none =>
        exact iff_of_false (fun h => List.cons_ne_nil _ _ (List.prefix_nil.mp h))
          (not_hasRoom_cons hwrite)
      | some next =>
        dsimp only
        rw [List.prefix_cons_inj, ih hrest, hasRoom_cons_iff hwrite]

end BatchWriter

/-! ## Records of batches -/

/-- The row of a message that is in a batch. -/
def StatusRow.asSent (row : StatusRow) : StatusRow := { row with status := Status.sent.toNat }

namespace Memory

/-- Records a batch of a contact, and that the rows of the contact for its messages are sent. -/
def dispatch (s : Memory) (c : ContactId) (b : BatchId) (ids : List MessageId) (now : Int64) :
    Memory :=
  { s with
    outstanding := s.outstanding.insert ⟨c, b⟩ ⟨ids, now⟩
    deliveries := s.deliveries.map fun k d =>
      if k.contact = c && ids.contains k.item then { d with status := .sent } else d }

variable {s : Memory} {c : ContactId} {b : BatchId} {ids : List MessageId} {now : Int64}

lemma delivery_dispatch (c' : ContactId) (id : MessageId) :
    (s.dispatch c b ids now).delivery c' id =
      (s.delivery c' id).map fun d => if c' = c ∧ id ∈ ids then { d with status := .sent } else d := by
  unfold delivery dispatch
  dsimp only
  rw [Std.ExtTreeMap.getElem?_map]
  simp only [Bool.and_eq_true, decide_eq_true_eq, List.contains_iff_mem]

lemma sentBatch_dispatch (c' : ContactId) (b' : BatchId) :
    (s.dispatch c b ids now).sentBatch c' b' =
      if c' = c ∧ b' = b then some ⟨ids, now⟩ else s.sentBatch c' b' := by
  unfold sentBatch dispatch
  rw [Table.getElem?_insert]
  simp only [ContactKey.mk.injEq, eq_comm]

/-- Messages that may be sent are new, so that the rows of all of them change. -/
lemma change_send (h : ∀ id ∈ ids, s.MaySend c id) :
    s.change (.send c b ids now) = s.dispatch c b ids now := by
  refine ext_batches (s := s) ⟨_, _, rfl⟩ ⟨_, _, rfl⟩ (fun c' id => ?_) fun c' b' => ?_
  · show (s.addOutstandingBatch c b ids now).delivery c' id = _
    rw [delivery_addOutstandingBatch, delivery_dispatch]
    split
    · next hmem =>
      obtain ⟨rfl, hid⟩ := hmem
      obtain ⟨d, hd, hel⟩ := h id hid
      have hnew : d.status = .new := by
        rw [Delivery.eligible, Bool.and_eq_true, decide_eq_true_eq] at hel
        exact hel.2
      rw [hd, Option.map_some, Option.map_some, Delivery.asSent, if_pos hnew]
    · exact Option.map_id.symm ▸ rfl
  · show (s.addOutstandingBatch c b ids now).sentBatch c' b' = _
    rw [sentBatch_addOutstandingBatch, sentBatch_dispatch]

lemma Consistent.dispatch (h : s.Consistent) (hc : c ∈ s.contacts) :
    (s.dispatch c b ids now).Consistent := by
  refine h.congr rfl rfl rfl (fun _ => Iff.rfl) (fun _ _ => Iff.rfl) (fun c' id => ?_)
    (fun c' b' r hr => ?_)
  · rw [delivery_dispatch, Option.isSome_map]
  · rw [sentBatch_dispatch] at hr
    split at hr
    · next hb => exact hb.1 ▸ hc
    · exact h.owned c' b' r hr

end Memory

namespace Relational

/-- Records a batch of a contact and its messages in their order, and that the rows of the
contact for its messages are sent. -/
def dispatch (s : Relational) (c : ContactId) (b : BatchId) (ids : List MessageId) (now : Int64) :
    Relational :=
  { s with
    outstanding := s.outstanding.insert ⟨c, b⟩ now
    batched := Table.insertAll s.batched (ids.zipIdx.map fun e => (⟨c, ⟨b, e.2⟩⟩, e.1))
    statuses := s.statuses.map fun k row =>
      if k.contact = c && ids.contains k.item then row.asSent else row }

/-- A batch that is not outstanding yet is recorded in both stores. -/
lemma Mirrors.dispatch {s : Relational} {t : Memory} (h : s.Mirrors t) {c : ContactId}
    (hc : c ∈ t.contacts) {b : BatchId} (hfresh : t.sentBatch c b = none) (ids : List MessageId)
    (now : Int64) : (s.dispatch c b ids now).Mirrors (t.dispatch c b ids now) := by
  have hbatched : (s.deleteBatch c b).batched = s.batched := by
    refine Std.ExtTreeMap.ext_getElem? fun k => ?_
    obtain ⟨c', b', i⟩ := k
    rw [batched_deleteBatch]
    split
    · next hk => rw [h.batched, hk.1, hk.2, hfresh]; rfl
    · rfl
  exact {
    h with
    consistent := h.consistent.dispatch hc
    statuses := h.statuses_map (fun k => k.contact = c && ids.contains k.item) fun _ => rfl
    outstanding := by
      show s.outstanding.insert _ _ = (t.outstanding.insert _ _).map _
      rw [h.outstanding, ← Table.map_insert]
    batched := by
      intro c' b' i
      show (Table.insertAll s.batched _)[(⟨c', ⟨b', i⟩⟩ : ContactKey PlaceKey)]? = _
      rw [← hbatched, batched_insertAll, h.batched, Memory.sentBatch_dispatch]
      split <;> rfl }

end Relational

/-! ## Sending -/

namespace Engine

variable {e : Engine Memory} {c : ContactId}

/-- What comes of sending a batch to a sink that takes everything. -/
lemma generateBatch_runOn (hs : e.store.Keyed) (hc : c ∈ e.store.contacts) (limit : Nat)
    (count : Option Nat) (nonce : Nonce) (taken : Bytes) :
    let messages := (BatchWriter.fresh limit count).load (e.store.eligible c)
    let batch : Batch := ⟨nonce, messages.map Message.raw⟩
    let sent : SentBatch := ⟨batch.id, messages.map Message.id⟩
    (generateBatch c (.fresh limit count) nonce).runOn e { taken } =
      (.ok sent.recorded?, {
        engine := { e with store := e.store.changes (sending c sent e.now) }
        events := sentEvents c sent
        sink := { taken := taken ++ (Packet.batch batch).encode } }) := by
  intro messages batch sent
  obtain ⟨hids, hraws⟩ := picked_eq_load hs c (.fresh limit count)
  have hbatch : (e.picked c (.fresh limit count)).2.batch nonce = batch :=
    congrArg (Batch.mk nonce) hraws
  have hrun : (sendOldest c (.fresh limit count) nonce).runOn e { taken } =
      (⟨e, [], { taken }⟩ : Turn Memory).sendBatch c nonce (e.picked c (.fresh limit count)) := by
    rw [Act.runOn, sendOldest_apply]
    exact if_pos hc
  rw [generateBatch_runOn_eq, hrun, Turn.sendBatch, hbatch, hids]
  rfl

/-- A batch that has messages is recorded; they may all be sent. -/
lemma changes_sending (hs : e.store.Keyed) {sent : List Message} (hsub : sent <+: e.store.eligible c)
    (hne : sent ≠ []) (b : BatchId) (now : Int64) :
    e.store.changes (sending c ⟨b, sent.map Message.id⟩ now) =
      e.store.dispatch c b (sent.map Message.id) now := by
  have hids : sent.map Message.id ≠ [] := fun h => hne (List.map_eq_nil_iff.mp h)
  have hmay : ∀ id ∈ sent.map Message.id, e.store.MaySend c id := by
    intro id hid
    obtain ⟨m, hm, rfl⟩ := List.mem_map.mp hid
    exact ((Memory.mem_eligible_iff hs c m).mp (hsub.subset hm)).2
  rw [sending, if_neg hids, Memory.changes_cons, Memory.changes_nil, Memory.change_send hmay]

end Engine

/-! ## Over either store -/

namespace Backend

/-- The store after a batch was sent to a contact: the batch is outstanding, and the rows of the
contact for its messages say that they were sent. -/
def dispatched : (backend : Backend) → backend.Data → ContactId → BatchId → List MessageId →
    Int64 → backend.Data
  | .memory, s, c, b, ids, now => Memory.dispatch s c b ids now
  | .relational, s, c, b, ids, now => Relational.dispatch s c b ids now

namespace Twin

variable {backend : Backend} {e : Engine backend.Data} {t : Engine Memory} {c : ContactId}

lemma dispatched (h : backend.Twin e t) (hc : c ∈ t.store.contacts) {b : BatchId}
    (hfresh : t.store.sentBatch c b = none) (ids : List MessageId) (now : Int64) :
    backend.Twin { e with store := backend.dispatched e.store c b ids now }
      { t with store := t.store.dispatch c b ids now } := by
  cases backend with
  | memory =>
    obtain ⟨rfl, hs⟩ := h
    exact ⟨rfl, hs.dispatch hc⟩
  | relational => exact { h with store := (Engine.Mirrors.store h).dispatch hc hfresh ids now }

lemma spares_dispatched (s : backend.Data) (c : ContactId) (b : BatchId) (ids : List MessageId)
    (now : Int64) : backend.Spares s (backend.dispatched s c b ids now) := by
  cases backend with
  | memory => trivial
  | relational => exact ⟨rfl, rfl⟩

/-- A batch is outstanding if it is listed as such. -/
lemma sentBatch_eq_none (h : backend.Twin e t) {b : BatchId}
    (hfresh : ∀ batches, e.view (Store.outstandingBatches c) = .ok batches →
      b ∉ batches.map OutstandingBatch.id) : t.store.sentBatch c b = none := by
  by_contra hsome
  obtain ⟨r, hr⟩ := Option.ne_none_iff_exists'.mp hsome
  refine hfresh _ (h.outstanding c) (List.mem_map.mpr ⟨⟨c, b, r.messages, r.sentAt⟩, ?_, rfl⟩)
  exact (t.store.mem_outstandingOf_iff c _).mpr ⟨rfl, hr⟩

/-- What comes of sending a batch, whichever the store is: the answer, what is written, and a
store in which the batch has messages to record or none. -/
lemma generateBatch (h : backend.Twin e t) (hc : c ∈ t.store.contacts) (limit : Nat)
    (count : Option Nat) (nonce : Nonce) (taken : Bytes) :
    let sent := (BatchWriter.fresh limit count).load (backend.eligible e.store c)
    let packet : Batch := ⟨nonce, sent.map Message.raw⟩
    let batch : SentBatch := ⟨packet.id, sent.map Message.id⟩
    let result := (Engine.generateBatch c (.fresh limit count) nonce).runOn e { taken }
    result.1 = .ok batch.recorded? ∧
      result.2.sink = { taken := taken ++ (Packet.batch packet).encode } ∧
      (sent = [] → result.2.engine = e) ∧
      (sent ≠ [] → t.store.sentBatch c batch.id = none →
        result.2.engine =
          { e with store := backend.dispatched e.store c batch.id batch.messages e.now }) := by
  intro sent packet batch result
  have hs := h.consistent.keyed
  have hrun := Engine.generateBatch_runOn hs hc limit count nonce taken
  rw [← h.eligible c] at hrun
  let operation : Operation (Option SentBatch) := .generateBatch c (.fresh limit count) nonce
  obtain ⟨hanswer, -, hsink⟩ := h.plain operation rfl { taken }
  have hspares : backend.Spares e.store result.2.engine.store :=
    spares_runOn operation rfl e { taken }
  have hafter : backend.Twin result.2.engine
      ((Engine.generateBatch c (.fresh limit count) nonce).runOn t { taken }).2.engine :=
    h.step (.perform operation { taken })
  rw [hrun] at hafter
  refine ⟨hanswer.trans (congrArg Prod.fst hrun), hsink.trans (congrArg (·.2.sink) hrun),
    fun hnone => ?_, fun hne hfresh => ?_⟩
  · change backend.Twin _ { t with store := t.store.changes (sending c batch t.now) } at hafter
    have hids : batch.messages = [] := congrArg (List.map Message.id) hnone
    rw [sending, if_pos hids, Memory.changes_nil] at hafter
    exact hafter.eq h hspares
  · change backend.Twin _ { t with store := t.store.changes (sending c batch t.now) } at hafter
    have hfront : sent <+: t.store.eligible c :=
      h.eligible c ▸ (BatchWriter.fresh limit count).load_isPrefix (backend.eligible e.store c)
    rw [Engine.changes_sending hs hfront hne] at hafter
    have hdispatched := h.dispatched hc hfresh batch.messages t.now
    rw [hafter.eq hdispatched ((spares_dispatched _ _ _ _ _).symm.trans hspares), h.now]

end Twin

/-- A batch is sent to a contact, with a writer that is new and a sink that takes everything.
The messages that may go to the contact are those that are stored and whose rows are new and
sendable; they are in the order of their age. The batch takes as much of the front of this queue
as there is room for, in that order, and its packet is all that is written. If it takes none,
there is no batch in the answer and nothing changes. Otherwise the batch is in the answer, and
all that changes is that it is recorded as outstanding since now and that the rows of its
messages are sent, unless a batch with its identifier is outstanding already. -/
theorem generateBatch_eq {backend : Backend} {e : Engine backend.Data} (he : backend.Reaches e)
    {c : ContactId} (hc : e.view (Store.containsContact c) = .ok true) (limit : Nat)
    (count : Option Nat) (nonce : Nonce) (taken : Bytes) :
    let queue := backend.eligible e.store c
    let result := (Engine.generateBatch c (.fresh limit count) nonce).runOn e { taken }
    (∀ m, m ∈ queue ↔ backend.message e.store m.id = some m ∧
      ∃ d, e.view (Store.status c m.id) = .ok (some d) ∧ d.status = .new ∧ d.sendable = true) ∧
    queue.Pairwise (fun m m' => m.compareAge m' = .lt) ∧
    ∃ sent : List Message,
      (sent <+: queue ∧ ∀ messages, messages <+: queue →
        (messages <+: sent ↔ Message.totalSize messages ≤ min limit Packet.longest ∧
          ∀ most, count = some most → messages.length ≤ most)) ∧
      let packet : Batch := ⟨nonce, sent.map Message.raw⟩
      let batch : SentBatch := ⟨packet.id, sent.map Message.id⟩
      result.2.sink = { taken := taken ++ (Packet.batch packet).encode } ∧
      (sent = [] → result.1 = .ok none ∧ result.2.engine = e) ∧
      (sent ≠ [] → result.1 = .ok (some batch) ∧
        ((∀ batches, e.view (Store.outstandingBatches c) = .ok batches →
            batch.id ∉ batches.map OutstandingBatch.id) →
          result.2.engine =
            { e with store := backend.dispatched e.store c batch.id batch.messages e.now })) := by
  intro queue result
  obtain ⟨t, htwin⟩ := Twin.of_reaches he
  have hcontact : c ∈ t.store.contacts := htwin.mem_contacts hc
  obtain ⟨hanswer, hsink, hempty, hrecorded⟩ :=
    htwin.generateBatch hcontact limit count nonce taken
  refine ⟨fun m => ?_, ?_, (BatchWriter.fresh limit count).load queue,
    ⟨BatchWriter.load_isPrefix _ _, fun messages hfront => ?_⟩, hsink,
    fun hnone => ?_, fun hne => ?_⟩
  · rw [htwin.mem_eligible_iff m]
    simp only [Delivery.eligible, Bool.and_eq_true, decide_eq_true_eq, and_comm]
  · rw [show queue = t.store.eligible c from htwin.eligible c]
    exact Memory.pairwise_eligible htwin.consistent.keyed c
  · rw [BatchWriter.prefix_load_iff hfront, BatchWriter.hasRoom_fresh_iff]
  · have hids : ((BatchWriter.fresh limit count).load queue).map Message.id = [] :=
      congrArg (List.map Message.id) hnone
    rw [SentBatch.recorded?_eq_none_iff.mpr hids] at hanswer
    exact ⟨hanswer, hempty hnone⟩
  · have hids : ((BatchWriter.fresh limit count).load queue).map Message.id ≠ [] :=
      fun h => hne (List.map_eq_nil_iff.mp h)
    rw [SentBatch.recorded?_of_ne_nil hids] at hanswer
    exact ⟨hanswer, fun hfresh => hrecorded hne (htwin.sentBatch_eq_none hfresh)⟩

/-- Two messages of one time wait for the contact, and there is room for one of them. -/
theorem generateBatch_eq_cut :
    let e := (Backend.relational.start {} 0).run Sample.queueing
    let result := (Engine.generateBatch Sample.contact (.fresh 1024 (some 1))
      (Sample.nonce 1)).runOn e {}
    let packet : Batch := ⟨Sample.nonce 1, [Sample.lesser.raw]⟩
    result.1 = .ok (some ⟨packet.id, [Sample.lesser.id]⟩) ∧
      result.2.sink.taken = (Packet.batch packet).encode ∧
      result.2.engine.store =
        Relational.dispatch e.store Sample.contact packet.id [Sample.lesser.id] e.now := by
  intro e
  dsimp only
  have hc : e.view (Store.containsContact Sample.contact) = .ok true :=
    Sample.eq_ok_of_toOption (by decide +kernel)
  have hqueue : Backend.relational.eligible e.store Sample.contact =
      [Sample.lesser, Sample.message] := Sample.eligible_queueing .relational
  have hidle : e.view (Store.outstandingBatches Sample.contact) = .ok [] :=
    Sample.eq_ok_of_toOption (by decide +kernel)
  obtain ⟨-, -, sent, ⟨hfront, hroom⟩, hsink, -, hrecorded⟩ :=
    @generateBatch_eq .relational e ⟨{}, 0, Sample.queueing, rfl⟩ Sample.contact hc 1024 (some 1)
      (Sample.nonce 1) []
  rw [hqueue] at hfront hroom
  -- the one with the lesser identifier fits, and both together do not
  have hfits : [Sample.lesser] <+: sent := by
    refine (hroom _ ⟨[Sample.message], rfl⟩).mpr ⟨by decide, fun most hmost => ?_⟩
    exact Nat.le_of_eq (Option.some.inj hmost)
  have hlength : sent.length ≤ 1 := ((hroom sent hfront).mp (List.prefix_refl _)).2 1 rfl
  obtain rfl : [Sample.lesser] = sent := hfits.eq_of_length_le hlength
  obtain ⟨hanswer, hengine⟩ := hrecorded (List.cons_ne_nil _ _)
  simp only [List.map_cons, List.map_nil, List.nil_append] at hanswer hsink hengine
  have hfresh : ∀ batches, e.view (Store.outstandingBatches Sample.contact) = .ok batches →
      Batch.id ⟨Sample.nonce 1, [Sample.lesser.raw]⟩ ∉ batches.map OutstandingBatch.id := by
    intro batches h
    rw [hidle] at h
    rw [← Except.ok.inj h]
    exact List.not_mem_nil
  rw [hsink, hengine hfresh]
  exact ⟨hanswer, rfl, rfl⟩

end Backend

end MessageSync
