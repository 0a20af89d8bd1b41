import MessageSync.Proofs.Engine.Writing
import MessageSync.Proofs.OutstandingBatches
import MessageSync.Proofs.Sendability

/-!
# What leaves for a contact

Four operations choose messages to offer or to send to a contact. They look at nothing but the
deliveries of the contact: whether a message is new to it and may be passed on. Deliveries are
there only for messages that the contact may see, and they are right about what may be passed
on, so that whatever is chosen is fit for the contact (`Backend.fit_of_leaving`), whichever
messages the contact asks for.
-/

namespace MessageSync

/-! ## Messages that are chosen -/

namespace Operation

/-- The contact that an operation chooses messages for. -/
def choosesFor : {α : Type} → Operation α → Option ContactId
  | _, .generateOffer c _ | _, .generateBatch c _ _ | _, .generateBatchFrom c _ _ _
  | _, .receiveRequest c _ _ _ _ => some c
  | _, _ => none

/-- The packet of an operation that chooses these messages. It begins with what the writer
already has. -/
def carrying (messages : List Message) : {α : Type} → Operation α → Option Packet
  | _, .generateOffer _ writer => some (.offer (writer.ids ++ messages.map Message.id))
  | _, .generateBatch _ writer nonce | _, .generateBatchFrom _ writer nonce _
  | _, .receiveRequest _ _ _ writer nonce =>
    some (.batch ⟨nonce, writer.messages ++ messages.map Message.raw⟩)
  | _, _ => none

/-- The identifiers of the chosen messages in the answer of an operation. -/
def chosen : {α : Type} → Operation α → α → List MessageId
  | _, .generateOffer _ _, ids => ids
  | _, .generateBatch _ _ _, batch => (batch.map SentBatch.messages).getD []
  | _, .generateBatchFrom _ _ _ _, batch | _, .receiveRequest _ _ _ _ _, batch => batch.messages
  | _, _, _ => []

end Operation

/-- What holds of a message that is fit to leave for a contact: it is stored, both the contact
and this node are subscribed to its group, it is anonymous or its author is rated good, and it
was neither sent to the contact, unless the batch was lost, nor seen by it. -/
structure Backend.Fit (backend : Backend) (e : Engine backend.Data) (c : ContactId) (m : Message) :
    Prop where
  stored : backend.message e.store m.id = some m
  advertised : ∃ groups, e.view (Store.contactSubscriptions c) = .ok groups ∧
    ∃ g ∈ groups, g.id = m.group
  subscribed : e.view (Store.containsSubscription m.group) = .ok true
  trusted : m.author = none ∨ ∃ a, m.author = some a ∧ e.view (Store.rating a) = .ok .good
  new : ∃ d, e.view (Store.status c m.id) = .ok (some d) ∧ d.status = .new

/-! ## Over a store in memory -/

namespace Memory

/-- Whether a message is stored and may go to a contact. -/
def Ready (s : Memory) (c : ContactId) (m : Message) : Prop :=
  s.messages[m.id]? = some m ∧ s.MaySend c m.id

lemma mem_contactSubscriptions_iff {s : Memory} {c : ContactId} {g : GroupId} :
    (∃ x ∈ s.contactSubscriptions c, x.id = g) ↔ s.Advertises c g := by
  unfold contactSubscriptions Group.ofTable
  constructor
  · rintro ⟨x, hx, rfl⟩
    cases hr : s.contacts[c]? with
    | none => simp [hr] at hx
    | some r =>
      rw [hr] at hx
      obtain ⟨entry, hentry, rfl⟩ := List.mem_map.mp hx
      exact ⟨r, hr, (Table.mem_iff_exists _ _).mpr ⟨_, (Table.mem_toList_iff _ _).mp hentry⟩⟩
  · rintro ⟨r, hr, hg⟩
    obtain ⟨name, hname⟩ := (Table.mem_iff_exists _ _).mp hg
    refine ⟨⟨g, name⟩, ?_, rfl⟩
    rw [hr]
    exact List.mem_map.mpr ⟨(g, name), (Table.mem_toList_iff _ _).mpr hname, rfl⟩

/-- What may be passed on is anonymous or of an author who is rated good. -/
lemma trusted_of_sendable {s : Memory} {m : Message} (h : s.sendable m = true) :
    m.author = none ∨ ∃ a, m.author = some a ∧ s.ratingOf a = .good := by
  unfold sendable isSendable at h
  cases hauthor : m.author with
  | none => exact .inl rfl
  | some a =>
    rw [hauthor] at h
    exact .inr ⟨a, rfl, of_decide_eq_true h⟩

end Memory

namespace Engine

/-- Identifiers of messages are those of a list of messages. -/
lemma exists_messages {P : Message → Prop} (ids : List MessageId)
    (h : ∀ id ∈ ids, ∃ m, P m ∧ m.id = id) :
    ∃ messages : List Message, (∀ m ∈ messages, P m) ∧ ids = messages.map Message.id := by
  induction ids with
  | nil => exact ⟨[], by simp, rfl⟩
  | cons id rest ih =>
    obtain ⟨m, hm, rfl⟩ := h id List.mem_cons_self
    obtain ⟨messages, hmessages, heq⟩ := ih fun id hid => h id (List.mem_cons_of_mem _ hid)
    refine ⟨m :: messages, ?_, congrArg (m.id :: ·) heq⟩
    exact List.forall_mem_cons.mpr ⟨hm, hmessages⟩

/-- What is picked for a batch is a list of messages, and the writer has their raw forms. -/
lemma exists_pick {P : Message → Prop} {find : MessageId → Option Bytes} (ids : List MessageId)
    (writer : BatchWriter)
    (h : ∀ id ∈ ids, ∀ raw, find id = some raw → ∃ m, P m ∧ m.id = id ∧ m.raw = raw) :
    ∃ messages : List Message, (∀ m ∈ messages, P m) ∧
      (pick find writer ids).1 = messages.map Message.id ∧
      (pick find writer ids).2.messages = writer.messages ++ messages.map Message.raw := by
  obtain ⟨raws, hraws, hmap⟩ := pick_messages find ids writer
  -- what was found for an identifier is the raw form of its message
  obtain ⟨messages, hmessages, hids⟩ := exists_messages
    (P := fun m => P m ∧ find m.id = some m.raw) (pick find writer ids).1 fun id hid => by
      have hfound : find id ∈ raws.map some := hmap ▸ List.mem_map_of_mem hid
      obtain ⟨raw, -, hraw⟩ := List.mem_map.mp hfound
      obtain ⟨m, hm, rfl, rfl⟩ := h id ((pick_sublist _ _ _).subset hid) raw hraw.symm
      exact ⟨m, ⟨hm, hraw.symm⟩, rfl⟩
  refine ⟨messages, fun m hm => (hmessages m hm).1, hids, ?_⟩
  have hfound : messages.map (find ∘ Message.id) = messages.map (some ∘ Message.raw) :=
    List.map_congr_left fun m hm => (hmessages m hm).2
  rw [hids, List.map_map, hfound, ← List.map_map] at hmap
  rw [hraws, (List.map_inj_right fun _ _ => Option.some.inj).mp hmap]

variable {e : Engine Memory} (hs : e.store.Keyed) (c : ContactId)
include hs

/-- The messages to try are ready. -/
lemma ready_of_mem_candidates {capacity : Nat} {id : MessageId}
    (h : id ∈ e.store.candidates c capacity) : ∃ m, e.store.Ready c m ∧ m.id = id := by
  obtain ⟨m, hm, rfl⟩ := List.mem_map.mp h
  exact ⟨m, (Memory.mem_eligible_iff hs c m).mp ((takeWithin_sublist _ _).subset hm), rfl⟩

lemma exists_pickedOffer (writer : IdWriter .message) :
    ∃ messages : List Message, (∀ m ∈ messages, e.store.Ready c m) ∧
      (e.pickedOffer c writer).1 = messages.map Message.id := by
  refine exists_messages _ fun id hid => ?_
  have hcandidate : id ∈ e.store.candidates c Store.unlimited :=
    List.mem_of_mem_take (mem_of_mem_writeAll hid)
  exact ready_of_mem_candidates hs c hcandidate

lemma exists_picked (writer : BatchWriter) :
    ∃ messages : List Message, (∀ m ∈ messages, e.store.Ready c m) ∧
      (e.picked c writer).1 = messages.map Message.id ∧
      (e.picked c writer).2.messages = writer.messages ++ messages.map Message.raw := by
  refine exists_pick _ writer fun id hid raw hraw => ?_
  obtain ⟨m, hm, rfl⟩ := ready_of_mem_candidates hs c hid
  rw [hm.1] at hraw
  exact ⟨m, hm, rfl, Option.some.inj hraw⟩

/-- Whatever was asked for, only what is ready is picked. -/
lemma exists_pickedFrom (writer : BatchWriter) (requested : List MessageId) :
    ∃ messages : List Message, (∀ m ∈ messages, e.store.Ready c m) ∧
      (e.pickedFrom c writer requested).1 = messages.map Message.id ∧
      (e.pickedFrom c writer requested).2.messages = writer.messages ++ messages.map Message.raw := by
  refine exists_pick _ writer fun id _ raw hraw => ?_
  unfold Memory.rawIfSendable at hraw
  split at hraw
  · next d hd =>
    obtain ⟨hel, hfound⟩ := Option.ite_none_right_eq_some.mp hraw
    obtain ⟨m, hm, rfl⟩ := Option.map_eq_some_iff.mp hfound
    obtain rfl := hs hm
    exact ⟨m, ⟨hm, d, hd, hel⟩, rfl, rfl⟩
  · cases hraw

end Engine

namespace Operation

/-- What the bytes that an operation writes, and its answer, tell of the chosen messages. -/
def Chooses (e : Engine Memory) (sink : Sink) (messages : List Message) {α : Type}
    (operation : Operation α) : Prop :=
  ∃ packet, operation.carrying messages = some packet ∧
    (∃ n, (operation.act.runOn e sink).2.sink.taken = sink.taken ++ packet.encode.take n) ∧
    ∀ a, (operation.act.runOn e sink).1 = .ok a →
      (operation.act.runOn e sink).2.sink.taken = sink.taken ++ packet.encode ∧
      operation.chosen a = messages.map Message.id

lemma chooses_of_packet {e : Engine Memory} {sink : Sink} {messages : List Message} {α : Type}
    {operation : Operation α} {packet : Packet} (hpacket : operation.packet e = some packet)
    (hcarrying : operation.carrying messages = some packet)
    (hchosen : ∀ a, (operation.act.runOn e sink).1 = .ok a →
      operation.chosen a = messages.map Message.id) : operation.Chooses e sink messages := by
  refine ⟨packet, hcarrying, exists_taken hpacket sink, fun a ha => ⟨?_, hchosen a ha⟩⟩
  exact writes_packet hpacket sink (by rw [ha, wroteAll])

/-- What an operation chooses for a contact is ready. -/
lemma exists_chooses {α : Type} {operation : Operation α} {c : ContactId}
    (hc : operation.choosesFor = some c) {e : Engine Memory} (hs : e.store.Keyed) (sink : Sink) :
    ∃ messages : List Message, (∀ m ∈ messages, e.store.Ready c m) ∧
      operation.Chooses e sink messages := by
  cases operation with
  | generateOffer c' writer =>
    obtain rfl := Option.some.inj hc
    obtain ⟨messages, hready, hids⟩ := Engine.exists_pickedOffer hs c' writer
    refine ⟨messages, hready, chooses_of_packet rfl ?_ fun ids hok => ?_⟩
    · show some _ = some (Packet.offer _)
      rw [Engine.pickedOffer, Engine.writeAll_snd, ← Engine.pickedOffer, hids]
    · rw [act, Act.runOn, Engine.generateOffer_apply] at hok
      rw [← hids]
      exact ok_sendIds hok
  | generateBatch c' writer nonce =>
    obtain rfl := Option.some.inj hc
    obtain ⟨messages, hready, hids, hraws⟩ := Engine.exists_picked hs c' writer
    refine ⟨messages, hready, chooses_of_packet rfl ?_ fun answer hok => ?_⟩
    · rw [carrying, BatchWriter.batch, hraws]
    · obtain ⟨batch, hsent, rfl⟩ := Engine.exists_of_generateBatch hok
      rw [Act.runOn, Engine.sendOldest_apply] at hsent
      rw [chosen, SentBatch.messages_recorded?, ok_sendBatch hsent, ← hids]
      rfl
  | generateBatchFrom c' writer nonce requested =>
    obtain rfl := Option.some.inj hc
    obtain ⟨messages, hready, hids, hraws⟩ := Engine.exists_pickedFrom hs c' writer requested
    refine ⟨messages, hready, chooses_of_packet rfl ?_ fun batch hok => ?_⟩
    · rw [carrying, BatchWriter.batch, hraws]
    · rw [act, Act.runOn, Engine.generateBatchFrom_apply] at hok
      rw [ok_sendBatch hok, ← hids]
      rfl
  | receiveRequest c' offer request writer nonce =>
    obtain rfl := Option.some.inj hc
    cases hrequested : request.requestedIds offer with
    | none =>
      -- the request does not match the offer, and nothing is written
      have hrefused : (receiveRequest c' offer request writer nonce).act.runOn e sink =
          (.error (.violation (.requestMismatch request.size offer.length)), ⟨e, [], sink⟩) := by
        rw [act, Act.runOn, Engine.receiveRequest_apply, hrequested]
      refine ⟨[], by simp, _, rfl, ⟨0, ?_⟩, fun a ha => ?_⟩
      · rw [hrefused, List.take_zero, List.append_nil]
      · rw [hrefused] at ha
        cases ha
    | some requested =>
      obtain ⟨messages, hready, hids, hraws⟩ := Engine.exists_pickedFrom hs c' writer requested
      have hpacket : (receiveRequest c' offer request writer nonce).packet e =
          some (.batch ((e.pickedFrom c' writer requested).2.batch nonce)) :=
        congrArg (Option.map _) hrequested
      refine ⟨messages, hready, chooses_of_packet hpacket ?_ fun batch hok => ?_⟩
      · rw [carrying, BatchWriter.batch, hraws]
      · rw [act, Act.runOn, Engine.receiveRequest_apply, hrequested] at hok
        dsimp only at hok
        rw [Engine.generateBatchFrom_apply] at hok
        rw [ok_sendBatch hok, ← hids]
        rfl
  | _ => cases hc

end Operation

/-! ## Over either store -/

/-- What is ready in the store of a twin is fit to leave, if its flags are right. -/
lemma Backend.Twin.fit {backend : Backend} {e : Engine backend.Data} {e' : Engine Memory}
    (h : backend.Twin e e') (hjudged : e'.store.Judged) {c : ContactId} {m : Message}
    (hm : e'.store.Ready c m) : backend.Fit e c m := by
  obtain ⟨hstored, d, hd, hel⟩ := hm
  obtain ⟨m', hm', hadv⟩ := (h.consistent.visible c m.id).mp (by rw [hd]; rfl)
  obtain rfl := Option.some.inj (hstored.symm.trans hm')
  unfold Delivery.eligible at hel
  rw [Bool.and_eq_true, decide_eq_true_eq] at hel
  have hsendable : e'.store.sendable m = true := by rw [← hjudged c m.id d m hd hstored, hel.1]
  exact {
    stored := by rw [h.message, hstored]
    advertised := ⟨_, h.contactSubscriptions c, Memory.mem_contactSubscriptions_iff.mpr hadv⟩
    subscribed := by
      rw [h.containsSubscription]
      exact congrArg Except.ok
        (Std.ExtTreeMap.contains_iff_mem.mpr (h.consistent.subscribed m.id m hstored))
    trusted := by
      refine (Memory.trusted_of_sendable hsendable).imp_right ?_
      rintro ⟨a, ha, hgood⟩
      exact ⟨a, ha, by rw [h.rating, hgood]⟩
    new := ⟨d, by rw [h.status, hd], hel.2⟩ }

/-- In every state that an engine comes to, the messages that an operation chooses for a contact
are fit to leave. All that is written is a packet with the identifiers or the raw forms of these
messages, or the beginning of it if the sink fails; if there is an answer, it was written in
full, and these are the messages that the answer names. -/
theorem Backend.fit_of_leaving {backend : Backend} {e : Engine backend.Data}
    (he : backend.Reaches e) {α : Type} (operation : Operation α) {c : ContactId}
    (hc : operation.choosesFor = some c) (sink : Sink) :
    ∃ messages : List Message, (∀ m ∈ messages, backend.Fit e c m) ∧
      ∃ packet, operation.carrying messages = some packet ∧
        (∃ n, (operation.act.runOn e sink).2.sink.taken = sink.taken ++ packet.encode.take n) ∧
        ∀ a, (operation.act.runOn e sink).1 = .ok a →
          (operation.act.runOn e sink).2.sink.taken = sink.taken ++ packet.encode ∧
          operation.chosen a = messages.map Message.id := by
  obtain ⟨config, now, history, rfl⟩ := he
  have htwin := (Twin.start backend config now).run history
  have hjudged := Engine.judged_run (e := .start Memory.empty config now) Memory.Consistent.empty
    Memory.Judged.empty history
  have hplain : operation.plain := by
    cases operation with
    | generateOffer _ _ | generateBatch _ _ _ | generateBatchFrom _ _ _ _
    | receiveRequest _ _ _ _ _ => rfl
    | _ => cases hc
  obtain ⟨hanswer, -, hsink⟩ := htwin.plain operation hplain sink
  rw [hanswer, hsink]
  obtain ⟨messages, hready, hchooses⟩ :=
    Operation.exists_chooses hc htwin.consistent.keyed sink
  exact ⟨messages, fun m hm => htwin.fit hjudged (hready m hm), hchooses⟩

namespace Sample

/-- The contact asks for the message twice, and for one that is not stored. -/
def askTwice : Operation SentBatch :=
  .generateBatchFrom contact (.fresh 1024 none) (nonce 1)
    [message.id, ⟨List.replicate 32 3, rfl⟩, message.id]

end Sample

/-- A contact asks for its one message, which is fit to leave and goes out once. -/
theorem Backend.fit_of_leaving_ask :
    let e := (Backend.relational.start {} 0).run Sample.opening
    Backend.relational.Reaches e ∧ Sample.askTwice.choosesFor = some Sample.contact ∧
      Backend.relational.Fit e Sample.contact Sample.message ∧
      (Sample.askTwice.act.runOn e {}).2.sink.taken =
        (Packet.batch ⟨Sample.nonce 1, [Sample.message.raw]⟩).encode := by
  intro e
  have he : Backend.relational.Reaches e := ⟨{}, 0, Sample.opening, rfl⟩
  refine ⟨he, rfl, ?_⟩
  obtain ⟨messages, hfit, packet, hpacket, -, hok⟩ :=
    Backend.fit_of_leaving he Sample.askTwice rfl {}
  have hanswer : (Sample.askTwice.act.runOn e {}).1.toOption =
      some ⟨Sample.batch 1, [Sample.message.id]⟩ := by decide +kernel
  have hstored : Backend.relational.message e.store Sample.message.id = some Sample.message := by
    decide +kernel
  obtain ⟨htaken, hchosen⟩ := hok _ (Sample.eq_ok_of_toOption hanswer)
  -- the one message of the answer is the one that is stored
  obtain ⟨m, rfl, hid⟩ := List.map_eq_singleton_iff.mp hchosen.symm
  have hm := hfit m (List.mem_singleton.mpr rfl)
  have hsame : m = Sample.message := by
    have hlookup := hm.stored
    rw [hid, hstored] at hlookup
    exact (Option.some.inj hlookup).symm
  subst hsame
  refine ⟨hm, ?_⟩
  rw [htaken, ← Option.some.inj hpacket]
  rfl

end MessageSync
