import MessageSync.Proofs.Engine.Writing
import MessageSync.Proofs.Packet

/-!
# Delivery between two peers

Two peers that know each other are joined by a network: it hands over any packet that one of
them wrote for the other, as often as it likes, in any order, late or never. Besides, both do
whatever they like with other contacts. If one of them takes a message as seen by the other,
the other has handled it (`Link.handled_of_seen`): it stored a batch with the message, or it
wrote an offer or a batch with the message itself.

What each of the two keeps true on its own is `Endpoint.Sound`. It leads from an ack to the
batches that the one peer stored, from these to the packets that the other wrote, and from
these to the batches that are outstanding there.
-/

namespace MessageSync

/-! ## Messages and packets -/

/-- Whether a message has the address of its raw form. -/
def Message.Addressed (m : Message) : Prop := m.id = .ofRaw m.raw

/-- Whether a parser keeps the raw form of a message, and gives the message its address. -/
def Faithful (parse : Bytes → Except Violation Message) : Prop :=
  ∀ raw m, parse raw = .ok m → m.raw = raw ∧ m.Addressed

/-- Whether a packet is an offer or a batch with a message. -/
def Packet.Lists (id : MessageId) : Packet → Prop
  | .offer ids => id ∈ ids
  | .batch x => ∃ raw ∈ x.messages, MessageId.ofRaw raw = id
  | _ => False

/-! ## Peers and their network -/

/-- One of two peers: its engine, and what it did about the other one. -/
structure Endpoint (backend : Backend) where
  engine : Engine backend.Data
  /-- The packets that it wrote for the other peer, as bytes. -/
  written : List Bytes
  /-- The batches of the other peer that it stored. -/
  committed : List ReceivedBatch

namespace Endpoint

variable {backend : Backend}

/-- A peer with an empty store. -/
def start (backend : Backend) (config : SyncConfig) (now : Int64) : Endpoint backend :=
  ⟨backend.start config now, [], []⟩

/-- The peer after a step; `c` is the contact that stands for the other peer. -/
def step (x : Endpoint backend) (c : ContactId) (step : Step) : Endpoint backend :=
  ⟨x.engine.step step, x.written ++ step.wrote x.engine c,
    x.committed ++ step.committed x.engine c⟩

/-- Whether a peer had to do with a message: it stored a batch with it, or it wrote an offer
or a batch with it. -/
def Handled (x : Endpoint backend) (id : MessageId) : Prop :=
  (∃ batch ∈ x.committed, ∃ m ∈ batch.messages, m.id = id) ∨
    ∃ packet : Packet, packet.encode ∈ x.written ∧ packet.Lists id

/-- Whether no two batches that a peer wrote have the same address. -/
def CollisionFree (x : Endpoint backend) : Prop :=
  ∀ y z : Batch, (Packet.batch y).encode ∈ x.written → (Packet.batch z).encode ∈ x.written →
    y.id = z.id → y = z

end Endpoint

/-- Whether an operation takes in what it may: messages that were parsed or have their
address, and from the other peer `c` only what was in some packet of the wire. Acks for that
peer are written from nothing else than what is to be acknowledged. -/
def Operation.Hears (parse : Bytes → Except Violation Message) (c : ContactId)
    (wire : List Bytes) : {α : Type} → Operation α → Prop
  | _, .addLocal m => m.Addressed
  | _, .receiveBatch c' batch => ∃ x : Batch, x.parse parse = .ok batch ∧
      (c' = c → ∃ bytes ∈ wire, Packet.decode bytes = .ok (.batch x))
  | _, .receiveAck c' batches =>
    c' = c → ∃ bytes ∈ wire, Packet.decode bytes = .ok (.ack batches)
  | _, .receiveOffer c' ids => c' = c → ∃ bytes ∈ wire, Packet.decode bytes = .ok (.offer ids)
  | _, .generateAck c' writer => c' = c → writer.ids = []
  | _, _ => True

/-- Whether a step takes in what it may. -/
def Step.Hears (parse : Bytes → Except Violation Message) (c : ContactId) (wire : List Bytes) :
    Step → Prop
  | .perform operation _ => operation.Hears parse c wire
  | _ => True

/-- Two peers that are joined by a network. -/
structure Link (backend backend' : Backend) where
  left : Endpoint backend
  right : Endpoint backend'

/-- What two peers come to. The right one is contact `there` of the left one, and the left one
is contact `here` of the right one. -/
inductive Link.Reachable {backend backend' : Backend} (parse : Bytes → Except Violation Message)
    (there here : ContactId) : Link backend backend' → Prop
  | start (config config' : SyncConfig) (now now' : Int64) :
    Reachable parse there here ⟨.start backend config now, .start backend' config' now'⟩
  | left {x : Link backend backend'} (h : Reachable parse there here x) (step : Step)
    (hstep : step.Hears parse there x.right.written) :
    Reachable parse there here { x with left := x.left.step there step }
  | right {x : Link backend backend'} (h : Reachable parse there here x) (step : Step)
    (hstep : step.Hears parse here x.left.written) :
    Reachable parse there here { x with right := x.right.step here step }

/-! ## Parsed batches -/

section
variable {parse : Bytes → Except Violation Message} {x : Batch} {batch : ReceivedBatch}

lemma parseAll_eq_ok {raws : List Bytes} {messages : List Message}
    (h : parseAll parse raws = .ok messages) : raws.map parse = messages.map .ok := by
  induction raws generalizing messages with
  | nil =>
    rw [← Except.ok.inj h]
    rfl
  | cons raw rest ih =>
    unfold parseAll at h
    cases hraw : parse raw with
    | error violation =>
      rw [hraw] at h
      cases h
    | ok m =>
      rw [hraw] at h
      cases hrest : parseAll parse rest with
      | error violation =>
        rw [hrest] at h
        cases h
      | ok others =>
        rw [hrest] at h
        rw [← Except.ok.inj h, List.map_cons, List.map_cons, ih hrest, hraw]

lemma Batch.parse_eq_ok (h : x.parse parse = .ok batch) :
    batch.id = x.id ∧ x.messages.map parse = batch.messages.map .ok := by
  unfold Batch.parse at h
  cases hall : parseAll parse x.messages with
  | error violation =>
    rw [hall] at h
    cases h
  | ok messages =>
    rw [hall] at h
    rw [← Except.ok.inj h]
    exact ⟨rfl, parseAll_eq_ok hall⟩

/-- Every message of a parsed batch was parsed from one of the raw forms. -/
lemma Batch.exists_raw (h : x.parse parse = .ok batch) {m : Message} (hm : m ∈ batch.messages) :
    ∃ raw ∈ x.messages, parse raw = .ok m := by
  have hmem : Except.ok m ∈ x.messages.map parse := by
    rw [(parse_eq_ok h).2]
    exact List.mem_map_of_mem hm
  exact List.mem_map.mp hmem

/-- Every raw form of a parsed batch is that of one of the messages. -/
lemma Batch.exists_message (h : x.parse parse = .ok batch) {raw : Bytes}
    (hraw : raw ∈ x.messages) : ∃ m ∈ batch.messages, parse raw = .ok m := by
  have hmem : parse raw ∈ batch.messages.map Except.ok := by
    rw [← (parse_eq_ok h).2]
    exact List.mem_map_of_mem hraw
  obtain ⟨m, hm, heq⟩ := List.mem_map.mp hmem
  exact ⟨m, hm, heq.symm⟩

end

/-! ## What one peer keeps true -/

section
variable {backend : Backend} {parse : Bytes → Except Violation Message} {c : ContactId}

/-- Whether a peer stored a batch of the other one. -/
def Endpoint.Stored (x : Endpoint backend) (b : BatchId) : Prop :=
  ∃ batch ∈ x.committed, batch.id = b

/-- What a peer over a store keeps true, if it takes in only what it may; `e` is its twin over
a store in memory. -/
structure Endpoint.Sound (parse : Bytes → Except Violation Message) (c : ContactId)
    (wire : List Bytes) (x : Endpoint backend) (e : Engine Memory) : Prop where
  twin : backend.Twin x.engine e
  addressed : ∀ (id : MessageId) (m : Message), e.store.messages[id]? = some m → m.Addressed
  /-- An outstanding batch was written, with all its messages. -/
  recorded : ∀ b r, e.store.sentBatch c b = some r → ∃ y : Batch,
    (Packet.batch y).encode ∈ x.written ∧ y.id = b ∧
      ∀ id ∈ r.messages, ∃ raw ∈ y.messages, MessageId.ofRaw raw = id
  owed : ∀ b, (⟨c, b⟩ : ContactKey BatchId) ∈ e.store.toAck → x.Stored b
  /-- Only batches that were stored are acknowledged. -/
  packets : ∀ bytes ∈ x.written, ∃ packet : Packet, bytes = packet.encode ∧
    ∀ ids, packet = .ack ids → ∀ b ∈ ids, x.Stored b
  received : ∀ batch ∈ x.committed, ∃ bytes ∈ wire, ∃ y : Batch,
    Packet.decode bytes = .ok (.batch y) ∧ y.parse parse = .ok batch

namespace Step

variable {wire : List Bytes} {e : Engine Memory}

/-- Messages that arrive have their address. -/
lemma addressed_of_mem_log (hparse : Faithful parse) {step : Step}
    (hstep : step.Hears parse c wire) {m : Message} {sender : Option ContactId}
    (h : .accept m sender ∈ step.log e) : m.Addressed := by
  cases step with
  | setClock _ | setGate _ => cases h
  | perform operation sink =>
    have hbrings : operation.Brings m sender := Operation.causes_of_mem_log h
    cases operation with
    | addLocal m' =>
      rw [← hbrings.1]
      exact hstep
    | receiveBatch c' batch =>
      obtain ⟨y, hy, -⟩ := hstep
      obtain ⟨raw, -, hraw⟩ := Batch.exists_raw hy hbrings.1
      exact (hparse raw m hraw).2
    | _ => exact hbrings.elim

/-- A batch that is stored came over the wire. -/
lemma received_of_mem_committed {step : Step} (hstep : step.Hears parse c wire)
    {batch : ReceivedBatch} (h : batch ∈ step.committed e c) :
    ∃ bytes ∈ wire, ∃ y : Batch, Packet.decode bytes = .ok (.batch y) ∧
      y.parse parse = .ok batch := by
  cases step with
  | setClock _ | setGate _ => cases h
  | perform operation sink =>
    rw [committed] at h
    cases operation with
    | receiveBatch c' batch' =>
      rw [Operation.committed] at h
      split at h
      · split at h
        · next hc =>
          obtain ⟨y, hy, hwire⟩ := hstep
          obtain ⟨bytes, hbytes, hdecode⟩ := hwire hc
          rw [List.mem_singleton.mp h]
          exact ⟨bytes, hbytes, y, hdecode, hy⟩
        · cases h
      · cases h
    | _ => cases h

end Step

/-- An ack names only what is to be acknowledged, if it was written from the beginning. -/
lemma Operation.owed_of_packet {α : Type} {operation : Operation α} {e : Engine Memory}
    {wire : List Bytes} (hears : operation.Hears parse c wire)
    (hc : operation.recipient = some c) {ids : List BatchId}
    (h : operation.packet e = some (.ack ids)) {b : BatchId} (hb : b ∈ ids) :
    (⟨c, b⟩ : ContactKey BatchId) ∈ e.store.toAck := by
  cases operation with
  | generateAck c' writer =>
    obtain rfl : c' = c := Option.some.inj hc
    have hids : (e.pickedAcks c' writer).2.ids = ids := Packet.ack.inj (Option.some.inj h)
    rw [← hids, Engine.pickedAcks, Engine.writeAll_snd, hears rfl, List.nil_append] at hb
    have htaken := List.mem_of_mem_take (Engine.mem_of_mem_writeAll hb)
    exact (e.store.mem_toAckOf_iff c' b).mp htaken
  | receiveRequest c' offer request writer nonce =>
    obtain ⟨requested, -, heq⟩ := Option.map_eq_some_iff.mp h
    cases heq
  | generateBatch _ _ _ | generateBatchFrom _ _ _ _ | generateOffer _ _ | receiveOffer _ _ =>
    cases Option.some.inj h
  | _ => cases hc

namespace Endpoint

lemma Stored.step {x : Endpoint backend} {b : BatchId} (h : x.Stored b) (step : Step) :
    (x.step c step).Stored b := by
  obtain ⟨batch, hbatch, hid⟩ := h
  exact ⟨batch, List.mem_append_left _ hbatch, hid⟩

namespace Sound

variable {wire wire' : List Bytes} {x : Endpoint backend} {e : Engine Memory}

lemma start (parse : Bytes → Except Violation Message) (c : ContactId) (wire : List Bytes)
    (backend : Backend) (config : SyncConfig) (now : Int64) :
    (Endpoint.start backend config now).Sound parse c wire (.start Memory.empty config now) where
  twin := Backend.Twin.start backend config now
  addressed _ _ h := by cases h
  recorded _ _ h := by cases h
  owed _ h := absurd h Std.ExtTreeMap.not_mem_empty
  packets _ h := by cases h
  received _ h := by cases h

/-- More may arrive. -/
lemma mono (h : x.Sound parse c wire e) (hwire : ∀ bytes ∈ wire, bytes ∈ wire') :
    x.Sound parse c wire' e where
  twin := h.twin
  addressed := h.addressed
  recorded := h.recorded
  owed := h.owed
  packets := h.packets
  received := by
    intro batch hbatch
    obtain ⟨bytes, hbytes, hrest⟩ := h.received batch hbatch
    exact ⟨bytes, hwire bytes hbytes, hrest⟩

/-- A message that is stored has the address of its raw form. -/
lemma ofRaw_eq (h : x.Sound parse c wire e) {id : MessageId} {m : Message}
    (hm : e.store.messages[id]? = some m) : MessageId.ofRaw m.raw = id := by
  have hid : m.id = id := h.twin.consistent.keyed hm
  rw [← hid]
  exact (h.addressed id m hm).symm

/-- One step of a peer keeps true what it keeps true. -/
theorem step (h : x.Sound parse c wire e) (hparse : Faithful parse) {step : Step}
    (hstep : step.Hears parse c wire) : (x.step c step).Sound parse c wire (e.step step) where
  twin := h.twin.step step
  addressed := by
    intro id m hm
    rw [Engine.store_step] at hm
    rcases Memory.messages_of_changes hm with hold | ⟨sender, hmem⟩
    · exact h.addressed id m hold
    · exact Step.addressed_of_mem_log hparse hstep hmem
  recorded := by
    intro b r hr
    -- a batch is outstanding once it is sent, and it is sent by writing it
    rcases step.sentBatch_of_step hr with hold | hsent
    · obtain ⟨y, hy, hrest⟩ := h.recorded b r hold
      exact ⟨y, List.mem_append_left _ hy, hrest⟩
    · cases step with
      | setClock _ | setGate _ => cases hsent
      | perform operation sink =>
        obtain ⟨y, hy, hid, hcarries⟩ := Operation.wrote_of_sent hsent
        refine ⟨y, List.mem_append_right _ ?_, hid, fun id hmem => ?_⟩
        · rw [h.twin.wrote]
          exact hy
        · obtain ⟨m, hm, hraw⟩ := hcarries id hmem
          exact ⟨m.raw, hraw, h.ofRaw_eq hm⟩
  owed := by
    intro b hb
    rw [Engine.store_step] at hb
    -- a batch is to be acknowledged once it is stored
    rcases Memory.toAck_of_changes hb with hold | hmem
    · exact (h.owed b hold).step step
    · cases step with
      | setClock _ | setGate _ => cases hmem
      | perform operation sink =>
        obtain ⟨batch, hbatch, hid⟩ := Operation.committed_of_mem_log hmem
        refine ⟨batch, List.mem_append_right _ ?_, hid⟩
        rw [h.twin.committed]
        exact hbatch
  packets := by
    intro bytes hbytes
    rcases List.mem_append.mp hbytes with hold | hnew
    · obtain ⟨packet, heq, hacks⟩ := h.packets bytes hold
      exact ⟨packet, heq, fun ids hids b hb => (hacks ids hids b hb).step step⟩
    · rw [h.twin.wrote] at hnew
      cases step with
      | setClock _ | setGate _ => cases hnew
      | perform operation sink =>
        obtain ⟨hc, packet, hpacket, heq⟩ := Operation.mem_wrote hnew
        refine ⟨packet, heq, fun ids hids b hb => ?_⟩
        rw [hids] at hpacket
        -- an ack is written of what was to be acknowledged before the step
        have howed := Operation.owed_of_packet hstep hc hpacket hb
        exact (h.owed b howed).step _
  received := by
    intro batch hbatch
    rcases List.mem_append.mp hbatch with hold | hnew
    · exact h.received batch hold
    · rw [h.twin.committed] at hnew
      exact Step.received_of_mem_committed hstep hnew

/-- A packet that is decoded from what was written was written. If it is an ack, the batches
that it names were stored. -/
lemma of_decode (h : x.Sound parse c wire e) {bytes : Bytes} (hbytes : bytes ∈ x.written)
    {packet : Packet} (hdecode : Packet.decode bytes = .ok packet) :
    packet.encode ∈ x.written ∧ ∀ ids, packet = .ack ids → ∀ b ∈ ids, x.Stored b := by
  obtain ⟨written, rfl, hacks⟩ := h.packets bytes hbytes
  obtain rfl := Packet.eq_of_decode hdecode
  exact ⟨hbytes, hacks⟩

end Sound

end Endpoint

end

/-! ## What a peer takes as seen -/

section
variable {backend backend' : Backend} {parse : Bytes → Except Violation Message}
  {c c' : ContactId} {x : Endpoint backend} {y : Endpoint backend'} {e e' : Engine Memory}

namespace Endpoint

lemma Handled.step {id : MessageId} (h : x.Handled id) (c : ContactId) (step : Step) :
    (x.step c step).Handled id := by
  rcases h with ⟨batch, hbatch, hm⟩ | ⟨packet, hpacket, hlists⟩
  · exact .inl ⟨batch, List.mem_append_left _ hbatch, hm⟩
  · exact .inr ⟨packet, List.mem_append_left _ hpacket, hlists⟩

lemma CollisionFree.of_step {step : Step} (h : (x.step c step).CollisionFree) :
    x.CollisionFree :=
  fun y z hy hz => h y z (List.mem_append_left _ hy) (List.mem_append_left _ hz)

namespace Sound

/-- The other peer handled a message that it shows to have: it comes of a batch or an offer. -/
lemma handled_of_tells (hy : y.Sound parse c' x.written e') (hparse : Faithful parse)
    {step : Step} (hstep : step.Hears parse c y.written) {change : Change}
    (hmem : change ∈ step.log e) {id : MessageId} (htells : change.Tells c id) : y.Handled id := by
  cases step with
  | setClock _ | setGate _ => cases hmem
  | perform operation sink =>
    have hcauses := Operation.causes_of_mem_log hmem
    cases change with
    | accept m sender =>
      obtain ⟨rfl, rfl⟩ := htells
      cases operation with
      | addLocal m' => cases hcauses.2
      | receiveBatch from' batch =>
        obtain ⟨z, hz, hwire⟩ := hstep
        obtain ⟨bytes, hbytes, hdecode⟩ := hwire (Option.some.inj hcauses.2).symm
        obtain ⟨raw, hraw, hm⟩ := Batch.exists_raw hz hcauses.1
        obtain ⟨rfl, haddress⟩ := hparse raw m hm
        exact .inr ⟨.batch z, (hy.of_decode hbytes hdecode).1, m.raw, hraw, haddress.symm⟩
      | _ => exact hcauses.elim
    | see c id =>
      obtain ⟨rfl, rfl⟩ := htells
      cases operation with
      | receiveOffer c offer =>
        obtain ⟨rfl, hid⟩ := hcauses
        obtain ⟨bytes, hbytes, hdecode⟩ := hstep rfl
        exact .inr ⟨.offer offer, (hy.of_decode hbytes hdecode).1, hid⟩
      | _ => exact hcauses.elim
    | _ => exact htells.elim

/-- The other peer handled a message of an outstanding batch that it acknowledges: it stored
that very batch, since no other one has the same address. -/
lemma handled_of_acks (hx : x.Sound parse c y.written e) (hy : y.Sound parse c' x.written e')
    (hparse : Faithful parse) (hids : x.CollisionFree) {step : Step}
    (hstep : step.Hears parse c y.written) {b : BatchId} {r : SentRecord}
    (hr : e.store.sentBatch c b = some r) {id : MessageId} (hid : id ∈ r.messages)
    (hacks : step.Acks c b) : y.Handled id := by
  cases step with
  | setClock _ | setGate _ => cases hacks
  | perform operation sink =>
    cases operation with
    | receiveAck c batches =>
      obtain ⟨rfl, hb⟩ := hacks
      -- from the ack to the batch that was stored
      obtain ⟨ackBytes, hackBytes, hack⟩ := hstep rfl
      obtain ⟨batch, hbatch, hstored⟩ := (hy.of_decode hackBytes hack).2 batches rfl b hb
      -- from that batch to the packet that it came in
      obtain ⟨bytes, hbytes, z, hdecode, hz⟩ := hy.received batch hbatch
      have hwritten := (hx.of_decode hbytes hdecode).1
      -- from the packet to the batch that is outstanding
      obtain ⟨sent, hsent, hsentId, hraws⟩ := hx.recorded b r hr
      have hsame : sent = z := by
        apply hids sent z hsent hwritten
        rw [hsentId, ← hstored, (Batch.parse_eq_ok hz).1]
      obtain ⟨raw, hraw, hof⟩ := hraws id hid
      rw [hsame] at hraw
      obtain ⟨m, hm, hmraw⟩ := Batch.exists_message hz hraw
      obtain ⟨rfl, haddress⟩ := hparse raw m hmraw
      exact .inl ⟨batch, hbatch, m, hm, haddress.trans hof⟩
    | _ => exact hacks.elim

/-- After one step, the other peer handled what is seen by it, unless that was seen before. -/
theorem handled_of_step (hx : x.Sound parse c y.written e) (hy : y.Sound parse c' x.written e')
    (hparse : Faithful parse) (hids : x.CollisionFree) {step : Step}
    (hstep : step.Hears parse c y.written) {id : MessageId}
    (hseen : (e.step step).store.status c id = some .seen) :
    e.store.status c id = some .seen ∨ y.Handled id := by
  have hs := hx.twin.consistent
  rw [Engine.store_step] at hseen
  rcases Memory.seen_of_changes hs (step.allows_log hs.keyed) hseen with
    hbefore | ⟨change, hmem, htells⟩ | hacked
  · exact .inl hbefore
  · exact .inr (hy.handled_of_tells hparse hstep hmem htells)
  · obtain ⟨b, r, hr, hid, hacks⟩ := (step.ackedIn_iff hs id).mp hacked
    exact .inr (hx.handled_of_acks hy hparse hids hstep hr hid hacks)

end Sound

end Endpoint

end

/-! ## Runs of two peers -/

namespace Link

variable {backend backend' : Backend} {parse : Bytes → Except Violation Message}
  {there here : ContactId} {x : Link backend backend'}

/-- The same two peers, looked at from the other side. -/
def swap (x : Link backend backend') : Link backend' backend := ⟨x.right, x.left⟩

namespace Reachable

lemma swap (h : x.Reachable parse there here) : x.swap.Reachable parse here there := by
  induction h with
  | start config config' now now' => exact .start config' config now' now
  | left _ step hstep ih => exact ih.right step hstep
  | right _ step hstep ih => exact ih.left step hstep

/-- The left peer keeps true what one peer keeps true. -/
lemma sound (hparse : Faithful parse) (h : x.Reachable parse there here) :
    ∃ e, x.left.Sound parse there x.right.written e := by
  -- a step of the left peer is its own, and one of the right peer only adds to the wire
  induction h with
  | start config config' now now' =>
    exact ⟨_, Endpoint.Sound.start parse there _ backend config now⟩
  | left _ step hstep ih =>
    obtain ⟨e, he⟩ := ih
    exact ⟨_, he.step hparse hstep⟩
  | right _ step hstep ih =>
    obtain ⟨e, he⟩ := ih
    exact ⟨e, he.mono fun bytes hbytes => List.mem_append_left _ hbytes⟩

end Reachable

/-- A message that the left peer takes as seen by the right one was handled by the right one,
whatever is lost, late or repeated. -/
theorem handled_of_seen (hparse : Faithful parse) (h : x.Reachable parse there here)
    (hids : x.left.CollisionFree) {id : MessageId} {d : Delivery}
    (hd : x.left.engine.view (Store.status there id) = .ok (some d)) (hseen : d.isSeen) :
    x.right.Handled id := by
  -- only a step of the left peer can make it take something as seen
  induction h generalizing d with
  | start config config' now now' =>
    have htwin := Backend.Twin.start backend config now
    rw [Endpoint.start, htwin.status] at hd
    cases hd
  | @left x h step hstep ih =>
    obtain ⟨e, he⟩ := h.sound hparse
    obtain ⟨e', he'⟩ := h.swap.sound hparse
    have hafter : (e.step step).store.delivery there id = some d := by
      rw [Endpoint.step, (he.twin.step step).status] at hd
      exact Except.ok.inj hd
    have hstatus : (e.step step).store.status there id = some .seen :=
      (Memory.status_eq_some_iff _ _ _ _).mpr ⟨d, hafter, of_decide_eq_true hseen⟩
    rcases he.handled_of_step he' hparse hids.of_step hstep hstatus with hbefore | hhandled
    · obtain ⟨d', hd', hseen'⟩ := (Memory.status_eq_some_iff _ _ _ _).mp hbefore
      refine ih hids.of_step ?_ (decide_eq_true hseen')
      rw [he.twin.status, hd']
    · exact hhandled
  | right _ _ _ ih => exact (ih hids hd hseen).step here _

end Link

/-! ## An exchange -/

lemma faithful_parseSample : Faithful parseSample := by
  intro raw m h
  unfold parseSample at h
  split at h
  · rw [← Except.ok.inj h]
    exact ⟨rfl, rfl⟩
  · cases h

namespace Link.Sample

def group : Group := ⟨⟨List.replicate 32 1, rfl⟩, "g"⟩

def message : Message := sampleMessage group.id none 0 [7]

/-- What stands for the other peer, on both sides. -/
def contact : ContactId := ⟨1⟩

def batch : Batch := ⟨⟨List.replicate 16 1, rfl⟩, [message.raw]⟩

/-- The message is asked for, and goes out in a batch. -/
def sender : Endpoint .memory :=
  [.perform (.subscribe group) {}, .perform (.addContact ∅) {},
    .perform (.receiveSubscriptions contact ⟨[group], 1⟩) {}, .perform (.addLocal message) {},
    .perform (.generateBatchFrom contact (.fresh 1024 none) batch.nonce [message.id]) {}].foldl
      (fun x step => x.step contact step) (.start .memory {} 0)

/-- The batch comes in, and is acknowledged. -/
def receiver : Endpoint .relational :=
  [.perform (.subscribe group) {}, .perform (.addContact ∅) {},
    .perform (.receiveBatch contact ⟨batch.id, [message]⟩) {},
    .perform (.generateAck contact (AckWriter.fresh none)) {}].foldl
      (fun x step => x.step contact step) (.start .relational {} 0)

/-- The ack comes back. -/
def exchange : Link .memory .relational :=
  ⟨sender.step contact (.perform (.receiveAck contact [batch.id]) {}), receiver⟩

lemma written_sender : sender.written = [(Packet.batch batch).encode] := by
  decide +kernel

lemma written_receiver : receiver.written = [(Packet.ack [batch.id]).encode] := by
  decide +kernel

lemma decode_batch : Packet.decode (Packet.batch batch).encode = .ok (.batch batch) := by
  decide +kernel

lemma reachable_exchange : exchange.Reachable parseSample contact contact := by
  have hbatch : batch.parse parseSample = .ok ⟨batch.id, [message]⟩ := by decide +kernel
  have hack : Packet.decode (Packet.ack [batch.id]).encode = .ok (.ack [batch.id]) := by
    decide +kernel
  have hstart : Reachable parseSample contact contact
      ⟨.start .memory {} 0, .start .relational {} 0⟩ := .start {} {} 0 0
  have hsender := ((((hstart.left (.perform (.subscribe group) {}) trivial).left
    (.perform (.addContact ∅) {}) trivial).left
    (.perform (.receiveSubscriptions contact ⟨[group], 1⟩) {}) trivial).left
    (.perform (.addLocal message) {}) rfl).left
    (.perform (.generateBatchFrom contact (.fresh 1024 none) batch.nonce [message.id]) {}) trivial
  have hreceiver := (((hsender.right (.perform (.subscribe group) {}) trivial).right
    (.perform (.addContact ∅) {}) trivial).right
    (.perform (.receiveBatch contact ⟨batch.id, [message]⟩) {}) ?_).right
    (.perform (.generateAck contact (AckWriter.fresh none)) {}) fun _ => rfl
  · refine hreceiver.left (.perform (.receiveAck contact [batch.id]) {}) fun _ => ?_
    exact ⟨_, written_receiver ▸ List.mem_singleton.mpr rfl, hack⟩
  · exact ⟨batch, hbatch, fun _ => ⟨_, written_sender ▸ List.mem_singleton.mpr rfl, decode_batch⟩⟩

lemma collisionFree_exchange : exchange.left.CollisionFree := by
  have hwritten : exchange.left.written = [(Packet.batch batch).encode] := by decide +kernel
  have hbatch (y : Batch) (hy : (Packet.batch y).encode ∈ exchange.left.written) : batch = y := by
    rw [hwritten, List.mem_singleton] at hy
    have hdecode := decode_batch
    rw [← hy] at hdecode
    exact Packet.batch.inj (Packet.eq_of_decode hdecode)
  intro y z hy hz _
  rw [← hbatch y hy, ← hbatch z hz]

end Link.Sample

/-- A message that goes out in a batch, which is stored and acknowledged. -/
theorem Link.handled_of_exchange :
    Faithful parseSample ∧
      Sample.exchange.Reachable parseSample Sample.contact Sample.contact ∧
      Sample.exchange.left.CollisionFree ∧
      Sample.exchange.left.engine.view (Store.status Sample.contact Sample.message.id) =
        .ok (some ⟨.seen, true⟩) ∧
      Sample.exchange.right.Handled Sample.message.id := by
  have hseen : Sample.exchange.left.engine.view
      (Store.status Sample.contact Sample.message.id) = .ok (some ⟨.seen, true⟩) := by
    decide +kernel
  refine ⟨faithful_parseSample, Sample.reachable_exchange, Sample.collisionFree_exchange, hseen, ?_⟩
  exact Link.handled_of_seen faithful_parseSample Sample.reachable_exchange
    Sample.collisionFree_exchange hseen rfl

end MessageSync
