import MessageSync.Proofs.DeliveryOrder
import MessageSync.Proofs.Requests

/-!
# Offers, requests and batches agree

There are two ways to bring messages to a contact. A batch is filled with the oldest eligible
messages that fit, and an offer lists them, so that the contact requests those that it knows
nothing of. Messages for a batch are cut twice: by the room of the writer when they are taken
from the store, and by the writer when they are written. The first cut makes no difference
(`BatchWriter.load_takeWithin`), and a request is therefore answered with what a batch would
have brought, as far as it was offered and is wanted (`Backend.reconcile`).
-/

namespace MessageSync

/-! ## The order of messages -/

instance : Std.TransCmp Message.compareAge :=
  inferInstanceAs (Std.TransCmp (compareLex (compareOn Message.timestamp) (compareOn Message.id)))

namespace Message

lemma id_eq_of_compareAge {m m' : Message} (h : m.compareAge m' = .eq) : m.id = m'.id := by
  rw [compareAge, Ordering.then_eq_eq] at h
  exact Std.LawfulEqOrd.compare_eq_iff_eq.mp h.2

lemma pairwise_oldestFirst (messages : List Message) :
    (oldestFirst messages).Pairwise fun m m' => (m.compareAge m').isLE := by
  refine List.pairwise_mergeSort (fun _ _ _ => Std.TransCmp.isLE_trans) (fun m m' => ?_) messages
  have hswap : m'.compareAge m = (m.compareAge m').swap := Std.OrientedCmp.eq_swap
  rw [Bool.or_eq_true, hswap, Ordering.isLE_swap]
  cases m.compareAge m'
  · exact .inl rfl
  · exact .inl rfl
  · exact .inr rfl

/-- Messages with distinct identifiers are in strict order. -/
lemma pairwise_lt_oldestFirst {messages : List Message}
    (h : ((oldestFirst messages).map id).Nodup) :
    (oldestFirst messages).Pairwise fun m m' => m.compareAge m' = .lt := by
  refine ((pairwise_oldestFirst messages).and (List.pairwise_map.mp h)).imp fun {m m'} h => ?_
  exact (Ordering.isLE_iff_eq_lt_or_eq_eq.mp h.1).resolve_right fun heq =>
    h.2 (id_eq_of_compareAge heq)

end Message

/-- Messages that may go to a contact are in the order of their age. -/
lemma Memory.pairwise_eligible {s : Memory} (hs : s.Keyed) (c : ContactId) :
    (s.eligible c).Pairwise fun m m' => m.compareAge m' = .lt :=
  Message.pairwise_lt_oldestFirst (nodup_eligible hs c)

/-! ## Over a store in memory -/

/-- What comes of an operation that writes to an empty sink: the answer, what was written, and
the engine afterwards. -/
def Engine.hand {σ α : Type} [Store σ] (e : Engine σ) (operation : Operation α) :
    Except SyncError α × Bytes × Engine σ :=
  let (answer, turn) := operation.act.runOn e {}
  (answer, turn.sink.taken, turn.engine)

namespace Engine

/-- What comes of sending some messages in a batch. -/
def handBatch (e : Engine Memory) (c : ContactId) (nonce : Nonce) (messages : List Message) :
    Except SyncError SentBatch × Bytes × Engine Memory :=
  let batch : Batch := ⟨nonce, messages.map Message.raw⟩
  let sent : SentBatch := ⟨batch.id, messages.map Message.id⟩
  (.ok sent, (Packet.batch batch).encode,
    { e with store := e.store.changes (sending c sent e.now) })

/-- The messages that an offer to a contact lists. -/
def offered (e : Engine Memory) (c : ContactId) (writer : IdWriter .message) : List Message :=
  (Message.takeWithin Store.unlimited (e.store.eligible c)).take
    (min e.config.maxOfferIds writer.most)

variable {e : Engine Memory} {c : ContactId} {limit : Nat} {count : Option Nat} {nonce : Nonce}

lemma eraseDups_of_nodup {ids : List MessageId} (h : ids.Nodup) : ids.eraseDups = ids := by
  induction ids with
  | nil => rfl
  | cons id rest ih =>
    obtain ⟨hid, hrest⟩ := List.nodup_cons.mp h
    have hall : (rest.filter fun b => !b == id) = rest := by
      refine List.filter_eq_self.mpr fun b hb => ?_
      have hne : b ≠ id := fun heq => hid (heq ▸ hb)
      simp [hne]
    rw [List.eraseDups_cons, hall, ih hrest]

lemma offered_sublist (e : Engine Memory) (c : ContactId) (writer : IdWriter .message) :
    (e.offered c writer).Sublist (e.store.eligible c) :=
  (List.take_sublist _ _).trans (takeWithin_sublist _ _)

lemma length_offered_le (e : Engine Memory) (c : ContactId) (most : Option Nat) :
    (e.offered c (OfferWriter.fresh most)).length ≤ Packet.mostOffered := by
  show (List.take (min _ (min _ Packet.mostOffered)) _).length ≤ _
  rw [List.length_take]
  omega

/-- What a sink takes of a batch, and all else that comes of sending it, is given by the messages
that were picked. -/
lemma sendBatch_eq_handBatch {messages : List Message} {picked : List MessageId × BatchWriter}
    (events : List Event) (hids : picked.1 = messages.map Message.id)
    (hraws : picked.2.messages = messages.map Message.raw) :
    let run := (⟨e, events, {}⟩ : Turn Memory).sendBatch c nonce picked
    (run.1, run.2.sink.taken, run.2.engine) = e.handBatch c nonce messages := by
  have hbatch : picked.2.batch nonce = ⟨nonce, messages.map Message.raw⟩ :=
    congrArg (Batch.mk nonce) hraws
  rw [Turn.sendBatch, hbatch, hids, Peer.send_fresh]
  rfl

section
variable (hc : c ∈ e.store.contacts)
include hc

/-- An offer lists messages, and changes nothing. -/
lemma hand_generateOffer (most : Option Nat) :
    e.hand (.generateOffer c (OfferWriter.fresh most)) =
      (.ok ((e.offered c (OfferWriter.fresh most)).map Message.id),
        (Packet.offer ((e.offered c (OfferWriter.fresh most)).map Message.id)).encode, e) := by
  have hids : (e.pickedOffer c (OfferWriter.fresh most)).1 =
      (e.offered c (OfferWriter.fresh most)).map Message.id := by
    rw [pickedOffer, writeAll_fst, List.take_take, Memory.candidates, offered, List.map_take,
      Nat.min_comm]
    rfl
  have hwritten : (e.pickedOffer c (OfferWriter.fresh most)).2.ids =
      (e.offered c (OfferWriter.fresh most)).map Message.id := (writeAll_snd _ _).trans hids
  have hrun : (Operation.generateOffer c (OfferWriter.fresh most)).act.runOn e {} =
      sendIds ⟨e, [], {}⟩ (.offer (e.pickedOffer c (OfferWriter.fresh most)).2.ids)
        (e.pickedOffer c (OfferWriter.fresh most)).1 [] := by
    rw [Operation.act, Act.runOn, generateOffer_apply]
    exact if_pos hc
  rw [hand, hrun, hwritten, hids, sendIds, Peer.send_fresh]
  rfl

/-- The request for an offer has a flag for each message that the contact may not see. -/
lemma hand_receiveOffer (hopen : c ∉ e.openOffers) (offer : List MessageId) :
    ∃ e', e.hand (.receiveOffer c offer) =
      (.ok (.ofFlags (missingAmong e.store c offer)),
        (Packet.request (.ofFlags (missingAmong e.store c offer))).encode, e') := by
  rw [hand, Operation.act, Act.runOn, receiveOffer_apply]
  dsimp only
  rw [if_neg hopen, if_pos hc, Peer.send_fresh]
  exact ⟨_, rfl⟩

variable (hs : e.store.Keyed)
include hs

/-- A batch takes the messages that fit, up to the first that does not. -/
lemma hand_generateBatch :
    let batch := e.handBatch c nonce ((BatchWriter.fresh limit count).load (e.store.eligible c))
    e.hand (.generateBatch c (.fresh limit count) nonce) =
      (batch.1.map SentBatch.recorded?, batch.2) := by
  have hrun : (sendOldest c (.fresh limit count) nonce).runOn e {} =
      (⟨e, [], {}⟩ : Turn Memory).sendBatch c nonce (e.picked c (.fresh limit count)) := by
    rw [Act.runOn, sendOldest_apply]
    exact if_pos hc
  obtain ⟨hids, hraws⟩ := picked_eq_load hs c (.fresh limit count)
  rw [← sendBatch_eq_handBatch [] hids hraws, hand, Operation.act, generateBatch_runOn_eq, hrun]

/-- A request for some messages that were offered is answered with those that are wanted and
fit, up to the first that does not. -/
lemma hand_receiveRequest {offered : List Message} (hsub : offered.Sublist (e.store.eligible c))
    {request : Request} (hsize : request.size = offered.length) :
    e.hand (.receiveRequest c (offered.map Message.id) request (.fresh limit count) nonce) =
      e.handBatch c nonce ((BatchWriter.fresh limit count).load (request.wanted offered)) := by
  have hwanted : (request.wanted offered).Sublist (e.store.eligible c) :=
    (request.wanted_sublist offered).trans hsub
  have hrequested : request.requestedIds (offered.map Message.id) =
      some ((request.wanted offered).map Message.id) := by
    rw [Request.requestedIds_eq (by rw [List.length_map, hsize]), Request.wanted_map]
  let ids := (request.wanted offered).map Message.id
  have hrun : (Operation.receiveRequest c (offered.map Message.id) request (.fresh limit count)
      nonce).act.runOn e {} = (⟨e, [.messagesRequested c ids.length], {}⟩ : Turn Memory).sendBatch
        c nonce (e.pickedFrom c (.fresh limit count) ids) := by
    rw [Operation.act, Act.runOn, receiveRequest_apply, hrequested]
    dsimp only
    rw [generateBatchFrom_apply]
    exact if_pos hc
  have hfind (m : Message) (hm : m ∈ request.wanted offered) :
      e.store.rawIfSendable c m.id = some m.raw := by
    obtain ⟨hstored, d, hd, hel⟩ := (Memory.mem_eligible_iff hs c m).mp (hwanted.subset hm)
    have hlookup : e.store.deliveries[(⟨c, m.id⟩ : ContactKey MessageId)]? = some d := hd
    rw [Memory.rawIfSendable, hlookup]
    dsimp only
    rw [if_pos hel, hstored]
    rfl
  have hnodup : ((request.wanted offered).map Message.id).Nodup :=
    (Memory.nodup_eligible hs c).sublist (hwanted.map Message.id)
  obtain ⟨hids, hraws⟩ := BatchWriter.pick_eq_load (e.store.rawIfSendable c) hfind
    (.fresh limit count)
  rw [hand, hrun, ← sendBatch_eq_handBatch [.messagesRequested c ids.length] hids hraws, pickedFrom,
    eraseDups_of_nodup hnodup]

end

end Engine

/-! ## Over either store -/

namespace Backend

namespace Twin

variable {backend : Backend} {e : Engine backend.Data} {t : Engine Memory} {α β : Type}
  {operation : Operation α} {operation' : Operation β}

/-- Twins answer and write the same. -/
lemma exists_hand (h : backend.Twin e t) (hplain : operation.plain) {answer : Except SyncError α}
    {code : Bytes} {t' : Engine Memory} (hhand : t.hand operation = (answer, code, t')) :
    ∃ e', e.hand operation = (answer, code, e') ∧ backend.Twin e' t' := by
  obtain ⟨hanswer, -, hsink⟩ := h.plain operation hplain {}
  have hstep : backend.Twin (e.hand operation).2.2 (t.hand operation).2.2 :=
    h.step (.perform operation {})
  refine ⟨(e.hand operation).2.2, Prod.ext ?_ (Prod.ext ?_ rfl), ?_⟩
  · exact hanswer.trans (congrArg Prod.fst hhand)
  · exact (congrArg Sink.taken hsink).trans (congrArg (·.2.1) hhand)
  · rw [hhand] at hstep
    exact hstep

/-- What changes nothing over a store in memory changes nothing over the store of a twin. -/
lemma hand_of_same (h : backend.Twin e t) (hplain : operation.plain)
    (hspares : operation.sparesSecrets) {answer : Except SyncError α} {code : Bytes}
    (hhand : t.hand operation = (answer, code, t)) : e.hand operation = (answer, code, e) := by
  obtain ⟨e', he', htwin⟩ := h.exists_hand hplain hhand
  have hstore : backend.Spares e.store (e.hand operation).2.2.store :=
    spares_runOn operation hspares e {}
  rw [he'] at hstore
  rw [he', htwin.eq h hstore]

/-- Operations that write the same and leave the same over a store in memory do so over the store
of a twin. -/
lemma exists_hands (h : backend.Twin e t) (hplain : operation.plain) (hplain' : operation'.plain)
    (hspares : operation.sparesSecrets) (hspares' : operation'.sparesSecrets)
    {answer : Except SyncError α} {answer' : Except SyncError β} {code : Bytes} {t' : Engine Memory}
    (hhand : t.hand operation = (answer, code, t'))
    (hhand' : t.hand operation' = (answer', code, t')) :
    ∃ e', e.hand operation = (answer, code, e') ∧ e.hand operation' = (answer', code, e') := by
  obtain ⟨first, hfirst, htwin⟩ := h.exists_hand hplain hhand
  obtain ⟨second, hsecond, htwin'⟩ := h.exists_hand hplain' hhand'
  have hstore : backend.Spares e.store (e.hand operation).2.2.store :=
    spares_runOn operation hspares e {}
  have hstore' : backend.Spares e.store (e.hand operation').2.2.store :=
    spares_runOn operation' hspares' e {}
  rw [hfirst] at hstore
  rw [hsecond] at hstore'
  obtain rfl : first = second := htwin.eq htwin' (hstore'.symm.trans hstore)
  exact ⟨first, hfirst, hsecond⟩

variable {c : ContactId}

/-- What may go to a contact is stored, and the row of the contact allows it. -/
lemma mem_eligible_iff (h : backend.Twin e t) (m : Message) :
    m ∈ backend.eligible e.store c ↔ backend.message e.store m.id = some m ∧
      ∃ d, e.view (Store.status c m.id) = .ok (some d) ∧ d.eligible := by
  rw [h.eligible, Memory.mem_eligible_iff h.consistent.keyed, h.message]
  simp only [h.status, Except.ok.injEq]

/-- The flags of a request for an offer tell which messages have no row for the contact. -/
lemma isRequested_iff (h : backend.Twin e t) {offer : List MessageId}
    (hlen : offer.length < UInt32.size) {i : Nat} {id : MessageId} (hid : offer[i]? = some id) :
    (Request.ofFlags (Engine.missingAmong t.store c offer)).isRequested i ↔
      e.view (Store.status c id) = .ok none := by
  have hflags : (Engine.missingAmong t.store c offer).length < UInt32.size := by
    rwa [Engine.missingAmong, List.length_map]
  have hrow : t.store.deliveries.contains ⟨c, id⟩ = (t.store.delivery c id).isSome :=
    Std.ExtTreeMap.contains_eq_isSome_getElem?
  rw [Request.isRequested_ofFlags hflags, List.getD_eq_getElem?_getD, Engine.missingAmong,
    List.getElem?_map, hid, Option.map_some, Option.getD_some, hrow, h.status, Except.ok.injEq]
  cases t.store.delivery c id <;> simp

/-- An offer is answered with a request for what has no row, and the request is read back. -/
lemma exists_request (h : backend.Twin e t) (hopen : t.openOffers = ∅)
    (hc : c ∈ t.store.contacts) {offer : List MessageId}
    (hmost : offer.length ≤ Packet.mostOffered) :
    ∃ request code e', e.hand (.receiveOffer c offer) = (.ok request, code, e') ∧
      Packet.decode code = .ok (.request request) ∧ request.size = offer.length ∧
      ∀ i id, offer[i]? = some id →
        (request.isRequested i ↔ e.view (Store.status c id) = .ok none) := by
  have hnone : c ∉ t.openOffers := by
    rw [hopen]
    exact Std.ExtTreeMap.not_mem_empty
  have hword : offer.length < UInt32.size := Nat.lt_of_le_of_lt hmost (by decide)
  have hflags : (Engine.missingAmong t.store c offer).length = offer.length :=
    List.length_map _
  obtain ⟨t', hhand⟩ := Engine.hand_receiveOffer hc hnone offer
  obtain ⟨e', he', -⟩ := h.exists_hand rfl hhand
  refine ⟨_, _, e', he', Packet.decode_request (hflags ▸ hmost), ?_,
    fun i id hid => h.isRequested_iff hword hid⟩
  exact (Request.size_ofFlags (hflags ▸ hword)).trans hflags

end Twin

/-- Let two nodes have each other as contacts. The first one offers the messages that may go to
the second one, oldest first and by identifier among those of one moment, as many as it is set
to and as the writer takes, and stays as it was. The second one answers with a request of one
flag for each, set for those that it has no row of for the first one. A request of that many
flags, from wherever it came, is answered with the messages that it wants in the order of the
offer, up to the first that the writer of the batch refuses. If all messages that may go were
offered, and the second node has a row for none of them, then the messages in the answer, the
packet and the first node afterwards are those of sending a batch without an offer. -/
theorem reconcile {backend backend' : Backend} {a : Engine backend.Data}
    {b : Engine backend'.Data} (ha : backend.Reaches a) (hb : backend'.Reaches b)
    {there here : ContactId} (hthere : a.view (Store.containsContact there) = .ok true)
    (hhere : b.view (Store.containsContact here) = .ok true) (most : Option Nat) (limit : Nat)
    (count : Option Nat) (nonce : Nonce) :
    let queue := backend.eligible a.store there
    let length := min a.config.maxOfferIds (OfferWriter.fresh most).most
    let offered := (Message.takeWithin Store.unlimited queue).take length
    let ids := offered.map Message.id
    let writer := BatchWriter.fresh limit count
    (∀ m, m ∈ queue ↔ backend.message a.store m.id = some m ∧
      ∃ d, a.view (Store.status there m.id) = .ok (some d) ∧ d.eligible) ∧
    queue.Pairwise (fun m m' => m.compareAge m' = .lt) ∧
    (Message.totalSize queue ≤ Store.unlimited → offered = queue.take length) ∧
    (∃ code, a.hand (.generateOffer there (OfferWriter.fresh most)) = (.ok ids, code, a) ∧
      Packet.decode code = .ok (.offer ids)) ∧
    (∀ request : Request, request.size = ids.length →
      let messages := writer.load (request.wanted offered)
      let batch : Batch := ⟨nonce, messages.map Message.raw⟩
      ∃ a', a.hand (.receiveRequest there ids request writer nonce) =
        (.ok ⟨batch.id, messages.map Message.id⟩, (Packet.batch batch).encode, a')) ∧
    ∃ request code b', b.hand (.receiveOffer here ids) = (.ok request, code, b') ∧
      Packet.decode code = .ok (.request request) ∧ request.size = ids.length ∧
      (∀ i id, ids[i]? = some id →
        (request.isRequested i ↔ b.view (Store.status here id) = .ok none)) ∧
      (offered = queue → (∀ id ∈ ids, b.view (Store.status here id) = .ok none) →
        ∃ sent code a', a.hand (.receiveRequest there ids request writer nonce) =
            (.ok sent, code, a') ∧
          a.hand (.generateBatch there writer nonce) = (.ok sent.recorded?, code, a')) := by
  intro queue length offered ids writer
  obtain ⟨t, ht⟩ := Twin.of_reaches ha
  obtain ⟨u, hu, hopen⟩ := hb.exists_twin
  have hs := ht.consistent.keyed
  replace hthere := ht.mem_contacts hthere
  replace hhere := hu.mem_contacts hhere
  have hqueue : queue = t.store.eligible there := ht.eligible there
  have hoffered : offered = t.offered there (OfferWriter.fresh most) := by
    show (Message.takeWithin _ queue).take (min a.config.maxOfferIds _) = _
    rw [hqueue, ht.config, Engine.offered]
  have hmost : ids.length ≤ Packet.mostOffered := by
    rw [List.length_map, hoffered]
    exact t.length_offered_le there most
  have hanswered (request : Request) (hsize : request.size = ids.length) :
      t.hand (.receiveRequest there ids request writer nonce) =
        t.handBatch there nonce (writer.load (request.wanted offered)) := by
    refine Engine.hand_receiveRequest hthere hs ?_ (hsize.trans (List.length_map _))
    rw [hoffered]
    exact t.offered_sublist there _
  refine ⟨fun m => ht.mem_eligible_iff m, ?_, fun hroom => ?_, ?_, fun request hsize => ?_, ?_⟩
  · rw [hqueue]
    exact Memory.pairwise_eligible hs there
  · exact congrArg (List.take length) (Message.takeWithin_eq_self hroom)
  · have hhand := Engine.hand_generateOffer hthere most
    rw [← hoffered] at hhand
    exact ⟨_, ht.hand_of_same rfl rfl hhand, Packet.decode_offer hmost⟩
  · obtain ⟨a', ha', -⟩ := ht.exists_hand rfl (hanswered request hsize)
    exact ⟨a', ha'⟩
  · obtain ⟨request, code, b', hhand, hdecode, hsize, hflags⟩ := hu.exists_request hopen hhere hmost
    refine ⟨request, code, b', hhand, hdecode, hsize, hflags, fun hall hunknown => ?_⟩
    -- all that was offered is wanted
    have hwanted : request.wanted offered = offered := Request.wanted_eq_self fun i hi => by
      have hid : ids[i]? = some offered[i].id := by
        rw [List.getElem?_map, List.getElem?_eq_getElem hi, Option.map_some]
      exact (hflags i _ hid).mpr (hunknown _ (List.mem_of_getElem? hid))
    have hrequested := hanswered request hsize
    rw [hwanted, hall, hqueue] at hrequested
    obtain ⟨a', ha'⟩ := ht.exists_hands rfl rfl rfl rfl hrequested
      (Engine.hand_generateBatch hthere hs)
    exact ⟨_, _, a', ha'⟩

end Backend

namespace Sample

lemma length_lesser : (List.replicate 32 (1 : UInt8)).length = 32 := rfl

/-- A message of the same time as the other one, with a lesser identifier. -/
def lesser : Message := ⟨⟨List.replicate 32 1, length_lesser⟩, group.id, none, 0, [1, 1, 1]⟩

/-- The other message is there when this one is stored. -/
def queueing : List Step := opening ++ [.perform (.addLocal lesser) {}]

lemma eligible_queueing (backend : Backend) :
    backend.eligible ((backend.start {} 0).run queueing).store contact = [lesser, message] := by
  have htwin := (Backend.Twin.start backend {} 0).run queueing
  let s := ((Engine.start Memory.empty {} 0).run queueing).store
  have hboth : (s.deliveries.toList.filterMap fun e =>
      if e.1.contact = contact && e.2.eligible then s.messages[e.1.item]? else none) =
        [lesser, message] := by
    decide +kernel
  rw [htwin.eligible]
  show Message.oldestFirst _ = _
  rw [hboth]
  exact List.mergeSort_of_pairwise (by decide +kernel)

end Sample

namespace Backend

/-- Two messages of one time wait for a node that knows nothing of them. An offer of one message
lists the one with the lesser identifier. If both are offered, both are wanted, but the batch has
room for four bytes, and the messages have three and two. -/
theorem reconcile_cut :
    let a := (memory.start {} 0).run Sample.queueing
    let b := (relational.start {} 0).run [.perform (.addContact ∅) {}]
    let ids := [Sample.lesser.id, Sample.message.id]
    let writer := BatchWriter.fresh 4 none
    (∃ code, a.hand (.generateOffer Sample.contact (OfferWriter.fresh (some 1))) =
        (.ok [Sample.lesser.id], code, a) ∧
      Packet.decode code = .ok (.offer [Sample.lesser.id])) ∧
    ∃ request code b', b.hand (.receiveOffer Sample.contact ids) = (.ok request, code, b') ∧
      Packet.decode code = .ok (.request request) ∧
      request.isRequested 0 ∧ request.isRequested 1 ∧
      ∃ sent code' a', sent.messages = [Sample.lesser.id] ∧
        a.hand (.receiveRequest Sample.contact ids request writer (Sample.nonce 1)) =
          (.ok sent, code', a') ∧
        a.hand (.generateBatch Sample.contact writer (Sample.nonce 1)) =
          (.ok (some sent), code', a') := by
  intro a b ids writer
  have hthere : a.view (Store.containsContact Sample.contact) = .ok true :=
    Sample.eq_ok_of_toOption (by decide +kernel)
  have hhere : b.view (Store.containsContact Sample.contact) = .ok true :=
    Sample.eq_ok_of_toOption (by decide +kernel)
  have hqueue : memory.eligible a.store Sample.contact = [Sample.lesser, Sample.message] :=
    Sample.eligible_queueing .memory
  have hunknown : ∀ id ∈ ids, b.view (Store.status Sample.contact id) = .ok none := by
    intro id hid
    refine Sample.eq_ok_of_toOption ?_
    obtain rfl | hid := List.mem_cons.mp hid
    · decide +kernel
    · rw [List.mem_singleton.mp hid]
      decide +kernel
  have hoffered (most : Option Nat) (messages : List Message)
      (h : [Sample.lesser, Sample.message].take (min 1000 (OfferWriter.fresh most).most) =
        messages) :
      (Message.takeWithin Store.unlimited (memory.eligible a.store Sample.contact)).take
        (min a.config.maxOfferIds (OfferWriter.fresh most).most) = messages := by
    rw [hqueue, ← h]
    rfl
  have hreconcile (most : Option Nat) :=
    @reconcile .memory .relational a b ⟨{}, 0, Sample.queueing, rfl⟩ ⟨{}, 0, _, rfl⟩
      Sample.contact Sample.contact hthere hhere most 4 none (Sample.nonce 1)
  obtain ⟨-, -, -, hoffer, -⟩ := hreconcile (some 1)
  rw [hoffered (some 1) [Sample.lesser] rfl] at hoffer
  refine ⟨hoffer, ?_⟩
  obtain ⟨-, -, -, -, hserved, request, code, b', hhand, hdecode, hsize, hflags, hsame⟩ :=
    hreconcile none
  rw [hoffered none [Sample.lesser, Sample.message] rfl] at hserved hhand hsize hflags hsame
  have hwanted (i : Nat) (id : MessageId) (hid : ids[i]? = some id) : request.isRequested i :=
    (hflags i id hid).mpr (hunknown id (List.mem_of_getElem? hid))
  refine ⟨request, code, b', hhand, hdecode, hwanted 0 _ rfl, hwanted 1 _ rfl, ?_⟩
  obtain ⟨sent, code', a', hsent, hdirect⟩ := hsame hqueue.symm hunknown
  -- both are wanted, but the writer refuses the second one
  have hload : writer.load (request.wanted [Sample.lesser, Sample.message]) = [Sample.lesser] := by
    have hall : ∀ i < [Sample.lesser, Sample.message].length, request.isRequested i :=
      fun i hi => hwanted i _ (List.getElem?_eq_getElem (show i < ids.length from hi))
    rw [Request.wanted_eq_self hall]
    decide +kernel
  obtain ⟨a'', hone⟩ := hserved request hsize
  rw [hload, hsent] at hone
  obtain rfl := Except.ok.inj (congrArg Prod.fst hone)
  rw [SentBatch.recorded?_of_ne_nil (List.cons_ne_nil _ _)] at hdirect
  exact ⟨_, code', a', rfl, hsent, hdirect⟩

end Backend

end MessageSync
