import MessageSync.Node
import MessageSync.Proofs.OfferRound

/-!
# What the cleaner deletes

The cleaner compares the bytes of all messages with a limit. Above the limit it deletes the
fewest of the oldest messages that together have the bytes that are too many, and those that
are to be freed beyond them. What is deleted is cut from the front of the list of messages by
age (`Message.takeUntil`): a message belongs to it exactly if those before it are not enough.

Three queries take part: one finds the bytes that are stored, one the messages to delete, and
one the bytes of each that is deleted. They agree with each other, so that what is reported is
what was freed (`Backend.clean_eq`).
-/

namespace MessageSync

/-! ## The cut -/

namespace Message

variable {wanted : Nat} {queue short : List Message}

lemma totalSize_append (xs ys : List Message) :
    totalSize (xs ++ ys) = totalSize xs + totalSize ys := by
  simp only [totalSize_eq, List.map_append, List.sum_append]

lemma totalSize_perm {xs ys : List Message} (h : xs.Perm ys) : totalSize xs = totalSize ys := by
  rw [totalSize_eq, totalSize_eq]
  exact ((h.map raw).map List.length).sum_eq

lemma takeUntil_prefix (wanted : Nat) (queue : List Message) :
    takeUntil wanted queue <+: queue := by
  induction queue generalizing wanted with
  | nil => exact List.prefix_rfl
  | cons m rest ih =>
    rw [takeUntil]
    split
    · exact List.nil_prefix
    · exact (List.prefix_cons_inj m).mpr (ih _)

/-- The cut is large enough, or nothing is left. -/
lemma takeUntil_enough (wanted : Nat) (queue : List Message) :
    wanted ≤ totalSize (takeUntil wanted queue) ∨ takeUntil wanted queue = queue := by
  induction queue generalizing wanted with
  | nil => exact .inr rfl
  | cons m rest ih =>
    rw [takeUntil]
    split
    · next hzero => exact .inl (hzero ▸ Nat.zero_le _)
    · refine (ih (wanted - m.size)).imp (fun henough => ?_) fun hall => by rw [hall]
      show wanted ≤ m.size + totalSize (takeUntil (wanted - m.size) rest)
      omega

/-- Whatever else is cut from the front and is large enough goes at least as far. -/
lemma takeUntil_prefix_of (hshort : short <+: queue) (h : wanted ≤ totalSize short) :
    takeUntil wanted queue <+: short := by
  induction queue generalizing wanted short with
  | nil => exact List.nil_prefix
  | cons m rest ih =>
    rw [takeUntil]
    split
    · exact List.nil_prefix
    · next hwanted =>
      cases short with
      | nil => exact absurd (Nat.le_zero.mp h) hwanted
      | cons m' short =>
        obtain ⟨rfl, hrest⟩ := List.cons_prefix_cons.mp hshort
        have hsize : wanted ≤ m'.size + totalSize short := h
        exact (List.prefix_cons_inj m').mpr (ih hrest (by omega))

/-- A list of messages is cut in two: the first part has at least `wanted` bytes, or it is all
there is, and it is the shortest part from the front of which that is so. -/
structure Cut (wanted : Nat) (queue old kept : List Message) : Prop where
  append : queue = old ++ kept
  enough : wanted ≤ totalSize old ∨ kept = []
  shortest : ∀ short, short <+: queue → wanted ≤ totalSize short → old <+: short
  /-- Without its last message the first part is too small. -/
  needed : old ≠ [] → totalSize old.dropLast < wanted

lemma exists_cut (wanted : Nat) (queue : List Message) :
    ∃ kept, Cut wanted queue (takeUntil wanted queue) kept := by
  have hfront := takeUntil_prefix wanted queue
  obtain ⟨kept, happend⟩ := takeUntil_prefix wanted queue
  refine ⟨kept, happend.symm, (takeUntil_enough wanted queue).imp_right fun hall => ?_,
    fun short hshort h => takeUntil_prefix_of hshort h, fun hne => ?_⟩
  · rw [hall] at happend
    exact List.append_right_eq_self.mp happend
  · by_contra hle
    have hlonger := takeUntil_prefix_of ((List.dropLast_prefix _).trans hfront) (Nat.not_lt.mp hle)
    have hlength := hlonger.length_le
    have hpos := List.length_pos_iff.mpr hne
    rw [List.length_dropLast] at hlength
    omega

end Message

/-! ## Over a store in memory -/

namespace Memory

/-- Deletes messages, and the rows of all contacts for them. -/
def discard (s : Memory) (ids : List MessageId) : Memory :=
  { s with
    messages := s.messages.filter fun id _ => !ids.contains id
    deliveries := s.deliveries.filter fun k _ => !ids.contains k.item }

variable {s : Memory}

lemma messages_discard (s : Memory) (ids : List MessageId) (id : MessageId) :
    (s.discard ids).messages[id]? = if id ∈ ids then none else s.messages[id]? := by
  unfold discard
  rw [Table.getElem?_filter_keys]
  simp only [Bool.not_eq_true', Bool.eq_false_iff, ne_eq, List.contains_iff_mem, ite_not]

lemma delivery_discard (s : Memory) (ids : List MessageId) (c : ContactId) (id : MessageId) :
    (s.discard ids).delivery c id = if id ∈ ids then none else s.delivery c id := by
  unfold discard delivery
  rw [Table.getElem?_filter_keys]
  simp only [Bool.not_eq_true', Bool.eq_false_iff, ne_eq, List.contains_iff_mem, ite_not]

/-- Messages that are deleted one after the other are deleted together. -/
lemma changes_forget (s : Memory) (ids : List MessageId) :
    s.changes (ids.map .forget) = s.discard ids := by
  have hfold : s.changes (ids.map .forget) = ids.foldl removeMessage s := List.foldl_map
  obtain ⟨messages, deliveries, heq⟩ := exists_foldl_removeMessage ids s
  have hmessages : messages = (s.discard ids).messages := by
    refine Std.ExtTreeMap.ext_getElem? fun id => ?_
    have hid := messages_foldl_removeMessage ids s id
    rw [heq] at hid
    rw [messages_discard]
    exact hid
  have hdeliveries : deliveries = (s.discard ids).deliveries := by
    refine Std.ExtTreeMap.ext_getElem? fun k => ?_
    have hk := delivery_foldl_removeMessage ids s k.contact k.item
    rw [heq] at hk
    exact hk.trans (s.delivery_discard ids k.contact k.item).symm
  rw [hfold, heq, hmessages, hdeliveries]
  rfl

lemma Consistent.discard (h : s.Consistent) (ids : List MessageId) :
    (s.discard ids).Consistent := by
  rw [← changes_forget]
  refine changes_induction (fun _ _ h hx => h.change hx) h (allows_of_forall (fun x hx s => ?_) s)
  obtain ⟨id, -, rfl⟩ := List.mem_map.mp hx
  trivial

lemma mem_byAge_iff (hs : s.Keyed) (m : Message) : m ∈ s.byAge ↔ s.messages[m.id]? = some m := by
  unfold byAge Message.oldestFirst
  rw [List.mem_mergeSort, mem_values_iff hs]

/-- No two messages have the same identifier. -/
lemma nodup_byAge (hs : s.Keyed) : (s.byAge.map Message.id).Nodup := by
  have hkeys : s.messages.values.map Message.id = s.messages.toList.map Prod.fst := by
    rw [Table.values_eq, List.map_map]
    exact List.map_congr_left fun e he => hs ((Table.mem_toList_iff _ e).mp he)
  refine ((List.mergeSort_perm _ _).map Message.id).nodup_iff.mpr ?_
  rw [hkeys]
  refine List.pairwise_map.mpr ((Table.ordered_toList s.messages).imp fun hlt heq => ?_)
  rw [heq, Std.ReflOrd.compare_self] at hlt
  cases hlt

lemma pairwise_byAge (hs : s.Keyed) : s.byAge.Pairwise fun m m' => m.compareAge m' = .lt :=
  Message.pairwise_lt_oldestFirst (nodup_byAge hs)

/-- What is left by age once the front of the list is deleted. -/
lemma byAge_discard (hs : s.Consistent) {old kept : List Message} (h : s.byAge = old ++ kept) :
    (s.discard (old.map Message.id)).byAge = kept := by
  have hordered := pairwise_byAge hs.keyed
  have hmem (m : Message) : m ∈ s.byAge ↔ m ∈ old ∨ m ∈ kept := by rw [h, List.mem_append]
  rw [h] at hordered
  obtain ⟨-, hkept, hacross⟩ := List.pairwise_append.mp hordered
  refine Table.eq_of_pairwise_lt Message.compareAge
    (pairwise_byAge (hs.discard _).keyed) hkept fun m => ?_
  rw [mem_byAge_iff (hs.discard _).keyed, messages_discard, Option.ite_none_left_eq_some,
    ← mem_byAge_iff hs.keyed, hmem]
  constructor
  · rintro ⟨hid, hold | hm⟩
    · exact absurd (List.mem_map_of_mem hold) hid
    · exact hm
  · intro hm
    refine ⟨fun hid => ?_, .inr hm⟩
    -- a message with the same identifier is the same
    obtain ⟨m', hm', heq⟩ := List.mem_map.mp hid
    have hsame : m' = m := by
      have hstored := (mem_byAge_iff hs.keyed m').mp ((hmem m').mpr (.inl hm'))
      have hstored' := (mem_byAge_iff hs.keyed m).mp ((hmem m).mpr (.inr hm))
      rw [heq, hstored'] at hstored
      exact (Option.some.inj hstored).symm
    have hlt := hacross m' hm' m hm
    have hself : m.compareAge m = .eq := Std.ReflCmp.compare_self
    rw [hsame, hself] at hlt
    cases hlt

/-- The bytes that are counted are those of the messages that are deleted. -/
lemma removedBytes_eq {messages : List Message} (hids : (messages.map Message.id).Nodup)
    (h : ∀ m ∈ messages, s.messages[m.id]? = some m) :
    s.removedBytes (messages.map Message.id) = Message.totalSize messages := by
  induction messages generalizing s with
  | nil => rfl
  | cons m rest ih =>
    obtain ⟨hm, hrest⟩ := List.nodup_cons.mp hids
    rw [List.map_cons, removedBytes, h m List.mem_cons_self, ih hrest fun m' hm' => ?_]
    · rfl
    · rw [messages_removeMessage, if_neg fun heq => hm ?_]
      · exact h m' (List.mem_cons_of_mem m hm')
      · exact heq ▸ List.mem_map_of_mem hm'

lemma totalSize_byAge (s : Memory) :
    Message.totalSize s.byAge = Message.totalSize s.messages.values :=
  Message.totalSize_perm (List.mergeSort_perm _ _)

end Memory

namespace Engine

/-- What an expiry comes to. -/
lemma expire_runOn {e : Engine Memory} (hs : e.store.Consistent) (wanted : Nat) (sink : Sink) :
    let old := Message.takeUntil wanted e.store.byAge
    (expire wanted).runOn e sink = (.ok ⟨old.length, Message.totalSize old⟩,
      ⟨{ e with store := e.store.discard (old.map Message.id) },
        if old.length ≠ 0 then [.messagesExpired old.length (Message.totalSize old)] else [],
        sink⟩) := by
  intro old
  have hfront : old <+: e.store.byAge := Message.takeUntil_prefix _ _
  have hids : (old.map Message.id).Nodup :=
    (Memory.nodup_byAge hs.keyed).sublist (hfront.sublist.map Message.id)
  have hbytes : e.store.removedBytes (old.map Message.id) = Message.totalSize old :=
    Memory.removedBytes_eq hids fun m hm =>
      (Memory.mem_byAge_iff hs.keyed m).mp (hfront.subset hm)
  have hold : e.store.expiring wanted = old.map Message.id := rfl
  rw [Act.runOn, expire_apply]
  dsimp only
  rw [hold, hbytes, List.length_map, Turn.after, Memory.changes_forget]
  rfl

section
variable {σ : Type} [Store σ] {e : Engine σ} {config : CleanerConfig} {stored : Nat} {sink : Sink}
  (hstored : storedBytes.runOn e sink = (.ok stored, ⟨e, [], sink⟩))
include hstored

lemma clean_of_le (h : stored ≤ config.maxStoredBytes) :
    (clean config).runOn e sink = (.ok ⟨0, 0⟩, ⟨e, [], sink⟩) := by
  rw [Act.runOn] at hstored ⊢
  rw [clean, Act.bind_apply, hstored]
  dsimp only
  rw [CleanerConfig.excess?, if_pos h]
  rfl

/-- Above the limit the cleaner is an expiry with the gate paused. -/
lemma clean_of_lt (h : config.maxStoredBytes < stored) {expired : Expired} {turn : Turn σ}
    (hexpire : (expire (stored - config.maxStoredBytes + config.targetFreeBytes)).runOn
      { e with gate := e.gate.disallow } sink = (.ok expired, turn)) :
    (clean config).runOn e sink =
      (.ok expired,
        { turn with engine := { turn.engine with gate := turn.engine.gate.allow } }) := by
  rw [Act.runOn] at hstored hexpire ⊢
  rw [clean, Act.bind_apply, hstored]
  dsimp only
  rw [CleanerConfig.excess?, if_neg (Nat.not_le.mpr h)]
  dsimp only
  have hpause : Act.setGate Gate.disallow (⟨e, [], sink⟩ : Turn σ) =
      (.ok (), ⟨{ e with gate := e.gate.disallow }, [], sink⟩) := rfl
  simp only [Act.bind_apply, hpause, Act.attempt, hexpire]
  rfl

end

end Engine

lemma Gate.allow_disallow (gate : Gate) : gate.disallow.allow = gate.allow := by
  cases gate <;> rfl

/-! ## Either store -/

namespace Relational.Mirrors

/-- Messages that are deleted together are deleted from both stores. -/
lemma discard {s : Relational} {t : Memory} (h : s.Mirrors t) (ids : List MessageId) :
    (s.removeMessages fun id _ => ids.contains id).Mirrors (t.discard ids) := by
  have hrows := h.removeMessages (fun id _ => ids.contains id) (t.discard ids)
    (fun id => by
      rw [Memory.messages_discard]
      by_cases hid : id ∈ ids
      · cases t.messages[id]? <;> simp [hid, Option.filter]
      · cases t.messages[id]? <;> simp [hid, Option.filter])
    (fun c id => by
      rw [Memory.delivery_discard]
      cases hm : t.messages[id]? with
      | none => simp [h.consistent.delivery_eq_none ((Table.not_mem_iff _ _).mpr hm)]
      | some m => simp)
  exact {
    h with
    consistent := h.consistent.discard ids
    messages := hrows.1
    statuses := hrows.2 }

end Relational.Mirrors

namespace Backend

/-- All messages, oldest first. -/
def byAge : (backend : Backend) → backend.Data → List Message
  | .memory, s => Memory.byAge s
  | .relational, s => Relational.byAge s

/-- The store without some messages and the rows of all contacts for them. -/
def discarded : (backend : Backend) → backend.Data → List MessageId → backend.Data
  | .memory, s, ids => Memory.discard s ids
  | .relational, s, ids => Relational.removeMessages s fun id _ => ids.contains id

variable {backend : Backend} {e : Engine backend.Data} {t : Engine Memory}

lemma spares_discarded (s : backend.Data) (ids : List MessageId) :
    backend.Spares s (backend.discarded s ids) := by
  cases backend with
  | memory => trivial
  | relational => exact ⟨rfl, rfl⟩

namespace Twin

lemma byAge (h : backend.Twin e t) : backend.byAge e.store = t.store.byAge := by
  cases backend with
  | memory =>
    obtain ⟨rfl, -⟩ := h
    rfl
  | relational => exact (Engine.Mirrors.store h).byAge

lemma totalMessageSize (h : backend.Twin e t) :
    e.view Store.totalMessageSize = .ok (Message.totalSize (backend.byAge e.store)) := by
  rw [h.byAge, Memory.totalSize_byAge]
  cases backend with
  | memory =>
    obtain ⟨rfl, -⟩ := h
    rfl
  | relational =>
    exact congrArg (fun messages => Except.ok (Message.totalSize messages))
      (Engine.Mirrors.store h).allMessages

lemma discarded (h : backend.Twin e t) (ids : List MessageId) :
    backend.Twin { e with store := backend.discarded e.store ids }
      { t with store := t.store.discard ids } := by
  cases backend with
  | memory =>
    obtain ⟨rfl, hs⟩ := h
    exact ⟨rfl, hs.discard ids⟩
  | relational => exact { h with store := (Engine.Mirrors.store h).discard ids }

lemma storedBytes (h : backend.Twin e t) (sink : Sink) :
    Engine.storedBytes.runOn e sink =
      (.ok (Message.totalSize (backend.byAge e.store)), ⟨e, [], sink⟩) := by
  have hrun : Engine.storedBytes.runOn t sink =
      (.ok (Message.totalSize t.store.messages.values), ⟨t, [], sink⟩) := rfl
  rw [h.byAge, Memory.totalSize_byAge]
  exact h.runOn_eq .storedBytes rfl rfl hrun h (.refl e.store)

/-- An expiry comes to the same over either store. -/
lemma expire (h : backend.Twin e t) (wanted : Nat) (sink : Sink) :
    let old := Message.takeUntil wanted (backend.byAge e.store)
    (Engine.expire wanted).runOn e sink = (.ok ⟨old.length, Message.totalSize old⟩,
      ⟨{ e with store := backend.discarded e.store (old.map Message.id) },
        if old.length ≠ 0 then [.messagesExpired old.length (Message.totalSize old)] else [],
        sink⟩) := by
  rw [h.byAge]
  exact h.runOn_eq (.expire wanted) rfl rfl (Engine.expire_runOn h.consistent wanted sink)
    (h.discarded _) (spares_discarded e.store _)

/-- Above the limit, cleaning comes to the same over either store. -/
lemma clean (h : backend.Twin e t) {config : CleanerConfig}
    (hlt : config.maxStoredBytes < Message.totalSize (backend.byAge e.store)) (sink : Sink) :
    let stored := Message.totalSize (backend.byAge e.store)
    let old := Message.takeUntil (stored - config.maxStoredBytes + config.targetFreeBytes)
      (backend.byAge e.store)
    (Engine.clean config).runOn e sink = (.ok ⟨old.length, Message.totalSize old⟩,
      ⟨{ e with store := backend.discarded e.store (old.map Message.id), gate := e.gate.allow },
        if old.length ≠ 0 then [.messagesExpired old.length (Message.totalSize old)] else [],
        sink⟩) := by
  intro stored old
  have hexpire := Twin.expire (e := { e with gate := e.gate.disallow })
    (h.step (.setGate e.gate.disallow))
    (stored - config.maxStoredBytes + config.targetFreeBytes) sink
  rw [Engine.clean_of_lt (h.storedBytes sink) hlt hexpire]
  dsimp only
  rw [Gate.allow_disallow]

end Twin

/-- As long as no more than the limit is stored, the cleaner does nothing. Otherwise it deletes
the messages that come first by age, the fewest that have the bytes that are too many and those
to be freed beyond them, or all; with them go the rows of all contacts for them, and all else is
as it was, but for a gate that was paused. It reports how many they are and their bytes, and what
is left is below the limit by as much as is to be freed. -/
theorem clean_eq (he : backend.Reaches e) (config : CleanerConfig) (sink : Sink) :
    let queue := backend.byAge e.store
    let stored := Message.totalSize queue
    e.view Store.totalMessageSize = .ok stored ∧
      queue.Pairwise (fun m m' => m.compareAge m' = .lt) ∧
      (stored ≤ config.maxStoredBytes →
        (Engine.clean config).runOn e sink = (.ok ⟨0, 0⟩, ⟨e, [], sink⟩)) ∧
      (config.maxStoredBytes < stored → ∃ old kept,
        Message.Cut (stored - config.maxStoredBytes + config.targetFreeBytes) queue old kept ∧
        old ≠ [] ∧
        let e' : Engine backend.Data := { e with
          store := backend.discarded e.store (old.map Message.id), gate := e.gate.allow }
        (Engine.clean config).runOn e sink = (.ok ⟨old.length, Message.totalSize old⟩,
          ⟨e', [.messagesExpired old.length (Message.totalSize old)], sink⟩) ∧
        backend.byAge e'.store = kept ∧
        e'.view Store.totalMessageSize = .ok (stored - Message.totalSize old) ∧
        stored - Message.totalSize old ≤ config.maxStoredBytes - config.targetFreeBytes ∧
        (∀ c id, e'.view (Store.status c id) =
          if id ∈ old.map Message.id then .ok none else e.view (Store.status c id)) ∧
        (e.gate ≠ .paused → e'.gate = e.gate)) := by
  intro queue stored
  obtain ⟨t, htwin⟩ := Twin.of_reaches he
  have hs := htwin.consistent
  have hqueue : queue = t.store.byAge := htwin.byAge
  have hstored := htwin.storedBytes sink
  refine ⟨htwin.totalMessageSize, ?_, Engine.clean_of_le hstored, fun hlt => ?_⟩
  · rw [hqueue]
    exact Memory.pairwise_byAge hs.keyed
  let excess := stored - config.maxStoredBytes + config.targetFreeBytes
  let old := Message.takeUntil excess queue
  obtain ⟨kept, hcut⟩ := Message.exists_cut excess queue
  have hsum : stored = Message.totalSize old + Message.totalSize kept := by
    rw [← Message.totalSize_append, ← hcut.append]
  -- something is deleted, since more than the limit is stored
  have hold : old ≠ [] := by
    intro hnil
    have hkept : Message.totalSize old = 0 := congrArg Message.totalSize hnil
    rcases hcut.enough with henough | hnone
    · change excess ≤ Message.totalSize old at henough
      omega
    · have hzero : Message.totalSize kept = 0 := congrArg Message.totalSize hnone
      omega
  have hafter : backend.Twin
      { e with store := backend.discarded e.store (old.map Message.id), gate := e.gate.allow }
      { t with store := t.store.discard (old.map Message.id), gate := e.gate.allow } :=
    (htwin.discarded (old.map Message.id)).step (.setGate e.gate.allow)
  have hleft : backend.byAge (backend.discarded e.store (old.map Message.id)) = kept :=
    hafter.byAge.trans (Memory.byAge_discard hs (hqueue.symm.trans hcut.append))
  have hfreed : Message.totalSize kept = stored - Message.totalSize old := by omega
  have hclean := htwin.clean hlt sink
  dsimp only at hclean
  rw [if_pos (mt List.length_eq_zero_iff.mp hold)] at hclean
  refine ⟨old, kept, hcut, hold, hclean, hleft, ?_, ?_, fun c id => ?_, fun hgate => ?_⟩
  · rw [hafter.totalMessageSize]
    dsimp only
    rw [hleft, hfreed]
  · rw [← hfreed]
    rcases hcut.enough with henough | hnone
    · change excess ≤ Message.totalSize old at henough
      omega
    · rw [hnone]
      exact Nat.zero_le _
  · rw [hafter.status, htwin.status, Memory.delivery_discard, apply_ite Except.ok]
  · show e.gate.allow = e.gate
    cases hg : e.gate with
    | paused => exact absurd hg hgate
    | opened | closed => rfl

/-- Five bytes are stored, one more than the limit. The older message has two, and goes. -/
theorem clean_eq_opening :
    let newer : Message := ⟨⟨List.replicate 32 3, rfl⟩, Sample.group.id, none, 1, [1, 2, 3]⟩
    let history := Sample.opening ++ [.perform (.addLocal newer) {}]
    let e := (Backend.relational.start {} 0).run history
    let config : CleanerConfig := { maxStoredBytes := 4, targetFreeBytes := 0 }
    let store := Relational.removeMessages e.store fun id _ => [Sample.message.id].contains id
    (Engine.clean config).runOn e {} =
        (.ok ⟨1, 2⟩, ⟨{ e with store, gate := .opened }, [.messagesExpired 1 2], {}⟩) ∧
      Relational.byAge store = [newer] := by
  intro newer history e config store
  have hqueue : Relational.byAge e.store = [Sample.message, newer] := by
    have hall : Relational.allMessages e.store = [Sample.message, newer] := by decide +kernel
    have hsorted : [Sample.message, newer].Pairwise fun a b => (Message.compareAge a b).isLE := by
      decide +kernel
    show List.mergeSort _ _ = _
    rw [hall, List.mergeSort_of_pairwise hsorted]
  obtain ⟨-, -, -, hclean⟩ := @clean_eq .relational e ⟨{}, 0, history, rfl⟩ config {}
  have hsize : Message.totalSize (relational.byAge e.store) = 5 := by
    show Message.totalSize (Relational.byAge e.store) = 5
    rw [hqueue]
    rfl
  rw [hsize] at hclean
  obtain ⟨old, kept, hcut, hold, hrun, hleft, -⟩ := hclean (by decide)
  have hfront : old <+: [Sample.message] := by
    refine hcut.shortest _ ?_ (by decide)
    show _ <+: Relational.byAge e.store
    rw [hqueue]
    exact ⟨[newer], rfl⟩
  obtain rfl : [Sample.message] = old :=
    (hfront.eq_of_length_le (List.length_pos_iff.mpr hold)).symm
  have happend := hcut.append
  change Relational.byAge e.store = _ at happend
  rw [hqueue] at happend
  obtain rfl : [newer] = kept := (List.cons.inj happend).2
  exact ⟨hrun, hleft⟩

end Backend

end MessageSync
