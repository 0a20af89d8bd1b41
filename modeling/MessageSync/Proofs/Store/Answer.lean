import MessageSync.Proofs.Store.Mirror

/-!
# Equal answers

A relational store that mirrors a store in memory answers every question as that one
does. Columns decode, since they were encoded; lists agree because both are in the order
of their keys, whatever table they are read from.
-/

namespace MessageSync

/-- Decoding a list of columns each of which decodes. -/
lemma mapM_eq_ok {ε α β : Type} {f : α → Except ε β} {g : α → β} (l : List α)
    (h : ∀ a ∈ l, f a = .ok (g a)) : l.mapM f = .ok (l.map g) := by
  induction l with
  | nil => rfl
  | cons a rest ih =>
    rw [List.mapM_cons, h a List.mem_cons_self,
      ih fun b hb => h b (List.mem_cons_of_mem _ hb)]
    rfl

lemma filterMap_ite {α β : Type} (p : α → Prop) [DecidablePred p] (g : α → β) (l : List α) :
    (l.filterMap fun a => if p a then some (g a) else none) = (l.filter p).map g := by
  induction l with
  | nil => rfl
  | cons a rest ih =>
    by_cases h : p a
    · simp [h, ih]
    · simp [h, ih]

/-- Keys of one contact are in the order of what they are keys of. -/
lemma ContactKey.compare_eq {κ : Type} [Ord κ] {k k' : ContactKey κ}
    (h : k.contact = k'.contact) : compare k k' = compare k.item k'.item := by
  show (compare k.contact k'.contact).then (compare k.item k'.item) = _
  rw [h, Std.ReflOrd.compare_self]
  rfl

/-- What is read of one contact from a list in the order of its keys is in the order of what
they are keys of. -/
lemma ContactKey.ordered_filterMap {κ α β : Type} [Ord κ] {c : ContactId} {l : List β}
    (k : β → ContactKey κ) (hl : l.Pairwise fun e e' => compare (k e) (k e') = .lt)
    {f : β → Option α} (key : α → κ)
    (hf : ∀ e a, f e = some a → (k e).contact = c ∧ (k e).item = key a) :
    (l.filterMap f).Pairwise fun a a' => compare (key a) (key a') = .lt := by
  rw [List.pairwise_filterMap]
  refine hl.imp fun {e e'} hlt a ha a' ha' => ?_
  obtain ⟨hc, hkey⟩ := hf e a ha
  obtain ⟨hc', hkey'⟩ := hf e' a' ha'
  rw [ContactKey.compare_eq (hc.trans hc'.symm), hkey, hkey'] at hlt
  exact hlt

/-- The messages that may go to a contact are read in the order of their identifiers. -/
lemma Memory.ordered_eligible {s : Memory} (hs : s.Keyed) (c : ContactId) :
    (s.deliveries.toList.filterMap fun e =>
      if e.1.contact = c && e.2.eligible then s.messages[e.1.item]? else none).Pairwise
        fun m m' => compare m.id m'.id = .lt := by
  refine ContactKey.ordered_filterMap Prod.fst (Table.ordered_toList s.deliveries) Message.id
    (c := c) fun e m hm => ?_
  obtain ⟨hc, hm⟩ := Option.ite_none_right_eq_some.mp hm
  simp only [Bool.and_eq_true, decide_eq_true_eq] at hc
  exact ⟨hc.1, (hs hm).symm⟩

/-- The batches that are to be acknowledged to a contact are read in order. -/
lemma Memory.ordered_toAckOf (s : Memory) (c : ContactId) :
    (s.toAckOf c).Pairwise fun b b' => compare b b' = .lt :=
  ContactKey.ordered_filterMap id s.toAck.ordered_keys id (c := c) fun k b hb => by
    obtain ⟨hc, hb⟩ := Option.ite_none_right_eq_some.mp hb
    exact ⟨hc, Option.some.inj hb⟩

lemma Id.ofColumn_bytes {kind : IdKind} (id : Id kind) :
    (Id.ofColumn id.bytes : Except StoreError (Id kind)) = .ok id := by
  unfold Id.ofColumn
  rw [ofBytes?_bytes]

lemma Status.ofColumn_toNat (status : Status) :
    Status.ofColumn status.toNat = .ok status := by
  cases status <;> rfl

namespace Relational.Mirrors

variable {s : Relational} {t : Memory}

/-! ## Contacts and groups -/

lemma keys_contacts (h : s.Mirrors t) : s.contacts.keys = t.contacts.keys := by
  rw [h.contacts, Std.ExtTreeMap.keys_map]

lemma toList_groups (h : s.Mirrors t) :
    s.groups.toList = t.subscriptions.toList.map fun e => (e.1.bytes, e.2) := by
  refine Table.eq_of_ordered Prod.fst (Table.ordered_toList _) ?_ fun e => ?_
  · rw [List.pairwise_map]
    exact Table.ordered_toList t.subscriptions
  · rw [Table.mem_toList_iff, List.mem_map]
    constructor
    · intro he
      -- the bytes of a row are those of an id, since they have its length
      let g : GroupId := ⟨e.1, h.groupSize e.1 (Table.mem_of_getElem? he)⟩
      refine ⟨(g, e.2), (Table.mem_toList_iff _ _).mpr ?_, rfl⟩
      rw [← h.groups]
      exact he
    · rintro ⟨e', he', rfl⟩
      rw [h.groups]
      exact (Table.mem_toList_iff _ _).mp he'

lemma subscriptions (h : s.Mirrors t) :
    s.subscriptions = .ok (Group.ofTable t.subscriptions) := by
  unfold Relational.subscriptions Group.ofTable
  rw [h.toList_groups, List.mapM_map]
  refine mapM_eq_ok _ fun e _ => ?_
  simp only [Function.comp_apply, Id.ofColumn_bytes]
  rfl

lemma contactSubscriptions (h : s.Mirrors t) (c : ContactId) :
    s.contactSubscriptions c = t.contactSubscriptions c := by
  have hmem (g : Group) : g ∈ s.contactSubscriptions c ↔
      ((t.contacts[c]?).bind fun r => r.groups[g.id]?) = some g.name := by
    rw [← h.contactGroups]
    unfold Relational.contactSubscriptions
    simp only [List.mem_filterMap, Table.mem_toList_iff, Option.ite_none_right_eq_some]
    constructor
    · rintro ⟨e, he, hc, hg⟩
      rw [← hc, ← Option.some.inj hg]
      exact he
    · intro hg
      exact ⟨(⟨c, g.id⟩, g.name), hg, rfl, rfl⟩
  have hordered : (s.contactSubscriptions c).Pairwise fun g g' => compare g.id g'.id = .lt := by
    refine ContactKey.ordered_filterMap Prod.fst (Table.ordered_toList s.contactGroups) Group.id
      (c := c) fun e g hg => ?_
    obtain ⟨hc, hg⟩ := Option.ite_none_right_eq_some.mp hg
    exact ⟨hc, by rw [← Option.some.inj hg]⟩
  unfold Memory.contactSubscriptions
  cases hr : t.contacts[c]? with
  | none =>
    rw [hr] at hmem
    exact List.eq_nil_iff_forall_not_mem.mpr fun g hg => by cases (hmem g).mp hg
  | some r =>
    rw [hr] at hmem
    refine Table.eq_of_ordered Group.id hordered ?_ fun g => ?_
    · unfold Group.ofTable
      rw [List.pairwise_map]
      exact Table.ordered_toList r.groups
    · rw [hmem]
      unfold Group.ofTable
      rw [List.mem_map]
      constructor
      · intro hg
        exact ⟨(g.id, g.name), (Table.mem_toList_iff _ _).mpr hg, rfl⟩
      · rintro ⟨e, he, rfl⟩
        exact (Table.mem_toList_iff _ _).mp he

/-! ## Messages -/

lemma allMessages (h : s.Mirrors t) : s.allMessages = t.messages.values := by
  unfold Relational.allMessages
  rw [h.messages, Std.ExtTreeMap.toList_map, Table.values_eq, List.map_map]
  refine List.map_congr_left fun e he => ?_
  have hid := h.consistent.keyed ((Table.mem_toList_iff _ _).mp he)
  simp only [Function.comp_apply, messageOf, Message.toRow, ← hid]

lemma byAge (h : s.Mirrors t) : s.byAge = t.byAge := by
  unfold Relational.byAge Memory.byAge
  rw [h.allMessages]

lemma rawMessage (h : s.Mirrors t) (id : MessageId) :
    (s.messages[id]?).map MessageRow.raw = (t.messages[id]?).map Message.raw := by
  rw [h.message, Option.map_map]
  rfl

lemma mayGo_toRow (d : Delivery) : mayGo d.toRow = d.eligible := by
  rcases d with ⟨_ | _ | _, _ | _⟩ <;> rfl

lemma rawIfSendable (h : s.Mirrors t) (c : ContactId) (id : MessageId) :
    s.rawIfSendable c id = t.rawIfSendable c id := by
  unfold Relational.rawIfSendable Memory.rawIfSendable
  have hdelivery : t.deliveries[(⟨c, id⟩ : ContactKey MessageId)]? = t.delivery c id := rfl
  rw [h.message, h.status, hdelivery]
  cases t.messages[id]? with
  | none => cases t.delivery c id <;> simp
  | some m =>
    cases t.delivery c id with
    | none => rfl
    | some d =>
      show (if mayGo d.toRow then some m.raw else none) = if d.eligible then some m.raw else none
      rw [mayGo_toRow]

lemma eligible (h : s.Mirrors t) (c : ContactId) : s.eligible c = t.eligible c := by
  -- one list is read from the messages, the other from the deliveries
  unfold Relational.eligible Memory.eligible
  refine congrArg Message.oldestFirst (Table.eq_of_ordered Message.id ?_
    (Memory.ordered_eligible h.consistent.keyed c) fun m => ?_)
  · rw [List.pairwise_map]
    exact (Table.ordered_toList s.messages).filter _
  · have hmem := Memory.mem_eligible_iff h.consistent.keyed c m
    unfold Memory.eligible Message.oldestFirst at hmem
    rw [List.mem_mergeSort] at hmem
    rw [hmem, List.mem_map]
    constructor
    · rintro ⟨e, he, rfl⟩
      obtain ⟨hrow, hstatus⟩ := List.mem_filter.mp he
      rw [Table.mem_toList_iff, h.message, Option.map_eq_some_iff] at hrow
      obtain ⟨m, hm, hrow⟩ := hrow
      rw [h.status, Option.any_map, Option.any_eq_true] at hstatus
      obtain ⟨d, hd, hel⟩ := hstatus
      refine ⟨?_, d, hd, by rw [← mayGo_toRow]; exact hel⟩
      show t.messages[e.1]? = _
      rw [hm, ← hrow, ← h.consistent.keyed hm]
      rfl
    · rintro ⟨hm, d, hd, hel⟩
      refine ⟨(m.id, m.toRow), List.mem_filter.mpr ⟨?_, ?_⟩, rfl⟩
      · rw [Table.mem_toList_iff, h.message, hm]
        rfl
      · rw [h.status, hd, Option.map_some, Option.any_some, mayGo_toRow]
        exact hel

/-! ## Deliveries and batches -/

lemma statusOf (h : s.Mirrors t) (c : ContactId) (id : MessageId) :
    Relational.status s c id = .ok (t.delivery c id) := by
  unfold Relational.status
  rw [h.status]
  cases t.delivery c id with
  | none => rfl
  | some d =>
    dsimp only [Option.map_some, Delivery.toRow]
    rw [Status.ofColumn_toNat]
    rfl

lemma outstandingOf (h : s.Mirrors t) (c : ContactId) :
    s.outstandingOf c = t.outstandingOf c := by
  unfold Relational.outstandingOf Memory.outstandingOf
  dsimp only
  rw [h.outstanding, Std.ExtTreeMap.toList_map, List.filter_map, List.map_map, filterMap_ite]
  congr 1
  refine List.map_congr_left fun e he => ?_
  -- the row of each batch is read with the rows of its messages
  obtain ⟨hmem, hc⟩ := List.mem_filter.mp he
  have hc : e.1.contact = c := of_decide_eq_true hc
  have hr : t.sentBatch c e.1.item = some e.2 := by
    subst hc
    exact (Table.mem_toList_iff _ _).mp hmem
  rw [Function.comp_apply, h.batchMessages hr]

lemma keys_toAck (h : s.Mirrors t) :
    s.toAck.keys = t.toAck.keys.map fun k => ⟨k.contact, k.item.bytes⟩ := by
  -- keys with the bytes of ids are in the order of keys with the ids
  have hordered {κ : Type} [Ord κ] [Std.TransOrd κ] (t : Table κ Unit) :
      t.keys.Pairwise fun k k' => compare (id k) (id k') = .lt := t.ordered_keys
  refine Table.eq_of_ordered id (hordered s.toAck) ?_ fun k => ?_
  · rw [List.pairwise_map]
    exact hordered t.toAck
  · rw [Std.ExtTreeMap.mem_keys, List.mem_map]
    constructor
    · intro hk
      let b : BatchId := ⟨k.item, h.toAckSize k hk⟩
      exact ⟨⟨k.contact, b⟩, Std.ExtTreeMap.mem_keys.mpr ((h.toAck k.contact b).mp hk), rfl⟩
    · rintro ⟨k', hk', rfl⟩
      exact (h.toAck k'.contact k'.item).mpr (Std.ExtTreeMap.mem_keys.mp hk')

lemma batchesToAck (h : s.Mirrors t) (c : ContactId) :
    s.batchesToAck c = .ok (t.toAckOf c) := by
  unfold Relational.batchesToAck Memory.toAckOf
  rw [h.keys_toAck, List.filter_map, List.mapM_map, filterMap_ite]
  exact mapM_eq_ok _ fun k _ => Id.ofColumn_bytes k.item

end Relational.Mirrors

end MessageSync
