import MessageSync.Proofs.Store.BatchRows
import MessageSync.Proofs.Store.Consistent

/-!
# A relational store that mirrors a store in memory

`Relational.Mirrors s t` says that the rows of `s` are those of `t`, table by table, and
that the tables of `t` fit together. Secrets are left out: nothing else depends on them.

The queries that change the stores keep this up. Where the relational store leaves work
to references between rows, or does it with one statement over all rows, this is where
the loops of the store in memory are shown to come to the same.
-/

namespace MessageSync

/-! ## Rows -/

/-- The row of a message. -/
def Message.toRow (m : Message) : MessageRow := ⟨m.group, m.author, m.timestamp, m.raw⟩

/-- The row of a delivery. -/
def Delivery.toRow (d : Delivery) : StatusRow := ⟨d.status.toNat, d.sendable⟩

/-- The row of a contact. -/
def ContactRecord.toRow (r : ContactRecord) : ContactRow :=
  ⟨encodeProperties r.transports, r.transportsAt, r.groupsAt⟩

namespace Relational

/-- The rows of a relational store are the entries of a store in memory. -/
structure Mirrors (s : Relational) (t : Memory) : Prop where
  consistent : t.Consistent
  next : t.nextContact = s.lastContact + 1
  contacts : s.contacts = t.contacts.map fun _ r => r.toRow
  contactGroups : ∀ (c : ContactId) (g : GroupId),
    s.contactGroups[(⟨c, g⟩ : ContactKey GroupId)]? = (t.contacts[c]?).bind fun r => r.groups[g]?
  groups : ∀ g : GroupId, s.groups[g.bytes]? = t.subscriptions[g]?
  groupSize : ∀ raw ∈ s.groups, raw.length = 32
  subscriptionsAt : s.subscriptionsAt = t.subscriptionsAt
  transports : s.transports = encodeProperties t.transports
  transportsAt : s.transportsAt = t.transportsAt
  messages : s.messages = t.messages.map fun _ m => m.toRow
  statuses : s.statuses = t.deliveries.map fun _ d => d.toRow
  ratings : s.ratings = t.ratings.map fun _ r => (r.toNat : Int)
  outstanding : s.outstanding = t.outstanding.map fun _ r => r.sentAt
  batched : ∀ (c : ContactId) (b : BatchId) (i : Nat),
    s.batched[(⟨c, ⟨b, i⟩⟩ : ContactKey PlaceKey)]? = (t.sentBatch c b).bind fun r => r.messages[i]?
  toAck : ∀ (c : ContactId) (b : BatchId),
    (⟨c, b.bytes⟩ : ContactKey Bytes) ∈ s.toAck ↔ (⟨c, b⟩ : ContactKey BatchId) ∈ t.toAck
  toAckSize : ∀ k ∈ s.toAck, k.item.length = 32

namespace Mirrors

variable {s : Relational} {t : Memory}

lemma empty : Relational.empty.Mirrors Memory.empty where
  consistent := Memory.Consistent.empty
  next := rfl
  contacts := rfl
  contactGroups := by
    intro c g
    simp [Relational.empty, Memory.empty]
  groups := by
    intro g
    simp [Relational.empty, Memory.empty]
  groupSize := by
    intro raw h
    simp [Relational.empty] at h
  subscriptionsAt := rfl
  transports := rfl
  transportsAt := rfl
  messages := rfl
  statuses := rfl
  ratings := rfl
  outstanding := rfl
  batched := by
    intro c b i
    simp [Relational.empty, Memory.empty, Memory.sentBatch]
  toAck := by
    intro c b
    simp [Relational.empty, Memory.empty]
  toAckSize := by
    intro k h
    simp [Relational.empty] at h

/-! ## Looking up -/

lemma contact (h : s.Mirrors t) (c : ContactId) :
    s.contacts[c]? = (t.contacts[c]?).map ContactRecord.toRow := by
  rw [h.contacts, Std.ExtTreeMap.getElem?_map]

lemma mem_contacts (h : s.Mirrors t) (c : ContactId) : c ∈ s.contacts ↔ c ∈ t.contacts := by
  rw [h.contacts, Std.ExtTreeMap.mem_map]

lemma message (h : s.Mirrors t) (id : MessageId) :
    s.messages[id]? = (t.messages[id]?).map Message.toRow := by
  rw [h.messages, Std.ExtTreeMap.getElem?_map]

lemma mem_messages (h : s.Mirrors t) (id : MessageId) : id ∈ s.messages ↔ id ∈ t.messages := by
  rw [h.messages, Std.ExtTreeMap.mem_map]

lemma status (h : s.Mirrors t) (c : ContactId) (id : MessageId) :
    s.statuses[(⟨c, id⟩ : ContactKey MessageId)]? = (t.delivery c id).map Delivery.toRow := by
  rw [h.statuses, Std.ExtTreeMap.getElem?_map]
  rfl

lemma batch (h : s.Mirrors t) (c : ContactId) (b : BatchId) :
    s.outstanding[(⟨c, b⟩ : ContactKey BatchId)]? = (t.sentBatch c b).map SentRecord.sentAt := by
  rw [h.outstanding, Std.ExtTreeMap.getElem?_map]
  rfl

/-- The rows of the messages of a batch list them in its order. -/
lemma batchMessages (h : s.Mirrors t) {c : ContactId} {b : BatchId} {r : SentRecord}
    (hr : t.sentBatch c b = some r) : s.batchMessages c b = r.messages := by
  refine batchMessages_eq fun i => ?_
  rw [h.batched, hr]
  rfl

lemma mem_groups (h : s.Mirrors t) (g : GroupId) : g.bytes ∈ s.groups ↔ g ∈ t.subscriptions := by
  rw [Table.mem_iff_exists, Table.mem_iff_exists, h.groups]

/-- A contact shares a group in both stores or in none. -/
lemma mem_contactGroups (h : s.Mirrors t) (c : ContactId) (g : GroupId) :
    (⟨c, g⟩ : ContactKey GroupId) ∈ s.contactGroups ↔ t.Advertises c g := by
  unfold Memory.Advertises
  rw [Table.mem_iff_exists, h.contactGroups]
  simp only [Option.bind_eq_some_iff, Table.mem_iff_exists]
  constructor
  · rintro ⟨name, r, hr, hg⟩
    exact ⟨r, hr, name, hg⟩
  · rintro ⟨r, hr, name, hg⟩
    exact ⟨name, r, hr, hg⟩

/-! ## Contacts -/

lemma addContact (h : s.Mirrors t) (transports : Properties) :
    (s.addContact transports).1 = (t.addContact transports).1 ∧
      (s.addContact transports).2.Mirrors (t.addContact transports).2 := by
  have hc : (⟨s.lastContact + 1⟩ : ContactId) = ⟨t.nextContact⟩ := by rw [h.next]
  -- no contact has the next number, so that no groups are hidden by the new entry
  have hfresh : (⟨t.nextContact⟩ : ContactId) ∉ t.contacts := fun hmem =>
    Nat.lt_irrefl _ (h.consistent.numbered _ hmem)
  refine ⟨hc, ?_⟩
  exact {
    h with
    consistent := h.consistent.addContact transports
    next := by
      show t.nextContact + 1 = s.lastContact + 1 + 1
      rw [h.next]
    contacts := by
      show s.contacts.insert ⟨s.lastContact + 1⟩ _ = (t.contacts.insert ⟨t.nextContact⟩ _).map _
      rw [hc, h.contacts, ← Table.map_insert]
      rfl
    contactGroups := by
      intro c g
      show s.contactGroups[(⟨c, g⟩ : ContactKey GroupId)]? =
        ((t.contacts.insert ⟨t.nextContact⟩ _)[c]?).bind _
      rw [h.contactGroups, Table.getElem?_insert]
      by_cases hc : (⟨t.nextContact⟩ : ContactId) = c
      · subst hc
        simp [(Table.not_mem_iff _ _).mp hfresh]
      · simp [hc] }

lemma removeContact (h : s.Mirrors t) (c : ContactId) :
    (s.removeContact c).Mirrors (t.removeContact c) where
  consistent := h.consistent.removeContact c
  next := h.next
  contacts := by
    show s.contacts.erase c = (t.contacts.erase c).map _
    rw [h.contacts, Table.map_erase]
  contactGroups := by
    intro c' g
    show (s.contactGroups.filter fun k _ => k.contact ≠ c)[(⟨c', g⟩ : ContactKey GroupId)]? =
      ((t.contacts.erase c)[c']?).bind _
    rw [Table.getElem?_others, h.contactGroups, Table.getElem?_erase]
    by_cases hc : c = c'
    · rw [if_pos hc, if_pos hc.symm]
      rfl
    · rw [if_neg hc, if_neg (Ne.symm hc)]
  groups := h.groups
  groupSize := h.groupSize
  subscriptionsAt := h.subscriptionsAt
  transports := h.transports
  transportsAt := h.transportsAt
  messages := h.messages
  statuses := by
    show s.statuses.filter _ = (t.deliveries.filter _).map _
    rw [h.statuses, Table.filter_map]
  ratings := h.ratings
  outstanding := by
    show s.outstanding.filter _ = (t.outstanding.filter _).map _
    rw [h.outstanding, Table.filter_map]
  batched := by
    intro c' b i
    show (s.batched.filter fun k _ => k.contact ≠ c)[(⟨c', ⟨b, i⟩⟩ : ContactKey PlaceKey)]? = _
    rw [Table.getElem?_others, h.batched, Memory.sentBatch_removeContact]
    split <;> rfl
  toAck := by
    intro c' b
    show (⟨c', b.bytes⟩ : ContactKey Bytes) ∈ s.toAck.filter (fun k _ => k.contact ≠ c) ↔
      (⟨c', b⟩ : ContactKey BatchId) ∈ t.toAck.filter (fun k _ => k.contact ≠ c)
    have hacks := h.toAck c' b
    rw [Table.mem_iff_exists, Table.mem_iff_exists] at hacks ⊢
    rw [Table.getElem?_others, Table.getElem?_others]
    by_cases hc : c' = c
    · rw [if_pos hc, if_pos hc]
    · rw [if_neg hc, if_neg hc]
      exact hacks
  toAckSize := by
    intro k hk
    rw [Table.mem_iff_exists] at hk
    obtain ⟨v, hv⟩ := hk
    change (s.toAck.filter fun k _ => k.contact ≠ c)[k]? = some v at hv
    rw [Std.ExtTreeMap.getElem?_filter', Option.filter_eq_some_iff] at hv
    exact h.toAckSize k (Table.mem_of_getElem? hv.1)

/-! ## Transports -/

lemma setLocalTransports (h : s.Mirrors t) (transports : Properties) (now : Int64) :
    { s with transports := encodeProperties transports, transportsAt := now }.Mirrors
      { t with transports, transportsAt := now } := by
  exact {
    h with
    consistent := h.consistent.change (x := .setLocalTransports transports now) trivial
    transports := rfl
    transportsAt := rfl }

lemma setTransports (h : s.Mirrors t) (c : ContactId) (transports : Properties)
    (timestamp : Int64) :
    (s.setTransports c transports timestamp).1 = (t.setTransports c transports timestamp).1 ∧
      (s.setTransports c transports timestamp).2.Mirrors
        (t.setTransports c transports timestamp).2 := by
  have hconsistent := h.consistent.setTransports c transports timestamp
  have hrow := h.contact c
  unfold Relational.setTransports Memory.setTransports at *
  cases hr : t.contacts[c]? with
  | none =>
    rw [hr] at hrow
    rw [hrow]
    exact ⟨rfl, h⟩
  | some r =>
    rw [hr] at hrow hconsistent
    rw [hrow]
    dsimp only [Option.map_some, ContactRecord.toRow] at hconsistent ⊢
    by_cases hat : timestamp ≤ r.transportsAt
    · rw [if_pos hat, if_pos hat]
      exact ⟨rfl, h⟩
    · rw [if_neg hat] at hconsistent ⊢
      rw [if_neg hat]
      refine ⟨rfl, ?_⟩
      exact {
        h with
        consistent := hconsistent
        contacts := by
          dsimp only
          rw [h.contacts, ← Table.map_insert]
          rfl
        contactGroups := by
          -- the entry that is written has the groups of the one it replaces
          intro c' g
          dsimp only
          rw [h.contactGroups, Table.getElem?_insert]
          by_cases hc : c = c'
          · subst hc
            simp [hr]
          · simp [hc] }

/-! ## Groups of this node -/

lemma addSubscription (h : s.Mirrors t) (g : Group) (now : Int64) :
    (s.addSubscription g now).1 = (t.addSubscription g now).1 ∧
      (s.addSubscription g now).2.Mirrors (t.addSubscription g now).2 := by
  have hconsistent := h.consistent.addSubscription g now
  unfold Relational.addSubscription Memory.addSubscription at *
  simp only [Std.ExtTreeMap.contains_iff_mem, h.mem_groups] at hconsistent ⊢
  by_cases hg : g.id ∈ t.subscriptions
  · simp only [hg, if_true]
    exact ⟨trivial, h⟩
  · simp only [hg, if_false] at hconsistent ⊢
    refine ⟨trivial, ?_⟩
    exact {
      h with
      consistent := hconsistent
      groups := by
        intro g'
        show (s.groups.insert g.id.bytes g.name)[g'.bytes]? = (t.subscriptions.insert _ _)[g']?
        rw [Table.getElem?_insert, Table.getElem?_insert, h.groups]
        simp only [← Id.ext_iff]
      groupSize := by
        intro raw hraw
        rcases Std.ExtTreeMap.mem_insert.mp hraw with heq | hraw
        · rw [← Std.LawfulEqOrd.eq_of_compare heq]
          exact g.id.length_bytes
        · exact h.groupSize raw hraw
      subscriptionsAt := rfl }

/-- Rows that a test picks, and the statuses that refer to them, go with the messages. -/
lemma removeMessages (h : s.Mirrors t) (doomed : MessageId → MessageRow → Bool) (t' : Memory)
    (hmessages : ∀ id : MessageId,
      t'.messages[id]? = (t.messages[id]?).filter fun m => !doomed id m.toRow)
    (hdeliveries : ∀ c id, t'.delivery c id =
      if (t.messages[id]?).any fun m => doomed id m.toRow then none else t.delivery c id) :
    (s.removeMessages doomed).messages = t'.messages.map (fun _ m => m.toRow) ∧
      (s.removeMessages doomed).statuses = t'.deliveries.map fun _ d => d.toRow := by
  have hkept (id : MessageId) : (s.messages.filter fun id row => !doomed id row)[id]? =
      (t'.messages[id]?).map Message.toRow := by
    rw [Std.ExtTreeMap.getElem?_filter', hmessages, h.message]
    cases t.messages[id]? with
    | none => rfl
    | some m => by_cases hm : doomed id m.toRow <;> simp [Option.filter, hm]
  constructor
  · refine Std.ExtTreeMap.ext_getElem? fun id => ?_
    rw [Std.ExtTreeMap.getElem?_map]
    exact hkept id
  · refine Std.ExtTreeMap.ext_getElem? fun k => ?_
    obtain ⟨c, id⟩ := k
    rw [Std.ExtTreeMap.getElem?_map]
    show (s.statuses.filter fun k _ => _)[(⟨c, id⟩ : ContactKey MessageId)]? =
      (t'.delivery c id).map Delivery.toRow
    rw [Std.ExtTreeMap.getElem?_filter', h.status, hdeliveries]
    cases hd : t.delivery c id with
    | none => simp
    | some d =>
      -- a message with a status is stored, so that the row of the status has one to refer to
      obtain ⟨m, hm, -⟩ := (h.consistent.visible c id).mp (by rw [hd]; rfl)
      have hmem : id ∈ s.messages.filter (fun id row => !doomed id row) ↔
          doomed id m.toRow = false := by
        rw [Table.mem_iff_exists, hkept, hmessages, hm]
        by_cases hdoomed : doomed id m.toRow <;> simp [Option.filter, hdoomed]
      by_cases hdoomed : doomed id m.toRow
      · simp [hm, hdoomed, Option.filter, hmem]
      · simp [hm, hdoomed, Option.filter, hmem]

lemma removeSubscription (h : s.Mirrors t) (g : GroupId) (now : Int64) :
    (s.removeSubscription g now).1 = (t.removeSubscription g now).1 ∧
      (s.removeSubscription g now).2.Mirrors (t.removeSubscription g now).2 := by
  have hconsistent := h.consistent.removeSubscription g now
  unfold Relational.removeSubscription
  simp only [Std.ExtTreeMap.contains_iff_mem, h.mem_groups]
  by_cases hg : g ∈ t.subscriptions
  · have hrows := h.removeMessages (fun _ row => row.group = g) (t.removeSubscription g now).2
      (fun id => by
        rw [Memory.messages_removeSubscription h.consistent.keyed hg]
        exact congrArg (Option.filter · _) (funext fun m => decide_not))
      (fun c id => by
        rw [Memory.delivery_removeSubscription h.consistent.keyed hg]
        rfl)
    have hresult : (t.removeSubscription g now).1 = true := by
      simp [Memory.removeSubscription, hg]
    obtain ⟨messages, deliveries, heq⟩ := Memory.exists_removeSubscription hg now
    rw [heq] at hrows hconsistent ⊢
    simp only [hg, if_true, hresult]
    refine ⟨trivial, ?_⟩
    exact {
      h with
      consistent := hconsistent
      groups := by
        intro g'
        show (s.groups.erase g.bytes)[g'.bytes]? = (t.subscriptions.erase g)[g']?
        rw [Table.getElem?_erase, Table.getElem?_erase, h.groups]
        simp only [← Id.ext_iff]
      groupSize := fun raw hraw => h.groupSize raw (Std.ExtTreeMap.mem_of_mem_erase hraw)
      subscriptionsAt := rfl
      messages := hrows.1
      statuses := hrows.2 }
  · rw [Memory.removeSubscription_of_not_mem hg]
    simp only [hg, if_false]
    exact ⟨trivial, h⟩

lemma removeMessage (h : s.Mirrors t) (id : MessageId) :
    (s.removeMessages fun a _ => a = id).Mirrors (t.removeMessage id) := by
  have hrows := h.removeMessages (fun a _ => a = id) (t.removeMessage id)
    (fun a => by
      rw [Memory.messages_removeMessage]
      by_cases ha : id = a
      · subst ha
        cases t.messages[id]? <;> simp [Option.filter]
      · have hne : a ≠ id := Ne.symm ha
        cases t.messages[a]? <;> simp [Option.filter, ha, hne])
    (fun c a => by
      rw [Memory.delivery_removeMessage]
      by_cases ha : id = a
      · subst ha
        cases hm : t.messages[id]? with
        | none => simp [h.consistent.delivery_eq_none ((Table.not_mem_iff _ _).mpr hm)]
        | some m => simp
      · have hne : a ≠ id := Ne.symm ha
        cases t.messages[a]? <;> simp [ha, hne])
  exact {
    h with
    consistent := h.consistent.removeMessage id
    messages := hrows.1
    statuses := hrows.2 }

/-! ## Messages and ratings -/

lemma rating (h : s.Mirrors t) (a : AuthorId) : s.rating a = .ok (t.ratingOf a) := by
  unfold Relational.rating Memory.ratingOf
  rw [h.ratings, Std.ExtTreeMap.getElem?_map, Std.ExtTreeMap.getD_eq_getD_getElem?]
  cases t.ratings[a]? with
  | none => rfl
  | some r => cases r <;> rfl

/-- The raw rating lets a message travel if the rating does. -/
lemma mayTravel (h : s.Mirrors t) (m : Message) : s.mayTravel m.author = t.sendable m := by
  unfold Relational.mayTravel Memory.sendable isSendable Memory.ratingOf
  cases m.author with
  | none => rfl
  | some a =>
    dsimp only [Option.map_some, Option.getD_some, Option.isNone_some, Bool.false_or]
    rw [h.ratings, Std.ExtTreeMap.getD_eq_getD_getElem?, Std.ExtTreeMap.getElem?_map,
      Std.ExtTreeMap.getD_eq_getD_getElem?]
    cases t.ratings[a]? with
    | none => rfl
    | some r => cases r <;> rfl

/-- The rows that storing a message adds. -/
lemma rows_addMessage (h : s.Mirrors t) {m : Message} (hm : m.id ∉ t.messages)
    (sender : Option ContactId) :
    s.addMessage m sender = (.ok true, { s with
      messages := s.messages.insert m.id m.toRow
      statuses := Table.insertAll s.statuses <|
        (s.contactGroups.keys.filter fun k => k.item = m.group).map fun k =>
          (⟨k.contact, m.id⟩, (t.startingDelivery m sender k.contact).toRow) }) := by
  have hrow : m.id ∉ s.messages := fun hrow => hm ((h.mem_messages _).mp hrow)
  unfold Relational.addMessage
  simp only [Std.ExtTreeMap.contains_iff_mem, hrow, if_false]
  cases hauthor : m.author with
  | none =>
    simp only [Memory.startingDelivery, Memory.sendable, Message.toRow, hauthor]
    rfl
  | some a =>
    have hrating : Relational.rating
        { s with messages := s.messages.insert m.id ⟨m.group, some a, m.timestamp, m.raw⟩ } a =
          .ok (t.ratingOf a) := h.rating a
    simp only [hrating, Memory.startingDelivery, Memory.sendable, Message.toRow, hauthor]
    rfl

lemma addMessage (h : s.Mirrors t) {m : Message} (hg : m.group ∈ t.subscriptions)
    (sender : Option ContactId) :
    (s.addMessage m sender).1 = .ok (t.addMessage m sender).1 ∧
      (s.addMessage m sender).2.Mirrors (t.addMessage m sender).2 := by
  by_cases hm : m.id ∈ t.messages
  · have hrow : m.id ∈ s.messages := (h.mem_messages _).mpr hm
    rw [Memory.addMessage_of_mem hm]
    simp only [Relational.addMessage, Std.ExtTreeMap.contains_iff_mem, hrow, if_true]
    exact ⟨trivial, h⟩
  · have hconsistent := h.consistent.addMessage hg hm sender
    have hdelivery := Memory.delivery_addMessage hm sender
    rw [h.rows_addMessage hm, Memory.addMessage_of_not_mem hm] at *
    refine ⟨rfl, ?_⟩
    exact {
      h with
      consistent := hconsistent
      messages := by
        show s.messages.insert m.id m.toRow = (t.messages.insert m.id m).map _
        rw [h.messages, ← Table.map_insert]
      statuses := by
        refine Std.ExtTreeMap.ext_getElem? fun k => ?_
        obtain ⟨c, id⟩ := k
        rw [Std.ExtTreeMap.getElem?_map]
        refine Eq.trans ?_ (congrArg (Option.map Delivery.toRow) (hdelivery c id)).symm
        -- the rows that are added are those for the contacts that share the group
        let key (k : ContactKey GroupId) : ContactKey MessageId := ⟨k.contact, m.id⟩
        refine (Table.getElem?_insertAll_map key
          (fun k => (t.startingDelivery m sender k.contact).toRow) _ _ _).trans ?_
        have hkeys : (⟨c, id⟩ : ContactKey MessageId) ∈
            (s.contactGroups.keys.filter fun k => k.item = m.group).map key ↔
              id = m.id ∧ t.Advertises c m.group := by
          rw [← h.mem_contactGroups, List.mem_map]
          constructor
          · rintro ⟨k, hk, hkey⟩
            obtain ⟨hmem, hitem⟩ := List.mem_filter.mp hk
            simp only [key, ContactKey.mk.injEq] at hkey
            rw [← hkey.1, ← of_decide_eq_true hitem]
            exact ⟨hkey.2.symm, Std.ExtTreeMap.mem_keys.mp hmem⟩
          · rintro ⟨rfl, hmem⟩
            exact ⟨⟨c, m.group⟩, List.mem_filter.mpr
              ⟨Std.ExtTreeMap.mem_keys.mpr hmem, decide_eq_true rfl⟩, rfl⟩
        by_cases hadds : id = m.id ∧ t.Advertises c m.group
        · rw [if_pos (hkeys.mpr hadds), if_pos hadds]
          rfl
        · rw [if_neg (fun hmem => hadds (hkeys.mp hmem)), if_neg hadds]
          exact h.status c id }

lemma setRating (h : s.Mirrors t) (a : AuthorId) (rating : Rating) :
    (s.setRating a rating).1 = .ok (t.setRating a rating).1 ∧
      (s.setRating a rating).2.Mirrors (t.setRating a rating).2 := by
  unfold Relational.setRating
  simp only [h.rating a]
  refine ⟨rfl, ?_⟩
  exact {
    h with
    consistent := ⟨h.consistent.keyed, h.consistent.visible, h.consistent.subscribed,
      h.consistent.numbered, h.consistent.owned⟩
    ratings := by
      show s.ratings.insert a _ = (t.ratings.insert a rating).map _
      rw [h.ratings, ← Table.map_insert] }

lemma setSendability (h : s.Mirrors t) (a : AuthorId) (sendable : Bool) :
    (s.setSendability a sendable).1 = (t.setSendability a sendable).1 ∧
      (s.setSendability a sendable).2.Mirrors (t.setSendability a sendable).2 := by
  have hby (id : MessageId) :
      ((s.messages[id]?).any fun row => row.author = some a) = t.isBy a id := by
    rw [h.message]
    unfold Memory.isBy
    cases t.messages[id]? <;> rfl
  unfold Relational.setSendability Memory.setSendability
  constructor
  -- the count is of the rows that change
  · dsimp only
    rw [h.statuses, Std.ExtTreeMap.toList_map, List.countP_map]
    refine congrArg (List.countP · _) (funext fun e => ?_)
    simp only [Function.comp_apply, hby, Bool.and_comm]
    rfl
  · refine {
      h with
      consistent := ?_
      statuses := ?_ }
    · refine h.consistent.congr rfl rfl rfl (fun _ => Iff.rfl) (fun _ _ => Iff.rfl)
        (fun c id => ?_) h.consistent.owned
      apply (congrArg Option.isSome (Memory.delivery_setSendability t a sendable c id)).trans
      exact Option.isSome_map
    -- one store writes all rows of the author, the other only those that differ
    · dsimp only
      rw [h.statuses, Std.ExtTreeMap.map_map, Std.ExtTreeMap.map_map]
      refine congrArg (Std.ExtTreeMap.map · _) (funext fun k => funext fun d => ?_)
      simp only [hby]
      by_cases hd : t.isBy a k.item && d.sendable ≠ sendable
      · simp only [Bool.and_eq_true, decide_eq_true_eq] at hd
        simp [hd, Delivery.toRow]
      · simp only [Bool.and_eq_true, decide_eq_true_eq, not_and, Decidable.not_not] at hd
        by_cases hby' : t.isBy a k.item <;> simp [hby', hd, Delivery.toRow]

/-! ## Groups of a contact -/

/-- The rows of new groups of a contact are the table of these groups. -/
lemma getElem?_insertAll_groups (c c' : ContactId) (groups : List Group)
    (rows : Table (ContactKey GroupId) String) (names : Table GroupId String)
    (hnames : ∀ g : GroupId, rows[(⟨c, g⟩ : ContactKey GroupId)]? = names[g]?) (g : GroupId) :
    (Table.insertAll rows (groups.map fun g : Group => (⟨c, g.id⟩, g.name)))[
        (⟨c', g⟩ : ContactKey GroupId)]? =
      if c = c' then (Table.insertAll names (groups.map fun g => (g.id, g.name)))[g]?
      else rows[(⟨c', g⟩ : ContactKey GroupId)]? := by
  induction groups generalizing rows names with
  | nil =>
    show rows[(⟨c', g⟩ : ContactKey GroupId)]? = if c = c' then names[g]? else _
    by_cases hc : c = c'
    · rw [if_pos hc, ← hc, hnames]
    · rw [if_neg hc]
  | cons first rest ih =>
    have hstep := ih (rows.insert ⟨c, first.id⟩ first.name) (names.insert first.id first.name)
      (fun g => by
        rw [Table.getElem?_insert, Table.getElem?_insert, hnames]
        simp only [ContactKey.mk.injEq, true_and])
    apply hstep.trans
    by_cases hc : c = c'
    · rw [if_pos hc, if_pos hc]
      rfl
    · rw [if_neg hc, if_neg hc, Table.getElem?_insert]
      simp [hc]

/-- The rows of groups once a contact shares other groups. -/
lemma contactGroups_insertAll (h : s.Mirrors t) (c c' : ContactId) (groups : List Group)
    (g : GroupId) :
    (Table.insertAll (s.contactGroups.filter fun k _ => k.contact ≠ c)
        (groups.map fun g : Group => (⟨c, g.id⟩, g.name)))[(⟨c', g⟩ : ContactKey GroupId)]? =
      if c = c' then (Group.toTable groups)[g]? else
        (t.contacts[c']?).bind fun r => r.groups[g]? := by
  have hnone (g : GroupId) : (s.contactGroups.filter fun k _ => k.contact ≠ c)[
      (⟨c, g⟩ : ContactKey GroupId)]? = (∅ : Table GroupId String)[g]? := by
    rw [Table.getElem?_others, if_pos rfl, Std.ExtTreeMap.getElem?_empty]
  rw [getElem?_insertAll_groups c c' groups _ ∅ hnone]
  by_cases hc : c = c'
  · rw [if_pos hc, if_pos hc]
    rfl
  · rw [if_neg hc, if_neg hc, Table.getElem?_others, if_neg (Ne.symm hc), h.contactGroups]

/-- Sharing groups with a contact once its rows of groups are those of `groups`. -/
lemma share (h : s.Mirrors t) {c : ContactId} {groups : Table GroupId String}
    (contacts : Table ContactId ContactRow) {rows : Table (ContactKey GroupId) String}
    (hgroups : ∀ g : GroupId, (⟨c, g⟩ : ContactKey GroupId) ∈ rows ↔ g ∈ groups) :
    ({ s with contacts, contactGroups := rows }.share c).statuses =
      (t.share c groups).deliveries.map fun _ d => d.toRow := by
  have hcontains (g : GroupId) : rows.contains ⟨c, g⟩ = groups.contains g := by
    rw [Bool.eq_iff_iff, Std.ExtTreeMap.contains_iff_mem, Std.ExtTreeMap.contains_iff_mem]
    exact hgroups g
  -- the statuses that stay are those of the deliveries that do
  have hkept : (s.statuses.filter fun k _ =>
      !(k.contact = c && (s.messages[k.item]?).any fun row =>
        !rows.contains ⟨c, row.group⟩)) =
      (t.kept c groups).map fun _ d => d.toRow := by
    refine Std.ExtTreeMap.ext_getElem? fun k => ?_
    obtain ⟨c', id⟩ := k
    rw [Std.ExtTreeMap.getElem?_filter', Std.ExtTreeMap.getElem?_map, Memory.getElem?_kept,
      h.status, h.message]
    cases hd : t.delivery c' id with
    | none => simp
    | some d =>
      obtain ⟨m, hm, -⟩ := (h.consistent.visible c' id).mp (by rw [hd]; rfl)
      by_cases hc : c' = c
      · subst hc
        by_cases hg : groups.contains m.group
        · simp [hm, hcontains, hg, Message.toRow, Option.filter]
        · simp [hm, hcontains, hg, Message.toRow, Option.filter]
      · simp [hc, Option.filter]
  -- and those that are added are for the messages that were missing
  have hmissing : (s.messages.toList.filter fun e =>
      rows.contains ⟨c, e.2.group⟩ &&
        !((t.kept c groups).map fun _ d => Delivery.toRow d).contains ⟨c, e.1⟩).map
          (fun e => ((⟨c, e.1⟩ : ContactKey MessageId),
            (⟨Status.new.toNat, s.mayTravel e.2.author⟩ : StatusRow))) =
      ((t.missing c groups).map fun m =>
        ((⟨c, m.id⟩ : ContactKey MessageId), (⟨.new, t.sendable m⟩ : Delivery))).map
          fun e => (e.1, e.2.toRow) := by
    unfold Memory.missing
    rw [h.messages, Std.ExtTreeMap.toList_map, Table.values_eq, List.filter_map, List.filter_map,
      List.map_map, List.map_map, List.map_map]
    have hid : ∀ e ∈ t.messages.toList, e.2.id = e.1 := fun e he =>
      h.consistent.keyed ((Table.mem_toList_iff _ _).mp he)
    have hfilter : t.messages.toList.filter ((fun e =>
        rows.contains ⟨c, e.2.group⟩ &&
          !((t.kept c groups).map fun _ d => Delivery.toRow d).contains ⟨c, e.1⟩) ∘
          fun e => (e.1, e.2.toRow)) =
        t.messages.toList.filter ((fun m => groups.contains m.group &&
          !(t.kept c groups).contains ⟨c, m.id⟩) ∘ Prod.snd) := by
      refine List.filter_congr fun e he => ?_
      simp only [Function.comp_apply, hcontains, Std.ExtTreeMap.contains_map, hid e he]
      rfl
    rw [hfilter]
    refine List.map_congr_left fun e he => ?_
    have he' := (List.mem_filter.mp he).1
    simp only [Function.comp_apply, hid e he']
    rw [← h.mayTravel e.2]
    rfl
  unfold Relational.share
  dsimp only
  rw [hkept]
  apply (congrArg (Table.insertAll _) hmissing).trans
  rw [Table.insertAll_map fun _ d => Delivery.toRow d]
  rfl

lemma setSubscriptions (h : s.Mirrors t) (c : ContactId) (groups : List Group)
    (timestamp : Int64) :
    (s.setSubscriptions c groups timestamp).1 = (t.setSubscriptions c groups timestamp).1 ∧
      (s.setSubscriptions c groups timestamp).2.Mirrors
        (t.setSubscriptions c groups timestamp).2 := by
  have hconsistent := h.consistent.setSubscriptions c groups timestamp
  have hrow := h.contact c
  unfold Relational.setSubscriptions Memory.setSubscriptions at *
  cases hr : t.contacts[c]? with
  | none =>
    rw [hr] at hrow
    rw [hrow]
    exact ⟨rfl, h⟩
  | some r =>
    rw [hr] at hrow hconsistent
    rw [hrow]
    dsimp only [Option.map_some, ContactRecord.toRow] at hconsistent ⊢
    by_cases hat : timestamp ≤ r.groupsAt
    · rw [if_pos hat, if_pos hat]
      exact ⟨rfl, h⟩
    · rw [if_neg hat] at hconsistent ⊢
      rw [if_neg hat]
      refine ⟨rfl, ?_⟩
      let rows := Table.insertAll (s.contactGroups.filter fun k _ => k.contact ≠ c)
        (groups.map fun g : Group => ((⟨c, g.id⟩ : ContactKey GroupId), g.name))
      have hshared (g : GroupId) :
          (⟨c, g⟩ : ContactKey GroupId) ∈ rows ↔ g ∈ Group.toTable groups := by
        rw [Table.mem_iff_exists, Table.mem_iff_exists, h.contactGroups_insertAll, if_pos rfl]
      exact {
        h with
        consistent := hconsistent
        contacts := by
          show s.contacts.insert c _ = (t.contacts.insert c _).map _
          rw [h.contacts, ← Table.map_insert]
          rfl
        contactGroups := by
          intro c' g
          show rows[(⟨c', g⟩ : ContactKey GroupId)]? = ((t.contacts.insert c _)[c']?).bind _
          rw [h.contactGroups_insertAll, Table.getElem?_insert]
          by_cases hc : c = c'
          · rw [if_pos hc, if_pos hc]
            rfl
          · rw [if_neg hc, if_neg hc]
        statuses := h.share _ hshared }

/-! ## Statuses of batches -/

/-- What putting a status into a row is for the delivery of the row. -/
def markDelivery (test : Int → Bool) (status : Status) (d : Delivery) : Delivery :=
  if test d.status.toNat then { d with status } else d

lemma mark_map (deliveries : Table (ContactKey MessageId) Delivery) (c : ContactId)
    (m : MessageId) (test : Int → Bool) (status : Status) :
    mark (deliveries.map fun _ d => d.toRow) c m test status =
      ((deliveries[(⟨c, m⟩ : ContactKey MessageId)]?).any fun d => test d.status.toNat,
        (deliveries.modify ⟨c, m⟩ (markDelivery test status)).map fun _ d => d.toRow) := by
  unfold mark
  rw [Std.ExtTreeMap.getElem?_map]
  cases hd : deliveries[(⟨c, m⟩ : ContactKey MessageId)]? with
  | none =>
    rw [Table.modify_eq_self fun d hd' => by rw [hd] at hd'; cases hd']
    rfl
  | some d =>
    by_cases htest : test d.status.toNat
    · have hmark : markDelivery test status d = { d with status } := by
        simp [markDelivery, htest]
      rw [← Table.insert_eq_modify hd, ← Table.map_insert, hmark]
      simp [Delivery.toRow, htest]
    · rw [Table.modify_eq_self fun d' hd' => by
        rw [hd, Option.some.injEq] at hd'
        simp [markDelivery, ← hd', htest]]
      simp [Delivery.toRow, htest]

lemma markAll_map_snd (c : ContactId) (test : Int → Bool) (status : Status)
    (ids : List MessageId) (deliveries : Table (ContactKey MessageId) Delivery) :
    (markAll c test status ids (deliveries.map fun _ d => d.toRow)).2 =
      (ids.foldl (fun t m => t.modify ⟨c, m⟩ (markDelivery test status)) deliveries).map
        fun _ d => d.toRow := by
  induction ids generalizing deliveries with
  | nil => rfl
  | cons m rest ih =>
    rw [markAll, mark_map, List.foldl_cons, ← ih]

lemma markDelivery_seen : markDelivery (fun _ => true) .seen = Delivery.asSeen := rfl

lemma markDelivery_sent :
    markDelivery (· = (Status.new.toNat : Int)) .sent = Delivery.asSent := by
  funext d
  rcases d with ⟨_ | _ | _, sendable⟩ <;> rfl

lemma markDelivery_lost :
    markDelivery (· = (Status.sent.toNat : Int)) .new = Delivery.asLost := by
  funext d
  rcases d with ⟨_ | _ | _, sendable⟩ <;> rfl

/-- The messages of an acknowledged batch that are visible. -/
lemma markAll_map_seen (c : ContactId) (ids : List MessageId)
    (deliveries : Table (ContactKey MessageId) Delivery) :
    (markAll c (fun _ => true) .seen ids (deliveries.map fun _ d => d.toRow)).1 =
      ids.filter fun m => deliveries.contains ⟨c, m⟩ := by
  induction ids generalizing deliveries with
  | nil => rfl
  | cons m rest ih =>
    rw [markAll, mark_map]
    dsimp only
    rw [ih, List.filter_cons]
    -- marking a row keeps the rows there are, which decides for the rest
    have hput : ((deliveries[(⟨c, m⟩ : ContactKey MessageId)]?).any fun _ => true) =
        deliveries.contains ⟨c, m⟩ := by
      rw [Std.ExtTreeMap.contains_eq_isSome_getElem?]
      cases deliveries[(⟨c, m⟩ : ContactKey MessageId)]? <;> rfl
    simp only [hput, Std.ExtTreeMap.contains_modify]

/-- The messages of a lost batch that are new again. -/
lemma markAll_map_lost (c : ContactId) (ids : List MessageId)
    (deliveries : Table (ContactKey MessageId) Delivery) :
    (markAll c (· = (Status.sent.toNat : Int)) .new ids (deliveries.map fun _ d => d.toRow)).1 =
      (Memory.returnSent c ids deliveries).1 := by
  induction ids generalizing deliveries with
  | nil => rfl
  | cons m rest ih =>
    rw [markAll, mark_map, markDelivery_lost, Memory.returnSent_cons]
    dsimp only
    rw [ih]
    cases deliveries[(⟨c, m⟩ : ContactKey MessageId)]? with
    | none => rfl
    | some d => rcases d with ⟨_ | _ | _, sendable⟩ <;> rfl

/-! ## Batches -/

lemma setSeenIfVisible (h : s.Mirrors t) (c : ContactId) (id : MessageId) :
    (s.setSeenIfVisible c id).1 = (t.setSeenIfVisible c id).1 ∧
      (s.setSeenIfVisible c id).2.Mirrors (t.setSeenIfVisible c id).2 := by
  unfold Relational.setSeenIfVisible
  rw [h.statuses, mark_map, markDelivery_seen]
  constructor
  · show _ = t.deliveries.contains ⟨c, id⟩
    rw [Std.ExtTreeMap.contains_eq_isSome_getElem?]
    cases t.deliveries[(⟨c, id⟩ : ContactKey MessageId)]? <;> rfl
  · exact {
      h with
      consistent := h.consistent.setSeenIfVisible c id
      statuses := rfl }

lemma addOutstandingBatch (h : s.Mirrors t) {c : ContactId} (hc : c ∈ t.contacts) (b : BatchId)
    (messages : List MessageId) (sentAt : Int64) :
    (s.addOutstandingBatch c b messages sentAt).1 = .ok () ∧
      (s.addOutstandingBatch c b messages sentAt).2.Mirrors
        (t.addOutstandingBatch c b messages sentAt) := by
  have hrow : c ∈ s.contacts := (h.mem_contacts c).mpr hc
  unfold Relational.addOutstandingBatch
  simp only [Std.ExtTreeMap.contains_iff_mem, hrow, if_true]
  refine ⟨trivial, ?_⟩
  exact {
    h with
    consistent := h.consistent.addOutstandingBatch hc b messages sentAt
    statuses := by
      show (markAll c _ _ messages s.statuses).2 = _
      rw [h.statuses, markAll_map_snd, markDelivery_sent]
      rfl
    outstanding := by
      -- the row of a batch in the same place is deleted first, which makes no difference
      show (s.outstanding.erase _).insert _ _ =
        (t.outstanding.insert ⟨c, b⟩ ⟨messages, sentAt⟩).map _
      rw [h.outstanding, Table.insert_erase, ← Table.map_insert]
    batched := by
      intro c' b' i
      show (Table.insertAll (s.deleteBatch c b).batched _)[
        (⟨c', ⟨b', i⟩⟩ : ContactKey PlaceKey)]? = _
      rw [batched_insertAll, h.batched, Memory.sentBatch_addOutstandingBatch]
      split <;> rfl }

/-- Deleting the row of a batch deletes the batch. -/
lemma deleteBatch (h : s.Mirrors t) {t' : Memory} (c : ContactId) (b : BatchId)
    (hconsistent : t'.Consistent) (houtstanding : t'.outstanding = t.outstanding.erase ⟨c, b⟩)
    (hrest : ∃ deliveries outstanding,
      t' = { t with deliveries := deliveries, outstanding := outstanding })
    {statuses : Table (ContactKey MessageId) StatusRow}
    (hstatuses : statuses = t'.deliveries.map fun _ d => d.toRow) :
    { s.deleteBatch c b with statuses }.Mirrors t' := by
  obtain ⟨_, _, rfl⟩ := hrest
  exact {
    h with
    consistent := hconsistent
    statuses := hstatuses
    outstanding := by
      show s.outstanding.erase _ = _
      rw [houtstanding, h.outstanding, Table.map_erase]
    batched := by
      intro c' b' i
      show (s.deleteBatch c b).batched[(⟨c', ⟨b', i⟩⟩ : ContactKey PlaceKey)]? = _
      rw [batched_deleteBatch, h.batched, Memory.sentBatch_of_erase houtstanding]
      split <;> rfl }

lemma removeAckedBatch (h : s.Mirrors t) (c : ContactId) (b : BatchId) :
    (s.removeAckedBatch c b).1 = (t.removeAckedBatch c b).1 ∧
      (s.removeAckedBatch c b).2.Mirrors (t.removeAckedBatch c b).2 := by
  have hconsistent := h.consistent.removeAckedBatch c b
  have hrest := t.exists_removeAckedBatch c b
  have hrow := h.batch c b
  unfold Relational.removeAckedBatch
  rw [Std.ExtTreeMap.contains_eq_isSome_getElem?]
  cases hr : t.sentBatch c b with
  | none =>
    rw [hr] at hrow
    rw [hrow, Memory.removeAckedBatch_of_none hr]
    exact ⟨rfl, h⟩
  | some r =>
    rw [hr] at hrow
    have hthere : ((some r).map SentRecord.sentAt).isSome = true := rfl
    rw [hrow, if_pos hthere, h.batchMessages hr]
    rw [Memory.removeAckedBatch_of_some hr] at hconsistent hrest ⊢
    refine ⟨?_, h.deleteBatch c b hconsistent rfl hrest ?_⟩
    · rw [h.statuses, markAll_map_seen]
    · rw [h.statuses, markAll_map_snd, markDelivery_seen]

lemma removeLostBatch (h : s.Mirrors t) (c : ContactId) (b : BatchId) (cutoff : Int64) :
    (s.removeLostBatch c b cutoff).1 = (t.removeLostBatch c b cutoff).1 ∧
      (s.removeLostBatch c b cutoff).2.Mirrors (t.removeLostBatch c b cutoff).2 := by
  have hconsistent := h.consistent.removeLostBatch c b cutoff
  have hrest := t.exists_removeLostBatch c b cutoff
  have hrow := h.batch c b
  unfold Relational.removeLostBatch
  cases hr : t.sentBatch c b with
  | none =>
    rw [hr] at hrow
    rw [hrow, Memory.removeLostBatch_of_none hr]
    exact ⟨rfl, h⟩
  | some r =>
    rw [hr] at hrow
    rw [hrow]
    dsimp only [Option.map_some]
    by_cases hat : r.sentAt ≤ cutoff
    · rw [Memory.removeLostBatch_of_le hr hat] at hconsistent hrest ⊢
      rw [if_pos hat, h.batchMessages hr]
      refine ⟨?_, h.deleteBatch c b hconsistent rfl hrest ?_⟩
      · rw [h.statuses, markAll_map_lost]
      · rw [h.statuses, markAll_map_snd, markDelivery_lost]
    · rw [Memory.removeLostBatch_of_later hr hat, if_neg hat]
      exact ⟨rfl, h⟩

lemma addBatchToAck (h : s.Mirrors t) {c : ContactId} (hc : c ∈ t.contacts) (b : BatchId) :
    (s.addBatchToAck c b).1 = .ok () ∧
      (s.addBatchToAck c b).2.Mirrors { t with toAck := t.toAck.insert ⟨c, b⟩ () } := by
  have hrow : c ∈ s.contacts := (h.mem_contacts c).mpr hc
  unfold Relational.addBatchToAck
  simp only [Std.ExtTreeMap.contains_iff_mem, hrow, if_true]
  refine ⟨trivial, ?_⟩
  exact {
    h with
    consistent := h.consistent.change (x := .owe c b) hc
    toAck := by
      intro c' b'
      show _ ∈ s.toAck.insert _ _ ↔ _ ∈ t.toAck.insert _ _
      rw [Std.ExtTreeMap.mem_insert, Std.ExtTreeMap.mem_insert, h.toAck,
        Std.LawfulEqOrd.compare_eq_iff_eq, Std.LawfulEqOrd.compare_eq_iff_eq]
      simp [← Id.ext_iff]
    toAckSize := by
      intro k hk
      rcases Std.ExtTreeMap.mem_insert.mp hk with heq | hk
      · rw [← Std.LawfulEqOrd.eq_of_compare heq]
        exact b.length_bytes
      · exact h.toAckSize k hk }

lemma removeBatchesToAck (h : s.Mirrors t) (c : ContactId) (ids : List BatchId) :
    (s.removeBatchesToAck c ids).Mirrors (t.removeBatchesToAck c ids) := by
  exact {
    h with
    consistent := h.consistent.change (x := .settle c ids) trivial
    toAck := by
      -- an id is told from others by its bytes, so that the same rows go
      intro c' b'
      have hacks := h.toAck c' b'
      show _ ∈ ids.foldl _ s.toAck ↔ _ ∈ ids.foldl _ t.toAck
      rw [Table.mem_iff_exists, Table.mem_iff_exists] at hacks ⊢
      rw [Table.getElem?_foldl_erase (fun id : BatchId => (⟨c, id.bytes⟩ : ContactKey Bytes)),
        Table.getElem?_foldl_erase (ContactKey.mk c)]
      have hkeys : (⟨c', b'.bytes⟩ : ContactKey Bytes) ∈
          ids.map (fun id : BatchId => (⟨c, id.bytes⟩ : ContactKey Bytes)) ↔
            (⟨c', b'⟩ : ContactKey BatchId) ∈ ids.map (ContactKey.mk c) := by
        simp [← Id.ext_iff]
      by_cases hmem : (⟨c', b'⟩ : ContactKey BatchId) ∈ ids.map (ContactKey.mk c)
      · rw [if_pos hmem, if_pos (hkeys.mpr hmem)]
      · rw [if_neg hmem, if_neg (fun h' => hmem (hkeys.mp h'))]
        exact hacks
    toAckSize := by
      intro k hk
      rw [Table.mem_iff_exists] at hk
      obtain ⟨v, hv⟩ := hk
      change (ids.foldl _ s.toAck)[k]? = some v at hv
      rw [Table.getElem?_foldl_erase (fun id : BatchId => (⟨c, id.bytes⟩ : ContactKey Bytes))] at hv
      split at hv
      · cases hv
      · exact h.toAckSize k (Table.mem_of_getElem? hv) }

/-! ## Secrets -/

lemma setSecrets (h : s.Mirrors t) (rows : Table RawSecretKey SecretRow)
    (secrets : Table SecretKey Secret) :
    { s with secrets := rows }.Mirrors { t with secrets } := by
  exact {
    h with
    consistent := ⟨h.consistent.keyed, h.consistent.visible, h.consistent.subscribed,
      h.consistent.numbered, h.consistent.owned⟩ }

end Mirrors

end Relational

end MessageSync
