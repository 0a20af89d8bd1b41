import MessageSync.Proofs.Engine.Frame
import MessageSync.Proofs.Store.SameFor

/-!
# Stores that agree on a contact

Stores of either kind agree on a contact if the rows about it are the same, and so are the
groups and the transport properties of this node, and the messages of the groups of the contact.

Stores in memory that agree on a contact are the same for it, and so are those that relational
stores mirror (`Relational.AgreeOn.sameFor`). What changes only the deliveries, the batches and
the acks of the contact, and these in the same way, keeps stores of either kind in agreement.
-/

namespace MessageSync

/-- Two stores in memory hold the same about a contact, the same groups and transport properties
of this node, and the same messages in groups of the contact. -/
structure Memory.AgreeOn (c : ContactId) (s t : Memory) : Prop where
  record : s.contacts[c]? = t.contacts[c]?
  rows : ∀ id : MessageId, s.delivery c id = t.delivery c id
  batches : ∀ b : BatchId, s.sentBatch c b = t.sentBatch c b
  acks : ∀ b : BatchId,
    (⟨c, b⟩ : ContactKey BatchId) ∈ s.toAck ↔ (⟨c, b⟩ : ContactKey BatchId) ∈ t.toAck
  secrets : ∀ key : SecretKey, key.contact = c → s.secrets[key]? = t.secrets[key]?
  messages : ∀ (id : MessageId) (m : Message), s.Advertises c m.group →
    (s.messages[id]? = some m ↔ t.messages[id]? = some m)
  subscriptions : s.subscriptions = t.subscriptions
  subscriptionsAt : s.subscriptionsAt = t.subscriptionsAt
  transports : s.transports = t.transports
  transportsAt : s.transportsAt = t.transportsAt

/-- Two relational stores hold the same rows about a contact, the same groups and transport
properties of this node, and the same messages in groups of the contact. -/
structure Relational.AgreeOn (c : ContactId) (s t : Relational) : Prop where
  record : s.contacts[c]? = t.contacts[c]?
  groups : ∀ g : GroupId, s.contactGroups[(⟨c, g⟩ : ContactKey GroupId)]? =
    t.contactGroups[(⟨c, g⟩ : ContactKey GroupId)]?
  rows : ∀ id : MessageId, s.statuses[(⟨c, id⟩ : ContactKey MessageId)]? =
    t.statuses[(⟨c, id⟩ : ContactKey MessageId)]?
  batches : ∀ b : BatchId, s.outstanding[(⟨c, b⟩ : ContactKey BatchId)]? =
    t.outstanding[(⟨c, b⟩ : ContactKey BatchId)]?
  places : ∀ place : PlaceKey, s.batched[(⟨c, place⟩ : ContactKey PlaceKey)]? =
    t.batched[(⟨c, place⟩ : ContactKey PlaceKey)]?
  acks : ∀ raw : Bytes,
    (⟨c, raw⟩ : ContactKey Bytes) ∈ s.toAck ↔ (⟨c, raw⟩ : ContactKey Bytes) ∈ t.toAck
  secrets : ∀ key : RawSecretKey, key.contact = c → s.secrets[key]? = t.secrets[key]?
  messages : ∀ (id : MessageId) (row : MessageRow),
    (⟨c, row.group⟩ : ContactKey GroupId) ∈ s.contactGroups →
      (s.messages[id]? = some row ↔ t.messages[id]? = some row)
  subscriptions : s.groups = t.groups
  subscriptionsAt : s.subscriptionsAt = t.subscriptionsAt
  transports : s.transports = t.transports
  transportsAt : s.transportsAt = t.transportsAt

/-! ## In memory -/

namespace Memory.AgreeOn

variable {c : ContactId} {s t : Memory}

lemma sameFor (h : AgreeOn c s t) : SameFor c s t where
  contact := by rw [Table.mem_iff_exists, Table.mem_iff_exists, h.record]
  groups := by
    intro g
    unfold Advertises
    rw [h.record]
  deliveries := h.rows
  batches := h.batches
  toAck := h.acks
  messages := h.messages
  subscriptions := h.subscriptions
  subscriptionsAt := h.subscriptionsAt

/-- Stores still agree on a contact after the same changes about it. -/
lemma changes (h : AgreeOn c s t) {log : List Change} (hlog : ∀ x ∈ log, x.Of c) :
    AgreeOn c (s.changes log) (t.changes log) := by
  have hsame := h.sameFor.changes hlog
  obtain ⟨_, _, _, hs⟩ := exists_changes_of hlog s
  obtain ⟨_, _, _, ht⟩ := exists_changes_of hlog t
  rw [hs, ht] at hsame ⊢
  exact { h with rows := hsame.deliveries, batches := hsame.batches, acks := hsame.toAck }

/-- Storing a message of a group that the contact does not share makes no difference to it. -/
lemma addMessage_hidden {m : Message} (hm : m.id ∉ s.messages) (hg : ¬ s.Advertises c m.group) :
    AgreeOn c (s.addMessage m none).2 s := by
  have hdelivery (id : MessageId) : (s.addMessage m none).2.delivery c id = s.delivery c id := by
    rw [delivery_addMessage hm, if_neg fun h => hg h.2]
  rw [addMessage_of_not_mem hm] at hdelivery ⊢
  have hmessages (id : MessageId) (m' : Message) (hm' : s.Advertises c m'.group) :
      (s.messages.insert m.id m)[id]? = some m' ↔ s.messages[id]? = some m' := by
    rw [Table.getElem?_insert]
    split
    · next hid =>
      subst hid
      rw [(Table.not_mem_iff _ _).mp hm]
      exact ⟨fun heq => absurd (Option.some.inj heq ▸ hm') hg, fun heq => by cases heq⟩
    · exact Iff.rfl
  exact ⟨rfl, hdelivery, fun _ => rfl, fun _ => Iff.rfl, fun _ _ => rfl, hmessages, rfl, rfl, rfl,
    rfl⟩

/-- Neither does its arrival, whatever becomes of it. -/
lemma accept_hidden {m : Message} (hg : ¬ s.Advertises c m.group) :
    AgreeOn c (s.accept m none) s := by
  unfold accept
  split
  · next h => exact addMessage_hidden h.2 hg
  · exact ⟨rfl, fun _ => rfl, fun _ => rfl, fun _ => Iff.rfl, fun _ _ => rfl,
      fun _ _ _ => Iff.rfl, rfl, rfl, rfl, rfl⟩

end Memory.AgreeOn

/-! ## In rows -/

lemma Delivery.eq_of_toRow {d d' : Delivery} (h : d.toRow = d'.toRow) : d = d' := by
  obtain ⟨status, sendable⟩ := d
  obtain ⟨status', sendable'⟩ := d'
  obtain ⟨hstatus, rfl⟩ := StatusRow.mk.inj h
  cases status <;> cases status' <;> first | rfl | cases hstatus

lemma Message.eq_of_toRow {m m' : Message} (hid : m.id = m'.id) (h : m.toRow = m'.toRow) :
    m = m' := by
  obtain ⟨hgroup, hauthor, htimestamp, hraw⟩ := MessageRow.mk.inj h
  exact Message.ext hid hgroup hauthor htimestamp hraw

namespace Relational

namespace Mirrors

variable {s : Relational} {t : Memory}

/-- A message is held by the store in memory if its row is. -/
lemma message_iff (h : s.Mirrors t) {id : MessageId} {m : Message} (hid : m.id = id) :
    t.messages[id]? = some m ↔ s.messages[id]? = some m.toRow := by
  rw [h.message, Option.map_eq_some_iff]
  constructor
  · intro hm
    exact ⟨m, hm, rfl⟩
  · rintro ⟨m', hm', hrow⟩
    rw [hm', Message.eq_of_toRow ((h.consistent.keyed hm').trans hid.symm) hrow]

/-- The tables that are the same in memory are the same in rows. -/
lemma exists_kept (h : s.Mirrors t) {s' : Relational} {t' : Memory} (h' : s'.Mirrors t')
    (hsame : ∃ deliveries outstanding toAck, t' =
      { t with deliveries := deliveries, outstanding := outstanding, toAck := toAck })
    (hspares : s.Spares s') :
    ∃ statuses outstanding batched toAck, s' = { s with
      statuses := statuses, outstanding := outstanding, batched := batched, toAck := toAck } := by
  obtain ⟨_, _, _, rfl⟩ := hsame
  refine ⟨s'.statuses, s'.outstanding, s'.batched, s'.toAck, ?_⟩
  have hgroups : s'.groups = s.groups := by
    refine Std.ExtTreeMap.ext_getElem? fun raw => ?_
    by_cases hraw : raw.length = 32
    · exact (h'.groups ⟨raw, hraw⟩).trans (h.groups ⟨raw, hraw⟩).symm
    · rw [(Table.not_mem_iff _ _).mp fun hmem => hraw (h'.groupSize raw hmem),
        (Table.not_mem_iff _ _).mp fun hmem => hraw (h.groupSize raw hmem)]
  exact Relational.ext hspares.versions (Nat.succ.inj (h'.next.symm.trans h.next))
    (h'.contacts.trans h.contacts.symm)
    (Std.ExtTreeMap.ext_getElem? fun k =>
      (h'.contactGroups k.contact k.item).trans (h.contactGroups k.contact k.item).symm)
    hgroups (h'.subscriptionsAt.trans h.subscriptionsAt.symm)
    (h'.transports.trans h.transports.symm) (h'.transportsAt.trans h.transportsAt.symm)
    (h'.messages.trans h.messages.symm) rfl (h'.ratings.trans h.ratings.symm) rfl rfl rfl
    hspares.secrets

end Mirrors

namespace AgreeOn

variable {c : ContactId} {s s' : Relational} {t t' : Memory}

/-- The batches of a contact are the same in memory if their rows are. -/
lemma sentBatch (h : AgreeOn c s s') (hs : s.Mirrors t) (hs' : s'.Mirrors t') (b : BatchId) :
    t.sentBatch c b = t'.sentBatch c b := by
  have hsentAt := h.batches b
  rw [hs.batch, hs'.batch] at hsentAt
  have hplaces (i : Nat) := h.places ⟨b, i⟩
  simp only [hs.batched, hs'.batched] at hplaces
  cases hr : t.sentBatch c b with
  | none =>
    rw [hr] at hsentAt
    exact (Option.map_eq_none_iff.mp hsentAt.symm).symm
  | some r =>
    rw [hr] at hsentAt hplaces
    obtain ⟨r', hr', hat⟩ := Option.map_eq_some_iff.mp hsentAt.symm
    rw [hr'] at hplaces ⊢
    exact congrArg some (SentRecord.ext (List.ext_getElem? hplaces) hat.symm)

/-- Stores in memory are the same for a contact if relational stores that mirror them agree
on it. -/
theorem sameFor (h : AgreeOn c s s') (hs : s.Mirrors t) (hs' : s'.Mirrors t') :
    Memory.SameFor c t t' where
  contact := by
    rw [← hs.mem_contacts, ← hs'.mem_contacts, Table.mem_iff_exists, Table.mem_iff_exists, h.record]
  groups := by
    intro g
    rw [← hs.mem_contactGroups, ← hs'.mem_contactGroups, Table.mem_iff_exists,
      Table.mem_iff_exists, h.groups]
  deliveries := by
    intro id
    have hrow := h.rows id
    rw [hs.status, hs'.status] at hrow
    exact Option.map_injective (fun _ _ => Delivery.eq_of_toRow) hrow
  batches := h.sentBatch hs hs'
  toAck := by
    intro b
    rw [← hs.toAck, ← hs'.toAck, h.acks]
  messages := by
    intro id m hadv
    have hrow := h.messages id m.toRow ((hs.mem_contactGroups c m.group).mpr hadv)
    constructor
    · intro hm
      have hid := hs.consistent.keyed hm
      exact (hs'.message_iff hid).mpr (hrow.mp ((hs.message_iff hid).mp hm))
    · intro hm
      have hid := hs'.consistent.keyed hm
      exact (hs.message_iff hid).mpr (hrow.mpr ((hs'.message_iff hid).mp hm))
  subscriptions := by
    refine Std.ExtTreeMap.ext_getElem? fun g => ?_
    rw [← hs.groups, ← hs'.groups, h.subscriptions]
  subscriptionsAt := by rw [← hs.subscriptionsAt, ← hs'.subscriptionsAt, h.subscriptionsAt]

/-- Relational stores still agree on a contact if nothing changed but deliveries, batches and
acks, and what they mirror is the same for the contact. -/
theorem of_sameFor (h : AgreeOn c s s') (hs : s.Mirrors t) (hs' : s'.Mirrors t')
    {u u' : Relational} {v v' : Memory} (hu : u.Mirrors v) (hu' : u'.Mirrors v')
    (hv : ∃ deliveries outstanding toAck, v =
      { t with deliveries := deliveries, outstanding := outstanding, toAck := toAck })
    (hv' : ∃ deliveries outstanding toAck, v' =
      { t' with deliveries := deliveries, outstanding := outstanding, toAck := toAck })
    (hspares : s.Spares u) (hspares' : s'.Spares u') (hsame : Memory.SameFor c v v') :
    AgreeOn c u u' := by
  have hrows (id : MessageId) := hsame.deliveries id
  have hbatches (b : BatchId) : u.outstanding[(⟨c, b⟩ : ContactKey BatchId)]? =
      u'.outstanding[(⟨c, b⟩ : ContactKey BatchId)]? := by
    rw [hu.batch, hu'.batch, hsame.batches]
  have hplaces (place : PlaceKey) : u.batched[(⟨c, place⟩ : ContactKey PlaceKey)]? =
      u'.batched[(⟨c, place⟩ : ContactKey PlaceKey)]? := by
    rw [hu.batched, hu'.batched, hsame.batches]
  have hstatuses (id : MessageId) : u.statuses[(⟨c, id⟩ : ContactKey MessageId)]? =
      u'.statuses[(⟨c, id⟩ : ContactKey MessageId)]? := by
    rw [hu.status, hu'.status, hsame.deliveries]
  -- what is to be acknowledged is an identifier, by its length
  have hacks (raw : Bytes) :
      (⟨c, raw⟩ : ContactKey Bytes) ∈ u.toAck ↔ (⟨c, raw⟩ : ContactKey Bytes) ∈ u'.toAck := by
    by_cases hraw : raw.length = 32
    · exact ((hu.toAck c ⟨raw, hraw⟩).trans (hsame.toAck ⟨raw, hraw⟩)).trans
        (hu'.toAck c ⟨raw, hraw⟩).symm
    · exact ⟨fun hmem => absurd (hu.toAckSize _ hmem) hraw,
        fun hmem => absurd (hu'.toAckSize _ hmem) hraw⟩
  obtain ⟨_, _, _, _, rfl⟩ := hs.exists_kept hu hv hspares
  obtain ⟨_, _, _, _, rfl⟩ := hs'.exists_kept hu' hv' hspares'
  exact { h with rows := hstatuses, batches := hbatches, places := hplaces, acks := hacks }

end AgreeOn

end Relational

end MessageSync
