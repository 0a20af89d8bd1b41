import MessageSync.Proofs.Engine.Backend

/-!
# Who may see a message

A contact may see a message if there is a row for the two. In every state that an engine
comes to, over either store, there is a row exactly for the stored messages of the groups
that a contact is subscribed to (`Backend.visible_run`).

This is said of the bare tables of a store. A store in memory keeps the groups of a contact
within its record, and a relational store in rows of their own.
-/

namespace MessageSync

/-! ## Tables -/

/-- The keys in the tables of a store that have to do with who may see what. -/
structure Tables where
  contacts : List ContactId
  /-- The contacts with the groups that they are subscribed to, as last taken over. -/
  advertised : List (ContactKey GroupId)
  /-- The identifiers of the groups that this node is subscribed to. -/
  subscribed : List Bytes
  /-- The messages, with their groups. -/
  messages : List (MessageId × GroupId)
  /-- The contacts and messages that there is a row for. -/
  rows : List (ContactKey MessageId)

/-- Rows are there for messages of the groups of contacts, one each, and messages only of
groups that this node is subscribed to. -/
structure Tables.Visible (t : Tables) : Prop where
  row_iff : ∀ (c : ContactId) (id : MessageId), ⟨c, id⟩ ∈ t.rows ↔
    c ∈ t.contacts ∧ ∃ g, (id, g) ∈ t.messages ∧ ⟨c, g⟩ ∈ t.advertised
  once : ∀ k, t.rows.count k ≤ 1
  subscribed : ∀ (id : MessageId) (g : GroupId), (id, g) ∈ t.messages → g.bytes ∈ t.subscribed

/-- The tables of a store in memory. -/
def Memory.tables (s : Memory) : Tables where
  contacts := s.contacts.keys
  advertised := s.contacts.toList.flatMap fun e => e.2.groups.keys.map fun g => ⟨e.1, g⟩
  subscribed := s.subscriptions.keys.map Id.bytes
  messages := s.messages.toList.map fun e => (e.1, e.2.group)
  rows := s.deliveries.keys

/-- The tables of a relational store. -/
def Relational.tables (s : Relational) : Tables where
  contacts := s.contacts.keys
  advertised := s.contactGroups.keys
  subscribed := s.groups.keys
  messages := s.messages.toList.map fun e => (e.1, e.2.group)
  rows := s.statuses.keys

/-- The tables of a store. -/
def Backend.tables : (backend : Backend) → backend.Data → Tables
  | .memory, s => Memory.tables s
  | .relational, s => Relational.tables s

/-! ## Reading them -/

namespace Memory

lemma mem_advertised_iff (s : Memory) (c : ContactId) (g : GroupId) :
    ⟨c, g⟩ ∈ s.tables.advertised ↔ s.Advertises c g := by
  simp only [tables, List.mem_flatMap, List.mem_map, Std.ExtTreeMap.mem_keys, Advertises]
  constructor
  · rintro ⟨⟨c', r⟩, hr, g', hg, heq⟩
    obtain ⟨rfl, rfl⟩ := ContactKey.mk.inj heq
    exact ⟨r, (Table.mem_toList_iff _ _).mp hr, hg⟩
  · rintro ⟨r, hr, hg⟩
    exact ⟨(c, r), (Table.mem_toList_iff _ _).mpr hr, g, hg, rfl⟩

lemma mem_tables_messages_iff (s : Memory) (id : MessageId) (g : GroupId) :
    (id, g) ∈ s.tables.messages ↔ ∃ m, s.messages[id]? = some m ∧ m.group = g := by
  simp only [tables, List.mem_map, Table.mem_toList_iff]
  constructor
  · rintro ⟨⟨id', m⟩, hm, heq⟩
    obtain ⟨rfl, rfl⟩ := Prod.mk.inj heq
    exact ⟨m, hm, rfl⟩
  · rintro ⟨m, hm, rfl⟩
    exact ⟨(id, m), hm, rfl⟩

lemma mem_rows_iff (s : Memory) (c : ContactId) (id : MessageId) :
    ⟨c, id⟩ ∈ s.tables.rows ↔ (s.delivery c id).isSome := by
  show _ ∈ s.deliveries.keys ↔ _
  rw [Std.ExtTreeMap.mem_keys, delivery, Std.ExtTreeMap.isSome_getElem?_iff_mem]

/-- The tables of a store show that they fit together. -/
lemma Consistent.tables {s : Memory} (hs : s.Consistent) : s.tables.Visible where
  row_iff := by
    intro c id
    rw [mem_rows_iff, hs.visible]
    simp only [mem_tables_messages_iff, mem_advertised_iff]
    constructor
    · rintro ⟨m, hm, hadv⟩
      refine ⟨?_, m.group, ⟨m, hm, rfl⟩, hadv⟩
      exact Std.ExtTreeMap.mem_keys.mpr (mem_contacts_of_advertises hadv)
    · rintro ⟨-, g, ⟨m, hm, rfl⟩, hadv⟩
      exact ⟨m, hm, hadv⟩
  once := List.nodup_iff_count.mp Std.ExtTreeMap.nodup_keys
  subscribed := by
    intro id g h
    obtain ⟨m, hm, rfl⟩ := (mem_tables_messages_iff s id g).mp h
    refine List.mem_map_of_mem (Std.ExtTreeMap.mem_keys.mpr ?_)
    exact hs.subscribed id m hm

end Memory

namespace Relational.Mirrors

variable {s : Relational} {t : Memory}

/-- Mirrored stores hold the same keys, but for the places where groups are kept. -/
lemma tables (h : s.Mirrors t) : s.tables.Visible := by
  have ht := h.consistent.tables
  have hcontacts : s.tables.contacts = t.tables.contacts := h.keys_contacts
  have hrows : s.tables.rows = t.tables.rows := by
    show s.statuses.keys = t.deliveries.keys
    rw [h.statuses, Std.ExtTreeMap.keys_map]
  have hmessages : s.tables.messages = t.tables.messages := by
    show s.messages.toList.map _ = t.messages.toList.map _
    rw [h.messages, Std.ExtTreeMap.toList_map, List.map_map]
    rfl
  have hadvertised (c : ContactId) (g : GroupId) :
      ⟨c, g⟩ ∈ s.tables.advertised ↔ ⟨c, g⟩ ∈ t.tables.advertised := by
    rw [Memory.mem_advertised_iff, ← h.mem_contactGroups]
    exact Std.ExtTreeMap.mem_keys
  have hsubscribed (g : GroupId) :
      g.bytes ∈ t.tables.subscribed → g.bytes ∈ s.tables.subscribed := by
    intro hg
    obtain ⟨g', hg', heq⟩ := List.mem_map.mp hg
    rw [← heq]
    apply Std.ExtTreeMap.mem_keys.mpr
    exact (h.mem_groups g').mpr (Std.ExtTreeMap.mem_keys.mp hg')
  exact {
    row_iff := by
      intro c id
      rw [hrows, hcontacts, hmessages]
      simp only [hadvertised]
      exact ht.row_iff c id
    once := by
      rw [hrows]
      exact ht.once
    subscribed := by
      intro id g hm
      rw [hmessages] at hm
      exact hsubscribed g (ht.subscribed id g hm) }

end Relational.Mirrors

/-! ## In every state -/

/-- In every state that an engine comes to from an empty store, there is a row for a
contact and a message, and only one, if and only if the contact exists, the message is
stored, and the contact is subscribed to its group; and this node is subscribed to the
groups of all messages that it stores. -/
theorem Backend.visible_run (backend : Backend) (config : SyncConfig) (now : Int64)
    (history : List Step) :
    (backend.tables ((backend.start config now).run history).store).Visible := by
  have htwin := (Twin.start backend config now).run history
  cases backend with
  | memory =>
    rw [htwin.1]
    exact htwin.2.tables
  | relational => exact (Engine.Mirrors.store htwin).tables

end MessageSync
