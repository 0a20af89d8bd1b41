import MessageSync.Proofs.Store.Mirror

/-!
# What a store holds of one contact

`Memory.held` and `Relational.held` are what a store holds of a contact, apart from the rows of
messages: the contact itself, its groups and transports, its outstanding batches, the batches
to acknowledge to it, and its secrets. `Memory.common` and `Relational.common` are what is left
of a store without any contact.

Two relational stores hold the same of a contact if the stores in memory that they mirror do,
and the secrets are the same (`Relational.Mirrors.held_eq`).
-/

namespace MessageSync

namespace Table

variable {κ ν : Type} [Ord κ] [Std.TransOrd κ] [Std.LawfulEqOrd κ]

lemma filter_keys_eq_iff {t t' : Table κ ν} {keep : κ → Bool} :
    (t.filter fun k _ => keep k) = (t'.filter fun k _ => keep k) ↔
      ∀ k, keep k → t[k]? = t'[k]? := by
  constructor
  · intro h k hk
    have hlookup := congrArg (·[k]?) h
    simpa only [getElem?_filter_keys, hk, if_true] using hlookup
  · intro h
    refine Std.ExtTreeMap.ext_getElem? fun k => ?_
    rw [getElem?_filter_keys, getElem?_filter_keys]
    split
    · next hk => exact h k hk
    · rfl

/-- The entry of a key, alone in its table. -/
lemma filter_key_eq_iff [DecidableEq κ] {t t' : Table κ ν} {k : κ} :
    (t.filter fun k' _ => k' = k) = (t'.filter fun k' _ => k' = k) ↔ t[k]? = t'[k]? := by
  rw [filter_keys_eq_iff]
  constructor
  · exact fun h => h k (decide_eq_true rfl)
  · intro h k' hk
    rw [of_decide_eq_true hk]
    exact h

/-- The entries of a contact, alone in their table. -/
lemma ofContact_eq_iff {ι : Type} [Ord ι] [Std.TransOrd ι] [Std.LawfulEqOrd ι]
    {t t' : Table (ContactKey ι) ν} {c : ContactId} :
    (t.filter fun k _ => k.contact = c) = (t'.filter fun k _ => k.contact = c) ↔
      ∀ i, t[(⟨c, i⟩ : ContactKey ι)]? = t'[(⟨c, i⟩ : ContactKey ι)]? := by
  rw [filter_keys_eq_iff]
  constructor
  · intro h i
    exact h ⟨c, i⟩ (decide_eq_true rfl)
  · rintro h ⟨c', i⟩ hk
    obtain rfl : c' = c := of_decide_eq_true hk
    exact h i

end Table

/-! ## In memory -/

namespace Memory

/-- What a store holds of a contact, apart from its deliveries. -/
def held (s : Memory) (c : ContactId) : Memory :=
  { empty with
    contacts := s.contacts.filter fun k _ => k = c
    outstanding := s.outstanding.filter fun k _ => k.contact = c
    toAck := s.toAck.filter fun k _ => k.contact = c
    secrets := s.secrets.filter fun k _ => k.contact = c }

/-- What a store holds, apart from all that is of some contact. -/
def common (s : Memory) : Memory :=
  { s with contacts := ∅, deliveries := ∅, outstanding := ∅, toAck := ∅, secrets := ∅ }

variable {s t : Memory} {c : ContactId}

lemma held_eq_iff : s.held c = t.held c ↔
    s.contacts[c]? = t.contacts[c]? ∧ (∀ b, s.sentBatch c b = t.sentBatch c b) ∧
      (∀ b, s.toAck[(⟨c, b⟩ : ContactKey BatchId)]? = t.toAck[(⟨c, b⟩ : ContactKey BatchId)]?) ∧
      ∀ i, s.secrets[(⟨c, i⟩ : SecretKey)]? = t.secrets[(⟨c, i⟩ : SecretKey)]? := by
  simp only [held, mk.injEq, true_and, Table.filter_key_eq_iff, Table.ofContact_eq_iff, sentBatch]

end Memory

/-! ## In rows -/

namespace Relational

/-- What a store holds of a contact, apart from its statuses. -/
def held (s : Relational) (c : ContactId) : Relational :=
  { empty with
    contacts := s.contacts.filter fun k _ => k = c
    contactGroups := s.contactGroups.filter fun k _ => k.contact = c
    outstanding := s.outstanding.filter fun k _ => k.contact = c
    batched := s.batched.filter fun k _ => k.contact = c
    toAck := s.toAck.filter fun k _ => k.contact = c
    secrets := s.secrets.filter fun k _ => k.contact = c }

/-- What a store holds, apart from all rows that are of some contact. -/
def common (s : Relational) : Relational :=
  { s with
    contacts := ∅
    contactGroups := ∅
    statuses := ∅
    outstanding := ∅
    batched := ∅
    toAck := ∅
    secrets := ∅ }

variable {s s' : Relational} {c : ContactId}

lemma held_eq_iff : s.held c = s'.held c ↔
    s.contacts[c]? = s'.contacts[c]? ∧
      (∀ g, s.contactGroups[(⟨c, g⟩ : ContactKey GroupId)]? =
        s'.contactGroups[(⟨c, g⟩ : ContactKey GroupId)]?) ∧
      (∀ b, s.outstanding[(⟨c, b⟩ : ContactKey BatchId)]? =
        s'.outstanding[(⟨c, b⟩ : ContactKey BatchId)]?) ∧
      (∀ k, s.batched[(⟨c, k⟩ : ContactKey PlaceKey)]? =
        s'.batched[(⟨c, k⟩ : ContactKey PlaceKey)]?) ∧
      (∀ raw, s.toAck[(⟨c, raw⟩ : ContactKey Bytes)]? =
        s'.toAck[(⟨c, raw⟩ : ContactKey Bytes)]?) ∧
      ∀ i, s.secrets[(⟨c, i⟩ : RawSecretKey)]? = s'.secrets[(⟨c, i⟩ : RawSecretKey)]? := by
  simp only [held, mk.injEq, true_and, Table.filter_key_eq_iff, Table.ofContact_eq_iff]

namespace Mirrors

variable {t t' : Memory}

/-- Rows of batches to acknowledge, by the entries that they mirror. -/
lemma toAck_eq (h : s.Mirrors t) (h' : s'.Mirrors t')
    (ht : ∀ b, t.toAck[(⟨c, b⟩ : ContactKey BatchId)]? = t'.toAck[(⟨c, b⟩ : ContactKey BatchId)]?)
    (raw : Bytes) :
    s.toAck[(⟨c, raw⟩ : ContactKey Bytes)]? = s'.toAck[(⟨c, raw⟩ : ContactKey Bytes)]? := by
  have hmem : (⟨c, raw⟩ : ContactKey Bytes) ∈ s.toAck ↔
      (⟨c, raw⟩ : ContactKey Bytes) ∈ s'.toAck := by
    by_cases hsize : raw.length = 32
    · have hid := (h.toAck c ⟨raw, hsize⟩).trans <| .trans ?_ (h'.toAck c ⟨raw, hsize⟩).symm
      · exact hid
      · rw [Table.mem_iff_exists, Table.mem_iff_exists, ht]
    · exact iff_of_false (fun hk => hsize (h.toAckSize _ hk)) fun hk => hsize (h'.toAckSize _ hk)
  rw [Table.mem_iff_exists, Table.mem_iff_exists] at hmem
  exact Option.ext fun _ => ⟨fun hv => (hmem.mp ⟨_, hv⟩).choose_spec,
    fun hv => (hmem.mpr ⟨_, hv⟩).choose_spec⟩

/-- Two relational stores hold the same of a contact if the stores that they mirror do, and the
rows of its secrets are the same. -/
theorem held_eq (h : s.Mirrors t) (h' : s'.Mirrors t') (ht : t.held c = t'.held c)
    (hsecrets : ∀ i, s.secrets[(⟨c, i⟩ : RawSecretKey)]? = s'.secrets[(⟨c, i⟩ : RawSecretKey)]?) :
    s.held c = s'.held c := by
  obtain ⟨hcontact, hbatches, htoAck, -⟩ := Memory.held_eq_iff.mp ht
  refine held_eq_iff.mpr ⟨?_, fun g => ?_, fun b => ?_, fun k => ?_, h.toAck_eq h' htoAck, hsecrets⟩
  · rw [h.contact, h'.contact, hcontact]
  · rw [h.contactGroups, h'.contactGroups, hcontact]
  · rw [h.batch, h'.batch, hbatches]
  · obtain ⟨b, i⟩ := k
    rw [h.batched, h'.batched, hbatches]

/-- Rows of groups of this node, by the entries that they mirror. -/
lemma groups_eq (h : s.Mirrors t) (h' : s'.Mirrors t') (ht : t.subscriptions = t'.subscriptions) :
    s.groups = s'.groups := by
  have hsize {s : Relational} {t : Memory} (h : s.Mirrors t) (raw : Bytes)
      (hraw : raw.length ≠ 32) : s.groups[raw]? = none :=
    (Table.not_mem_iff _ _).mp fun hmem => hraw (h.groupSize raw hmem)
  refine Std.ExtTreeMap.ext_getElem? fun raw => ?_
  by_cases hraw : raw.length = 32
  · have hg := (h.groups ⟨raw, hraw⟩).trans (.trans (by rw [ht]) (h'.groups ⟨raw, hraw⟩).symm)
    exact hg
  · rw [hsize h raw hraw, hsize h' raw hraw]

/-- Two relational stores are the same apart from what they hold of contacts, if the stores
that they mirror are. -/
lemma common_eq (h : s.Mirrors t) (h' : s'.Mirrors t') (ht : t.common = t'.common)
    (hversions : s.versions = s'.versions) : s.common = s'.common := by
  simp only [Memory.common, Memory.mk.injEq, true_and, and_true] at ht
  obtain ⟨hnext, hsubscriptions, hsubscriptionsAt, htransports, htransportsAt, hmessages,
    hratings⟩ := ht
  have hlast : s.lastContact = s'.lastContact :=
    Nat.succ.inj (h.next.symm.trans (hnext.trans h'.next))
  simp only [common, mk.injEq, true_and, and_true]
  refine ⟨hversions, hlast, h.groups_eq h' hsubscriptions, ?_, ?_, ?_, ?_, ?_⟩
  · rw [h.subscriptionsAt, h'.subscriptionsAt, hsubscriptionsAt]
  · rw [h.transports, h'.transports, htransports]
  · rw [h.transportsAt, h'.transportsAt, htransportsAt]
  · rw [h.messages, h'.messages, hmessages]
  · rw [h.ratings, h'.ratings, hratings]

/-- Two relational stores that mirror one store in memory are the same, if their secrets and the
versions of their tables are. -/
theorem ext (h : s.Mirrors t) (h' : s'.Mirrors t) (hsecrets : s.secrets = s'.secrets)
    (hversions : s.versions = s'.versions) : s = s' := by
  have hcommon := h.common_eq h' rfl hversions
  have hheld (c : ContactId) := held_eq_iff.mp (h.held_eq (c := c) h' rfl fun i => by rw [hsecrets])
  simp only [common, mk.injEq, true_and, and_true] at hcommon
  obtain ⟨-, hlast, hgroups, hsubscriptionsAt, htransports, htransportsAt, hmessages,
    hratings⟩ := hcommon
  apply Relational.ext hversions hlast
  · exact Std.ExtTreeMap.ext_getElem? fun c => (hheld c).1
  · exact Std.ExtTreeMap.ext_getElem? fun k => (hheld k.contact).2.1 k.item
  · exact hgroups
  · exact hsubscriptionsAt
  · exact htransports
  · exact htransportsAt
  · exact hmessages
  · rw [h.statuses, h'.statuses]
  · exact hratings
  · exact Std.ExtTreeMap.ext_getElem? fun k => (hheld k.contact).2.2.1 k.item
  · exact Std.ExtTreeMap.ext_getElem? fun k => (hheld k.contact).2.2.2.1 k.item
  · exact Std.ExtTreeMap.ext_getElem? fun k => (hheld k.contact).2.2.2.2.1 k.item
  · exact hsecrets

end Mirrors

end Relational

end MessageSync
