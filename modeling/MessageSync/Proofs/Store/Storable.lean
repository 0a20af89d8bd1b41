import MessageSync.Packet.Encode
import MessageSync.Proofs.Store.Frame

/-!
# What rows can hold

Rows keep periods as signed numbers and transport properties as encodings. `Memory.Storable`
says of a store in memory that neither loses anything: periods are below 2^63, and lengths
of encodings are numbers of 64 bits, as they are on any machine. Changes keep this up if
what they bring is storable as well (`Memory.Storable.change`).
-/

namespace MessageSync

/-- How many signed numbers are not negative: 2^63. -/
def signedSize : Nat := 0x8000000000000000

/-- Whether a signed number keeps the order of a period. -/
def Period.Fits (period : UInt64) : Prop := period.toNat < signedSize

instance (period : UInt64) : Decidable (Period.Fits period) :=
  inferInstanceAs (Decidable (period.toNat < signedSize))

/-- Whether transport properties have an encoding whose length is a number of 64 bits, as
every encoding has that fits into the memory of a machine. -/
def Properties.Fits (p : Properties) : Prop := (encodeProperties p).length < UInt64.size

instance (p : Properties) : Decidable p.Fits :=
  inferInstanceAs (Decidable ((encodeProperties p).length < UInt64.size))

/-- Whether what a change brings can be stored. -/
def Change.Fits : Change → Prop
  | .addContact p | .setLocalTransports p _ | .setTransports _ p _ => p.Fits
  | .addSecrets xs => ∀ x ∈ xs, Period.Fits x.period
  | _ => True

namespace Memory

/-- What a store holds can be stored in rows, and secrets are in their places. -/
structure Storable (t : Memory) : Prop where
  keyed : ∀ (key : SecretKey) (x : Secret), t.secrets[key]? = some x → x.key = key
  periods : ∀ (key : SecretKey) (x : Secret), t.secrets[key]? = some x → Period.Fits x.period
  transports : t.transports.Fits
  contacts : ∀ (c : ContactId) (r : ContactRecord), t.contacts[c]? = some r → r.transports.Fits

variable {t : Memory} {x : Change}

/-- A secret that is there after a change was there before, or was just added. -/
lemma secret_of_change {key : SecretKey} {y : Secret} (h : (t.change x).secrets[key]? = some y) :
    (∃ y', t.secrets[key]? = some y' ∧ y'.key = y.key) ∨
      ∃ xs, x = .addSecrets xs ∧ y ∈ xs ∧ y.key = key := by
  cases x with
  | removeContact c =>
    change (t.secrets.filter _)[key]? = some y at h
    rw [Std.ExtTreeMap.getElem?_filter', Option.filter_eq_some_iff] at h
    exact .inl ⟨y, h.1, rfl⟩
  | addSecrets xs =>
    change (Table.insertAll t.secrets _)[key]? = some y at h
    rcases Table.getElem?_insertAll_eq_some h with hmem | hold
    · obtain ⟨y', hy', heq⟩ := List.mem_map.mp hmem
      obtain ⟨hkey, rfl⟩ := Prod.mk.inj heq
      exact .inr ⟨xs, rfl, hy', hkey⟩
    · exact .inl ⟨y, hold, rfl⟩
  | count k =>
    simp only [change, incrementConnectionCounter] at h
    split at h
    · exact .inl ⟨y, h, rfl⟩
    · next y' hy' =>
      rw [Table.getElem?_insert] at h
      split at h
      · next hk =>
        subst hk
        exact .inl ⟨y', hy', by rw [← Option.some.inj h]; rfl⟩
      · exact .inl ⟨y, h, rfl⟩
  | setWindow k window =>
    change (t.secrets.modify k _)[key]? = some y at h
    rw [Table.getElem?_modify] at h
    split at h
    · obtain ⟨y', hy', rfl⟩ := Option.map_eq_some_iff.mp h
      exact .inl ⟨y', hy', rfl⟩
    · exact .inl ⟨y, h, rfl⟩
  | dropSecrets c transport period =>
    change (t.secrets.filter _)[key]? = some y at h
    rw [Std.ExtTreeMap.getElem?_filter', Option.filter_eq_some_iff] at h
    exact .inl ⟨y, h.1, rfl⟩
  | _ =>
    rw [secrets_change (by simp [Change.parts])] at h
    exact .inl ⟨y, h, rfl⟩

/-- The properties of a contact after a change are those before, or were just set. -/
lemma properties_of_change {c : ContactId} {r : ContactRecord}
    (h : (t.change x).contacts[c]? = some r) :
    (∃ r', t.contacts[c]? = some r' ∧ r'.transports = r.transports) ∨
      (x.Fits → r.transports.Fits) := by
  cases x with
  | addContact p =>
    change (t.contacts.insert _ _)[c]? = some r at h
    rw [Table.getElem?_insert] at h
    split at h
    · exact .inr fun hfits => by rw [← Option.some.inj h]; exact hfits
    · exact .inl ⟨r, h, rfl⟩
  | removeContact c' =>
    change (t.contacts.erase c')[c]? = some r at h
    rw [Table.getElem?_erase] at h
    split at h
    · cases h
    · exact .inl ⟨r, h, rfl⟩
  | share c' groups timestamp =>
    simp only [change, setSubscriptions] at h
    split at h
    · exact .inl ⟨r, h, rfl⟩
    · next r' hr' =>
      split at h
      · exact .inl ⟨r, h, rfl⟩
      · change (t.contacts.insert c' _)[c]? = some r at h
        rw [Table.getElem?_insert] at h
        split at h
        · next hc =>
          subst hc
          exact .inl ⟨r', hr', by rw [← Option.some.inj h]⟩
        · exact .inl ⟨r, h, rfl⟩
  | setTransports c' p timestamp =>
    simp only [change, setTransports] at h
    split at h
    · exact .inl ⟨r, h, rfl⟩
    · split at h
      · exact .inl ⟨r, h, rfl⟩
      · change (t.contacts.insert c' _)[c]? = some r at h
        rw [Table.getElem?_insert] at h
        split at h
        · exact .inr fun hfits => by rw [← Option.some.inj h]; exact hfits
        · exact .inl ⟨r, h, rfl⟩
  | _ =>
    rw [(contacts_change (by simp [Change.parts])).1] at h
    exact .inl ⟨r, h, rfl⟩

lemma transports_of_change (h : t.transports.Fits) (hx : x.Fits) :
    (t.change x).transports.Fits := by
  cases x with
  | setLocalTransports p now => exact hx
  | _ =>
    rw [transports_change (by simp [Change.parts])]
    exact h

namespace Storable

lemma empty : Memory.empty.Storable where
  keyed := by
    intro key x h
    simp [Memory.empty] at h
  periods := by
    intro key x h
    simp [Memory.empty] at h
  transports := by
    show (encodeProperties ∅).length < UInt64.size
    decide
  contacts := by
    intro c r h
    simp [Memory.empty] at h

lemma period_fits (h : t.Storable) {key : SecretKey} {y : Secret} (hy : t.secrets[key]? = some y) :
    Period.Fits key.item.period := by
  rw [← h.keyed key y hy]
  exact h.periods key y hy

/-- A change keeps a store storable if what it brings can be stored. -/
theorem change (h : t.Storable) (hx : x.Fits) : (t.change x).Storable where
  keyed := by
    intro key y hy
    rcases secret_of_change hy with ⟨y', hy', hkey⟩ | ⟨_, _, _, hkey⟩
    · rw [← hkey]
      exact h.keyed key y' hy'
    · exact hkey
  periods := by
    intro key y hy
    rcases secret_of_change hy with ⟨y', hy', hkey⟩ | ⟨xs, rfl, hmem, _⟩
    · have hperiod : y'.period = y.period := congrArg (fun k : SecretKey => k.item.period) hkey
      rw [← hperiod]
      exact h.periods key y' hy'
    · exact hx y hmem
  transports := transports_of_change h.transports hx
  contacts := by
    intro c r hr
    rcases properties_of_change hr with ⟨r', hr', heq⟩ | hnew
    · rw [← heq]
      exact h.contacts c r' hr'
    · exact hnew hx

/-- So do changes in turn. -/
lemma changes {log : List Change} (h : t.Storable) (hlog : ∀ x ∈ log, x.Fits) :
    (t.changes log).Storable := by
  induction log generalizing t with
  | nil => exact h
  | cons x rest ih =>
    have hchange := h.change (hlog x List.mem_cons_self)
    exact ih hchange fun y hy => hlog y (List.mem_cons_of_mem _ hy)

end Storable

end Memory

end MessageSync
