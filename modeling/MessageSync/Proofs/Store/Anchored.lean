import MessageSync.Proofs.Store.Origin
import MessageSync.Proofs.Store.Secrets
import MessageSync.Proofs.Store.Storable

/-!
# Acks and secrets of contacts that exist

Batches to acknowledge and secrets are kept for contacts that exist (`Memory.Anchored`,
`Relational.Anchored`). A relational store refuses a row whose contact is missing. In memory
nothing does, so that it has to be known of the secrets that are stored that their contacts
exist.
-/

namespace MessageSync

/-! ## In memory -/

namespace Memory

/-- Batches to acknowledge and secrets are kept for contacts that exist, and secrets in their
places. -/
structure Anchored (s : Memory) : Prop where
  toAck : ∀ k ∈ s.toAck, k.contact ∈ s.contacts
  keyed : ∀ (key : SecretKey) (x : Secret), s.secrets[key]? = some x → x.key = key
  secrets : ∀ k ∈ s.secrets, k.contact ∈ s.contacts

variable {s : Memory} {x : Change}

/-- A contact stays until it is removed. -/
lemma mem_contacts_change {c : ContactId} (hc : c ∈ s.contacts) (hx : x ≠ .removeContact c) :
    c ∈ (s.change x).contacts := by
  by_cases hpart : .contacts ∈ x.parts
  · cases x with
    | addContact transports => exact Std.ExtTreeMap.mem_insert.mpr (.inr hc)
    | removeContact c' =>
      refine Std.ExtTreeMap.mem_erase.mpr ⟨fun heq => hx ?_, hc⟩
      rw [Std.LawfulEqOrd.eq_of_compare heq]
    | share c' groups timestamp =>
      simp only [change, setSubscriptions]
      split
      · exact hc
      · split
        · exact hc
        · exact Std.ExtTreeMap.mem_insert.mpr (.inr hc)
    | setTransports c' transports timestamp =>
      simp only [change, setTransports]
      split
      · exact hc
      · split
        · exact hc
        · exact Std.ExtTreeMap.mem_insert.mpr (.inr hc)
    | _ => simp [Change.parts] at hpart
  · rwa [(contacts_change hpart).1]

lemma mem_contacts_changes {c : ContactId} {log : List Change} (hc : c ∈ s.contacts)
    (hlog : .removeContact c ∉ log) : c ∈ (s.changes log).contacts := by
  induction log generalizing s with
  | nil => exact hc
  | cons x rest ih =>
    rw [List.mem_cons, not_or] at hlog
    exact ih (mem_contacts_change hc (Ne.symm hlog.1)) hlog.2

/-- What is kept for a contact goes with it. -/
lemma not_mem_others {ι ν : Type} [Ord ι] [Std.TransOrd ι] [Std.LawfulEqOrd ι]
    (t : Table (ContactKey ι) ν) (k : ContactKey ι) :
    k ∉ t.filter fun k' _ => k'.contact ≠ k.contact := by
  rw [Table.not_mem_iff, Table.getElem?_others, if_pos rfl]

namespace Anchored

lemma empty : Memory.empty.Anchored where
  toAck := by
    intro k h
    simp [Memory.empty] at h
  keyed := by
    intro key x h
    simp [Memory.empty] at h
  secrets := by
    intro k h
    simp [Memory.empty] at h

/-- A permitted change keeps acks and secrets with contacts that exist, if the contacts of the
secrets that it stores do. -/
lemma change (h : s.Anchored) (hx : s.Permits x)
    (hsecrets : ∀ xs, x = .addSecrets xs → ∀ y ∈ xs, y.contact ∈ s.contacts) :
    (s.change x).Anchored where
  toAck := by
    intro k hk
    by_cases hgone : x = .removeContact k.contact
    · rw [hgone] at hk
      exact absurd hk (not_mem_others s.toAck k)
    refine mem_contacts_change ?_ hgone
    rcases toAck_of_change hk with hold | rfl
    · exact h.toAck k hold
    · exact hx
  keyed := by
    intro key y hy
    rcases secret_of_change hy with ⟨y', hy', hkey⟩ | ⟨_, _, _, hkey⟩
    · rw [← hkey]
      exact h.keyed key y' hy'
    · exact hkey
  secrets := by
    intro key hkey
    by_cases hgone : x = .removeContact key.contact
    · rw [hgone] at hkey
      exact absurd hkey (not_mem_others s.secrets key)
    refine mem_contacts_change ?_ hgone
    obtain ⟨y, hy⟩ := (Table.mem_iff_exists _ _).mp hkey
    rcases secret_of_change hy with ⟨y', hy', -⟩ | ⟨xs, rfl, hmem, rfl⟩
    · exact h.secrets key (Table.mem_of_getElem? hy')
    · exact hsecrets xs rfl y hmem

/-- So do changes in turn, if none of them stores secrets. -/
lemma changes {log : List Change} (h : s.Anchored) (hlog : s.Allows log)
    (hsecrets : ∀ xs, .addSecrets xs ∉ log) : (s.changes log).Anchored := by
  induction log generalizing s with
  | nil => exact h
  | cons x rest ih =>
    have hfirst := h.change hlog.1 fun xs hx => absurd (hx ▸ List.mem_cons_self) (hsecrets xs)
    exact ih hfirst hlog.2 fun xs hmem => hsecrets xs (List.mem_cons_of_mem x hmem)

end Anchored

end Memory

/-! ## In rows -/

namespace Relational

/-- Secrets are kept for contacts that exist. -/
structure Anchored (s : Relational) : Prop where
  secrets : ∀ k ∈ s.secrets, k.contact ∈ s.contacts

/-- Whether what becomes of a store keeps the versions of its tables and the secrets of all but
some contacts, and keeps no secrets for contacts that are missing. -/
structure Minds (among : ContactId → Prop) (s s' : Relational) : Prop where
  versions : s'.versions = s.versions
  others : ∀ k : RawSecretKey, ¬ among k.contact → s'.secrets[k]? = s.secrets[k]?
  anchored : s.Anchored → s'.Anchored

variable {among : ContactId → Prop} {s : Relational}

namespace Minds

lemma refl (s : Relational) : Minds among s s := ⟨rfl, fun _ _ => rfl, id⟩

lemma trans {s s' s'' : Relational} (h : Minds among s s') (h' : Minds among s' s'') :
    Minds among s s'' where
  versions := h'.versions.trans h.versions
  others k hk := (h'.others k hk).trans (h.others k hk)
  anchored hs := h'.anchored (h.anchored hs)

/-- Secrets of contacts that exist are stored, up to the first whose contact is missing. -/
lemma addSecrets {xs : List Secret} (h : ∀ x ∈ xs, among x.contact) :
    Minds among s (s.addSecrets xs).2 := by
  induction xs generalizing s with
  | nil => exact refl s
  | cons x rest ih =>
    obtain ⟨hx, hrest⟩ := List.forall_mem_cons.mp h
    rw [Relational.addSecrets]
    split
    · next hc =>
      have hfirst : Minds among s
          { s with secrets := s.secrets.insert (SecretKey.toRaw x.key) x.toRow } := by
        refine ⟨rfl, fun k hk => ?_, fun hs => ⟨fun k hk => ?_⟩⟩
        · show (s.secrets.insert (SecretKey.toRaw x.key) x.toRow)[k]? = s.secrets[k]?
          rw [Table.getElem?_insert, if_neg]
          rintro rfl
          exact hk hx
        · rcases Std.ExtTreeMap.mem_insert.mp hk with heq | hold
          · rw [← Std.LawfulEqOrd.eq_of_compare heq]
            exact Std.ExtTreeMap.contains_iff_mem.mp hc
          · exact hs.secrets k hold
      exact hfirst.trans (ih hrest)
    · exact refl s

/-- Changing a secret in its place. -/
lemma modify {key : RawSecretKey} (hkey : among key.contact) (f : SecretRow → SecretRow) :
    Minds among s { s with secrets := s.secrets.modify key f } where
  versions := rfl
  others k hk := by
    show (s.secrets.modify key f)[k]? = s.secrets[k]?
    rw [Table.getElem?_modify, if_neg]
    rintro rfl
    exact hk hkey
  anchored hs := ⟨fun k hk => hs.secrets k (Std.ExtTreeMap.mem_modify.mp hk)⟩

/-- Deleting secrets of a contact, and maybe the contact. -/
lemma filter {c : ContactId} (hc : among c) {s' : Relational} (keep : RawSecretKey → Bool)
    (hkeep : ∀ k, k.contact ≠ c → keep k) (hs' : s'.secrets = s.secrets.filter fun k _ => keep k)
    (hversions : s'.versions = s.versions)
    (hcontacts : ∀ k : RawSecretKey, keep k → k.contact ∈ s.contacts → k.contact ∈ s'.contacts) :
    Minds among s s' where
  versions := hversions
  others k hk := by
    rw [hs', Table.getElem?_filter_keys, if_pos]
    refine hkeep k ?_
    rintro rfl
    exact hk hc
  anchored hs := by
    refine ⟨fun k hk => ?_⟩
    rw [hs', Table.mem_iff_exists, Table.getElem?_filter_keys] at hk
    obtain ⟨row, hrow⟩ := hk
    obtain ⟨hkept, hrow⟩ := Option.ite_none_right_eq_some.mp hrow
    exact hcontacts k hkept (hs.secrets k (Table.mem_of_getElem? hrow))

lemma incrementConnectionCounter {key : SecretKey} (h : among key.contact) :
    Minds among s (s.incrementConnectionCounter key).2 := by
  rw [incrementConnectionCounter_snd]
  exact modify h _

lemma setConnectionWindow {key : SecretKey} (h : among key.contact) (window : Window) :
    Minds among s (s.setConnectionWindow key window).2 := modify h _

lemma removeSecretsBefore {c : ContactId} (h : among c) (t : TransportId) (period : UInt64) :
    Minds among s (s.removeSecretsBefore c t period).2 := by
  refine filter h _ (fun k hk => ?_) rfl rfl fun _ _ hmem => hmem
  simp [hk]

lemma removeContact {c : ContactId} (h : among c) : Minds among s (s.removeContact c) := by
  refine filter h (·.contact ≠ c) (fun k hk => decide_eq_true hk) rfl rfl fun k hk hmem => ?_
  refine Std.ExtTreeMap.mem_erase.mpr ⟨fun heq => of_decide_eq_true hk ?_, hmem⟩
  exact (Std.LawfulEqOrd.eq_of_compare heq).symm

end Minds

/-- The secret that is found under a key is of the contact of the key. -/
lemma contact_of_secret {key : SecretKey} {x : Secret} (h : s.secret key = .ok (some x)) :
    x.contact = key.contact := by
  obtain ⟨row, -, hrow⟩ := secret_eq_some_iff.mp h
  obtain ⟨_, _, -, -, rfl⟩ := SecretRow.toSecret_eq_ok_iff.mp hrow
  rfl

end Relational

end MessageSync
