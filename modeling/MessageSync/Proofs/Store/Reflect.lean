import MessageSync.Proofs.Packet
import MessageSync.Proofs.Store.Answer
import MessageSync.Proofs.Store.Secrets
import MessageSync.Proofs.Store.Storable

/-!
# Rows for all that a store in memory holds

`Relational.Reflects s t` says that the relational store `s` mirrors the store in memory
`t`, and has the rows of its secrets as well. As long as `t` is storable, properties and
secrets are read from rows as they are held in memory, and in the same order, since the
signed numbers in the rows are in the order of the periods (`SecretKey.compare_toRaw`).
-/

namespace MessageSync

/-! ## Periods as signed numbers -/

namespace Period.Fits

variable {p p' : UInt64}

lemma toInt_toInt64 (h : Fits p) : p.toInt64.toInt = p.toNat := by
  show p.toBitVec.toInt = p.toBitVec.toNat
  have hlt : p.toBitVec.toNat < signedSize := h
  refine BitVec.toInt_eq_toNat_of_lt ?_
  unfold signedSize at hlt
  omega

lemma toInt64_lt (h : Fits p) (h' : Fits p') : p.toInt64 < p'.toInt64 ↔ p < p' := by
  rw [Int64.lt_iff_toInt_lt, UInt64.lt_iff_toNat_lt, h.toInt_toInt64, h'.toInt_toInt64]
  omega

lemma compare_toInt64 (h : Fits p) (h' : Fits p') :
    compare p.toInt64 p'.toInt64 = compare p p' := by
  have heq : p.toInt64 = p'.toInt64 ↔ p = p' := by
    rw [← Int64.toInt_inj, ← UInt64.toNat_inj, h.toInt_toInt64, h'.toInt_toInt64]
    omega
  show compareOfLessAndEq _ _ = compareOfLessAndEq _ _
  simp only [compareOfLessAndEq, h.toInt64_lt h', heq]

end Period.Fits

/-- Keys of rows are in the order of keys of secrets. -/
lemma SecretKey.compare_toRaw {k k' : SecretKey} (h : Period.Fits k.item.period)
    (h' : Period.Fits k'.item.period) : compare k.toRaw k'.toRaw = compare k k' := by
  show (compare k.contact k'.contact).then ((compare k.item.transport k'.item.transport).then
      (compare k.item.period.toInt64 k'.item.period.toInt64)) = _
  rw [h.compare_toInt64 h']
  rfl

/-- Every key of a row is one of a secret. -/
lemma SecretKey.exists_toRaw (k : RawSecretKey) : ∃ key : SecretKey, key.toRaw = k := by
  refine ⟨⟨k.contact, ⟨k.item.transport, k.item.period.toUInt64⟩⟩, ?_⟩
  simp only [toRaw, Int64.toInt64_toUInt64]

/-- Counting on in a row is counting on, up to the greatest signed number. -/
lemma countOn_toInt64 {n : UInt64} (h : n.toNat < signedSize - 1) :
    countOn n.toInt64 = some (n + 1).toInt64 := by
  have hfits : Period.Fits n := by
    unfold Period.Fits
    omega
  have hne : n.toInt64 ≠ Int64.maxValue := by
    intro heq
    have hmax := congrArg Int64.toInt heq
    rw [hfits.toInt_toInt64] at hmax
    have hvalue : Int64.maxValue.toInt = signedSize - 1 := by decide
    omega
  rw [countOn, if_neg hne, UInt64.toInt64_add]
  rfl

/-- Properties whose encoding is not too long are read back. -/
lemma Properties.Fits.ofColumn {p : Properties} (h : p.Fits) :
    Properties.ofColumn (encodeProperties p) = .ok p := by
  have hread := reads_properties p h []
  rw [List.append_nil] at hread
  rw [Properties.ofColumn, hread]

/-! ## Rows of secrets -/

namespace Relational

/-- The rows of secrets are those of the secrets in memory, and the tables are as they were
set up. -/
structure Keeps (s : Relational) (t : Memory) : Prop where
  secrets : ∀ key : SecretKey, s.secrets[key.toRaw]? = (t.secrets[key]?).map Secret.toRow
  versions : s.versions = Relational.empty.versions

/-- A relational store that mirrors all of a store in memory. -/
structure Reflects (s : Relational) (t : Memory) : Prop extends s.Mirrors t, s.Keeps t where
  storable : t.Storable

variable {s : Relational} {t : Memory}

namespace Keeps

/-- Rows are kept when rows and secrets are deleted by their keys. -/
lemma filter (h : s.Keeps t) (keepRow : RawSecretKey → Bool) (keep : SecretKey → Bool)
    {s' : Relational} {t' : Memory} (hs' : s'.secrets = s.secrets.filter fun k _ => keepRow k)
    (ht' : t'.secrets = t.secrets.filter fun k _ => keep k) (hversions : s'.versions = s.versions)
    (hkeep : ∀ key ∈ t.secrets, keepRow key.toRaw = keep key) : s'.Keeps t' where
  secrets key := by
    rw [hs', ht', Table.getElem?_filter_keys, Table.getElem?_filter_keys, h.secrets]
    cases hx : t.secrets[key]? with
    | none => split <;> split <;> rfl
    | some x =>
      rw [hkeep key (Table.mem_of_getElem? hx)]
      split <;> rfl
  versions := hversions.trans h.versions

lemma removeContact (h : s.Keeps t) (c : ContactId) :
    (s.removeContact c).Keeps (t.removeContact c) :=
  h.filter (·.contact ≠ c) (·.contact ≠ c) rfl rfl rfl fun _ _ => rfl

lemma congr (h : s.Keeps t) {s' : Relational} {t' : Memory} (hs' : s'.secrets = s.secrets)
    (hversions : s'.versions = s.versions) (ht' : t'.secrets = t.secrets) : s'.Keeps t' where
  secrets key := by
    rw [hs', ht']
    exact h.secrets key
  versions := hversions.trans h.versions

lemma insert (h : s.Keeps t) (x : Secret) :
    { s with secrets := s.secrets.insert (SecretKey.toRaw x.key) x.toRow }.Keeps
      { t with secrets := t.secrets.insert x.key x } where
  secrets key := by
    show (s.secrets.insert _ _)[key.toRaw]? = ((t.secrets.insert _ _)[key]?).map _
    rw [Table.getElem?_insert, Table.getElem?_insert, h.secrets]
    by_cases hk : x.key = key
    · rw [if_pos hk, if_pos (SecretKey.toRaw_inj.mpr hk)]
      rfl
    · rw [if_neg hk, if_neg (mt SecretKey.toRaw_inj.mp hk)]
  versions := h.versions

/-- Secrets of contacts that exist are stored in both stores. -/
lemma addSecrets (h : s.Keeps t) {xs : List Secret} (hcontacts : ∀ x ∈ xs, x.contact ∈ s.contacts) :
    (s.addSecrets xs).1 = .ok () ∧ (s.addSecrets xs).2.Keeps (t.change (.addSecrets xs)) := by
  induction xs generalizing s t with
  | nil => exact ⟨rfl, h⟩
  | cons x rest ih =>
    have hx : s.contacts.contains x.contact :=
      Std.ExtTreeMap.contains_iff_mem.mpr (hcontacts x List.mem_cons_self)
    rw [Relational.addSecrets, if_pos hx]
    exact ih (h.insert x) fun y hy => hcontacts y (List.mem_cons_of_mem x hy)

/-- Connections are counted in both stores, below the greatest signed number. -/
lemma incrementConnectionCounter (h : s.Keeps t) (hstorable : t.Storable) {key : SecretKey}
    (hcount : ∀ x, t.secrets[key]? = some x → x.outgoing.toNat < signedSize - 1) :
    (s.incrementConnectionCounter key).1 = .ok (t.incrementConnectionCounter key).1 ∧
      (s.incrementConnectionCounter key).2.Keeps (t.incrementConnectionCounter key).2 := by
  have hrow := h.secrets key
  unfold Relational.incrementConnectionCounter Memory.incrementConnectionCounter
  cases hx : t.secrets[key]? with
  | none =>
    rw [hx] at hrow
    rw [hrow]
    exact ⟨rfl, h⟩
  | some x =>
    rw [hx] at hrow
    have hon : (some x.outgoing.toInt64).bind countOn = some (x.outgoing + 1).toInt64 :=
      countOn_toInt64 (hcount x hx)
    rw [hrow]
    dsimp only [Option.map_some, Secret.toRow]
    rw [hon]
    refine ⟨?_, ?_⟩
    · show Except.ok (some (x.outgoing + 1).toInt64.toUInt64) = Except.ok (some (x.outgoing + 1))
      rw [UInt64.toUInt64_toInt64]
    · have hinsert := h.insert { x with outgoing := x.outgoing + 1 }
      have hkey : ({ x with outgoing := x.outgoing + 1 } : Secret).key = key :=
        hstorable.keyed key x hx
      rw [hkey] at hinsert
      exact hinsert

lemma setConnectionWindow (h : s.Keeps t) (key : SecretKey) (window : Window) :
    (s.setConnectionWindow key window).1 = (t.setConnectionWindow key window).1 ∧
      (s.setConnectionWindow key window).2.Keeps (t.setConnectionWindow key window).2 := by
  refine ⟨?_, ?_, h.versions⟩
  · show s.secrets.contains key.toRaw = t.secrets.contains key
    rw [Std.ExtTreeMap.contains_eq_isSome_getElem?, Std.ExtTreeMap.contains_eq_isSome_getElem?,
      h.secrets, Option.isSome_map]
  · intro k
    show (s.secrets.modify _ _)[k.toRaw]? = ((t.secrets.modify _ _)[k]?).map _
    rw [Table.getElem?_modify, Table.getElem?_modify, h.secrets]
    by_cases hk : key = k
    · rw [if_pos hk, if_pos (SecretKey.toRaw_inj.mpr hk), Option.map_map, Option.map_map]
      rfl
    · rw [if_neg hk, if_neg (mt SecretKey.toRaw_inj.mp hk)]

end Keeps

namespace Reflects

lemma empty : Relational.empty.Reflects Memory.empty where
  toMirrors := Mirrors.empty
  secrets key := by simp [Relational.empty, Memory.empty]
  versions := rfl
  storable := Memory.Storable.empty

/-! ## Answers -/

lemma localTransports (h : s.Reflects t) :
    s.localTransports = .ok (t.transports, t.transportsAt) := by
  rw [Relational.localTransports, h.transports, h.storable.transports.ofColumn, h.transportsAt]
  rfl

lemma contactTransports (h : s.Reflects t) (c : ContactId) :
    s.contactTransports c = .ok (t.contactTransports c) := by
  unfold Relational.contactTransports Memory.contactTransports
  rw [h.contact]
  cases hr : t.contacts[c]? with
  | none => rfl
  | some r => exact (h.storable.contacts c r hr).ofColumn

lemma secret (h : s.Reflects t) (key : SecretKey) : s.secret key = .ok (t.secrets[key]?) := by
  have hrow := h.secrets key
  cases hx : t.secrets[key]? with
  | none =>
    rw [hx] at hrow
    rw [Relational.secret, hrow]
    rfl
  | some x =>
    rw [hx] at hrow
    have hread := x.toSecret_toRow
    rw [h.storable.keyed key x hx] at hread
    exact secret_eq_some_iff.mpr ⟨x.toRow, hrow, hread⟩

/-- The rows of secrets stand in the order of the secrets. -/
lemma toList_secrets (h : s.Reflects t) :
    s.secrets.toList = t.secrets.toList.map fun e => (e.1.toRaw, e.2.toRow) := by
  have hperiod {e : SecretKey × Secret} (he : e ∈ t.secrets.toList) :
      Period.Fits e.1.item.period :=
    h.storable.period_fits ((Table.mem_toList_iff _ _).mp he)
  refine Table.eq_of_ordered Prod.fst (Table.ordered_toList _) ?_ fun e => ?_
  · rw [List.pairwise_map]
    refine (Table.ordered_toList t.secrets).imp_of_mem fun he he' hlt => ?_
    exact (SecretKey.compare_toRaw (hperiod he) (hperiod he')).trans hlt
  · obtain ⟨key, hkey⟩ := SecretKey.exists_toRaw e.1
    have hrow := h.secrets key
    rw [Table.mem_toList_iff, ← hkey, hrow, Option.map_eq_some_iff, List.mem_map]
    constructor
    · rintro ⟨x, hx, hrow⟩
      refine ⟨(key, x), (Table.mem_toList_iff _ _).mpr hx, ?_⟩
      rw [hkey, hrow]
    · rintro ⟨e', he', rfl⟩
      rw [SecretKey.toRaw_inj.mp hkey]
      exact ⟨e'.2, (Table.mem_toList_iff _ _).mp he', rfl⟩

lemma allSecrets (h : s.Reflects t) : s.allSecrets = .ok t.secrets.values := by
  rw [Relational.allSecrets, h.toList_secrets, List.mapM_map, Table.values_eq]
  refine mapM_eq_ok _ fun e he => ?_
  have hread := e.2.toSecret_toRow
  rw [h.storable.keyed e.1 e.2 ((Table.mem_toList_iff _ _).mp he)] at hread
  exact hread

/-! ## Old secrets -/

/-- The same secrets are too old in both stores. -/
lemma removeSecretsBefore (h : s.Reflects t) (c : ContactId) (transport : TransportId)
    {period : UInt64} (hperiod : Period.Fits period) :
    (s.removeSecretsBefore c transport period).1 = (t.removeSecretsBefore c transport period).1 ∧
      (s.removeSecretsBefore c transport period).2.Keeps
        (t.removeSecretsBefore c transport period).2 := by
  let oldRow (k : RawSecretKey) : Bool :=
    k.contact = c && k.item.transport = transport && k.item.period < period.toInt64
  let old (k : SecretKey) : Bool :=
    k.contact = c && k.item.transport = transport && k.item.period < period
  have hold (key : SecretKey) (hkey : key ∈ t.secrets) : oldRow key.toRaw = old key := by
    obtain ⟨x, hx⟩ := (Table.mem_iff_exists _ _).mp hkey
    have hlt := (h.storable.period_fits hx).toInt64_lt hperiod
    simp only [oldRow, old, SecretKey.toRaw, hlt]
  have hkeys : s.secrets.keys = t.secrets.keys.map SecretKey.toRaw := by
    rw [← Std.ExtTreeMap.map_fst_toList_eq_keys, ← Std.ExtTreeMap.map_fst_toList_eq_keys,
      h.toList_secrets, List.map_map, List.map_map]
    rfl
  constructor
  · show s.secrets.keys.countP oldRow = t.secrets.keys.countP old
    rw [hkeys, List.countP_map]
    refine List.countP_congr fun key hkey => ?_
    rw [Function.comp_apply, hold key (Std.ExtTreeMap.mem_keys.mp hkey)]
  · refine h.toKeeps.filter (!oldRow ·) (!old ·) rfl rfl rfl fun key hkey => ?_
    exact congrArg (!·) (hold key hkey)

end Reflects

end Relational

end MessageSync
