import MessageSync.Proofs.Engine.Backend
import MessageSync.Proofs.Store.Reflect

/-!
# The secrets that a store holds

A `Keyring` is a table of secrets, apart from any store. Each back end holds the secrets of one
(`Backend.Holds`), answers them in the order of their keys (`Backend.Holds.exists_secrets`), and
changes them as a table is changed. A period has a place among all periods, which is its number
in memory. In rows periods are signed numbers, so that those from 2^63 on come first
(`Period.toInt64_lt_iff`).
-/

namespace MessageSync

/-- Secrets under their keys. -/
abbrev Keyring := Table SecretKey Secret

namespace Keyring

/-- Whether all secrets are under their own keys. -/
def Keyed (ring : Keyring) : Prop :=
  ∀ (key : SecretKey) (x : Secret), ring[key]? = some x → x.key = key

/-- A store in memory with these secrets. -/
def store (ring : Keyring) : Memory := { Memory.empty with secrets := ring }

/-- The secrets after some were stored, each in the place of one with the same key. -/
def add (ring : Keyring) (xs : List Secret) : Keyring :=
  Table.insertAll ring (xs.map fun x => (x.key, x))

/-- Secrets that are stored under other keys leave the one that is there. -/
lemma getElem?_add (ring : Keyring) {key : SecretKey} {xs : List Secret}
    (h : key ∉ xs.map Secret.key) : (ring.add xs)[key]? = ring[key]? :=
  ring.store.secrets_addSecrets h

variable {ring : Keyring}

lemma Keyed.add (h : ring.Keyed) (xs : List Secret) : (ring.add xs).Keyed := by
  intro key x hx
  rcases Table.getElem?_insertAll_eq_some hx with hmem | hold
  · obtain ⟨y, -, heq⟩ := List.mem_map.mp hmem
    obtain ⟨hkey, rfl⟩ := Prod.mk.inj heq
    exact hkey
  · exact h key x hold

lemma Keyed.modify (h : ring.Keyed) (k : SecretKey) {f : Secret → Secret}
    (hf : ∀ x, (f x).key = x.key) : Keyed (ring.modify k f) := by
  intro key x hx
  rw [Table.getElem?_modify] at hx
  split at hx
  · obtain ⟨y, hy, rfl⟩ := Option.map_eq_some_iff.mp hx
    rw [hf, h key y hy]
  · exact h key x hx

lemma Keyed.filter (h : ring.Keyed) (keep : SecretKey → Bool) :
    Keyed (ring.filter fun key _ => keep key) := by
  intro key x hx
  rw [Table.getElem?_filter_keys] at hx
  split at hx
  · exact h key x hx
  · cases hx

end Keyring

/-! ## The order of periods -/

/-- Signed numbers are ordered as if those without a sign came after the others. -/
lemma Period.toInt64_lt_iff (p q : UInt64) : p.toInt64 < q.toInt64 ↔
    (p.toNat + signedSize) % UInt64.size < (q.toNat + signedSize) % UInt64.size := by
  have hint (n : UInt64) :
      n.toInt64.toInt = if 2 * n.toNat < 2 ^ 64 then (n.toNat : Int) else n.toNat - 2 ^ 64 :=
    BitVec.toInt_eq_toNat_cond n.toBitVec
  have hp := p.toNat_lt
  have hq := q.toNat_lt
  have hsigned : signedSize = 2 ^ 63 := rfl
  have hsize : UInt64.size = 2 ^ 64 := rfl
  rw [Int64.lt_iff_toInt_lt, hint, hint, hsigned, hsize]
  split_ifs <;> omega

namespace Backend

/-- The place of a period in the order of a back end. -/
def place : Backend → UInt64 → Nat
  | .memory, period => period.toNat
  | .relational, period => (period.toNat + signedSize) % UInt64.size

/-- Whether a key is of a contact and a transport, and of a period that comes before one. -/
def before (backend : Backend) (c : ContactId) (t : TransportId) (period : UInt64)
    (key : SecretKey) : Bool :=
  key.contact = c && key.item.transport = t && backend.place key.item.period < backend.place period

/-- Whether a key comes before another one: by contact, then by transport, then by period. -/
def Sooner (backend : Backend) (k k' : SecretKey) : Prop :=
  k.contact.number < k'.contact.number ∨ k.contact = k'.contact ∧
    (k.item.transport.number < k'.item.transport.number ∨
      k.item.transport = k'.item.transport ∧
        backend.place k.item.period < backend.place k'.item.period)

/-- In memory, and among periods that have the same sign in rows, the order is that of the
numbers. -/
lemma place_lt_iff {backend : Backend} {p q : UInt64}
    (h : backend = .memory ∨ (p.toNat < signedSize ↔ q.toNat < signedSize)) :
    backend.place p < backend.place q ↔ p < q := by
  have hp := p.toNat_lt
  have hq := q.toNat_lt
  have hsigned : signedSize = 2 ^ 63 := rfl
  have hsize : UInt64.size = 2 ^ 64 := rfl
  rw [UInt64.lt_iff_toNat_lt]
  cases backend with
  | memory => rfl
  | relational =>
    have hsame := h.resolve_left (by decide)
    rw [place, place, hsize]
    omega

lemma before_memory (c : ContactId) (t : TransportId) (period : UInt64) (key : SecretKey) :
    Backend.memory.before c t period key =
      (key.contact = c && key.item.transport = t && key.item.period < period : Bool) := by
  rw [before, decide_eq_decide.mpr (place_lt_iff (.inl rfl))]

lemma before_relational (c : ContactId) (t : TransportId) (period : UInt64) (key : SecretKey) :
    Backend.relational.before c t period key =
      (key.toRaw.contact = c && key.toRaw.item.transport = t &&
        key.toRaw.item.period < period.toInt64 : Bool) := by
  have hlt : key.toRaw.item.period < period.toInt64 ↔
      Backend.relational.place key.item.period < Backend.relational.place period :=
    Period.toInt64_lt_iff _ _
  rw [before, decide_eq_decide.mpr hlt]
  rfl

end Backend

/-- Keys of rows and keys in memory are ordered in one way, once the order of periods is known. -/
lemma Backend.sooner_of_compare {backend : Backend} {π : Type} [Ord π] {f : UInt64 → π}
    (hf : ∀ p q, compare (f p) (f q) = .lt → backend.place p < backend.place q) {k k' : SecretKey}
    (h : compare (⟨k.contact, ⟨k.item.transport, f k.item.period⟩⟩ : ContactKey (PeriodKey π))
      ⟨k'.contact, ⟨k'.item.transport, f k'.item.period⟩⟩ = .lt) : backend.Sooner k k' := by
  change (compare k.contact k'.contact).then ((compare k.item.transport k'.item.transport).then
    (compare (f k.item.period) (f k'.item.period))) = .lt at h
  rw [Ordering.then_eq_lt, Ordering.then_eq_lt] at h
  rcases h with hcontact | ⟨hcontact, htransport | ⟨htransport, hperiod⟩⟩
  · exact .inl (Nat.compare_eq_lt.mp hcontact)
  · exact .inr ⟨Std.LawfulEqOrd.eq_of_compare hcontact, .inl (Nat.compare_eq_lt.mp htransport)⟩
  · exact .inr ⟨Std.LawfulEqOrd.eq_of_compare hcontact,
      .inr ⟨Std.LawfulEqOrd.eq_of_compare htransport, hf _ _ hperiod⟩⟩

lemma Backend.sooner_memory {k k' : SecretKey} (h : compare k k' = .lt) :
    Backend.memory.Sooner k k' := by
  have hperiods (p q : UInt64) (hlt : compare (id p) (id q) = .lt) :
      Backend.memory.place p < Backend.memory.place q :=
    UInt64.lt_iff_toNat_lt.mp (Std.compare_eq_lt.mp hlt)
  exact sooner_of_compare hperiods h

lemma Backend.sooner_relational {k k' : SecretKey} (h : compare k.toRaw k'.toRaw = .lt) :
    Backend.relational.Sooner k k' := by
  have hperiods (p q : UInt64) (hlt : compare p.toInt64 q.toInt64 = .lt) :
      Backend.relational.place p < Backend.relational.place q :=
    (Period.toInt64_lt_iff p q).mp (Std.compare_eq_lt.mp hlt)
  exact sooner_of_compare hperiods h

/-! ## Stores that hold a keyring -/

/-- Whether the secrets of a store are those of a keyring. -/
def Backend.Holds : (backend : Backend) → backend.Data → Keyring → Prop
  | .memory, s, ring => (show Memory from s).secrets = ring
  | .relational, s, ring => (show Relational from s).Keeps ring.store

namespace Relational

variable {s : Relational} {ring : Keyring}

/-- The rows of a store that keeps the secrets of a keyring are those of a list of secrets. -/
lemma Keeps.exists_rows (h : s.Keeps ring.store) (hring : ring.Keyed) :
    ∃ xs : List Secret, s.secrets.toList = xs.map (fun x => (SecretKey.toRaw x.key, x.toRow)) ∧
      ∀ x, x ∈ xs ↔ ring[x.key]? = some x := by
  have hkeep (key : SecretKey) : s.secrets[key.toRaw]? = (ring[key]?).map Secret.toRow :=
    h.secrets key
  have hrow (e : RawSecretKey × SecretRow) (he : e ∈ s.secrets.toList) :
      e ∈ Set.range fun x : Secret => (SecretKey.toRaw x.key, x.toRow) := by
    obtain ⟨key, hkey⟩ := SecretKey.exists_toRaw e.1
    have hlookup := (Table.mem_toList_iff _ e).mp he
    rw [← hkey, hkeep] at hlookup
    obtain ⟨x, hx, hrow⟩ := Option.map_eq_some_iff.mp hlookup
    refine ⟨x, Prod.ext ?_ hrow⟩
    rw [← hkey, ← hring key x hx]
  obtain ⟨xs, hxs⟩ : s.secrets.toList ∈ Set.range (List.map _) := by
    rw [Set.range_list_map]
    exact hrow
  refine ⟨xs, hxs.symm, fun x => ?_⟩
  have hinj : Function.Injective fun x : Secret => (SecretKey.toRaw x.key, x.toRow) := by
    intro x y hxy
    obtain ⟨hkey, hrow⟩ := Prod.mk.inj hxy
    have hx := x.toSecret_toRow
    rw [hkey, hrow, y.toSecret_toRow] at hx
    exact (Except.ok.inj hx).symm
  rw [← List.mem_map_of_injective hinj, hxs, Table.mem_toList_iff, hkeep, Option.map_eq_some_iff]
  constructor
  · rintro ⟨y, hy, hrow⟩
    have hsame : y = x := hinj (Prod.ext (congrArg SecretKey.toRaw (hring _ y hy)) hrow)
    rw [← hsame] at hy ⊢
    exact hy
  · intro hx
    exact ⟨x, hx, rfl⟩

/-- Secrets that are stored are of contacts that exist. -/
lemma mem_contacts_of_addSecrets {xs : List Secret} (h : (s.addSecrets xs).1 = .ok ()) :
    ∀ x ∈ xs, x.contact ∈ s.contacts := by
  induction xs generalizing s with
  | nil => exact fun x hx => absurd hx List.not_mem_nil
  | cons x rest ih =>
    rw [addSecrets] at h
    split at h
    · next hx =>
      have hrest := ih h
      exact List.forall_mem_cons.mpr ⟨Std.ExtTreeMap.contains_iff_mem.mp hx, hrest⟩
    · cases h

end Relational

/-- Counting a connection moves the counter of one secret. -/
lemma Memory.secrets_incrementConnectionCounter {s : Memory} {k : SecretKey} {n : UInt64}
    (h : (s.incrementConnectionCounter k).1 = some n) :
    (s.incrementConnectionCounter k).2.secrets =
      s.secrets.modify k fun x => { x with outgoing := n } := by
  unfold incrementConnectionCounter at h ⊢
  split at h
  · cases h
  · next x hx =>
    obtain rfl := Option.some.inj h
    exact Table.insert_eq_modify hx fun y : Secret => { y with outgoing := x.outgoing + 1 }

/-- Counting a connection moves the counter in one row. -/
lemma Relational.Keeps.count {s : Relational} {ring : Keyring} (h : s.Keeps ring.store)
    {k : SecretKey} {n : UInt64} (hcount : (s.incrementConnectionCounter k).1 = .ok (some n)) :
    (s.incrementConnectionCounter k).2.Keeps
      (Keyring.store (ring.modify k fun x => { x with outgoing := n })) := by
  -- the counter of the row comes to the number that is answered
  have hnumber (x : Secret) (hx : ring[k]? = some x) :
      countOn x.outgoing.toInt64 = some n.toInt64 := by
    have hrow : s.secrets[k.toRaw]? = some x.toRow := by
      rw [h.secrets k]
      exact congrArg (Option.map Secret.toRow) hx
    simp only [Relational.incrementConnectionCounter, hrow, Secret.toRow,
      Option.bind_some] at hcount
    split at hcount
    · next m hm =>
      obtain rfl := Option.some.inj (Except.ok.inj hcount)
      rw [hm, Int64.toInt64_toUInt64]
    · cases hcount
  rw [incrementConnectionCounter_snd]
  refine ⟨fun key => ?_, h.versions⟩
  show (s.secrets.modify k.toRaw _)[key.toRaw]? = ((ring.modify k _)[key]?).map Secret.toRow
  rw [Table.getElem?_modify, Table.getElem?_modify, h.secrets]
  by_cases hk : k = key
  · subst hk
    rw [if_pos rfl, if_pos rfl]
    cases hx : ring[k]? with
    | none =>
      rw [show ring.store.secrets[k]? = none from hx]
      rfl
    | some x =>
      have hcounter : x.toRow.outgoing.bind countOn = some n.toInt64 := hnumber x hx
      rw [show ring.store.secrets[k]? = some x from hx, Option.map_some, Option.map_some,
        hcounter]
      rfl
  · rw [if_neg hk, if_neg (mt SecretKey.toRaw_inj.mp hk)]
    rfl

namespace Backend.Holds

variable {backend : Backend} {s s' : backend.Data} {ring : Keyring}

lemma empty (backend : Backend) : backend.Holds backend.empty ∅ := by
  cases backend with
  | memory => rfl
  | relational => exact Relational.Reflects.empty.toKeeps

/-! ### Answers -/

/-- What is found under a key is what the keyring has there. -/
lemma secret (h : backend.Holds s ring) (hring : ring.Keyed) (key : SecretKey) :
    (Store.secret key s).1 = .ok (ring[key]?) := by
  cases backend with
  | memory =>
    obtain rfl : (show Memory from s).secrets = ring := h
    rfl
  | relational =>
    have hrow : (show Relational from s).secrets[key.toRaw]? = (ring[key]?).map Secret.toRow :=
      Relational.Keeps.secrets h key
    show (show Relational from s).secret key = _
    cases hx : ring[key]? with
    | none =>
      rw [hx] at hrow
      rw [Relational.secret, hrow]
      rfl
    | some x =>
      rw [hx] at hrow
      have hread := x.toSecret_toRow
      rw [hring key x hx] at hread
      exact Relational.secret_eq_some_iff.mpr ⟨x.toRow, hrow, hread⟩

/-- All secrets are answered in the order of the back end, and those that come before a period
are counted in it. -/
theorem exists_secrets (h : backend.Holds s ring) (hring : ring.Keyed) :
    ∃ xs : List Secret, (Store.secrets s).1 = .ok xs ∧ (∀ x, x ∈ xs ↔ ring[x.key]? = some x) ∧
      (xs.Pairwise fun x y => backend.Sooner x.key y.key) ∧
      ∀ c t period, (Store.removeSecretsBefore c t period s).1 =
        .ok (xs.countP fun x => backend.before c t period x.key) := by
  cases backend with
  | memory =>
    obtain rfl : (show Memory from s).secrets = ring := h
    have hkeys : (show Memory from s).secrets.values.map Secret.key =
        (show Memory from s).secrets.keys := by
      rw [Table.values_eq, ← Std.ExtTreeMap.map_fst_toList_eq_keys, List.map_map]
      exact List.map_congr_left fun e he => hring e.1 e.2 ((Table.mem_toList_iff _ e).mp he)
    refine ⟨_, rfl, fun x => ?_, ?_, fun c t period => ?_⟩
    · rw [Table.mem_values_iff]
      exact ⟨fun ⟨key, hkey⟩ => hring key x hkey ▸ hkey, fun hx => ⟨x.key, hx⟩⟩
    · refine List.pairwise_map.mp ?_
      rw [hkeys]
      exact Std.ExtTreeMap.ordered_keys.imp sooner_memory
    · refine congrArg Except.ok ?_
      show (show Memory from s).secrets.keys.countP _ = _
      rw [← hkeys, List.countP_map]
      exact List.countP_congr fun x _ => by rw [before_memory, Function.comp_apply]
  | relational =>
    obtain ⟨xs, hrows, hxs⟩ := Relational.Keeps.exists_rows h hring
    have hkeys : (show Relational from s).secrets.keys = xs.map fun x => SecretKey.toRaw x.key := by
      rw [← Std.ExtTreeMap.map_fst_toList_eq_keys, hrows, List.map_map]
      rfl
    refine ⟨xs, ?_, hxs, ?_, fun c t period => ?_⟩
    · show (show Relational from s).allSecrets = _
      have hread := mapM_eq_ok (g := id) xs fun x _ => x.toSecret_toRow
      rw [List.map_id] at hread
      rw [Relational.allSecrets, hrows, List.mapM_map]
      exact hread
    · have hordered : (s.secrets.keys : List RawSecretKey).Pairwise fun k k' =>
          compare k k' = .lt := Std.ExtTreeMap.ordered_keys
      rw [hkeys] at hordered
      exact (List.pairwise_map.mp hordered).imp sooner_relational
    · refine congrArg Except.ok ?_
      show (show Relational from s).secrets.keys.countP _ = _
      rw [hkeys, List.countP_map]
      exact List.countP_congr fun x _ => by rw [before_relational, Function.comp_apply]

/-! ### Changes -/

/-- A store whose secrets stayed holds what it held. -/
lemma spared {α : Type} (h : backend.Holds s ring) {operation : Operation α}
    (hspares : operation.sparesSecrets) {t : Turn backend.Data} (hs : t.engine.store = s) :
    backend.Holds (operation.act t).2.engine.store ring := by
  subst hs
  cases backend with
  | memory => exact (operation.within Memory.sparing hspares t).trans h
  | relational =>
    obtain ⟨hrows, hversions⟩ := operation.within Relational.sparing hspares t
    exact Relational.Keeps.congr h hrows hversions rfl

lemma removeContact (h : backend.Holds s ring) (c : ContactId) :
    backend.Holds (Store.removeContact c s).2 (ring.filter fun key _ => key.contact ≠ c) := by
  cases backend with
  | memory =>
    obtain rfl : (show Memory from s).secrets = ring := h
    rfl
  | relational => exact Relational.Keeps.removeContact h c

lemma addSecrets (h : backend.Holds s ring) {xs : List Secret}
    (hadd : Store.addSecrets xs s = (.ok (), s')) : backend.Holds s' (ring.add xs) := by
  obtain rfl : (Store.addSecrets xs s).2 = s' := congrArg Prod.snd hadd
  cases backend with
  | memory =>
    obtain rfl : (show Memory from s).secrets = ring := h
    rfl
  | relational =>
    have hcontacts := Relational.mem_contacts_of_addSecrets (congrArg Prod.fst hadd)
    exact (Relational.Keeps.addSecrets h hcontacts).2

lemma removeSecretsBefore (h : backend.Holds s ring) (c : ContactId) (t : TransportId)
    (period : UInt64) : backend.Holds (Store.removeSecretsBefore c t period s).2
      (ring.filter fun key _ => !backend.before c t period key) := by
  cases backend with
  | memory =>
    obtain rfl : (show Memory from s).secrets = ring := h
    rfl
  | relational =>
    refine Relational.Keeps.filter h
      (fun k => !(k.contact = c && k.item.transport = t && k.item.period < period.toInt64 : Bool))
      (!Backend.relational.before c t period ·) rfl rfl rfl fun key _ => ?_
    rw [before_relational]

lemma setConnectionWindow (h : backend.Holds s ring) (k : SecretKey) (window : Window) :
    backend.Holds (Store.setConnectionWindow k window s).2
      (ring.modify k fun x => { x with window }) := by
  cases backend with
  | memory =>
    obtain rfl : (show Memory from s).secrets = ring := h
    rfl
  | relational => exact (Relational.Keeps.setConnectionWindow h k window).2

/-- Connections are counted under a key that has a secret. -/
lemma incrementConnectionCounter (h : backend.Holds s ring) {k : SecretKey}
    {n : UInt64} (hcount : (Store.incrementConnectionCounter k s).1 = .ok (some n)) :
    backend.Holds (Store.incrementConnectionCounter k s).2
      (ring.modify k fun x => { x with outgoing := n }) := by
  cases backend with
  | memory =>
    obtain rfl : (show Memory from s).secrets = ring := h
    exact Memory.secrets_incrementConnectionCounter (Except.ok.inj hcount)
  | relational => exact Relational.Keeps.count h hcount

end Backend.Holds

end MessageSync
