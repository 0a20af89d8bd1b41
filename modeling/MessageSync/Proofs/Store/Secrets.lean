import MessageSync.Proofs.Table
import MessageSync.Proofs.Window
import MessageSync.Store.Memory
import MessageSync.Store.Relational

/-!
# Rows of secrets

A row stands for the secret that it was made of (`Secret.toSecret_toRow`), and a secret is
found under its own key only, as keys are told apart by their signed periods
(`SecretKey.toRaw_inj`). What the queries about secrets do to what is found under a key is
said here for the rows of a relational store.
-/

namespace MessageSync

lemma SecretKey.toRaw_inj {k k' : SecretKey} : k.toRaw = k'.toRaw ↔ k = k' := by
  constructor
  · intro h
    have hcontact : k.contact = k'.contact := congrArg (fun raw : RawSecretKey => raw.contact) h
    have htransport : k.item.transport = k'.item.transport :=
      congrArg (fun raw : RawSecretKey => raw.item.transport) h
    have hperiod : k.item.period = k'.item.period := by
      have hraw := congrArg (fun raw : RawSecretKey => raw.item.period.toUInt64) h
      rwa [toRaw, toRaw, UInt64.toUInt64_toInt64, UInt64.toUInt64_toInt64] at hraw
    exact ContactKey.ext hcontact (PeriodKey.ext htransport hperiod)
  · intro h
    rw [h]

/-! ## What rows stand for -/

/-- The secret that a row stands for, once its counter and its window make sense. -/
def SecretRow.with (row : SecretRow) (key : RawSecretKey) (outgoing : Int64) (window : Window) :
    Secret where
  contact := key.contact
  transport := key.item.transport
  epoch := row.epoch
  clockDiff := row.clockDiff
  latency := row.latency
  alice := row.alice
  period := key.item.period.toUInt64
  bytes := row.bytes
  outgoing := outgoing.toUInt64
  window

lemma SecretRow.toSecret_eq_ok_iff {row : SecretRow} {key : RawSecretKey} {x : Secret} :
    row.toSecret key = .ok x ↔ ∃ outgoing window, row.outgoing = some outgoing ∧
      Window.ofParts? row.centre.toUInt64 row.bitmap = some window ∧
        x = row.with key outgoing window := by
  unfold toSecret
  constructor
  · intro h
    split at h
    · next outgoing window hout hwindow =>
      exact ⟨outgoing, window, hout, hwindow, (Except.ok.inj h).symm⟩
    · cases h
  · rintro ⟨outgoing, window, hout, hwindow, rfl⟩
    rw [hout, hwindow]
    rfl

lemma Window.ofParts?_columns (w : Window) :
    ofParts? w.centre.toInt64.toUInt64 w.bitmapBytes = some w := by
  rw [UInt64.toUInt64_toInt64]
  exact w.ofParts?_bitmapBytes

/-- A row stands for the secret that it was made of. -/
theorem Secret.toSecret_toRow (x : Secret) : x.toRow.toSecret x.key.toRaw = .ok x := by
  refine SecretRow.toSecret_eq_ok_iff.mpr
    ⟨x.outgoing.toInt64, x.window, rfl, x.window.ofParts?_columns, ?_⟩
  simp only [SecretRow.with, toRow, key, SecretKey.toRaw, UInt64.toUInt64_toInt64]

/-- Secrets are stored under their own keys only. -/
lemma Memory.secrets_addSecrets (s : Memory) {key : SecretKey} {xs : List Secret}
    (h : key ∉ xs.map Secret.key) :
    (Store.addSecrets xs s).2.secrets[key]? = s.secrets[key]? := by
  show (Table.insertAll s.secrets (xs.map fun x => (x.key, x)))[key]? = s.secrets[key]?
  refine Table.getElem?_insertAll_of_not_mem _ _ _ fun entry hentry => ?_
  obtain ⟨x, hx, rfl⟩ := List.mem_map.mp hentry
  intro heq
  exact h (heq ▸ List.mem_map_of_mem hx)

namespace Relational

variable {s : Relational} {key : SecretKey}

/-- What is found under a key is in one row. -/
lemma secret_congr {s' : Relational} (h : s'.secrets[key.toRaw]? = s.secrets[key.toRaw]?) :
    s'.secret key = s.secret key := by
  simp only [secret, h]

lemma secret_eq_some_iff {x : Secret} : s.secret key = .ok (some x) ↔
    ∃ row, s.secrets[key.toRaw]? = some row ∧ row.toSecret key.toRaw = .ok x := by
  unfold secret
  cases s.secrets[key.toRaw]? with
  | none => simp
  | some row =>
    show (row.toSecret key.toRaw >>= fun x => pure (some x)) = _ ↔ _
    simp only [Option.some.injEq, exists_eq_left']
    cases row.toSecret key.toRaw with
    | error e => simp [bind, Except.bind]
    | ok y => simp [bind, Except.bind, pure, Except.pure]

/-! ## What queries do to them -/

/-- Secrets are stored under their own keys only. -/
lemma row_addSecrets (xs : List Secret) (h : key ∉ xs.map Secret.key) :
    (s.addSecrets xs).2.secrets[key.toRaw]? = s.secrets[key.toRaw]? := by
  induction xs generalizing s with
  | nil => rfl
  | cons x rest ih =>
    rw [List.map_cons, List.mem_cons, not_or] at h
    have hraw : ¬ SecretKey.toRaw x.key = key.toRaw :=
      fun heq => h.1 (SecretKey.toRaw_inj.mp heq).symm
    unfold addSecrets
    split
    · rw [ih h.2, Table.getElem?_insert, if_neg hraw]
    · rfl

/-- A secret has the window that was set for it. -/
lemma secret_setConnectionWindow {x : Secret} (h : s.secret key = .ok (some x))
    (window : Window) :
    (s.setConnectionWindow key window).2.secret key = .ok (some { x with window }) := by
  obtain ⟨row, hrow, hx⟩ := secret_eq_some_iff.mp h
  obtain ⟨outgoing, old, hout, -, rfl⟩ := SecretRow.toSecret_eq_ok_iff.mp hx
  refine secret_eq_some_iff.mpr
    ⟨{ row with centre := window.centre.toInt64, bitmap := window.bitmapBytes }, ?_, ?_⟩
  · rw [setConnectionWindow, Table.getElem?_modify, if_pos rfl, hrow]
    rfl
  · exact SecretRow.toSecret_eq_ok_iff.mpr
      ⟨outgoing, window, hout, window.ofParts?_columns, rfl⟩

lemma row_setConnectionWindow {k : SecretKey} (h : k ≠ key) (window : Window) :
    (s.setConnectionWindow k window).2.secrets[key.toRaw]? = s.secrets[key.toRaw]? := by
  rw [setConnectionWindow, Table.getElem?_modify, if_neg (mt SecretKey.toRaw_inj.mp h)]

/-- Counting connections changes the counter of one row. -/
lemma incrementConnectionCounter_snd (s : Relational) (k : SecretKey) :
    (s.incrementConnectionCounter k).2 =
      { s with secrets := s.secrets.modify k.toRaw fun row =>
        { row with outgoing := row.outgoing.bind countOn } } := by
  unfold incrementConnectionCounter
  split
  · next hnone =>
    have hsame : s.secrets.modify k.toRaw (fun row =>
        { row with outgoing := row.outgoing.bind countOn }) = s.secrets :=
      Table.modify_eq_self fun row hrow => by simp [hnone] at hrow
    rw [hsame]
  · next row hrow =>
    have hmodify := Table.insert_eq_modify hrow fun row : SecretRow =>
      { row with outgoing := row.outgoing.bind countOn }
    dsimp only at hmodify ⊢
    split
    · next heq => rw [← hmodify, heq]
    · next heq => rw [← hmodify, heq]

/-- A secret whose connections were counted has the window that it had. -/
lemma secret_incrementConnectionCounter {k : SecretKey} {x : Secret}
    (h : (s.incrementConnectionCounter k).2.secret key = .ok (some x)) :
    ∃ y, s.secret key = .ok (some y) ∧ y.window = x.window := by
  rw [incrementConnectionCounter_snd] at h
  obtain ⟨row, hrow, hx⟩ := secret_eq_some_iff.mp h
  rw [Table.getElem?_modify] at hrow
  by_cases hk : k.toRaw = key.toRaw
  · rw [if_pos hk] at hrow
    obtain ⟨old, hold, rfl⟩ := Option.map_eq_some_iff.mp hrow
    obtain ⟨outgoing, window, hout, hwindow, rfl⟩ := SecretRow.toSecret_eq_ok_iff.mp hx
    obtain ⟨before, hbefore, -⟩ := Option.bind_eq_some_iff.mp hout
    have hy : old.toSecret key.toRaw = .ok (old.with key.toRaw before window) :=
      SecretRow.toSecret_eq_ok_iff.mpr ⟨before, window, hbefore, hwindow, rfl⟩
    exact ⟨_, secret_eq_some_iff.mpr ⟨old, hold, hy⟩, rfl⟩
  · rw [if_neg hk] at hrow
    exact ⟨x, secret_eq_some_iff.mpr ⟨row, hrow, hx⟩, rfl⟩

/-- What is left when rows are deleted was there. -/
lemma secret_of_filter {keep : RawSecretKey → SecretRow → Bool} {x : Secret} {s' : Relational}
    (hs' : s'.secrets = s.secrets.filter keep) (h : s'.secret key = .ok (some x)) :
    s.secret key = .ok (some x) := by
  obtain ⟨row, hrow, hx⟩ := secret_eq_some_iff.mp h
  rw [hs', Std.ExtTreeMap.getElem?_filter'] at hrow
  exact secret_eq_some_iff.mpr ⟨row, (Option.filter_eq_some_iff.mp hrow).1, hx⟩

end Relational

end MessageSync
