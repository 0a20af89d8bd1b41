import MessageSync.Proofs.Engine.Backend
import MessageSync.Proofs.Store.Secrets
import MessageSync.Proofs.Window

/-!
# Replayed connection numbers

The window under a key moves in one way only, as long as no secret is stored under the key:
an incoming connection is accepted by it (`Engine.window_step`). Once a number is used, the
window refuses it, and goes on to refuse it; a number is therefore accepted at most once
(`Backend.accepted_run`).

The greatest number is an exception. A window stops short of it, so that it counts as
above every window, and is accepted over and over (`Backend.not_accepted_once`).
-/

namespace MessageSync

/-! ## Numbers that are accepted -/

/-- The keys under which an operation with this answer stored secrets. -/
def Operation.stored : {α : Type} → Operation α → α → List SecretKey
  | _, .addSecrets xs, _ => xs.map Secret.key
  | _, .rotateSecret _ _ _, rotated => [Secret.key rotated]
  | _, _, _ => []

section

variable {σ : Type} [Store σ]

/-- The keys under which a step stores secrets; none if it fails. -/
def Step.stored (e : Engine σ) : Step → List SecretKey
  | .perform operation sink =>
    match (operation.act.runOn e sink).1 with
    | .ok answer => operation.stored answer
    | .error _ => []
  | _ => []

/-- The number of an incoming connection that a step accepts under a key. -/
def Step.accepted (e : Engine σ) (key : SecretKey) : Step → Option UInt64
  | .perform (.acceptIncoming k n) sink =>
    match ((Engine.acceptIncoming k n).runOn e sink).1 with
    | .ok () => if k = key then some n else none
    | .error _ => none
  | _ => none

/-- The numbers of incoming connections that a history accepts under a key, in turn. -/
def Engine.accepted (key : SecretKey) : Engine σ → List Step → List UInt64
  | _, [] => []
  | e, step :: rest => (step.accepted e key).toList ++ accepted key (e.step step) rest

lemma Step.stored_of_ok {α : Type} {operation : Operation α} {e : Engine σ} {sink : Sink} {a : α}
    (h : (operation.act.runOn e sink).1 = .ok a) :
    (Step.perform operation sink).stored e = operation.stored a := by
  simp only [stored, h]

lemma Step.accepted_of_ok {k : SecretKey} {n : UInt64} {e : Engine σ} {sink : Sink}
    (key : SecretKey) (h : ((Engine.acceptIncoming k n).runOn e sink).1 = .ok ()) :
    (Step.perform (.acceptIncoming k n) sink).accepted e key =
      if k = key then some n else none := by
  simp only [accepted, h]

lemma Step.exists_of_accepted {step : Step} {e : Engine σ} {key : SecretKey} {n : UInt64}
    (h : step.accepted e key = some n) :
    ∃ sink, step = .perform (.acceptIncoming key n) sink ∧
      ((Engine.acceptIncoming key n).runOn e sink).1 = .ok () := by
  unfold accepted at h
  split at h
  · next k m sink =>
    split at h
    · next hanswer =>
      split at h
      · next hk =>
        cases h
        subst hk
        exact ⟨sink, rfl, hanswer⟩
      · cases h
    · cases h
  · cases h

/-- The window of the secret that is found under a key. -/
def Store.window (s : σ) (key : SecretKey) : Option Window :=
  match (Store.secret key s).1 with
  | .ok (some x) => some x.window
  | _ => none

end

/-! ## Stores that keep windows -/

/-- A store whose windows are only moved by setting them. -/
structure KeepsWindows (σ : Type) [Store σ] : Prop where
  spared : ∀ {α : Type} (operation : Operation α) (t : Turn σ) (key : SecretKey),
    operation.sparesSecrets →
      Store.window (operation.act t).2.engine.store key = Store.window t.engine.store key
  containsContact : ∀ c (s : σ), (Store.containsContact c s).2 = s
  secret : ∀ key (s : σ), (Store.secret key s).2 = s
  addSecrets : ∀ {key xs} (s : σ), key ∉ xs.map Secret.key →
    Store.window (Store.addSecrets xs s).2 key = Store.window s key
  setConnectionWindow : ∀ {key w} window (s : σ), Store.window s key = some w →
    (Store.setConnectionWindow key window s).1 = .ok true ∧
      Store.window (Store.setConnectionWindow key window s).2 key = some window
  other : ∀ {key k} window (s : σ), k ≠ key →
    Store.window (Store.setConnectionWindow k window s).2 key = Store.window s key
  incrementConnectionCounter : ∀ {key w} k (s : σ),
    Store.window (Store.incrementConnectionCounter k s).2 key = some w →
      Store.window s key = some w
  removeSecretsBefore : ∀ {key w} c t period (s : σ),
    Store.window (Store.removeSecretsBefore c t period s).2 key = some w →
      Store.window s key = some w
  removeContact : ∀ {key w} c (s : σ),
    Store.window (Store.removeContact c s).2 key = some w → Store.window s key = some w

lemma Store.window_eq_some_iff {σ : Type} [Store σ] {s : σ} {key : SecretKey} {w : Window} :
    Store.window s key = some w ↔
      ∃ x, (Store.secret key s).1 = .ok (some x) ∧ x.window = w := by
  unfold Store.window
  split
  · next x hx => simp [hx]
  · next hnot =>
    simp only [reduceCtorEq, false_iff, not_exists, not_and]
    intro x hx
    exact absurd hx (hnot x)

/-- Windows in memory are those of the secrets in the table. -/
lemma Memory.window_eq (s : Memory) (key : SecretKey) :
    Store.window s key = (s.secrets[key]?).map Secret.window := by
  have hanswer : (Store.secret key s).1 = .ok (s.secrets[key]?) := rfl
  unfold Store.window
  rw [hanswer]
  cases s.secrets[key]? <;> rfl

lemma Memory.window_congr {s s' : Memory} {key : SecretKey}
    (h : s'.secrets[key]? = s.secrets[key]?) : Store.window s' key = Store.window s key := by
  rw [window_eq, window_eq, h]

/-- What is left in memory when secrets are deleted was there. -/
lemma Memory.window_of_filter {s s' : Memory} {keep : SecretKey → Secret → Bool} {key : SecretKey}
    {w : Window} (hs' : s'.secrets = s.secrets.filter keep) (h : Store.window s' key = some w) :
    Store.window s key = some w := by
  rw [window_eq, hs', Std.ExtTreeMap.getElem?_filter'] at h
  obtain ⟨x, hx, hw⟩ := Option.map_eq_some_iff.mp h
  rw [window_eq, (Option.filter_eq_some_iff.mp hx).1]
  exact congrArg some hw

lemma Memory.keepsWindows : KeepsWindows Memory where
  spared operation t key h := Memory.window_congr <|
    congrArg (fun secrets : Table SecretKey Secret => secrets[key]?)
      (operation.within Memory.sparing h t)
  containsContact _ _ := rfl
  secret _ _ := rfl
  addSecrets s h := Memory.window_congr (s.secrets_addSecrets h)
  setConnectionWindow := by
    intro key w window s h
    rw [Memory.window_eq] at h
    obtain ⟨x, hx, -⟩ := Option.map_eq_some_iff.mp h
    have hmem : s.secrets.contains key = true :=
      Std.ExtTreeMap.contains_iff_mem.mpr (Table.mem_of_getElem? hx)
    refine ⟨congrArg Except.ok hmem, ?_⟩
    rw [Memory.window_eq]
    show ((s.secrets.modify key _)[key]?).map _ = _
    rw [Table.getElem?_modify, if_pos rfl, hx]
    rfl
  other := by
    intro key k window s h
    refine Memory.window_congr ?_
    show (s.secrets.modify k _)[key]? = _
    rw [Table.getElem?_modify, if_neg h]
  incrementConnectionCounter := by
    intro key w k s h
    rw [← h]
    show Store.window s key = Store.window (s.incrementConnectionCounter k).2 key
    unfold Memory.incrementConnectionCounter
    cases hk : s.secrets[k]? with
    | none => rfl
    | some x =>
      rw [Memory.window_eq, Memory.window_eq]
      dsimp only
      rw [Table.getElem?_insert]
      by_cases heq : k = key
      · subst heq
        rw [if_pos rfl, hk]
        rfl
      · rw [if_neg heq]
  removeSecretsBefore _ _ _ _ h := Memory.window_of_filter rfl h
  removeContact _ _ h := Memory.window_of_filter rfl h

lemma Relational.window_congr {s s' : Relational} {key : SecretKey}
    (h : s'.secrets[key.toRaw]? = s.secrets[key.toRaw]?) :
    Store.window s' key = Store.window s key := by
  have hanswer : (Store.secret key s').1 = (Store.secret key s).1 := secret_congr h
  simp only [Store.window, hanswer]

lemma Relational.window_of_filter {s s' : Relational} {keep : RawSecretKey → SecretRow → Bool}
    {key : SecretKey} {w : Window} (hs' : s'.secrets = s.secrets.filter keep)
    (h : Store.window s' key = some w) : Store.window s key = some w := by
  obtain ⟨x, hx, hw⟩ := Store.window_eq_some_iff.mp h
  exact Store.window_eq_some_iff.mpr ⟨x, secret_of_filter hs' hx, hw⟩

lemma Relational.keepsWindows : KeepsWindows Relational where
  spared operation t key h := Relational.window_congr <|
    congrArg (fun secrets : Table RawSecretKey SecretRow => secrets[key.toRaw]?)
      (operation.within Relational.sparing h t).secrets
  containsContact _ _ := rfl
  secret _ _ := rfl
  addSecrets _ h := Relational.window_congr (Relational.row_addSecrets _ h)
  setConnectionWindow := by
    intro key w window s h
    obtain ⟨x, hx, -⟩ := Store.window_eq_some_iff.mp h
    obtain ⟨row, hrow, -⟩ := Relational.secret_eq_some_iff.mp hx
    have hmem : s.secrets.contains key.toRaw = true :=
      Std.ExtTreeMap.contains_iff_mem.mpr (Table.mem_of_getElem? hrow)
    have hset := Relational.secret_setConnectionWindow hx window
    exact ⟨congrArg Except.ok hmem, Store.window_eq_some_iff.mpr ⟨_, hset, rfl⟩⟩
  other window _ h := Relational.window_congr (Relational.row_setConnectionWindow h window)
  incrementConnectionCounter := by
    intro key w k s h
    obtain ⟨x, hx, hw⟩ := Store.window_eq_some_iff.mp h
    obtain ⟨y, hy, hsame⟩ := Relational.secret_incrementConnectionCounter hx
    exact Store.window_eq_some_iff.mpr ⟨y, hy, hsame.trans hw⟩
  removeSecretsBefore _ _ _ _ h := Relational.window_of_filter rfl h
  removeContact _ _ h := Relational.window_of_filter rfl h

/-! ## What a step does to a window -/

namespace KeepsWindows

variable {σ : Type} [Store σ] {key : SecretKey}

/-- A store that has no window under a key but the one that was there. -/
def Fades (key : SecretKey) (s s' : σ) : Prop :=
  ∀ w, Store.window s' key = some w → Store.window s key = some w

lemma frame_fades : Frame (Fades key : σ → σ → Prop) where
  refl _ _ h := h
  trans h h' w hw := h w (h' w hw)

/-- What comes of requiring a contact, if there is one. -/
lemma requireContact_eq_ok (hσ : KeepsWindows σ) {c : ContactId} {st st' : σ × Sink}
    (h : Txn.requireContact c st = (.ok (), st')) : st'.1 = st.1 := by
  obtain ⟨found, mid, hfound, hrest⟩ := Txn.bind_eq_ok h
  have hmid : mid.1 = st.1 := by
    have hread := hσ.containsContact c st.1
    rwa [Txn.query_eq_ok hfound] at hread
  cases found with
  | true =>
    cases hrest
    exact hmid
  | false => cases hrest

/-- A contact that exists may be required. -/
lemma requireContact_of_contains (hσ : KeepsWindows σ) {c : ContactId} {s : σ} {sink : Sink}
    (h : (Store.containsContact c s).1 = .ok true) :
    Txn.requireContact c (s, sink) = (.ok (), (s, sink)) := by
  have hquery : Store.containsContact c s = (.ok true, s) := Prod.ext h (hσ.containsContact c s)
  rw [Txn.requireContact, Txn.bind_apply, Txn.query_of_ok hquery]
  rfl

lemma requireSecret_eq_ok (hσ : KeepsWindows σ) {k : SecretKey} {st st' : σ × Sink} {x : Secret}
    (h : Engine.requireSecret k st = (.ok x, st')) :
    st'.1 = st.1 ∧ (Store.secret k st.1).1 = .ok (some x) := by
  obtain ⟨found, mid, hfound, hrest⟩ := Txn.bind_eq_ok h
  have hread := hσ.secret k st.1
  rw [Txn.query_eq_ok hfound] at hread ⊢
  cases found with
  | none => cases hrest
  | some y =>
    cases hrest
    exact ⟨hread, rfl⟩

/-- Accepting a connection sets the window to what it becomes by the number. -/
lemma acceptIncoming_eq_ok (hσ : KeepsWindows σ) {k : SecretKey} {n : UInt64} {t : Turn σ}
    (h : (Engine.acceptIncoming k n t).1 = .ok ()) :
    ∃ w v, Store.window t.engine.store k = some w ∧ w.accept n = .ok v ∧
      (Engine.acceptIncoming k n t).2.engine.store =
        (Store.setConnectionWindow k v t.engine.store).2 := by
  obtain ⟨sink, hbody⟩ := Act.transaction_eq_ok h
  obtain ⟨_, mid, hcontact, hbody⟩ := Txn.bind_eq_ok hbody
  have hmid : mid.1 = t.engine.store := hσ.requireContact_eq_ok hcontact
  obtain ⟨x, mid', hsecret, hbody⟩ := Txn.bind_eq_ok hbody
  obtain ⟨hmid', hx⟩ := hσ.requireSecret_eq_ok hsecret
  rw [hmid] at hx hmid'
  have hwindow : Store.window t.engine.store k = some x.window :=
    Store.window_eq_some_iff.mpr ⟨x, hx, rfl⟩
  cases haccept : x.window.accept n with
  | error refusal =>
    rw [haccept] at hbody
    cases hbody
  | ok v =>
    rw [haccept] at hbody
    refine ⟨x.window, v, hwindow, haccept, ?_⟩
    obtain ⟨_, hset⟩ := Txn.discard_eq_ok hbody
    have hstore := Txn.query_eq_ok hset
    rw [hmid'] at hstore
    rw [hstore]
    rfl

/-- Rotating a secret answers what comes of it, and stores the answer. -/
lemma exists_rotated (hσ : KeepsWindows σ) {k : SecretKey} {period : UInt64} {bytes : Bytes}
    {t : Turn σ} {x : Secret} (h : (Engine.rotateSecret k period bytes t).1 = .ok x) :
    ∃ old, (Store.secret k t.engine.store).1 = .ok (some old) ∧ x = old.rotate period bytes ∧
      Store.addSecrets [x] t.engine.store =
        (.ok (), (Engine.rotateSecret k period bytes t).2.engine.store) := by
  obtain ⟨sink, hbody⟩ := Act.transaction_eq_ok h
  obtain ⟨_, mid, hcontact, hbody⟩ := Txn.bind_eq_ok hbody
  have hmid : mid.1 = t.engine.store := hσ.requireContact_eq_ok hcontact
  obtain ⟨old, mid', hsecret, hbody⟩ := Txn.bind_eq_ok hbody
  obtain ⟨hmid', hold⟩ := hσ.requireSecret_eq_ok hsecret
  obtain ⟨_, last, hadd, hbody⟩ := Txn.bind_eq_ok hbody
  have hanswer : old.rotate period bytes = x := Except.ok.inj (congrArg Prod.fst hbody)
  have hlast : last.1 = (Engine.rotateSecret k period bytes t).2.engine.store :=
    congrArg (·.2.1) hbody
  have hquery := Txn.query_eq_ok hadd
  rw [hmid', hmid, hanswer, hlast] at hquery
  rw [hmid] at hold
  exact ⟨old, hold, hanswer.symm, hquery⟩

lemma rotateSecret_eq_ok (hσ : KeepsWindows σ) {k : SecretKey} {period : UInt64} {bytes : Bytes}
    {t : Turn σ} {x : Secret} (h : (Engine.rotateSecret k period bytes t).1 = .ok x) :
    (Engine.rotateSecret k period bytes t).2.engine.store =
      (Store.addSecrets [x] t.engine.store).2 := by
  obtain ⟨-, -, -, hadd⟩ := hσ.exists_rotated h
  rw [hadd]

lemma fades_containsContact (hσ : KeepsWindows σ) (c : ContactId) (s : σ) :
    Fades key s (Store.containsContact c s).2 := by
  rw [hσ.containsContact]
  exact frame_fades.refl s

/-- Adding secrets lets the window be under a key that is none of theirs. -/
lemma within_addSecrets (hσ : KeepsWindows σ) {xs : List Secret} (h : key ∉ xs.map Secret.key) :
    Act.Within (Fades key) (Engine.addSecrets xs : Act σ Unit) := by
  have hadd (s : σ) : Fades key s (Store.addSecrets xs s).2 := by
    intro w hw
    rwa [hσ.addSecrets s h] at hw
  exact Act.within_transaction frame_fades (Txn.stays_bind frame_fades
    (Txn.stays_requireAll frame_fades hσ.fades_containsContact _) fun _ => Txn.stays_query hadd)

lemma within_nextOutgoing (hσ : KeepsWindows σ) (k : SecretKey) :
    Act.Within (Fades key) (Engine.nextOutgoing k : Act σ UInt64) := by
  have hcount (s : σ) : Fades key s (Store.incrementConnectionCounter k s).2 :=
    fun _ => hσ.incrementConnectionCounter k s
  refine Act.within_transaction frame_fades (Txn.stays_bind frame_fades
    (Txn.stays_requireContact frame_fades (hσ.fades_containsContact _)) fun _ => ?_)
  refine Txn.stays_bind frame_fades (Txn.stays_query hcount) fun found => ?_
  cases found with
  | none => exact Txn.stays_throw frame_fades _
  | some n => exact Txn.stays_pure frame_fades n

/-- The window after secrets were added elsewhere, or not at all, was there before. -/
lemma window_of_addSecrets (hσ : KeepsWindows σ) {xs : List Secret} {t : Turn σ} {v : Window}
    (h : (Engine.addSecrets xs t).1 = .ok () → key ∉ xs.map Secret.key)
    (hv : Store.window (Engine.addSecrets xs t).2.engine.store key = some v) :
    Store.window t.engine.store key = some v := by
  cases hanswer : (Engine.addSecrets xs t).1 with
  | error refusal =>
    have hsame : (Engine.addSecrets xs t).2.engine.store = _ := Act.transaction_eq_error hanswer
    rwa [hsame] at hv
  | ok answer => exact hσ.within_addSecrets (h hanswer) t v hv

/-- The window after a secret was rotated elsewhere, or not at all, was there before. -/
lemma window_of_rotateSecret (hσ : KeepsWindows σ) {k : SecretKey} {period : UInt64}
    {bytes : Bytes} {t : Turn σ} {v : Window}
    (h : ∀ x, (Engine.rotateSecret k period bytes t).1 = .ok x → key ∉ [x].map Secret.key)
    (hv : Store.window (Engine.rotateSecret k period bytes t).2.engine.store key = some v) :
    Store.window t.engine.store key = some v := by
  cases hanswer : (Engine.rotateSecret k period bytes t).1 with
  | error refusal =>
    have hsame : (Engine.rotateSecret k period bytes t).2.engine.store = _ :=
      Act.transaction_eq_error hanswer
    rwa [hsame] at hv
  | ok x => rwa [hσ.rotateSecret_eq_ok hanswer, hσ.addSecrets _ (h x hanswer)] at hv

/-- The window after an incoming connection was there before, or became this by it. -/
lemma window_of_acceptIncoming (hσ : KeepsWindows σ) {k : SecretKey} {n : UInt64} {t : Turn σ}
    {v : Window} (hv : Store.window (Engine.acceptIncoming k n t).2.engine.store key = some v) :
    Store.window t.engine.store key = some v ∨
      k = key ∧ (Engine.acceptIncoming k n t).1 = .ok () ∧
        ∃ w, Store.window t.engine.store key = some w ∧ w.accept n = .ok v := by
  cases hanswer : (Engine.acceptIncoming k n t).1 with
  | error refusal =>
    have hsame : (Engine.acceptIncoming k n t).2.engine.store = _ :=
      Act.transaction_eq_error hanswer
    rw [hsame] at hv
    exact .inl hv
  | ok answer =>
    obtain ⟨w, u, hw, haccept, hstore⟩ := hσ.acceptIncoming_eq_ok hanswer
    rw [hstore] at hv
    by_cases hk : k = key
    · subst hk
      rw [(hσ.setConnectionWindow u _ hw).2] at hv
      cases hv
      exact .inr ⟨rfl, rfl, w, hw, haccept⟩
    · rw [hσ.other u _ hk] at hv
      exact .inl hv

end KeepsWindows

/-- A step after which there is a window under a key, and which stores no secret there,
found that window, or accepted a connection by which the old window became it. -/
theorem Engine.window_step {σ : Type} [Store σ] (hσ : KeepsWindows σ) {e : Engine σ}
    {step : Step} {key : SecretKey} {v : Window} (hstored : key ∉ step.stored e)
    (hv : Store.window (e.step step).store key = some v) :
    Store.window e.store key = some v ∨ ∃ n w, step.accepted e key = some n ∧
      Store.window e.store key = some w ∧ w.accept n = .ok v := by
  cases step with
  | setClock now => exact .inl hv
  | setGate gate => exact .inl hv
  | perform operation sink =>
    let t : Turn σ := ⟨e, [], sink⟩
    change Store.window (operation.act t).2.engine.store key = some v at hv
    by_cases hspared : operation.sparesSecrets
    · rw [hσ.spared operation t key hspared] at hv
      exact .inl hv
    cases operation with
    | removeContact c =>
      have hfades (s : σ) : KeepsWindows.Fades key s (Store.removeContact c s).2 :=
        fun _ => hσ.removeContact c s
      have hremove := Act.within_askAbout KeepsWindows.frame_fades
        (hσ.fades_containsContact c) hfades
      have hwithin := Act.within_bind KeepsWindows.frame_fades hremove fun _ =>
        Act.within_emit KeepsWindows.frame_fades (.contactRemoved c)
      exact .inl (hwithin t v hv)
    | addSecrets xs =>
      refine .inl (hσ.window_of_addSecrets (t := t) (fun hanswer => ?_) hv)
      have hdone : ((Operation.addSecrets xs).act.runOn e sink).1 = .ok () := hanswer
      rwa [Step.stored_of_ok hdone] at hstored
    | rotateSecret k period bytes =>
      refine .inl (hσ.window_of_rotateSecret (t := t) (fun x hanswer => ?_) hv)
      have hdone : ((Operation.rotateSecret k period bytes).act.runOn e sink).1 = .ok x := hanswer
      rwa [Step.stored_of_ok hdone] at hstored
    | removeSecretsBefore c transport period =>
      have hfades (s : σ) :
          KeepsWindows.Fades key s (Store.removeSecretsBefore c transport period s).2 :=
        fun _ => hσ.removeSecretsBefore c transport period s
      have hremove := Act.within_askAbout KeepsWindows.frame_fades
        (hσ.fades_containsContact c) hfades
      exact .inl (hremove t v hv)
    | nextOutgoing k => exact .inl (hσ.within_nextOutgoing k t v hv)
    | acceptIncoming k n =>
      rcases hσ.window_of_acceptIncoming (t := t) hv with hold | ⟨hk, hanswer, w, hw, haccept⟩
      · exact .inl hold
      · have haccepted := Step.accepted_of_ok key hanswer
        rw [if_pos hk] at haccepted
        exact .inr ⟨n, w, haccepted, hw, haccept⟩
    | _ => exact absurd rfl hspared

/-- A step that accepts a connection moves the window under its key by the number. -/
lemma Step.window_of_accepted {σ : Type} [Store σ] (hσ : KeepsWindows σ) {e : Engine σ}
    {step : Step} {key : SecretKey} {n : UInt64} (h : step.accepted e key = some n) :
    ∃ w v, Store.window e.store key = some w ∧ w.accept n = .ok v ∧
      Store.window (e.step step).store key = some v := by
  obtain ⟨sink, rfl, hanswer⟩ := exists_of_accepted h
  obtain ⟨w, v, hw, haccept, hstore⟩ := hσ.acceptIncoming_eq_ok hanswer
  refine ⟨w, v, hw, haccept, ?_⟩
  have hafter : (e.step (.perform (.acceptIncoming key n) sink)).store = _ := hstore
  rw [hafter]
  exact (hσ.setConnectionWindow v e.store hw).2

/-! ## Numbers that no window lets through -/

/-- Whether the window under a key refuses a number, if there is one. -/
def Store.Bars {σ : Type} [Store σ] (s : σ) (key : SecretKey) (n : UInt64) : Prop :=
  ∀ w, Store.window s key = some w → w.Refuses n

section

variable {σ : Type} [Store σ] {e : Engine σ} {first : Step} {key : SecretKey} {n : UInt64}

/-- What is refused goes on to be refused. -/
lemma Store.Bars.step (hσ : KeepsWindows σ) (hstored : key ∉ first.stored e)
    (h : Store.Bars e.store key n) : Store.Bars (e.step first).store key n := by
  intro v hv
  rcases Engine.window_step hσ hstored hv with hold | ⟨m, w, -, hw, haccept⟩
  · exact h v hold
  · exact (h w hw).accept haccept

lemma Store.Bars.not_accepted (hσ : KeepsWindows σ) (h : Store.Bars e.store key n) :
    first.accepted e key ≠ some n := by
  intro haccepted
  obtain ⟨w, v, hw, haccept, -⟩ := Step.window_of_accepted hσ haccepted
  obtain ⟨refusal, hrefusal⟩ := (w.accept_eq_error_iff n).mpr (h w hw)
  rw [hrefusal] at haccept
  cases haccept

/-- A number that is accepted is refused afterwards, unless it is the greatest one. -/
lemma Step.bars_of_accepted (hσ : KeepsWindows σ) (hn : n.toNat ≠ Window.greatest)
    (h : first.accepted e key = some n) : Store.Bars (e.step first).store key n := by
  obtain ⟨w, v, -, haccept, hv⟩ := window_of_accepted hσ h
  intro v' hv'
  rw [hv] at hv'
  cases hv'
  exact Window.refuses_of_accept haccept hn

/-- No history accepts a number that is refused. -/
lemma Store.Bars.run (hσ : KeepsWindows σ) {history : List Step}
    (hstored : e.Always (fun e step => key ∉ step.stored e) history)
    (h : Store.Bars e.store key n) : n ∉ e.accepted key history := by
  induction history generalizing e with
  | nil => exact List.not_mem_nil
  | cons first rest ih =>
    have hrest := ih hstored.2 (h.step hσ hstored.1)
    have hfirst : n ∉ (first.accepted e key).toList := by
      rw [Option.mem_toList]
      exact h.not_accepted hσ
    intro hmem
    rcases List.mem_append.mp hmem with hmem | hmem
    · exact hfirst hmem
    · exact hrest hmem

/-- A history accepts each number at most once, but for the greatest one. -/
lemma Engine.count_accepted_le_one (hσ : KeepsWindows σ) (hn : n.toNat ≠ Window.greatest)
    {history : List Step} (hstored : e.Always (fun e step => key ∉ step.stored e) history) :
    (e.accepted key history).count n ≤ 1 := by
  induction history generalizing e with
  | nil => exact Nat.zero_le 1
  | cons first rest ih =>
    show ((first.accepted e key).toList ++ (e.step first).accepted key rest).count n ≤ 1
    rw [List.count_append]
    have hrest := ih hstored.2
    by_cases hfirst : first.accepted e key = some n
    · have hnone := List.count_eq_zero.mpr
        ((Step.bars_of_accepted hσ hn hfirst).run hσ hstored.2)
      rw [hfirst, hnone]
      simp
    · have hzero : (first.accepted e key).toList.count n = 0 := by
        rw [List.count_eq_zero, Option.mem_toList]
        exact hfirst
      omega

/-- A connection is accepted if its contact and its secret are there and the window takes
its number. -/
lemma Engine.acceptIncoming_of_accept (hσ : KeepsWindows σ) {t : Turn σ} {x : Secret}
    {v : Window} (hcontact : (Store.containsContact key.contact t.engine.store).1 = .ok true)
    (hx : (Store.secret key t.engine.store).1 = .ok (some x))
    (haccept : x.window.accept n = .ok v) :
    (Engine.acceptIncoming key n t).1 = .ok () := by
  let s := t.engine.store
  have hsecret : Engine.requireSecret key (s, t.sink) = (.ok x, (s, t.sink)) := by
    have hquery : Store.secret key s = (.ok (some x), s) := Prod.ext hx (hσ.secret _ s)
    rw [Engine.requireSecret, Txn.bind_apply, Txn.query_of_ok hquery]
    rfl
  have hset : (discard (Txn.query (Store.setConnectionWindow key v)) : Txn σ Unit) (s, t.sink) =
      (.ok (), ((Store.setConnectionWindow key v s).2, t.sink)) := by
    have hwindow := Store.window_eq_some_iff.mpr ⟨x, hx, rfl⟩
    have hquery : Store.setConnectionWindow key v s =
        (.ok true, (Store.setConnectionWindow key v s).2) :=
      Prod.ext (hσ.setConnectionWindow v s hwindow).1 rfl
    show ((fun _ => ()) <$> Txn.query (Store.setConnectionWindow key v)) (s, t.sink) = _
    rw [Txn.map_apply, Txn.query_of_ok hquery]
  apply Act.transaction_of_ok
  rw [Txn.bind_apply, hσ.requireContact_of_contains hcontact]
  dsimp only
  rw [Txn.bind_apply, hsecret]
  dsimp only
  rw [haccept]
  exact hset

end

/-! ## Over both stores -/

lemma Backend.keepsWindows (backend : Backend) : KeepsWindows backend.Data :=
  match backend with
  | .memory => Memory.keepsWindows
  | .relational => Relational.keepsWindows

/-- From any state of either store, and while no secret is stored under a key, each number
of an incoming connection but the greatest one is accepted at most once. The greatest one is
accepted whenever there is a secret. -/
theorem Backend.accepted_run (backend : Backend) (e : Engine backend.Data) (key : SecretKey)
    (history : List Step) (h : e.Always (fun e step => key ∉ step.stored e) history) :
    (∀ n : UInt64, n.toNat ≠ Window.greatest → (e.accepted key history).count n ≤ 1) ∧
      ∀ (n : UInt64) (sink : Sink) (x : Secret), n.toNat = Window.greatest →
        (e.run history).view (Store.containsContact key.contact) = .ok true →
          (e.run history).view (Store.secret key) = .ok (some x) →
            (Step.perform (.acceptIncoming key n) sink).accepted (e.run history) key = some n := by
  have hσ := backend.keepsWindows
  refine ⟨fun n hn => Engine.count_accepted_le_one hσ hn h, fun n sink x hn hcontact hx => ?_⟩
  obtain ⟨v, haccept⟩ : ∃ v, x.window.accept n = .ok v := by
    cases haccept : x.window.accept n with
    | ok v => exact ⟨v, rfl⟩
    | error refusal =>
      have hrefuses := (x.window.accept_eq_error_iff n).mp ⟨refusal, haccept⟩
      exact absurd hrefuses (x.window.not_refuses_greatest hn)
  have hanswer : ((Engine.acceptIncoming key n).runOn (e.run history) sink).1 = .ok () :=
    Engine.acceptIncoming_of_accept hσ hcontact hx haccept
  rw [Step.accepted_of_ok key hanswer, if_pos rfl]

/-! ## The greatest number -/

namespace Sample

def secret : Secret :=
  ⟨⟨1⟩, ⟨1⟩, 0, 1, 1, true, 7, [9], 0, .fresh⟩

/-- There is a contact, with a secret. -/
def keeping : List Step :=
  [.perform (.addContact ∅) {}, .perform (.addSecrets [secret]) {}]

/-- A connection with this number comes in. -/
def accept (n : UInt64) : Step := .perform (.acceptIncoming secret.key n) {}

/-- Two numbers, the second one the greatest, come in twice. -/
def reuse : List Step := [accept 5, accept 5, accept (-1), accept (-1)]

/-- The engine with a secret. -/
def keeper : Engine Memory := (Engine.start Memory.empty {} 0).run keeping

lemma not_stored_reuse (step : Step) (h : step ∈ reuse) (e : Engine Memory) :
    secret.key ∉ step.stored e := by
  simp only [reuse, accept, List.mem_cons, List.not_mem_nil, or_false] at h
  rcases h with rfl | rfl | rfl | rfl
  all_goals
    simp only [Step.stored, Operation.stored]
    split <;> exact List.not_mem_nil

lemma accepted_keeper : keeper.accepted secret.key reuse = [5, -1, -1] := by
  decide +kernel

end Sample

/-- After two numbers came in twice, each of them but the greatest one was accepted at most
once, and the greatest one still is accepted. -/
theorem Backend.accepted_reuse :
    (∀ n : UInt64, n.toNat ≠ Window.greatest →
      (Sample.keeper.accepted Sample.secret.key Sample.reuse).count n ≤ 1) ∧
    (Sample.accept (-1)).accepted (Sample.keeper.run Sample.reuse) Sample.secret.key =
      some (-1) := by
  have hstored : Sample.keeper.Always (fun e step => Sample.secret.key ∉ step.stored e)
      Sample.reuse := by
    refine ⟨?_, ?_, ?_, ?_, trivial⟩
    all_goals exact Sample.not_stored_reuse _ (by simp [Sample.reuse]) _
  obtain ⟨honce, hgreatest⟩ :=
    Backend.accepted_run .memory Sample.keeper Sample.secret.key Sample.reuse hstored
  obtain ⟨x, hx, -⟩ : ∃ x, (Store.secret Sample.secret.key
      (Sample.keeper.run Sample.reuse).store).1 = .ok (some x) ∧ x.window = ⟨-1, 0x00008000⟩ :=
    Store.window_eq_some_iff.mp (by decide +kernel)
  have hcontact : (Sample.keeper.run Sample.reuse).store.contacts.contains ⟨1⟩ = true := by
    decide +kernel
  exact ⟨honce, hgreatest (-1) {} x rfl (congrArg Except.ok hcontact) hx⟩

/-- A number can be accepted twice, while the secret is there and is not replaced. -/
theorem Backend.not_accepted_once :
    ¬ ∀ (backend : Backend) (e : Engine backend.Data) (key : SecretKey) (history : List Step),
      e.Always (fun e step => key ∉ step.stored e ∧ Store.window e.store key ≠ none) history →
        ∀ n, (e.accepted key history).count n ≤ 1 := by
  intro h
  have hreuse (step : Step) (hstep : step ∈ Sample.reuse) (e : Engine Memory)
      (hwindow : Store.window e.store Sample.secret.key ≠ none) :
      Sample.secret.key ∉ step.stored e ∧ Store.window e.store Sample.secret.key ≠ none :=
    ⟨Sample.not_stored_reuse step hstep e, hwindow⟩
  have hcount : (Sample.keeper.accepted Sample.secret.key Sample.reuse).count (-1) ≤ 1 := by
    refine h .memory Sample.keeper Sample.secret.key Sample.reuse ⟨?_, ?_, ?_, ?_, trivial⟩ (-1)
    all_goals exact hreuse _ (by simp [Sample.reuse]) _ (by decide +kernel)
  rw [Sample.accepted_keeper] at hcount
  exact absurd hcount (by decide)

end MessageSync
