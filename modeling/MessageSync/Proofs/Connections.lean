import Mathlib.Data.List.Chain
import MessageSync.Proofs.Replay

/-!
# Numbers of connections

The number that is next under a key moves in one way only, as long as no secret is stored
under the key: it is handed out to an outgoing connection, and the number after it is next
(`Engine.upcoming_step`). While a key is given a secret once, the numbers of its outgoing
connections are therefore in an unbroken row, and the numbers that its incoming connections
have used are never listed again (`Backend.connections_run`).

A secret that is stored a second time starts over. This includes rotating one to a period
that has a secret, be it its own (`Backend.not_connections_kept`).
-/

namespace MessageSync

/-! ## Numbers that are handed out and listed -/

section

variable {σ : Type} [Store σ]

/-- The number that a step hands out to an outgoing connection under a key. -/
def Step.counted (e : Engine σ) (key : SecretKey) : Step → Option UInt64
  | .perform (.nextOutgoing k) sink =>
    match ((Engine.nextOutgoing k).runOn e sink).1 with
    | .ok n => if k = key then some n else none
    | .error _ => none
  | _ => none

/-- The numbers of incoming connections that a step lists under a key. -/
def Step.listed (e : Engine σ) (key : SecretKey) : Step → List Nat
  | .perform (.unseenConnections k) sink =>
    match ((Engine.unseenConnections k).runOn e sink).1 with
    | .ok numbers => if k = key then numbers else []
    | .error _ => []
  | _ => []

/-- The numbers that a history hands out under a key, in turn. -/
def Engine.counted (key : SecretKey) : Engine σ → List Step → List UInt64
  | _, [] => []
  | e, step :: rest => (step.counted e key).toList ++ counted key (e.step step) rest

/-- Whether at most one step of a history stores a secret under a key. -/
def Engine.StoresOnce (key : SecretKey) : Engine σ → List Step → Prop
  | _, [] => True
  | e, step :: rest =>
    if key ∈ step.stored e then (e.step step).Always (fun e step => key ∉ step.stored e) rest
    else StoresOnce key (e.step step) rest

/-- The number of the next outgoing connection under a key. -/
def Store.upcoming (s : σ) (key : SecretKey) : Option UInt64 :=
  match (Store.incrementConnectionCounter key s).1 with
  | .ok found => found
  | .error _ => none

lemma Step.counted_of_ok {k : SecretKey} {n : UInt64} {e : Engine σ} {sink : Sink}
    (key : SecretKey) (h : ((Engine.nextOutgoing k).runOn e sink).1 = .ok n) :
    (Step.perform (.nextOutgoing k) sink).counted e key = if k = key then some n else none := by
  simp only [counted, h]

lemma Step.counted_of_error {k : SecretKey} {refusal : SyncError} {e : Engine σ} {sink : Sink}
    (key : SecretKey) (h : ((Engine.nextOutgoing k).runOn e sink).1 = .error refusal) :
    (Step.perform (.nextOutgoing k) sink).counted e key = none := by
  simp only [counted, h]

lemma Step.exists_of_mem_listed {step : Step} {e : Engine σ} {key : SecretKey} {i : Nat}
    (h : i ∈ step.listed e key) : ∃ sink numbers, step = .perform (.unseenConnections key) sink ∧
      ((Engine.unseenConnections key).runOn e sink).1 = .ok numbers ∧ i ∈ numbers := by
  unfold listed at h
  split at h
  · next k sink =>
    split at h
    · next numbers hanswer =>
      split at h
      · next hk =>
        subst hk
        exact ⟨sink, numbers, rfl, hanswer, h⟩
      · exact absurd h List.not_mem_nil
    · exact absurd h List.not_mem_nil
  · exact absurd h List.not_mem_nil

lemma Step.stored_nextOutgoing (e : Engine σ) (k : SecretKey) (sink : Sink) :
    (Step.perform (.nextOutgoing k) sink).stored e = [] := by
  simp only [stored, Operation.stored]
  split <;> rfl

/-- A step that stores secrets hands out no number. -/
lemma Step.counted_of_mem_stored {step : Step} {e : Engine σ} {key : SecretKey}
    (h : key ∈ step.stored e) : step.counted e key = none := by
  unfold counted
  split
  · next k sink =>
    rw [stored_nextOutgoing] at h
    exact absurd h List.not_mem_nil
  · rfl

end

/-! ## Stores that keep counters -/

/-- A store whose counters are only moved by counting connections. -/
structure KeepsCounters (σ : Type) [Store σ] : Prop where
  spared : ∀ {α : Type} (operation : Operation α) (t : Turn σ) (key : SecretKey),
    operation.sparesSecrets →
      Store.upcoming (operation.act t).2.engine.store key = Store.upcoming t.engine.store key
  addSecrets : ∀ {key xs} (s : σ), key ∉ xs.map Secret.key →
    Store.upcoming (Store.addSecrets xs s).2 key = Store.upcoming s key
  setConnectionWindow : ∀ {key} k window (s : σ),
    Store.upcoming (Store.setConnectionWindow k window s).2 key = Store.upcoming s key
  incrementConnectionCounter : ∀ {key n m} (s : σ), Store.upcoming s key = some n →
    Store.upcoming (Store.incrementConnectionCounter key s).2 key = some m → m = n + 1
  other : ∀ {key k} (s : σ), k ≠ key →
    Store.upcoming (Store.incrementConnectionCounter k s).2 key = Store.upcoming s key
  removeSecretsBefore : ∀ {key n} c t period (s : σ),
    Store.upcoming (Store.removeSecretsBefore c t period s).2 key = some n →
      Store.upcoming s key = some n
  removeContact : ∀ {key n} c (s : σ),
    Store.upcoming (Store.removeContact c s).2 key = some n → Store.upcoming s key = some n

namespace Memory

variable {s s' : Memory} {key : SecretKey}

/-- What is next in memory is one more than what was counted. -/
lemma upcoming_eq (s : Memory) (key : SecretKey) :
    Store.upcoming s key = (s.secrets[key]?).map fun x => x.outgoing + 1 := by
  have hanswer : (Store.incrementConnectionCounter key s).1 =
      .ok (s.incrementConnectionCounter key).1 := rfl
  unfold Store.upcoming
  rw [hanswer, incrementConnectionCounter]
  cases s.secrets[key]? <;> rfl

lemma upcoming_congr (h : s'.secrets[key]? = s.secrets[key]?) :
    Store.upcoming s' key = Store.upcoming s key := by
  rw [upcoming_eq, upcoming_eq, h]

lemma upcoming_of_filter {keep : SecretKey → Secret → Bool} {n : UInt64}
    (hs' : s'.secrets = s.secrets.filter keep) (h : Store.upcoming s' key = some n) :
    Store.upcoming s key = some n := by
  rw [upcoming_eq, hs', Std.ExtTreeMap.getElem?_filter'] at h
  obtain ⟨x, hx, hn⟩ := Option.map_eq_some_iff.mp h
  rw [upcoming_eq, (Option.filter_eq_some_iff.mp hx).1]
  exact congrArg some hn

lemma keepsCounters : KeepsCounters Memory where
  spared operation t key h := upcoming_congr <|
    congrArg (fun secrets : Table SecretKey Secret => secrets[key]?)
      (operation.within Memory.sparing h t)
  addSecrets s h := upcoming_congr (s.secrets_addSecrets h)
  setConnectionWindow := by
    intro key k window s
    rw [upcoming_eq, upcoming_eq]
    show ((s.secrets.modify k _)[key]?).map _ = _
    rw [Table.getElem?_modify]
    split
    · rw [Option.map_map]
      rfl
    · rfl
  incrementConnectionCounter := by
    intro key n m s hn hm
    rw [upcoming_eq] at hn
    obtain ⟨x, hx, rfl⟩ := Option.map_eq_some_iff.mp hn
    have hafter : (Store.incrementConnectionCounter key s).2 =
        { s with secrets := s.secrets.insert key { x with outgoing := x.outgoing + 1 } } := by
      show (s.incrementConnectionCounter key).2 = _
      simp only [Memory.incrementConnectionCounter, hx]
    rw [hafter, upcoming_eq, Table.getElem?_insert, if_pos rfl] at hm
    exact (Option.some.inj hm).symm
  other := by
    intro key k s hk
    refine upcoming_congr ?_
    show (s.incrementConnectionCounter k).2.secrets[key]? = _
    unfold Memory.incrementConnectionCounter
    split
    · rfl
    · dsimp only
      rw [Table.getElem?_insert, if_neg hk]
  removeSecretsBefore _ _ _ _ h := upcoming_of_filter rfl h
  removeContact _ _ h := upcoming_of_filter rfl h

end Memory

namespace Relational

variable {s s' : Relational} {key : SecretKey}

/-- What is next in a row is one more than what was counted, while that is in range. -/
lemma upcoming_eq (s : Relational) (key : SecretKey) : Store.upcoming s key =
    (s.secrets[key.toRaw]?).bind fun row =>
      (row.outgoing.bind countOn).map Int64.toUInt64 := by
  have hanswer : (Store.incrementConnectionCounter key s).1 =
      (s.incrementConnectionCounter key).1 := rfl
  unfold Store.upcoming
  rw [hanswer, incrementConnectionCounter]
  cases s.secrets[key.toRaw]? with
  | none => rfl
  | some row =>
    dsimp only
    rw [Option.bind_some]
    cases row.outgoing.bind countOn <;> rfl

lemma upcoming_congr (h : s'.secrets[key.toRaw]? = s.secrets[key.toRaw]?) :
    Store.upcoming s' key = Store.upcoming s key := by
  rw [upcoming_eq, upcoming_eq, h]

lemma upcoming_of_filter {keep : RawSecretKey → SecretRow → Bool} {n : UInt64}
    (hs' : s'.secrets = s.secrets.filter keep) (h : Store.upcoming s' key = some n) :
    Store.upcoming s key = some n := by
  rw [upcoming_eq, hs', Std.ExtTreeMap.getElem?_filter'] at h
  obtain ⟨row, hrow, hn⟩ := Option.bind_eq_some_iff.mp h
  rw [upcoming_eq, (Option.filter_eq_some_iff.mp hrow).1]
  exact hn

/-- Numbers that are counted one after the other are so without their signs as well. -/
lemma toUInt64_countOn {n m : Int64} (h : countOn n = some m) :
    m.toUInt64 = n.toUInt64 + 1 := by
  unfold countOn at h
  split at h
  · cases h
  · rw [← Option.some.inj h, Int64.toUInt64_add]
    rfl

lemma keepsCounters : KeepsCounters Relational where
  spared operation t key h := upcoming_congr <|
    congrArg (fun secrets : Table RawSecretKey SecretRow => secrets[key.toRaw]?)
      (operation.within Relational.sparing h t).secrets
  addSecrets _ h := upcoming_congr (row_addSecrets _ h)
  setConnectionWindow := by
    intro key k window s
    rw [upcoming_eq, upcoming_eq]
    show ((s.secrets.modify k.toRaw _)[key.toRaw]?).bind _ = _
    rw [Table.getElem?_modify]
    split
    · rw [Option.bind_map]
      rfl
    · rfl
  incrementConnectionCounter := by
    intro key n m s hn hm
    have hafter : (Store.incrementConnectionCounter key s).2 = _ :=
      incrementConnectionCounter_snd s key
    rw [hafter, upcoming_eq, Table.getElem?_modify, if_pos rfl] at hm
    rw [upcoming_eq] at hn
    obtain ⟨row, hrow, hn⟩ := Option.bind_eq_some_iff.mp hn
    obtain ⟨counted, hcounted, rfl⟩ := Option.map_eq_some_iff.mp hn
    rw [hrow, Option.map_some, Option.bind_some, hcounted, Option.bind_some] at hm
    obtain ⟨next, hnext, rfl⟩ := Option.map_eq_some_iff.mp hm
    exact toUInt64_countOn hnext
  other := by
    intro key k s hk
    refine upcoming_congr ?_
    have hafter : (Store.incrementConnectionCounter k s).2 = _ :=
      incrementConnectionCounter_snd s k
    rw [hafter, Table.getElem?_modify, if_neg (mt SecretKey.toRaw_inj.mp hk)]
  removeSecretsBefore _ _ _ _ h := upcoming_of_filter rfl h
  removeContact _ _ h := upcoming_of_filter rfl h

end Relational

/-! ## What a step does to a counter -/

namespace KeepsCounters

variable {σ : Type} [Store σ] {key : SecretKey}

/-- A store in which nothing is next under a key but what was. -/
def Fades (key : SecretKey) (s s' : σ) : Prop :=
  ∀ n, Store.upcoming s' key = some n → Store.upcoming s key = some n

lemma frame_fades : Frame (Fades key : σ → σ → Prop) where
  refl _ _ h := h
  trans h h' n hn := h n (h' n hn)

lemma fades_of_eq {s s' : σ} (h : Store.upcoming s' key = Store.upcoming s key) :
    Fades key s s' := by
  intro n hn
  rwa [h] at hn

/-- What is handed out is what was next. -/
lemma nextOutgoing_eq_ok (hw : KeepsWindows σ) {k : SecretKey} {n : UInt64} {t : Turn σ}
    (h : (Engine.nextOutgoing k t).1 = .ok n) :
    Store.upcoming t.engine.store k = some n ∧ (Engine.nextOutgoing k t).2.engine.store =
      (Store.incrementConnectionCounter k t.engine.store).2 := by
  obtain ⟨sink, hbody⟩ := Act.transaction_eq_ok h
  obtain ⟨_, mid, hcontact, hbody⟩ := Txn.bind_eq_ok hbody
  have hmid : mid.1 = t.engine.store := hw.requireContact_eq_ok hcontact
  obtain ⟨found, last, hcount, hbody⟩ := Txn.bind_eq_ok hbody
  have hquery := Txn.query_eq_ok hcount
  rw [hmid] at hquery
  cases found with
  | none => cases hbody
  | some m =>
    cases hbody
    refine ⟨?_, ?_⟩
    · rw [Store.upcoming, hquery]
    · rw [hquery]
      rfl

/-- What is listed is what the window lists. -/
lemma unseenConnections_eq_ok (hw : KeepsWindows σ) {k : SecretKey} {numbers : List Nat}
    {t : Turn σ} (h : (Engine.unseenConnections k t).1 = .ok numbers) :
    ∃ w, Store.window t.engine.store k = some w ∧ numbers = w.unseen := by
  obtain ⟨sink, hbody⟩ := Act.transaction_eq_ok h
  obtain ⟨_, mid, hcontact, hbody⟩ := Txn.bind_eq_ok hbody
  have hmid : mid.1 = t.engine.store := hw.requireContact_eq_ok hcontact
  obtain ⟨x, last, hsecret, hbody⟩ := Txn.bind_eq_ok hbody
  obtain ⟨-, hx⟩ := hw.requireSecret_eq_ok hsecret
  rw [hmid] at hx
  cases hbody
  exact ⟨x.window, Store.window_eq_some_iff.mpr ⟨x, hx, rfl⟩, rfl⟩

lemma fades_containsContact (hw : KeepsWindows σ) (c : ContactId) (s : σ) :
    Fades key s (Store.containsContact c s).2 := by
  rw [hw.containsContact]
  exact frame_fades.refl s

lemma within_askAbout (hw : KeepsWindows σ) {α : Type} (c : ContactId) {q : Query σ α}
    (hq : ∀ s, Fades key s (q s).2) : Act.Within (Fades key) (Act.askAbout c q) :=
  Act.within_askAbout frame_fades (fades_containsContact hw c) hq

/-- Adding secrets under other keys leaves what is next. -/
lemma within_addSecrets (hw : KeepsWindows σ) (hκ : KeepsCounters σ) {xs : List Secret}
    (h : key ∉ xs.map Secret.key) :
    Act.Within (Fades key) (Engine.addSecrets xs : Act σ Unit) := by
  have hadd (s : σ) : Fades key s (Store.addSecrets xs s).2 := fades_of_eq (hκ.addSecrets s h)
  exact Act.within_transaction frame_fades (Txn.stays_bind frame_fades
    (Txn.stays_requireAll frame_fades (fades_containsContact hw) _) fun _ => Txn.stays_query hadd)

end KeepsCounters

namespace Engine

variable {σ : Type} [Store σ] {e : Engine σ} {key : SecretKey}

/-- A step that stores no secret under a key hands out what is next there, so that the number
after it is next, or hands out nothing, so that nothing is next but what was. -/
theorem upcoming_step (hw : KeepsWindows σ) (hκ : KeepsCounters σ) {step : Step}
    (hstored : key ∉ step.stored e) :
    (∃ n, step.counted e key = some n ∧ Store.upcoming e.store key = some n ∧
      ∀ m, Store.upcoming (e.step step).store key = some m → m = n + 1) ∨
    (step.counted e key = none ∧ KeepsCounters.Fades key e.store (e.step step).store) := by
  cases step with
  | setClock now => exact .inr ⟨rfl, KeepsCounters.frame_fades.refl e.store⟩
  | setGate gate => exact .inr ⟨rfl, KeepsCounters.frame_fades.refl e.store⟩
  | perform operation sink =>
    let t : Turn σ := ⟨e, [], sink⟩
    change _ ∨ (_ ∧ KeepsCounters.Fades key t.engine.store (operation.act t).2.engine.store)
    by_cases hspared : operation.sparesSecrets
    · refine .inr ⟨?_, KeepsCounters.fades_of_eq (hκ.spared operation t key hspared)⟩
      cases operation with
      | nextOutgoing k => cases hspared
      | _ => rfl
    -- a transaction that failed changed nothing
    have hfailed {α : Type} {body : Txn σ α} {refusal : SyncError}
        (h : (Act.transaction body t).1 = .error refusal) :
        KeepsCounters.Fades key t.engine.store (Act.transaction body t).2.engine.store :=
      KeepsCounters.fades_of_eq (congrArg (Store.upcoming · key) (Act.transaction_eq_error h))
    cases operation with
    | removeContact c =>
      have hremove : Act.Within (KeepsCounters.Fades key)
          (Act.askAbout c (Store.removeContact c) : Act σ _) :=
        KeepsCounters.within_askAbout hw c fun s _ => hκ.removeContact c s
      have hwithin := Act.within_bind KeepsCounters.frame_fades hremove fun _ =>
        Act.within_emit KeepsCounters.frame_fades (.contactRemoved c)
      exact .inr ⟨rfl, hwithin t⟩
    | removeSecretsBefore c transport period =>
      have hremove : Act.Within (KeepsCounters.Fades key)
          (Act.askAbout c (Store.removeSecretsBefore c transport period) : Act σ _) :=
        KeepsCounters.within_askAbout hw c fun s _ => hκ.removeSecretsBefore c transport period s
      exact .inr ⟨rfl, hremove t⟩
    | addSecrets xs =>
      refine .inr ⟨rfl, ?_⟩
      cases hanswer : (Engine.addSecrets xs t).1 with
      | error refusal => exact hfailed hanswer
      | ok answer =>
        have hdone : ((Operation.addSecrets xs).act.runOn e sink).1 = .ok answer := hanswer
        rw [Step.stored_of_ok hdone] at hstored
        exact KeepsCounters.within_addSecrets hw hκ hstored t
    | rotateSecret k period bytes =>
      refine .inr ⟨rfl, ?_⟩
      cases hanswer : (Engine.rotateSecret k period bytes t).1 with
      | error refusal => exact hfailed hanswer
      | ok x =>
        have hdone : ((Operation.rotateSecret k period bytes).act.runOn e sink).1 = .ok x :=
          hanswer
        rw [Step.stored_of_ok hdone] at hstored
        have hstore : ((Operation.rotateSecret k period bytes).act t).2.engine.store = _ :=
          hw.rotateSecret_eq_ok hanswer
        rw [hstore]
        exact KeepsCounters.fades_of_eq (hκ.addSecrets _ hstored)
    | acceptIncoming k n =>
      refine .inr ⟨rfl, ?_⟩
      cases hanswer : (Engine.acceptIncoming k n t).1 with
      | error refusal => exact hfailed hanswer
      | ok answer =>
        obtain ⟨w, v, -, -, hstore⟩ := hw.acceptIncoming_eq_ok hanswer
        have hsame : ((Operation.acceptIncoming k n).act t).2.engine.store = _ := hstore
        rw [hsame]
        exact KeepsCounters.fades_of_eq (hκ.setConnectionWindow k v _)
    | nextOutgoing k =>
      cases hanswer : (Engine.nextOutgoing k t).1 with
      | error refusal => exact .inr ⟨Step.counted_of_error key hanswer, hfailed hanswer⟩
      | ok n =>
        have hcounted := Step.counted_of_ok key hanswer
        obtain ⟨hn, hstore⟩ := KeepsCounters.nextOutgoing_eq_ok hw hanswer
        have hsame : (e.step (.perform (.nextOutgoing k) sink)).store = _ := hstore
        by_cases hk : k = key
        · subst hk
          rw [if_pos rfl] at hcounted
          refine .inl ⟨n, hcounted, hn, fun m hm => ?_⟩
          rw [hsame] at hm
          exact hκ.incrementConnectionCounter _ hn hm
        · rw [if_neg hk] at hcounted
          refine .inr ⟨hcounted, ?_⟩
          show KeepsCounters.Fades key _ (Engine.nextOutgoing k t).2.engine.store
          rw [hstore]
          exact KeepsCounters.fades_of_eq (hκ.other _ hk)
    | _ => exact absurd rfl hspared

/-! ## Numbers of whole histories -/

/-- While no secret is stored under a key, the numbers that are handed out follow each other,
from the one that was next. -/
theorem counted_run (hw : KeepsWindows σ) (hκ : KeepsCounters σ) {history : List Step}
    (h : e.Always (fun e step => key ∉ step.stored e) history) :
    (e.counted key history).IsChain (fun m n => n = m + 1) ∧
      ∀ n ∈ (e.counted key history).head?, Store.upcoming e.store key = some n := by
  induction history generalizing e with
  | nil =>
    refine ⟨List.isChain_nil, fun n hn => ?_⟩
    cases hn
  | cons step rest ih =>
    obtain ⟨hchain, hhead⟩ := ih h.2
    unfold counted
    rcases upcoming_step hw hκ h.1 with ⟨n, hn, hnow, hafter⟩ | ⟨hnone, hfades⟩
    · rw [hn]
      refine ⟨List.isChain_cons.mpr ⟨fun m hm => hafter m (hhead m hm), hchain⟩, ?_⟩
      intro m hm
      cases hm
      exact hnow
    · rw [hnone]
      exact ⟨hchain, fun n hn => hfades n (hhead n hn)⟩

/-- Nothing is handed out before there is a secret, and what is handed out afterwards follows
each other. -/
lemma StoresOnce.counted (hw : KeepsWindows σ) (hκ : KeepsCounters σ) {history : List Step}
    (h : e.StoresOnce key history) (hnone : Store.upcoming e.store key = none) :
    (e.counted key history).IsChain fun m n => n = m + 1 := by
  induction history generalizing e with
  | nil => exact List.isChain_nil
  | cons step rest ih =>
    have hfirst : step.counted e key = none := by
      by_cases hstored : key ∈ step.stored e
      · exact Step.counted_of_mem_stored hstored
      · rcases upcoming_step hw hκ hstored with ⟨n, -, hn, -⟩ | ⟨hcounted, -⟩
        · rw [hnone] at hn
          cases hn
        · exact hcounted
    unfold Engine.counted
    rw [hfirst]
    unfold StoresOnce at h
    split at h
    · exact (counted_run hw hκ h).1
    · next hstored =>
      refine ih h (Option.eq_none_iff_forall_ne_some.mpr fun n hn => ?_)
      rcases upcoming_step hw hκ hstored with ⟨m, hm, -, -⟩ | ⟨-, hfades⟩
      · rw [hfirst] at hm
        cases hm
      · have hbefore := hfades n hn
        rw [hnone] at hbefore
        cases hbefore

/-- Where there is a window, no secret is stored any more. -/
lemma StoresOnce.always_of_window (hw : KeepsWindows σ) {done rest : List Step} {w : Window}
    (h : e.StoresOnce key (done ++ rest)) (hnone : Store.window e.store key = none)
    (hsome : Store.window (e.run done).store key = some w) :
    (e.run done).Always (fun e step => key ∉ step.stored e) rest := by
  induction done generalizing e with
  | nil =>
    rw [run_nil, hnone] at hsome
    cases hsome
  | cons step done ih =>
    rw [run_cons] at hsome ⊢
    rw [List.cons_append, StoresOnce] at h
    split at h
    · exact h.right
    · next hstored =>
      refine ih h (Option.eq_none_iff_forall_ne_some.mpr fun v hv => ?_) hsome
      have hbefore : ∃ u, Store.window e.store key = some u := by
        rcases window_step hw hstored hv with hold | ⟨-, u, -, hu, -⟩
        · exact ⟨v, hold⟩
        · exact ⟨u, hu⟩
      obtain ⟨u, hu⟩ := hbefore
      rw [hnone] at hu
      cases hu

/-- A number that is refused, or is the greatest one, is not listed any more. -/
lemma always_not_mem_listed (hw : KeepsWindows σ) {n : UInt64} {history : List Step}
    (h : e.Always (fun e step => key ∉ step.stored e) history)
    (hbars : n.toNat ≠ Window.greatest → Store.Bars e.store key n) :
    e.Always (fun e step => n.toNat ∉ step.listed e key) history := by
  induction history generalizing e with
  | nil => trivial
  | cons step rest ih =>
    refine ⟨fun hmem => ?_, ih h.2 fun hn => (hbars hn).step hw h.1⟩
    obtain ⟨sink, numbers, -, hanswer, hn⟩ := Step.exists_of_mem_listed hmem
    obtain ⟨w, hwindow, rfl⟩ := KeepsCounters.unseenConnections_eq_ok hw hanswer
    exact Window.not_mem_unseen (fun hne => hbars hne w hwindow) hn

end Engine

/-! ## Over both stores -/

lemma Backend.keepsCounters (backend : Backend) : KeepsCounters backend.Data :=
  match backend with
  | .memory => Memory.keepsCounters
  | .relational => Relational.keepsCounters

/-- There is nothing under any key in an empty store. -/
lemma Backend.missing_start (backend : Backend) (config : SyncConfig) (now : Int64)
    (key : SecretKey) : Store.upcoming (backend.start config now).store key = none ∧
      Store.window (backend.start config now).store key = none := by
  cases backend with
  | memory => exact ⟨Memory.upcoming_eq _ key, Memory.window_eq _ key⟩
  | relational => exact ⟨Relational.upcoming_eq _ key, rfl⟩

/-- Numbers that follow each other ascend, unless they start over from zero. -/
lemma pairwise_lt_of_isChain {numbers : List UInt64}
    (h : numbers.IsChain fun m n => n = m + 1) (hzero : 0 ∉ numbers.tail) :
    numbers.Pairwise (· < ·) := by
  refine List.isChain_iff_pairwise.mp (h.imp_of_mem_tail_imp fun m n _ hn heq => ?_)
  have hne : m.toNat + 1 ≠ UInt64.size := by
    intro hsize
    refine hzero ?_
    have hwrap : n = 0 := by
      rw [heq, ← UInt64.toNat_inj, UInt64.toNat_add]
      show (m.toNat + 1) % UInt64.size = 0
      rw [hsize, Nat.mod_self]
    exact hwrap ▸ hn
  have hlt : m.toNat < UInt64.size := m.toNat_lt
  rw [UInt64.lt_iff_toNat_lt, heq, UInt64.toNat_add]
  show m.toNat < (m.toNat + 1) % UInt64.size
  rw [Nat.mod_eq_of_lt (by omega)]
  omega

/-- In every history in which at most one step stores a secret under a key, the numbers of
the outgoing connections under it follow each other, so that they ascend unless they start
over from zero; and the number of an incoming connection is not listed any more once it was
accepted. -/
theorem Backend.connections_run (backend : Backend) (config : SyncConfig) (now : Int64)
    (key : SecretKey) (history : List Step)
    (h : (backend.start config now).StoresOnce key history) :
    let e := backend.start config now
    (e.counted key history).IsChain (fun m n => n = m + 1) ∧
    (0 ∉ (e.counted key history).tail → (e.counted key history).Pairwise (· < ·)) ∧
    ∀ (done : List Step) (step : Step) (rest : List Step) (n : UInt64),
      history = done ++ step :: rest → step.accepted (e.run done) key = some n →
        ((e.run done).step step).Always (fun e step => n.toNat ∉ step.listed e key) rest := by
  have hw := backend.keepsWindows
  obtain ⟨hcounter, hwindow⟩ := backend.missing_start config now key
  have hchain := h.counted hw backend.keepsCounters hcounter
  refine ⟨hchain, pairwise_lt_of_isChain hchain, ?_⟩
  rintro done step rest n rfl haccepted
  obtain ⟨w, -, hw', -, -⟩ := Step.window_of_accepted hw haccepted
  have hstored := h.always_of_window hw hwindow hw'
  exact Engine.always_not_mem_listed hw hstored.2 fun hn => Step.bars_of_accepted hw hn haccepted

/-! ## Rotating to a period that has a secret -/

/-- Whether a step is one of those on secrets and connections that remove nothing, and adds no
secret under a key that has one. -/
def Step.Additive {σ : Type} [Store σ] (key : SecretKey) (e : Engine σ) : Step → Prop
  | .perform (.addSecrets xs) _ => key ∈ xs.map Secret.key → Store.window e.store key = none
  | .perform (.rotateSecret _ _ _) _ | .perform (.nextOutgoing _) _
  | .perform (.acceptIncoming _ _) _ | .perform (.unseenConnections _) _ => True
  | _ => False

namespace Sample

/-- An outgoing connection is made. -/
def connect : Step := .perform (.nextOutgoing secret.key) {}

/-- The incoming connections to wait for are listed. -/
def listen : Step := .perform (.unseenConnections secret.key) {}

/-- A secret is stored, and connections are made with it. -/
def connecting : List Step := keeping ++ [connect, connect, accept 3, listen]

/-- The secret is rotated to the period that it is for. -/
def renew : Step := .perform (.rotateSecret secret.key secret.period [10]) {}

/-- Connections are made before and after the secret is rotated to its own period. -/
def renewal : List Step := [connect, connect, accept 3, renew, connect, listen]

lemma storesOnce_connecting :
    (Backend.memory.start {} 0).StoresOnce secret.key connecting := by
  -- the second step stores the secret, and none after it does
  refine (if_neg (by decide +kernel)).mpr ((if_pos (by decide +kernel)).mpr ?_)
  refine ⟨?_, ?_, ?_, ?_, trivial⟩
  all_goals decide +kernel

lemma additive_renewal : keeper.Always (Step.Additive secret.key) renewal :=
  ⟨trivial, trivial, trivial, trivial, trivial, trivial, trivial⟩

end Sample

/-- The numbers of a history that stores one secret ascend, and the one that was accepted is not
listed. -/
theorem Backend.connections_connecting :
    let e := Backend.memory.start {} 0
    e.counted Sample.secret.key Sample.connecting = [1, 2] ∧
    (e.counted Sample.secret.key Sample.connecting).Pairwise (· < ·) ∧
    3 ∉ Sample.listen.listed (e.run (Sample.connecting.take 5)) Sample.secret.key := by
  obtain ⟨-, hascend, hlisted⟩ := Backend.connections_run .memory {} 0 Sample.secret.key
    Sample.connecting Sample.storesOnce_connecting
  have hcounted :
      (Backend.memory.start {} 0).counted Sample.secret.key Sample.connecting = [1, 2] := by
    decide +kernel
  refine ⟨hcounted, hascend ?_, ?_⟩
  · rw [hcounted]
    decide
  · exact (hlisted (Sample.connecting.take 4) (Sample.accept 3) [Sample.listen] 3 rfl
      (by decide +kernel)).1

/-- Though no secret is added under a key that has one, a number can be handed out after a
greater one, and a number can be listed after it was accepted. -/
theorem Backend.not_connections_kept :
    (¬ ∀ (backend : Backend) (e : Engine backend.Data) (key : SecretKey) (history : List Step),
      backend.Reaches e → e.Always (Step.Additive key) history →
        (e.counted key history).Pairwise (· < ·)) ∧
    ¬ ∀ (backend : Backend) (e : Engine backend.Data) (key : SecretKey) (history : List Step),
      backend.Reaches e → e.Always (Step.Additive key) history →
        ∀ (done : List Step) (step : Step) (rest : List Step) (n : UInt64),
          history = done ++ step :: rest → step.accepted (e.run done) key = some n →
            ((e.run done).step step).Always (fun e step => n.toNat ∉ step.listed e key) rest := by
  have hreaches : Backend.memory.Reaches Sample.keeper := ⟨{}, 0, Sample.keeping, rfl⟩
  constructor
  · intro h
    have hascend : (Sample.keeper.counted Sample.secret.key Sample.renewal).Pairwise (· < ·) :=
      h .memory Sample.keeper Sample.secret.key Sample.renewal hreaches Sample.additive_renewal
    have hcounted : Sample.keeper.counted Sample.secret.key Sample.renewal = [1, 2, 1] := by
      decide +kernel
    rw [hcounted] at hascend
    exact absurd hascend (by decide)
  · intro h
    have hlisted := h .memory Sample.keeper Sample.secret.key Sample.renewal hreaches
      Sample.additive_renewal [Sample.connect, Sample.connect] (Sample.accept 3)
      [Sample.renew, Sample.connect, Sample.listen] 3 rfl (by decide +kernel)
    exact hlisted.2.2.1 (by decide +kernel)

end MessageSync
