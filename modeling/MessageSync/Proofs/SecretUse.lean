import MessageSync.Proofs.Engine.Holdings
import MessageSync.Proofs.SecretPeriods

/-!
# The use of one secret

A secret has a counter for outgoing connections and a window for incoming ones. A step moves the
counter by the number that it hands out under the key of the secret, moves the window by the
number that it accepts there, and leaves the rest of the secret alone, as long as it does not
store or remove a secret under this key (`Backend.Holds.getElem?_step`). So the counter goes by
the outgoing connections of the secret, and the window by its incoming ones, whatever else a
history does (`Backend.secret_run`).
-/

namespace MessageSync

/-! ## Steps that concern a secret -/

/-- Whether an operation that gives an answer removes the secret under a key. -/
def Operation.removes (backend : Backend) (key : SecretKey) : {α : Type} → Operation α → Bool
  | _, .removeContact c => key.contact = c
  | _, .removeSecretsBefore c t period => backend.before c t period key
  | _, _ => false

/-- Whether a step removes the secret under a key; it does not if it fails. -/
def Step.removes {backend : Backend} (e : Engine backend.Data) (key : SecretKey) : Step → Bool
  | .perform operation sink =>
    (operation.act.runOn e sink).1.isOk && operation.removes backend key
  | _ => false

/-- Whether a step asks for the number of an outgoing connection under a key. -/
def Step.connects (key : SecretKey) : Step → Bool
  | .perform (.nextOutgoing k) _ => k = key
  | _ => false

/-- Whether an operation is about other secrets than the one under a key, or about none. Removing
those before a period is so if it is not after the period of the key, which has to be below 2^63
unless the store is in memory. -/
def Operation.Leaves (backend : Backend) (key : SecretKey) : {α : Type} → Operation α → Prop
  | _, .removeContact c => key.contact ≠ c
  | _, .addSecrets xs => key ∉ xs.map Secret.key
  | _, .rotateSecret k period _ => (⟨k.contact, ⟨k.item.transport, period⟩⟩ : SecretKey) ≠ key
  | _, .removeSecretsBefore c t period =>
    key.contact = c → key.item.transport = t →
      period ≤ key.item.period ∧ (backend = .memory ∨ key.item.period.toNat < signedSize)
  | _, .nextOutgoing k => k ≠ key
  | _, .acceptIncoming k _ => k ≠ key
  | _, _ => True

/-! ## One step -/

section

variable {σ : Type} [Store σ] {e : Engine σ} {key : SecretKey} {α : Type} {operation : Operation α}
variable {backend : Backend} {sink : Sink} {refusal : SyncError}

/-- An operation that fails hands out no number, and accepts none. -/
lemma Step.unused_of_error (key : SecretKey)
    (h : (operation.act.runOn e sink).1 = .error refusal) :
    (Step.perform operation sink).counted e key = none ∧
      (Step.perform operation sink).accepted e key = none := by
  cases operation with
  | nextOutgoing k => exact ⟨counted_of_error key h, rfl⟩
  | acceptIncoming k n =>
    refine ⟨rfl, ?_⟩
    change ((Engine.acceptIncoming k n).runOn e sink).1 = .error refusal at h
    simp only [accepted, h]
  | _ => exact ⟨rfl, rfl⟩

/-- An operation on other secrets hands out and accepts no number under a key. -/
lemma Operation.Leaves.unused (h : operation.Leaves backend key) (e : Engine σ) (sink : Sink) :
    (Step.perform operation sink).counted e key = none ∧
      (Step.perform operation sink).accepted e key = none := by
  cases hanswer : (operation.act.runOn e sink).1 with
  | error refusal => exact Step.unused_of_error key hanswer
  | ok answer =>
    cases operation with
    | nextOutgoing k => exact ⟨(Step.counted_of_ok key hanswer).trans (if_neg h), rfl⟩
    | acceptIncoming k n => exact ⟨rfl, (Step.accepted_of_ok key hanswer).trans (if_neg h)⟩
    | _ => exact ⟨rfl, rfl⟩

lemma Step.exists_of_connects {step : Step} (h : step.connects key) :
    ∃ sink, step = .perform (.nextOutgoing key) sink := by
  unfold connects at h
  split at h
  · next k sink =>
    obtain rfl : k = key := of_decide_eq_true h
    exact ⟨sink, rfl⟩
  · cases h

lemma Step.counted_of_not_connects {step : Step} (h : ¬ step.connects key) :
    step.counted e key = none := by
  unfold counted
  split
  · next k sink =>
    have hk : k ≠ key := fun hk => h (decide_eq_true hk)
    split
    · rw [if_neg hk]
    · rfl
  · rfl

/-- A connection gets the number that is next if its contact exists. -/
lemma Engine.nextOutgoing_of_upcoming (hw : KeepsWindows σ) {t : Turn σ} {n : UInt64}
    (hcontact : (Store.containsContact key.contact t.engine.store).1 = .ok true)
    (hn : Store.upcoming t.engine.store key = some n) :
    (Engine.nextOutgoing key t).1 = .ok n := by
  have hcount : Store.incrementConnectionCounter key t.engine.store =
      (.ok (some n), (Store.incrementConnectionCounter key t.engine.store).2) := by
    refine Prod.ext ?_ rfl
    unfold Store.upcoming at hn
    split at hn
    · next hfound => rw [hfound, hn]
    · cases hn
  apply Act.transaction_of_ok
  rw [Txn.bind_apply, hw.requireContact_of_contains hcontact]
  dsimp only
  rw [Txn.bind_apply, Txn.query_of_ok hcount]
  rfl

end

namespace Backend

variable {backend : Backend} {e : Engine backend.Data} {ring : Keyring} {key : SecretKey}
variable {x : Secret}

/-- A step that neither stores nor removes a secret under a key moves the counter of the one that
is there to the number that it hands out, and the window by the number that it accepts. -/
theorem Holds.getElem?_step (h : backend.Holds e.store ring) (hring : ring.Keyed)
    (hx : ring[key]? = some x) {step : Step} (hstored : key ∉ step.stored e)
    (hkept : step.removes e key = false) :
    ∃ w, (step.accepted e key).toList.foldlM Window.accept x.window = .ok w ∧
      (step.keyring e ring)[key]? =
        some { x with outgoing := (step.counted e key).getD x.outgoing, window := w } := by
  cases step with
  | setClock _ | setGate _ => exact ⟨x.window, rfl, hx⟩
  | perform operation sink =>
    rw [Step.keyring]
    cases hanswer : (operation.act.runOn e sink).1 with
    | error refusal =>
      obtain ⟨hcounted, haccepted⟩ := Step.unused_of_error key hanswer
      rw [hcounted, haccepted]
      exact ⟨x.window, rfl, hx⟩
    | ok answer =>
      rw [Step.stored_of_ok hanswer] at hstored
      rw [Step.removes, hanswer] at hkept
      change operation.removes backend key = false at hkept
      cases operation with
      | removeContact c =>
        refine ⟨x.window, rfl, ?_⟩
        rw [Operation.removes, decide_eq_false_iff_not] at hkept
        show (ring.filter fun k _ => k.contact ≠ c)[key]? = _
        rw [Table.getElem?_filter_keys, if_pos (by simpa using hkept)]
        exact hx
      | removeSecretsBefore c t period =>
        refine ⟨x.window, rfl, ?_⟩
        rw [Operation.removes] at hkept
        show (ring.filter fun k _ => !backend.before c t period k)[key]? = _
        rw [Table.getElem?_filter_keys, if_pos (by simpa using hkept)]
        exact hx
      | addSecrets xs => exact ⟨x.window, rfl, (ring.getElem?_add hstored).trans hx⟩
      | rotateSecret k period bytes =>
        have hadd : (ring.add [answer])[key]? = ring[key]? := ring.getElem?_add hstored
        exact ⟨x.window, rfl, hadd.trans hx⟩
      | nextOutgoing k =>
        refine ⟨x.window, rfl, ?_⟩
        rw [Step.counted_of_ok key hanswer]
        show (ring.modify k fun y => { y with outgoing := answer })[key]? = _
        rw [Table.getElem?_modify, hx]
        split_ifs <;> rfl
      | acceptIncoming k n =>
        rw [Step.accepted_of_ok key hanswer]
        dsimp only
        rw [Operation.keyring, Table.getElem?_modify, hx]
        by_cases hk : k = key
        · subst hk
          obtain ⟨w, v, hw, haccept, -⟩ := backend.keepsWindows.acceptIncoming_eq_ok hanswer
          obtain ⟨y, hy, rfl⟩ := Store.window_eq_some_iff.mp hw
          rw [show (Store.secret k e.store).1 = _ from h.secret hring k, hx] at hy
          obtain rfl := Option.some.inj (Except.ok.inj hy)
          refine ⟨v, ?_, ?_⟩
          · rw [if_pos rfl]
            simp [haccept]
          · rw [if_pos rfl, Option.map_some, haccept]
            rfl
        · rw [if_neg hk, if_neg hk]
          exact ⟨x.window, rfl, rfl⟩
      | _ => exact ⟨x.window, rfl, hx⟩

/-! ## Numbers that are handed out -/

/-- While counters are below 2^63, the number after that of the counter is next. -/
lemma Holds.upcoming {s : backend.Data} (h : backend.Holds s ring) (hx : ring[key]? = some x)
    (hroom : x.outgoing.toNat + 1 < signedSize) : Store.upcoming s key = some (x.outgoing + 1) := by
  cases backend with
  | memory =>
    obtain rfl : (show Memory from s).secrets = ring := h
    exact (Memory.upcoming_eq s key).trans (congrArg (Option.map _) hx)
  | relational =>
    have hrow : (show Relational from s).secrets[key.toRaw]? = some x.toRow :=
      (Relational.Keeps.secrets h key).trans (congrArg (Option.map Secret.toRow) hx)
    have hcount : countOn x.outgoing.toInt64 = some (x.outgoing.toInt64 + 1) := by
      refine if_neg fun hmost => ?_
      have hnat := congrArg (fun n : Int64 => n.toUInt64.toNat) hmost
      rw [UInt64.toUInt64_toInt64] at hnat
      rw [hnat] at hroom
      exact absurd hroom (by decide)
    refine (Relational.upcoming_eq s key).trans ?_
    rw [hrow]
    show (countOn x.outgoing.toInt64).map Int64.toUInt64 = _
    rw [hcount, Option.map_some, Int64.toUInt64_add, UInt64.toUInt64_toInt64]
    rfl

namespace Reaches

/-- A secret of a store that a history leads to is in the keyring that the store holds. -/
lemma exists_keyring (he : backend.Reaches e) (hx : e.view (Store.secret key) = .ok (some x)) :
    ∃ ring : Keyring, ring.Keyed ∧ backend.Holds e.store ring ∧ ring[key]? = some x := by
  obtain ⟨config, now, history, rfl⟩ := he
  have hempty : Keyring.Keyed ∅ := fun key x hx => by simp at hx
  have hstart : backend.Holds (backend.start config now).store ∅ := Holds.empty backend
  obtain ⟨hring, hholds⟩ := hstart.run hempty history
  exact ⟨_, hring, hholds, Except.ok.inj ((hholds.secret hring key).symm.trans hx)⟩

/-- Secrets are of contacts that exist. -/
lemma containsContact (he : backend.Reaches e) (hx : e.view (Store.secret key) = .ok (some x)) :
    e.view (Store.containsContact key.contact) = .ok true := by
  obtain ⟨t, htwin⟩ := AnchoredTwin.of_reaches he
  cases backend with
  | memory =>
    obtain ⟨⟨rfl, -⟩, hanchored, -, -⟩ := htwin
    have hkey := hanchored.secrets key (Table.mem_of_getElem? (Except.ok.inj hx))
    exact congrArg Except.ok (Std.ExtTreeMap.contains_iff_mem.mpr hkey)
  | relational =>
    obtain ⟨row, hrow, -⟩ := Relational.secret_eq_some_iff.mp hx
    have hkey := htwin.rows.1.secrets key.toRaw (Table.mem_of_getElem? hrow)
    exact congrArg Except.ok (Std.ExtTreeMap.contains_iff_mem.mpr hkey)

/-- A step that asks for the number of a connection gets the one after that of the counter. -/
lemma counted_of_connects (he : backend.Reaches e)
    (hx : e.view (Store.secret key) = .ok (some x)) {step : Step} (hstep : step.connects key)
    (hroom : x.outgoing.toNat + 1 < signedSize) : step.counted e key = some (x.outgoing + 1) := by
  obtain ⟨sink, rfl⟩ := Step.exists_of_connects hstep
  obtain ⟨ring, hring, hholds, hfound⟩ := he.exists_keyring hx
  have hanswer : ((Engine.nextOutgoing key).runOn e sink).1 = .ok (x.outgoing + 1) :=
    Engine.nextOutgoing_of_upcoming backend.keepsWindows (he.containsContact hx)
      (hholds.upcoming hfound hroom)
  rw [Step.counted_of_ok key hanswer, if_pos rfl]

/-- What a step makes of a secret that it neither stores anew nor removes. -/
lemma secret_step (he : backend.Reaches e) (hx : e.view (Store.secret key) = .ok (some x))
    {step : Step} (hstored : key ∉ step.stored e) (hkept : step.removes e key = false) :
    ∃ w, (step.accepted e key).toList.foldlM Window.accept x.window = .ok w ∧
      (e.step step).view (Store.secret key) =
        .ok (some { x with outgoing := (step.counted e key).getD x.outgoing, window := w }) := by
  obtain ⟨ring, hring, hholds, hfound⟩ := he.exists_keyring hx
  obtain ⟨w, haccept, hafter⟩ := hholds.getElem?_step hring hfound hstored hkept
  refine ⟨w, haccept, ?_⟩
  rw [← hafter]
  exact (hholds.step hring step).secret (hring.step e step) key

/-! ## Histories -/

/-- The counter takes the numbers that are still to come, as far as a step leaves them. -/
lemma counter_step (he : backend.Reaches e) (hx : e.view (Store.secret key) = .ok (some x))
    (step : Step) (rest : List Step)
    (hroom : x.outgoing.toNat + (step :: rest).countP (Step.connects key) < signedSize) :
    let counter := (step.counted e key).getD x.outgoing
    counter.toNat + rest.countP (Step.connects key) =
        x.outgoing.toNat + (step :: rest).countP (Step.connects key) ∧
      (step.counted e key).toList.map UInt64.toNat ++
          List.range' (counter.toNat + 1) (rest.countP (Step.connects key)) =
        List.range' (x.outgoing.toNat + 1) ((step :: rest).countP (Step.connects key)) := by
  intro counter
  by_cases hconnects : step.connects key
  · rw [List.countP_cons_of_pos hconnects] at hroom ⊢
    have hcounted := he.counted_of_connects hx hconnects (by omega)
    have hnext : (x.outgoing + 1).toNat = x.outgoing.toNat + 1 := by
      have hsize : signedSize < 2 ^ 64 := by decide
      rw [UInt64.toNat_add]
      show (x.outgoing.toNat + 1) % 2 ^ 64 = _
      exact Nat.mod_eq_of_lt (by omega)
    have hcounter : counter.toNat = x.outgoing.toNat + 1 := by
      rw [← hnext]
      exact congrArg (fun n => (n.getD x.outgoing).toNat) hcounted
    rw [hcounter, hcounted]
    refine ⟨by omega, ?_⟩
    rw [Option.toList_some, List.map_singleton, hnext, List.range'_succ]
    rfl
  · rw [List.countP_cons_of_neg hconnects]
    have hcounted := Step.counted_of_not_connects (e := e) hconnects
    have hcounter : counter = x.outgoing := congrArg (·.getD x.outgoing) hcounted
    rw [hcounter, hcounted]
    exact ⟨rfl, rfl⟩

/-- What a history makes of a secret that it neither stores anew nor removes. -/
theorem use_run (he : backend.Reaches e) (hx : e.view (Store.secret key) = .ok (some x))
    {history : List Step}
    (hkept : e.Always (fun e step => key ∉ step.stored e ∧ step.removes e key = false) history)
    (hroom : x.outgoing.toNat + history.countP (Step.connects key) < signedSize) :
    (e.counted key history).map UInt64.toNat =
        List.range' (x.outgoing.toNat + 1) (history.countP (Step.connects key)) ∧
      ∃ w, (e.accepted key history).foldlM Window.accept x.window = .ok w ∧
        (e.run history).view (Store.secret key) = .ok (some { x with
          outgoing := .ofNat (x.outgoing.toNat + history.countP (Step.connects key))
          window := w }) := by
  induction history generalizing e x with
  | nil =>
    refine ⟨rfl, x.window, rfl, hx.trans ?_⟩
    rw [List.countP_nil, Nat.add_zero, UInt64.ofNat_toNat]
  | cons step rest ih =>
    obtain ⟨⟨hstored, hspared⟩, hrest⟩ := hkept
    obtain ⟨v, hfirst, hafter⟩ := he.secret_step hx hstored hspared
    obtain ⟨hcount, hnumbers⟩ := he.counter_step hx step rest hroom
    obtain ⟨hlater, w, haccepted, hend⟩ := ih (he.step step) hafter hrest (hcount.trans_lt hroom)
    refine ⟨?_, w, ?_, ?_⟩
    · rw [Engine.counted, List.map_append, hlater, hnumbers]
    · rw [Engine.accepted, List.foldlM_append, hfirst]
      exact haccepted
    · rw [← hcount]
      exact hend

/-! ## Operations on other secrets -/

/-- A secret that was rotated has the key that it was rotated to. -/
lemma key_of_rotateSecret (he : backend.Reaches e) {k : SecretKey} {period : UInt64}
    {bytes : Bytes} {sink : Sink} {y : Secret}
    (h : ((Engine.rotateSecret k period bytes).runOn e sink).1 = .ok y) :
    y.key = ⟨k.contact, ⟨k.item.transport, period⟩⟩ := by
  obtain ⟨old, hold, rfl, -⟩ := backend.keepsWindows.exists_rotated h
  obtain ⟨ring, hring, -, hfound⟩ := he.exists_keyring hold
  rw [← hring k old hfound]
  rfl

/-- An operation on other secrets stores and removes none under a key. -/
lemma keeps_of_leaves (he : backend.Reaches e) {α : Type} {operation : Operation α}
    (h : operation.Leaves backend key) (sink : Sink) :
    key ∉ (Step.perform operation sink).stored e ∧
      (Step.perform operation sink).removes e key = false := by
  cases hanswer : (operation.act.runOn e sink).1 with
  | error refusal =>
    rw [Step.stored, Step.removes, hanswer]
    exact ⟨List.not_mem_nil, rfl⟩
  | ok answer =>
    rw [Step.stored_of_ok hanswer, Step.removes, hanswer]
    change _ ∧ operation.removes backend key = false
    cases operation with
    | removeContact c => exact ⟨List.not_mem_nil, decide_eq_false h⟩
    | addSecrets xs => exact ⟨h, rfl⟩
    | rotateSecret k period bytes =>
      refine ⟨fun hmem => h ?_, rfl⟩
      rw [← he.key_of_rotateSecret hanswer]
      exact (List.mem_singleton.mp hmem).symm
    | removeSecretsBefore c t period =>
      refine ⟨List.not_mem_nil, Bool.eq_false_iff.mpr fun hbefore => ?_⟩
      simp only [Operation.removes, before, Bool.and_eq_true, decide_eq_true_eq] at hbefore
      obtain ⟨⟨hcontact, htransport⟩, hplace⟩ := hbefore
      obtain ⟨hle, hsigned⟩ := h hcontact htransport
      rw [UInt64.le_iff_toNat_le] at hle
      have hlt := (place_lt_iff (hsigned.imp_right fun hkey => by omega)).mp hplace
      rw [UInt64.lt_iff_toNat_lt] at hlt
      omega
    | _ => exact ⟨List.not_mem_nil, rfl⟩

end Reaches

/-- What becomes of a secret in any state of either store, as long as its key gets no other secret
and keeps this one, and as long as its counter and the calls for outgoing connections under the key
are below 2^63 together. The calls are answered with the numbers that follow the counter, one after
the other. After any history, the counter has moved by as many, the window has accepted the numbers
of the incoming connections that were accepted under the key, in turn, and all else of the secret
is as it was. An operation on other secrets changes nothing of it, be they of other periods of the
same contact and transport. This includes removing those before a period that does not come after
that of the secret, if this is below 2^63, or the store is in memory. -/
theorem secret_run (he : backend.Reaches e) (hx : e.view (Store.secret key) = .ok (some x)) :
    (∀ history : List Step,
      e.Always (fun e step => key ∉ step.stored e ∧ step.removes e key = false) history →
        let calls := history.countP (Step.connects key)
        x.outgoing.toNat + calls < signedSize →
          (e.counted key history).map UInt64.toNat = List.range' (x.outgoing.toNat + 1) calls ∧
            ∃ w, (e.accepted key history).foldlM Window.accept x.window = .ok w ∧
              (e.run history).view (Store.secret key) = .ok (some { x with
                outgoing := .ofNat (x.outgoing.toNat + calls)
                window := w })) ∧
      ∀ {α : Type} (operation : Operation α) (sink : Sink), operation.Leaves backend key →
        (e.step (.perform operation sink)).view (Store.secret key) = .ok (some x) := by
  refine ⟨fun history hkept => he.use_run hx hkept, fun operation sink hleaves => ?_⟩
  obtain ⟨hstored, hkept⟩ := he.keeps_of_leaves hleaves sink
  obtain ⟨w, haccept, hafter⟩ := he.secret_step hx hstored hkept
  obtain ⟨hcounted, haccepted⟩ := Operation.Leaves.unused hleaves e sink
  rw [haccepted] at haccept
  rw [hafter, hcounted]
  obtain rfl : x.window = w := Except.ok.inj haccept
  rfl

end Backend

namespace Sample

/-- A secret of the same contact and transport for the next period. -/
def later : Secret := { secret with period := 8 }

/-- Secrets before the first period are removed. -/
def removeEarlier : Step := .perform (.removeSecretsBefore ⟨1⟩ ⟨1⟩ secret.period) {}

/-- Connections with one secret, one of which comes in twice, and with another one in between. -/
def interleaved : List Step :=
  [connect, accept 5, .perform (.addSecrets [later]) {}, .perform (.nextOutgoing later.key) {},
    .perform (.acceptIncoming later.key 9) {}, accept 5, connect, removeEarlier]

end Sample

/-- Two connections went out and one came in with the secret, whatever was done with the other. -/
theorem Backend.secret_run_interleaved :
    let e := (Backend.relational.start {} 0).run Sample.keeping
    let key := Sample.secret.key
    (e.counted key Sample.interleaved).map UInt64.toNat = [1, 2] ∧
      (∃ w, [5].foldlM Window.accept .fresh = .ok w ∧
        (e.run Sample.interleaved).view (Store.secret key) =
          .ok (some { Sample.secret with outgoing := 2, window := w })) ∧
      (e.step Sample.removeEarlier).view (Store.secret key) = .ok (some Sample.secret) := by
  intro e key
  have hx : e.view (Store.secret key) = .ok (some Sample.secret) :=
    Sample.eq_ok_of_toOption (by decide +kernel)
  have hkept : e.Always (fun e step => key ∉ step.stored e ∧ step.removes e key = false)
      Sample.interleaved := by
    refine ⟨?_, ?_, ?_, ?_, ?_, ?_, ?_, ?_, trivial⟩
    all_goals decide +kernel
  have hcalls : Sample.interleaved.countP (Step.connects key) = 2 := by decide
  have haccepted : e.accepted key Sample.interleaved = [5] := by decide +kernel
  obtain ⟨hrun, hleaves⟩ := Backend.secret_run ⟨{}, 0, Sample.keeping, rfl⟩ hx
  obtain ⟨hcounted, hwindow⟩ := hrun Sample.interleaved hkept (by decide)
  rw [hcalls] at hcounted hwindow
  rw [haccepted] at hwindow
  exact ⟨hcounted, hwindow, hleaves _ {} fun _ _ => ⟨UInt64.le_refl _, .inr (by decide)⟩⟩

end MessageSync
