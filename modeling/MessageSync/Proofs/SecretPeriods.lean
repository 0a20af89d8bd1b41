import MessageSync.Proofs.Atomicity
import MessageSync.Proofs.Connections
import MessageSync.Proofs.OutstandingBatches
import MessageSync.Proofs.Store.Keyring
import MessageSync.Proofs.Topic.Backend

/-!
# Secrets of all periods

What a history makes of the secrets of a node is told by the answers of its operations
(`Engine.keyring`), apart from any store. Over either back end, and for all periods, each secret
is read back as it was written last, all secrets are listed in order, and removing those before a
period removes and counts the ones whose place comes before (`Backend.secrets_run`).

The place of a period is its number in memory. In rows it is a signed number, and periods from
2^63 on come before all others, so that removing what is before one of them leaves the secret of
period 1 (`Backend.not_secrets_unsigned`).
-/

namespace MessageSync

/-! ## What operations write -/

/-- The secrets after an operation that gave an answer. -/
def Operation.keyring (backend : Backend) (ring : Keyring) : {α : Type} → Operation α → α → Keyring
  | _, .removeContact c, _ => ring.filter fun key _ => key.contact ≠ c
  | _, .addSecrets xs, _ => ring.add xs
  | _, .rotateSecret _ _ _, rotated => ring.add [rotated]
  | _, .removeSecretsBefore c t period, _ =>
    ring.filter fun key _ => !backend.before c t period key
  | _, .nextOutgoing key, n => ring.modify key fun x => { x with outgoing := n }
  | _, .acceptIncoming key n, _ => ring.modify key fun x =>
    match x.window.accept n with
    | .ok window => { x with window }
    | .error _ => x
  | _, _, _ => ring

/-- The secrets after a step; the same as before if it fails. -/
def Step.keyring {backend : Backend} (e : Engine backend.Data) (ring : Keyring) : Step → Keyring
  | .perform operation sink =>
    match (operation.act.runOn e sink).1 with
    | .ok answer => operation.keyring backend ring answer
    | .error _ => ring
  | _ => ring

/-- The secrets after a history. -/
def Engine.keyring {backend : Backend} : Engine backend.Data → Keyring → List Step → Keyring
  | _, ring, [] => ring
  | e, ring, step :: rest => (e.step step).keyring (step.keyring e ring) rest

/-- An operation that spares the secrets writes none. -/
lemma Operation.keyring_of_spares {α : Type} {operation : Operation α}
    (h : operation.sparesSecrets) (backend : Backend) (ring : Keyring) (answer : α) :
    operation.keyring backend ring answer = ring := by
  cases operation with
  | removeContact _ | addSecrets _ | rotateSecret _ _ _ | removeSecretsBefore _ _ _
  | nextOutgoing _ | acceptIncoming _ _ => cases h
  | _ => rfl

/-- Secrets stay under their own keys. -/
lemma Keyring.Keyed.operation {ring : Keyring} (h : ring.Keyed) (backend : Backend) {α : Type}
    (operation : Operation α) (answer : α) : (operation.keyring backend ring answer).Keyed := by
  cases operation with
  | removeContact c => exact h.filter (·.contact ≠ c)
  | addSecrets xs => exact h.add xs
  | rotateSecret key period bytes => exact h.add [answer]
  | removeSecretsBefore c t period => exact h.filter (!backend.before c t period ·)
  | nextOutgoing key => exact h.modify key fun _ => rfl
  | acceptIncoming key n =>
    refine h.modify key fun x => ?_
    split <;> rfl
  | _ => exact h

lemma Keyring.Keyed.step {backend : Backend} {ring : Keyring} (h : ring.Keyed)
    (e : Engine backend.Data) (step : Step) : (step.keyring e ring).Keyed := by
  cases step with
  | setClock _ | setGate _ => exact h
  | perform operation sink =>
    rw [Step.keyring]
    split
    · exact h.operation backend operation _
    · exact h

/-! ## Answers of transactions on secrets -/

namespace KeepsWindows

variable {σ : Type} [Store σ] {t : Turn σ}

/-- What is asked about a contact that exists is asked of the store. -/
lemma askAbout_eq_ok (hσ : KeepsWindows σ) {α : Type} {c : ContactId} {q : Query σ α} {a : α}
    (h : (Act.askAbout c q t).1 = .ok a) :
    q t.engine.store = (.ok a, (Act.askAbout c q t).2.engine.store) := by
  obtain ⟨sink, hbody⟩ := Act.transaction_eq_ok h
  obtain ⟨_, mid, hcontact, hbody⟩ := Txn.bind_eq_ok hbody
  have hmid : mid.1 = t.engine.store := hσ.requireContact_eq_ok hcontact
  have hquery := Txn.query_eq_ok hbody
  rw [hmid] at hquery
  exact hquery

lemma addSecrets_eq_ok (hσ : KeepsWindows σ) {xs : List Secret}
    (h : (Engine.addSecrets xs t).1 = .ok ()) :
    Store.addSecrets xs t.engine.store = (.ok (), (Engine.addSecrets xs t).2.engine.store) := by
  obtain ⟨sink, hbody⟩ := Act.transaction_eq_ok h
  obtain ⟨_, mid, hcontacts, hbody⟩ := Txn.bind_eq_ok hbody
  have hstays := Txn.stays_requireAll (R := fun s s' : σ => s' = s)
    ⟨fun _ => rfl, fun h h' => h'.trans h⟩ hσ.containsContact (xs.map Secret.contact)
    (t.engine.store, t.sink)
  rw [hcontacts] at hstays
  have hmid : mid.1 = t.engine.store := hstays
  have hquery := Txn.query_eq_ok hbody
  rw [hmid] at hquery
  exact hquery

end KeepsWindows

/-! ## Histories -/

namespace Backend.Holds

variable {backend : Backend} {e : Engine backend.Data} {ring : Keyring}

/-- An operation that gives an answer makes of the secrets what the answer tells. -/
lemma operation (h : backend.Holds e.store ring) (hring : ring.Keyed) {α : Type}
    (operation : Operation α) {sink : Sink} {a : α} (ha : (operation.act.runOn e sink).1 = .ok a) :
    backend.Holds (operation.act.runOn e sink).2.engine.store
      (operation.keyring backend ring a) := by
  have hσ := backend.keepsWindows
  let t : Turn backend.Data := ⟨e, [], sink⟩
  change (operation.act t).1 = .ok a at ha
  by_cases hspares : operation.sparesSecrets
  · rw [Operation.keyring_of_spares hspares]
    exact h.spared hspares (t := t) rfl
  cases operation with
  | removeContact c =>
    have hrun : (Operation.removeContact c).act t =
        (Act.askAbout c (Store.removeContact c) >>= fun _ => Act.emit (.contactRemoved c)) t := rfl
    rw [Act.bind_apply] at hrun
    rcases hask : Act.askAbout c (Store.removeContact c) t with ⟨refusal | done, t'⟩
    · rw [hask] at hrun
      rw [hrun] at ha
      cases ha
    · rw [hask] at hrun
      have hafter := h.removeContact c
      have hquery : Store.removeContact c e.store = (.ok done, t'.engine.store) := by
        rw [← congrArg (fun r => r.2.engine.store) hask]
        exact hσ.askAbout_eq_ok (congrArg Prod.fst hask)
      rw [hquery] at hafter
      show backend.Holds ((Operation.removeContact c).act t).2.engine.store _
      rw [hrun]
      exact hafter
  | addSecrets xs => exact h.addSecrets (hσ.addSecrets_eq_ok ha)
  | rotateSecret k period bytes =>
    obtain ⟨-, -, -, hadd⟩ := hσ.exists_rotated ha
    exact h.addSecrets hadd
  | removeSecretsBefore c transport period =>
    have hquery := hσ.askAbout_eq_ok ha
    have hafter := h.removeSecretsBefore c transport period
    rw [hquery] at hafter
    exact hafter
  | nextOutgoing k =>
    obtain ⟨hn, hstore⟩ := KeepsCounters.nextOutgoing_eq_ok hσ ha
    have hcount : (Store.incrementConnectionCounter k e.store).1 = .ok (some a) := by
      unfold Store.upcoming at hn
      split at hn
      · next hfound => rw [hfound, hn]
      · cases hn
    have hafter := h.incrementConnectionCounter hcount
    rw [← hstore] at hafter
    exact hafter
  | acceptIncoming k n =>
    obtain ⟨w, v, hw, haccept, hstore⟩ := hσ.acceptIncoming_eq_ok ha
    -- the window that accepted the connection is that of the secret under the key
    obtain ⟨x, hx, rfl⟩ := Store.window_eq_some_iff.mp hw
    rw [show (Store.secret k e.store).1 = _ from h.secret hring k] at hx
    replace hx := Except.ok.inj hx
    have hafter := h.setConnectionWindow k v
    rw [← Table.insert_eq_modify hx fun x => { x with window := v }] at hafter
    rw [Operation.keyring, ← Table.insert_eq_modify hx, haccept]
    rw [← hstore] at hafter
    exact hafter
  | _ => exact absurd rfl hspares

/-- An operation that fails leaves the secrets as they were. -/
lemma of_error (h : backend.Holds e.store ring) {α : Type} {operation : Operation α} {sink : Sink}
    {refusal : SyncError} (hrefused : (operation.act.runOn e sink).1 = .error refusal) :
    backend.Holds (operation.act.runOn e sink).2.engine.store ring := by
  by_cases hspares : operation.sparesSecrets
  · exact h.spared (t := ⟨e, [], sink⟩) hspares rfl
  · have hsingle : operation.single := by
      cases operation with
      | findLost _ | receiveOffer _ _ => exact absurd rfl hspares
      | _ => rfl
    rw [show (operation.act.runOn e sink).2.engine = e from
      operation.atomic hsingle ⟨e, [], sink⟩ refusal hrefused]
    exact h

/-- A step makes of the secrets what its answer tells. -/
theorem step (h : backend.Holds e.store ring) (hring : ring.Keyed) (step : Step) :
    backend.Holds (e.step step).store (step.keyring e ring) := by
  cases step with
  | setClock _ | setGate _ => exact h
  | perform operation sink =>
    rw [Step.keyring]
    split
    · next answer hanswer => exact h.operation hring operation hanswer
    · next refusal hrefused => exact h.of_error hrefused

/-- A history makes of the secrets what its answers tell. -/
theorem run (h : backend.Holds e.store ring) (hring : ring.Keyed) (history : List Step) :
    (e.keyring ring history).Keyed ∧
      backend.Holds (e.run history).store (e.keyring ring history) := by
  induction history generalizing e ring with
  | nil => exact ⟨hring, h⟩
  | cons step rest ih => exact ih (h.step hring step) (hring.step e step)

end Backend.Holds

/-- All secrets are answered as the store has them. -/
lemma Engine.runOn_secrets {σ : Type} [Store σ] {e : Engine σ} {xs : List Secret}
    (h : e.view Store.secrets = .ok xs) (sink : Sink) :
    (Operation.secrets.act.runOn e sink).1 = .ok xs := by
  obtain ⟨s, hquery⟩ : ∃ s, Store.secrets e.store = (.ok xs, s) := ⟨_, Prod.ext h rfl⟩
  simp only [Act.runOn, Operation.act, Engine.secrets, Act.ask, Act.transaction, Txn.query, hquery]

namespace Backend

/-- After any history, a secret is read back as the history wrote it last: it is what the answers
of the operations make of an empty keyring. All secrets are answered, in the order of their
contact, transport and period. Removing those of a contact and a transport before a period
answers how many come before it, and removes these and no others. Periods come before each other
as their numbers do, in memory always, and in rows if both are below 2^63, or neither is. -/
theorem secrets_run (backend : Backend) (config : SyncConfig) (now : Int64) (history : List Step) :
    let e := (backend.start config now).run history
    let ring := (backend.start config now).keyring ∅ history
    (∀ key, e.view (Store.secret key) = .ok (ring[key]?)) ∧
      (∃ xs : List Secret, (∀ sink, (Operation.secrets.act.runOn e sink).1 = .ok xs) ∧
        (∀ x, x ∈ xs ↔ ring[x.key]? = some x) ∧
        (xs.Pairwise fun x y => backend.Sooner x.key y.key) ∧
        ∀ c t period sink, e.view (Store.containsContact c) = .ok true →
          ((Operation.removeSecretsBefore c t period).act.runOn e sink).1 =
              .ok (xs.countP fun x => backend.before c t period x.key) ∧
            ∀ key, (e.step (.perform (.removeSecretsBefore c t period) sink)).view
                (Store.secret key) =
              .ok (if backend.before c t period key then none else ring[key]?)) ∧
      ∀ p q : UInt64, backend = .memory ∨ (p.toNat < signedSize ↔ q.toNat < signedSize) →
        (backend.place p < backend.place q ↔ p < q) := by
  intro e ring
  have hempty : Keyring.Keyed ∅ := fun key x hx => by simp at hx
  obtain ⟨hring, hholds⟩ : ring.Keyed ∧ backend.Holds e.store ring :=
    Holds.run (Holds.empty backend) hempty history
  obtain ⟨xs, hxs, hmem, hordered, hcount⟩ := hholds.exists_secrets hring
  refine ⟨hholds.secret hring, ⟨xs, Engine.runOn_secrets hxs, hmem, hordered,
    fun c t period sink hc => ?_⟩, fun p q h => place_lt_iff h⟩
  have hcontact : Store.containsContact c e.store = (.ok true, e.store) :=
    Prod.ext hc (backend.containsContact_snd c e.store)
  have hanswer : ((Operation.removeSecretsBefore c t period).act.runOn e sink).1 = _ :=
    Act.runOn_askAbout hcontact (hcount c t period) sink
  refine ⟨hanswer, fun key => ?_⟩
  -- what is left is what the keyring has after the answer
  have hafter := hholds.operation hring (.removeSecretsBefore c t period) hanswer
  refine (hafter.secret (hring.operation backend _ _) key).trans (congrArg Except.ok ?_)
  rw [Operation.keyring, Table.getElem?_filter_keys]
  cases backend.before c t period key <;> rfl

/-- Removing the secrets before a period can leave one of a smaller number. -/
theorem not_secrets_unsigned :
    ¬ ∀ (backend : Backend) (e : Engine backend.Data) (c : ContactId) (t : TransportId)
      (period : UInt64) (sink : Sink) (xs : List Secret), backend.Reaches e →
        e.view (Store.containsContact c) = .ok true → e.view Store.secrets = .ok xs →
          ((Operation.removeSecretsBefore c t period).act.runOn e sink).1 =
            .ok (xs.countP fun x => x.contact = c && x.transport = t && x.period < period) := by
  intro h
  let e := (Backend.relational.start {} 0).run Sample.keeping
  have hsecrets : (e.view Store.secrets).toOption = some [Sample.secret] := by decide +kernel
  have hanswer : ((Operation.removeSecretsBefore ⟨1⟩ ⟨1⟩ 0x8000000000000000).act.runOn e {}).1 =
      .ok 1 :=
    h .relational e ⟨1⟩ ⟨1⟩ 0x8000000000000000 {} [Sample.secret] ⟨{}, 0, Sample.keeping, rfl⟩
      (by decide +kernel) (Sample.eq_ok_of_toOption hsecrets)
  have hnone : ((Operation.removeSecretsBefore ⟨1⟩ ⟨1⟩ 0x8000000000000000).act.runOn
      e {}).1.toOption = some 0 := by
    decide +kernel
  rw [hanswer] at hnone
  exact absurd hnone (by decide)

end Backend

end MessageSync
