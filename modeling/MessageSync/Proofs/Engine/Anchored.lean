import MessageSync.Proofs.Engine.Named
import MessageSync.Proofs.Engine.Parts
import MessageSync.Proofs.Store.Anchored

/-!
# Operations keep acks and secrets with their contacts

No operation stores a secret of a contact that is missing, in memory either: the contacts are
looked up in the transaction that stores it (`Engine.anchored_step`). The rows of secrets that
an operation changes are those of the contacts that it names (`Operation.minds`).
-/

namespace MessageSync

/-! ## In memory -/

/-- An operation that stores secrets does nothing else, and names their contacts, which exist. -/
lemma Operation.log_of_addSecrets {α : Type} {operation : Operation α} {e : Engine Memory}
    {sink : Sink} {xs : List Secret} (hs : e.store.Anchored)
    (h : .addSecrets xs ∈ operation.log e sink) : operation.log e sink = [.addSecrets xs] ∧
      ∀ x ∈ xs, x.contact ∈ e.store.contacts ∧ x.contact ∈ operation.named := by
  have hpart : Memory.Part.secrets ∈ operation.parts := parts_of_mem_log h (by simp [Change.parts])
  cases operation with
  | addSecrets ys =>
    rw [log] at h ⊢
    split at h
    · next hall =>
      obtain rfl := Change.addSecrets.inj (List.mem_singleton.mp h)
      rw [if_pos hall]
      refine ⟨rfl, fun x hx => ⟨?_, List.mem_map_of_mem hx⟩⟩
      have hfound := List.find?_eq_none.mp (Option.isNone_iff_eq_none.mp hall) x.contact
        (List.mem_map_of_mem hx)
      simpa using hfound
    · cases h
  | rotateSecret key period bytes =>
    obtain ⟨hc, hx⟩ := Memory.mem_about h
    rw [log, Memory.about, if_pos hc]
    cases hsecret : e.store.secrets[key]? with
    | none =>
      rw [hsecret] at hx
      cases hx
    | some secret =>
      rw [hsecret] at hx
      obtain rfl := Change.addSecrets.inj (List.mem_singleton.mp hx)
      -- the rotated secret is of the contact under whose key the old one was found
      have hcontact : secret.contact = key.contact :=
        congrArg (fun k : SecretKey => k.contact) (hs.keyed key secret hsecret)
      refine ⟨rfl, fun x hx => ?_⟩
      rw [List.mem_singleton.mp hx]
      show secret.contact ∈ _ ∧ secret.contact ∈ _
      rw [hcontact]
      exact ⟨hc, List.mem_singleton.mpr rfl⟩
  | removeContact _ | removeSecretsBefore _ _ _ | nextOutgoing _ =>
    cases List.mem_singleton.mp (Memory.mem_about h).2
  | acceptIncoming key n =>
    have hx := (Memory.mem_about h).2
    split at hx
    · cases hx
    · split at hx
      · cases hx
      · cases List.mem_singleton.mp hx
  | _ => simp [parts] at hpart

/-- A step keeps acks and secrets with contacts that exist. -/
theorem Engine.anchored_step {e : Engine Memory} (hs : e.store.Keyed) (h : e.store.Anchored)
    (step : Step) : (e.step step).store.Anchored := by
  cases step with
  | setClock _ | setGate _ => exact h
  | perform operation sink =>
    have hlog := operation.allows_log hs sink
    rw [store_step, Step.log]
    by_cases hstores : ∃ xs, .addSecrets xs ∈ operation.log e sink
    · obtain ⟨xs, hxs⟩ := hstores
      obtain ⟨heq, hcontacts⟩ := Operation.log_of_addSecrets h hxs
      rw [heq] at hlog ⊢
      refine h.change hlog.1 fun ys hys x hx => ?_
      obtain rfl := Change.addSecrets.inj hys
      exact (hcontacts x hx).1
    · exact h.changes hlog fun xs hxs => hstores ⟨xs, hxs⟩

/-! ## In rows -/

/-- Whether an operation spares the secrets shows in the parts that it may touch. -/
lemma Operation.not_mem_parts_of_spares {α : Type} {operation : Operation α}
    (h : operation.sparesSecrets) : .secrets ∉ operation.parts := by
  cases operation with
  | removeContact _ | addSecrets _ | rotateSecret _ _ _ | removeSecretsBefore _ _ _
  | nextOutgoing _ | acceptIncoming _ _ => cases h
  | _ => simp [parts]

namespace Relational.Minds

variable {among : ContactId → Prop}

lemma frame : Frame (Minds among) := ⟨refl, trans⟩

lemma requireContact (c : ContactId) : Txn.Stays (Minds among) (Txn.requireContact c) :=
  Txn.stays_requireContact frame refl

/-- The secret under a key, once it is required, is of the contact of the key. -/
lemma contact_of_requireSecret {key : SecretKey} {st st' : Relational × Sink} {x : Secret}
    (h : Engine.requireSecret key st = (.ok x, st')) : st'.1 = st.1 ∧ x.contact = key.contact := by
  obtain ⟨found, mid, hfound, hrest⟩ := Txn.bind_eq_ok h
  have hquery : Store.secret key st.1 = (.ok found, mid.1) := Txn.query_eq_ok hfound
  have hread : (Store.secret key st.1).1 = st.1.secret key := rfl
  cases found with
  | none => cases hrest
  | some y =>
    cases hrest
    rw [hquery] at hread
    exact ⟨(congrArg Prod.snd hquery).symm, contact_of_secret hread.symm⟩

lemma rotateSecret {key : SecretKey} (h : among key.contact) (period : UInt64) (bytes : Bytes) :
    Act.Within (Minds among) (Engine.rotateSecret key period bytes) := by
  refine Act.within_transaction frame (Txn.stays_bind frame (requireContact _) fun _ => ?_)
  intro st
  rw [Txn.bind_apply]
  have hstays : Txn.Stays (Minds among) (Engine.requireSecret key) :=
    Txn.stays_requireSecret frame fun s => refl s
  have hsame := hstays st
  rcases hfound : Engine.requireSecret key st with ⟨e | x, st'⟩
  · rw [hfound] at hsame
    exact hsame
  · obtain ⟨hst, hcontact⟩ := contact_of_requireSecret hfound
    have hadd (s : Relational) :
        Minds among s (Store.addSecrets [x.rotate period bytes] s).2 :=
      addSecrets fun y hy => by
        rw [List.mem_singleton.mp hy]
        exact hcontact ▸ h
    rw [← hst]
    exact Txn.stays_bind frame (Txn.stays_query hadd) (fun _ => Txn.stays_pure frame _) st'

lemma nextOutgoing {key : SecretKey} (h : among key.contact) :
    Act.Within (Minds among) (Engine.nextOutgoing key) := by
  refine Act.within_transaction frame (Txn.stays_bind frame (requireContact _) fun _ => ?_)
  have hcount := Txn.stays_query (q := Store.incrementConnectionCounter key) (R := Minds among)
    fun s => incrementConnectionCounter h
  refine Txn.stays_bind frame hcount fun found => ?_
  cases found with
  | none => exact Txn.stays_throw frame _
  | some n => exact Txn.stays_pure frame n

lemma acceptIncoming {key : SecretKey} (h : among key.contact) (n : UInt64) :
    Act.Within (Minds among) (Engine.acceptIncoming key n) := by
  refine Act.within_transaction frame (Txn.stays_bind frame (requireContact _) fun _ => ?_)
  refine Txn.stays_bind frame (Txn.stays_requireSecret frame fun s => refl s) fun secret => ?_
  cases secret.window.accept n with
  | error refusal => exact Txn.stays_throw frame _
  | ok window =>
    have hset := Txn.stays_query (q := Store.setConnectionWindow key window) (R := Minds among)
      fun s => setConnectionWindow h window
    exact Txn.stays_discard frame hset

/-- The operations on secrets change those of the contacts that they name. -/
lemma within {α : Type} {operation : Operation α} (h : ¬ operation.sparesSecrets)
    (hamong : ∀ c ∈ operation.named, among c) :
    Act.Within (Minds among) (operation.act : Act Relational α) := by
  have hone {c : ContactId} (hc : operation.named = [c]) : among c :=
    hamong c (hc ▸ List.mem_singleton.mpr rfl)
  cases operation with
  | removeContact c =>
    have hask := Act.within_askAbout (c := c) (q := Store.removeContact c) (R := Minds among) frame
      refl fun s => removeContact (hone rfl)
    exact Act.within_bind frame hask fun _ => Act.within_emit frame _
  | addSecrets xs =>
    refine Act.within_transaction frame ?_
    refine Txn.stays_bind frame (Txn.stays_requireAll frame (fun _ => refl) _) fun _ => ?_
    exact Txn.stays_query fun s => addSecrets fun x hx => hamong _ (List.mem_map_of_mem hx)
  | rotateSecret key period bytes => exact rotateSecret (hone rfl) period bytes
  | removeSecretsBefore c t period =>
    exact Act.within_askAbout frame refl fun s => removeSecretsBefore (hone rfl) t period
  | nextOutgoing key => exact nextOutgoing (hone rfl)
  | acceptIncoming key n => exact acceptIncoming (hone rfl) n
  | _ => exact absurd rfl h

end Relational.Minds

/-- An operation over a relational store changes the secrets of no contact but those that it
names. -/
theorem Operation.minds {α : Type} (operation : Operation α) {e : Engine Relational}
    {t : Engine Memory} (h : e.Mirrors t) (sink : Sink) :
    Relational.Minds (· ∈ operation.named) e.store (operation.act.runOn e sink).2.engine.store := by
  by_cases hspares : operation.sparesSecrets
  · have hsame := operation.within Relational.sparing hspares ⟨e, [], sink⟩
    have hafter : (operation.act.runOn e sink).2.engine.Mirrors
        (operation.act.runOn t sink).2.engine := h.step (.perform operation sink)
    refine ⟨hsame.versions, fun k _ => by rw [Act.runOn, hsame.secrets],
      fun hs => ⟨fun k hk => ?_⟩⟩
    rw [Act.runOn, hsame.secrets] at hk
    -- contacts stay, as the store in memory shows
    have hmem := (h.store.mem_contacts _).mp (hs.secrets k hk)
    rw [hafter.store.mem_contacts, operation.engine_runOn]
    refine Memory.mem_contacts_changes hmem fun hgone => not_mem_parts_of_spares hspares ?_
    exact parts_of_mem_log hgone (by simp [Change.parts])
  · exact Relational.Minds.within hspares (fun _ hc => hc) ⟨e, [], sink⟩

end MessageSync
