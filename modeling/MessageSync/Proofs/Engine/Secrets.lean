import MessageSync.Proofs.Engine.Basic

/-!
# Running operations on secrets and connections

What keeping secrets and counting connections comes to over a store in memory.
-/

namespace MessageSync.Engine

open Act

variable (t : Turn Memory)

/-! ## Keeping secrets -/

/-- The first of some contacts that does not exist. -/
def firstMissing (s : Memory) (contacts : List ContactId) : Option ContactId :=
  contacts.find? fun c => !s.contacts.contains c

lemma requireAll_apply (contacts : List ContactId) (s : Memory) (sink : Sink) :
    Engine.requireAll contacts (s, sink) =
      match firstMissing s contacts with
      | none => (.ok (), (s, sink))
      | some c => (.error (.noSuchContact c), (s, sink)) := by
  unfold firstMissing
  induction contacts with
  | nil => rfl
  | cons c rest ih =>
    simp only [Engine.requireAll, Txn.bind_apply, Txn.requireContact_apply]
    by_cases hc : c ∈ s.contacts
    · rw [List.find?_cons_of_neg (by simp [hc])]
      simp only [hc, if_true, ih]
    · have hnot : s.contacts.contains c = false :=
        Bool.eq_false_iff.mpr fun h => hc (Std.ExtTreeMap.contains_iff_mem.mp h)
      rw [List.find?_cons_of_pos (by simp [hnot])]
      simp only [hc, if_false]

lemma addSecrets_apply (secrets : List Secret) :
    Engine.addSecrets secrets t =
      match firstMissing t.engine.store (secrets.map Secret.contact) with
      | none => (.ok (), t.after [.addSecrets secrets] [])
      | some c => (.error (.noSuchContact c), t) := by
  have hadd (s : Memory) (sink : Sink) : Txn.query (Store.addSecrets secrets) (s, sink) =
      (.ok (), (s.change (.addSecrets secrets), sink)) := rfl
  simp only [Engine.addSecrets, transaction, Txn.bind_apply, requireAll_apply]
  cases firstMissing t.engine.store (secrets.map Secret.contact) with
  | none => simp [hadd, Turn.after]
  | some c => rfl

/-- Why there is nothing for a key. -/
def missingSecret (key : SecretKey) : SyncError :=
  .noSuchSecret key.contact key.item.transport key.item.period

lemma requireSecret_apply (key : SecretKey) (s : Memory) (sink : Sink) :
    Engine.requireSecret key (s, sink) =
      match s.secrets[key]? with
      | none => (.error (missingSecret key), (s, sink))
      | some secret => (.ok secret, (s, sink)) := by
  have hsecret : Txn.query (Store.secret key) (s, sink) =
      (.ok (s.secrets[key]?), (s, sink)) := rfl
  simp only [Engine.requireSecret, Txn.bind_apply, hsecret]
  cases s.secrets[key]? with
  | none => rfl
  | some secret => rfl

lemma rotateSecret_apply (key : SecretKey) (period : UInt64) (bytes : Bytes) :
    Engine.rotateSecret key period bytes t =
      if key.contact ∈ t.engine.store.contacts then
        match t.engine.store.secrets[key]? with
        | none => (.error (missingSecret key), t)
        | some secret =>
          (.ok (secret.rotate period bytes),
            t.after [.addSecrets [secret.rotate period bytes]] [])
      else (.error (.noSuchContact key.contact), t) := by
  have hadd (xs : List Secret) (s : Memory) (sink : Sink) :
      Txn.query (Store.addSecrets xs) (s, sink) = (.ok (), (s.change (.addSecrets xs), sink)) := rfl
  rw [Engine.rotateSecret, transaction_requireContact]
  split
  · simp only [transaction, Txn.bind_apply, requireSecret_apply]
    cases t.engine.store.secrets[key]? with
    | none => rfl
    | some secret => simp [hadd, Turn.after]
  · rfl

lemma removeSecretsBefore_apply (c : ContactId) (transport : TransportId) (period : UInt64) :
    Engine.removeSecretsBefore c transport period t =
      if c ∈ t.engine.store.contacts then
        (.ok (t.engine.store.removeSecretsBefore c transport period).1,
          t.after [.dropSecrets c transport period] [])
      else (.error (.noSuchContact c), t) := by
  have hask : ask (Store.removeSecretsBefore c transport period) t =
      (.ok (t.engine.store.removeSecretsBefore c transport period).1,
        t.after [.dropSecrets c transport period] []) := ask_change rfl
  rw [Engine.removeSecretsBefore, askAbout_apply, hask]

/-! ## Connections -/

lemma nextOutgoing_apply (key : SecretKey) :
    Engine.nextOutgoing key t =
      if key.contact ∈ t.engine.store.contacts then
        match t.engine.store.secrets[key]? with
        | none => (.error (missingSecret key), t)
        | some secret => (.ok (secret.outgoing + 1), t.after [.count key] [])
      else (.error (.noSuchContact key.contact), t) := by
  rw [Engine.nextOutgoing, transaction_requireContact]
  split
  · have hcount (s : Memory) (sink : Sink) :
        Txn.query (Store.incrementConnectionCounter key) (s, sink) =
          (.ok (s.incrementConnectionCounter key).1,
            (s.change (.count key), sink)) := rfl
    simp only [transaction, Txn.bind_apply, hcount]
    cases h : t.engine.store.secrets[key]? with
    | none => simp [Memory.incrementConnectionCounter, h, missingSecret]
    | some secret => simp [Memory.incrementConnectionCounter, h, Turn.after]
  · rfl

lemma acceptIncoming_apply (key : SecretKey) (n : UInt64) :
    Engine.acceptIncoming key n t =
      if key.contact ∈ t.engine.store.contacts then
        match t.engine.store.secrets[key]? with
        | none => (.error (missingSecret key), t)
        | some secret =>
          match secret.window.accept n with
          | .error refusal => (.error (.replay refusal), t)
          | .ok window => (.ok (), t.after [.setWindow key window] [])
      else (.error (.noSuchContact key.contact), t) := by
  rw [Engine.acceptIncoming, transaction_requireContact]
  split
  · have hset (window : Window) (s : Memory) (sink : Sink) :
        (discard (Txn.query (Store.setConnectionWindow key window)) : Txn Memory Unit) (s, sink) =
          (.ok (), (s.change (.setWindow key window), sink)) := rfl
    simp only [transaction, Txn.bind_apply, requireSecret_apply]
    cases t.engine.store.secrets[key]? with
    | none => rfl
    | some secret =>
      cases h : secret.window.accept n with
      | error refusal => simp [h]
      | ok window => simp [h, hset, Turn.after]
  · rfl

lemma unseenConnections_apply (key : SecretKey) :
    Engine.unseenConnections key t =
      if key.contact ∈ t.engine.store.contacts then
        match t.engine.store.secrets[key]? with
        | none => (.error (missingSecret key), t)
        | some secret => (.ok secret.window.unseen, t)
      else (.error (.noSuchContact key.contact), t) := by
  rw [Engine.unseenConnections, transaction_requireContact]
  split
  · simp only [transaction, Txn.bind_apply, requireSecret_apply]
    cases t.engine.store.secrets[key]? with
    | none => rfl
    | some secret => rfl
  · rfl

end MessageSync.Engine
