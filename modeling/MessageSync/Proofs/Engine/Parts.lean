import MessageSync.Proofs.Engine.Origin
import MessageSync.Proofs.Store.Frame

/-!
# What operations leave alone of a store in memory

Each operation makes changes of few parts of a store (`Operation.parts`), and leaves all
others as they are (`Operation.without_runOn`). What is said of a part needs a look only at the
operations that touch it.
-/

namespace MessageSync

/-- The parts of a store that an operation may touch. -/
def Operation.parts : {α : Type} → Operation α → List Memory.Part
  | _, .addContact _ | _, .receiveTransports _ _ => [.contacts]
  | _, .removeContact _ => [.contacts, .deliveries, .outstanding, .toAck, .secrets]
  | _, .receiveSubscriptions _ _ => [.contacts, .deliveries]
  | _, .subscribe _ => [.subscriptions]
  | _, .unsubscribe _ => [.subscriptions, .messages, .deliveries]
  | _, .setLocalTransports _ => [.transports]
  | _, .setRating _ _ => [.ratings, .deliveries]
  | _, .addLocal _ | _, .expire _ => [.messages, .deliveries]
  | _, .receiveBatch _ _ => [.messages, .deliveries, .toAck]
  | _, .receiveOffer _ _ => [.deliveries]
  | _, .generateBatch _ _ _ | _, .generateBatchFrom _ _ _ _ | _, .receiveRequest _ _ _ _ _
  | _, .receiveAck _ _ | _, .findLost _ => [.deliveries, .outstanding]
  | _, .generateAck _ _ => [.toAck]
  | _, .addSecrets _ | _, .rotateSecret _ _ _ | _, .removeSecretsBefore _ _ _
  | _, .nextOutgoing _ | _, .acceptIncoming _ _ => [.secrets]
  | _, .contacts | _, .subscriptions | _, .rating _ | _, .storedBytes | _, .generateOffer _ _
  | _, .generateSubscriptions _ | _, .generateTransports _ | _, .contactSubscriptions _
  | _, .contactTransports _ | _, .localTransports | _, .secrets | _, .unseenConnections _ => []

/-- The changes of an operation are of its parts. -/
lemma Operation.parts_of_mem_log {α : Type} {operation : Operation α} {e : Engine Memory}
    {sink : Sink} {x : Change} (h : x ∈ operation.log e sink) : x.parts ⊆ operation.parts := by
  -- a batch that is sent is recorded, and no more
  have hsend {c : ContactId} {nonce : Nonce} {picked : List MessageId × BatchWriter}
      (h : x ∈ e.store.about c (e.logBatch sink c nonce picked)) :
      x.parts ⊆ [.deliveries, .outstanding] := by
    rw [(Engine.mem_logBatch (Memory.mem_about h).2).2.2]
    exact List.Subset.refl _
  cases operation with
  | contacts | subscriptions | rating _ | storedBytes | generateOffer _ _
  | generateSubscriptions _ | generateTransports _ | contactSubscriptions _
  | contactTransports _ | localTransports | secrets | unseenConnections _ => cases h
  | subscribe _ | unsubscribe _ | setRating _ _ | addContact _ | setLocalTransports _ =>
    obtain rfl := List.mem_singleton.mp h
    exact List.Subset.refl _
  | removeContact _ | removeSecretsBefore _ _ _ | nextOutgoing _ =>
    obtain rfl := List.mem_singleton.mp (Memory.mem_about h).2
    exact List.Subset.refl _
  | generateBatch c writer nonce => exact hsend h
  | generateBatchFrom c writer nonce requested => exact hsend h
  | receiveRequest c offer request writer nonce =>
    rw [log] at h
    split at h
    · cases h
    · exact hsend h
  | addLocal m =>
    rw [log] at h
    split at h
    · obtain rfl := List.mem_singleton.mp h
      exact List.Subset.refl _
    · cases h
  | receiveBatch c batch =>
    rw [log] at h
    split at h
    · rcases List.mem_append.mp (Memory.mem_about h).2 with hx | hx
      · obtain ⟨m, -, rfl⟩ := List.mem_map.mp hx
        exact List.subset_append_left [Memory.Part.messages, .deliveries] [.toAck]
      · obtain rfl := List.mem_singleton.mp hx
        exact List.subset_append_right [Memory.Part.messages, .deliveries] [.toAck]
    · cases h
  | expire wanted =>
    obtain ⟨id, -, rfl⟩ := List.mem_map.mp h
    exact List.Subset.refl _
  | generateAck c writer =>
    obtain ⟨-, hx⟩ := Sink.mem_onSent (Memory.mem_about h).2
    obtain rfl := List.mem_singleton.mp hx
    exact List.Subset.refl _
  | receiveAck c batches | findLost c =>
    obtain ⟨b, -, rfl⟩ := List.mem_map.mp (Memory.mem_about h).2
    exact List.Subset.refl _
  | receiveOffer c offer =>
    rw [log] at h
    split at h
    · cases h
    · obtain ⟨id, -, rfl⟩ := List.mem_map.mp (Memory.mem_about h).2
      exact List.Subset.refl _
  | receiveSubscriptions c update | receiveTransports c update =>
    rw [log] at h
    split at h
    · cases h
    · obtain rfl := List.mem_singleton.mp h
      exact List.Subset.refl _
  | addSecrets xs =>
    rw [log] at h
    split at h
    · obtain rfl := List.mem_singleton.mp h
      exact List.Subset.refl _
    · cases h
  | rotateSecret key period bytes =>
    have hx := (Memory.mem_about h).2
    split at hx
    · cases hx
    · obtain rfl := List.mem_singleton.mp hx
      exact List.Subset.refl _
  | acceptIncoming key n =>
    have hx := (Memory.mem_about h).2
    split at hx
    · cases hx
    · split at hx
      · cases hx
      · obtain rfl := List.mem_singleton.mp hx
        exact List.Subset.refl _

/-! ## Stores without these parts -/

namespace Memory

variable {s s' : Memory} {parts parts' : List Part}

lemma without_without (s : Memory) (h : parts ⊆ parts') :
    (s.without parts).without parts' = s.without parts' := by
  have hif {β : Type} (p : Part) (a b : β) :
      (if p ∈ parts' then a else if p ∈ parts then a else b) = if p ∈ parts' then a else b := by
    split
    · rfl
    · next hp => rw [if_neg fun hmem => hp (h hmem)]
  simp only [without, hif]

/-- Stores that are alike but for some parts are so but for more of them. -/
lemma without_of_subset (h : parts ⊆ parts') (hs : s'.without parts = s.without parts) :
    s'.without parts' = s.without parts' := by
  rw [← s'.without_without h, hs, s.without_without h]

/-- Changes of some parts leave alone the others. -/
lemma without_changes {log : List Change} (h : ∀ x ∈ log, x.parts ⊆ parts) :
    (s.changes log).without parts = s.without parts :=
  changes_frame (·.without parts) (fun x hx s => without_of_subset (h x hx) (s.without_change x)) s

end Memory

/-- An operation leaves alone what is none of its parts. -/
theorem Operation.without_runOn {α : Type} (operation : Operation α) (e : Engine Memory)
    (sink : Sink) : (operation.act.runOn e sink).2.engine.store.without operation.parts =
      e.store.without operation.parts := by
  rw [operation.engine_runOn]
  exact Memory.without_changes fun x hx => parts_of_mem_log hx

end MessageSync
