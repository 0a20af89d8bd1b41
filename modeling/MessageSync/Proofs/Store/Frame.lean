import MessageSync.Proofs.Store.Change

/-!
# What changes leave alone

Each change touches few parts of a store (`Change.parts`) and leaves all others as they are
(`Memory.frame_change`), so that what is said of one part needs a look only at the changes
that touch it.
-/

namespace MessageSync

/-- A part of a store. -/
inductive Memory.Part where
  | contacts
  | subscriptions
  | transports
  | messages
  | deliveries
  | ratings
  | outstanding
  | toAck
  | secrets
deriving DecidableEq

/-- The parts of a store that a change may touch. -/
def Change.parts : Change → List Memory.Part
  | .addContact _ | .setTransports _ _ _ => [.contacts]
  | .removeContact _ => [.contacts, .deliveries, .outstanding, .toAck, .secrets]
  | .subscribe _ _ => [.subscriptions]
  | .unsubscribe _ _ => [.subscriptions, .messages, .deliveries]
  | .share _ _ _ => [.contacts, .deliveries]
  | .setLocalTransports _ _ => [.transports]
  | .accept _ _ | .forget _ => [.messages, .deliveries]
  | .see _ _ => [.deliveries]
  | .rate _ _ => [.ratings, .deliveries]
  | .send _ _ _ _ | .ack _ _ | .lose _ _ _ => [.deliveries, .outstanding]
  | .owe _ _ | .settle _ _ => [.toAck]
  | .addSecrets _ | .count _ | .setWindow _ _ | .dropSecrets _ _ _ => [.secrets]

namespace Memory

/-- The store with some parts emptied. -/
def without (s : Memory) (parts : List Part) : Memory where
  nextContact := if .contacts ∈ parts then 0 else s.nextContact
  contacts := if .contacts ∈ parts then ∅ else s.contacts
  subscriptions := if .subscriptions ∈ parts then ∅ else s.subscriptions
  subscriptionsAt := if .subscriptions ∈ parts then 0 else s.subscriptionsAt
  transports := if .transports ∈ parts then ∅ else s.transports
  transportsAt := if .transports ∈ parts then 0 else s.transportsAt
  messages := if .messages ∈ parts then ∅ else s.messages
  deliveries := if .deliveries ∈ parts then ∅ else s.deliveries
  ratings := if .ratings ∈ parts then ∅ else s.ratings
  outstanding := if .outstanding ∈ parts then ∅ else s.outstanding
  toAck := if .toAck ∈ parts then ∅ else s.toAck
  secrets := if .secrets ∈ parts then ∅ else s.secrets

/-- A change leaves alone what is none of its parts. -/
theorem without_change (s : Memory) (x : Change) :
    (s.change x).without x.parts = s.without x.parts := by
  cases x with
  | addContact _ | removeContact _ | setLocalTransports _ _ | forget _ | see _ _ | send _ _ _ _
  | owe _ _ | settle _ _ | addSecrets _ | setWindow _ _ | dropSecrets _ _ _ => rfl
  | subscribe g now =>
    simp only [change, addSubscription]
    split <;> rfl
  | unsubscribe g now =>
    show (s.removeSubscription g now).2.without _ = _
    by_cases hg : g ∈ s.subscriptions
    · obtain ⟨_, _, heq⟩ := exists_removeSubscription hg now
      rw [heq]
      rfl
    · rw [removeSubscription_of_not_mem hg]
  | share c groups timestamp =>
    simp only [change, setSubscriptions]
    split
    · rfl
    · split <;> rfl
  | setTransports c transports timestamp =>
    simp only [change, setTransports]
    split
    · rfl
    · split <;> rfl
  | accept m sender =>
    simp only [change, accept, addMessage, setSeenIfVisible]
    split
    · split <;> rfl
    · split <;> rfl
  | rate a rating =>
    simp only [change, rate, setRating, setSendability]
    split <;> rfl
  | ack c b =>
    show (s.removeAckedBatch c b).2.without _ = _
    obtain ⟨_, _, heq⟩ := s.exists_removeAckedBatch c b
    rw [heq]
    rfl
  | lose c b cutoff =>
    show (s.removeLostBatch c b cutoff).2.without _ = _
    obtain ⟨_, _, heq⟩ := s.exists_removeLostBatch c b cutoff
    rw [heq]
    rfl
  | count key =>
    simp only [change, incrementConnectionCounter]
    split <;> rfl

/-! ## Parts that stay -/

variable {s : Memory} {x : Change}

lemma contacts_change (h : .contacts ∉ x.parts) :
    (s.change x).contacts = s.contacts ∧ (s.change x).nextContact = s.nextContact := by
  have hcontacts := congrArg contacts (s.without_change x)
  have hnext := congrArg nextContact (s.without_change x)
  simp only [without, if_neg h] at hcontacts hnext
  exact ⟨hcontacts, hnext⟩

lemma contacts_changes {log : List Change} (h : ∀ x ∈ log, .contacts ∉ x.parts) :
    (s.changes log).contacts = s.contacts :=
  changes_frame contacts (fun x hx _ => (contacts_change (h x hx)).1) s

lemma subscriptions_change (h : .subscriptions ∉ x.parts) :
    (s.change x).subscriptions = s.subscriptions := by
  have hsubscriptions := congrArg subscriptions (s.without_change x)
  simp only [without, if_neg h] at hsubscriptions
  exact hsubscriptions

lemma messages_change (h : .messages ∉ x.parts) : (s.change x).messages = s.messages := by
  have hmessages := congrArg messages (s.without_change x)
  simp only [without, if_neg h] at hmessages
  exact hmessages

lemma delivery_change (h : .deliveries ∉ x.parts) (c : ContactId) (id : MessageId) :
    (s.change x).delivery c id = s.delivery c id := by
  have hdeliveries := congrArg deliveries (s.without_change x)
  simp only [without, if_neg h] at hdeliveries
  exact congrArg (·[(⟨c, id⟩ : ContactKey MessageId)]?) hdeliveries

lemma outstanding_change (h : .outstanding ∉ x.parts) (c : ContactId) (b : BatchId) :
    (s.change x).sentBatch c b = s.sentBatch c b := by
  have houtstanding := congrArg outstanding (s.without_change x)
  simp only [without, if_neg h] at houtstanding
  exact congrArg (·[(⟨c, b⟩ : ContactKey BatchId)]?) houtstanding

lemma toAck_change (h : .toAck ∉ x.parts) : (s.change x).toAck = s.toAck := by
  have htoAck := congrArg toAck (s.without_change x)
  simp only [without, if_neg h] at htoAck
  exact htoAck

lemma toAck_changes {log : List Change} (h : ∀ x ∈ log, .toAck ∉ x.parts) :
    (s.changes log).toAck = s.toAck :=
  changes_frame toAck (fun x hx _ => toAck_change (h x hx)) s

lemma transports_change (h : .transports ∉ x.parts) : (s.change x).transports = s.transports := by
  have htransports := congrArg transports (s.without_change x)
  simp only [without, if_neg h] at htransports
  exact htransports

lemma ratings_change (h : .ratings ∉ x.parts) : (s.change x).ratings = s.ratings := by
  have hratings := congrArg ratings (s.without_change x)
  simp only [without, if_neg h] at hratings
  exact hratings

lemma secrets_change (h : .secrets ∉ x.parts) : (s.change x).secrets = s.secrets := by
  have hsecrets := congrArg secrets (s.without_change x)
  simp only [without, if_neg h] at hsecrets
  exact hsecrets

end Memory

end MessageSync
