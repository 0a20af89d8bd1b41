import MessageSync.Proofs.Store.Memory

/-!
# Changes of a store in memory

All that the operations of an engine do to a store in memory is a run of changes. There
are few kinds of them, so that what every operation preserves is shown for each kind of
change, and not for each operation.

`Memory.change` is one change, `Memory.changes` a run of them, and `Memory.Allows` says
of a run that each change comes at a moment at which the engine makes it: a batch is
sent to a contact that exists, of messages that may go to it.
-/

namespace MessageSync

/-- A change of a store. -/
inductive Change where
  | addContact (transports : Properties)
  | removeContact (c : ContactId)
  | subscribe (g : Group) (now : Int64)
  | unsubscribe (g : GroupId) (now : Int64)
  /-- The groups of a contact are replaced, unless those it has are as new. -/
  | share (c : ContactId) (groups : List Group) (timestamp : Int64)
  | setLocalTransports (transports : Properties) (now : Int64)
  | setTransports (c : ContactId) (transports : Properties) (timestamp : Int64)
  /-- A message arrives. It is stored, or its sender is known to have it. -/
  | accept (m : Message) (sender : Option ContactId)
  | forget (id : MessageId)
  /-- A contact turns out to have a message. -/
  | see (c : ContactId) (id : MessageId)
  | rate (a : AuthorId) (rating : Rating)
  | send (c : ContactId) (b : BatchId) (messages : List MessageId) (sentAt : Int64)
  | ack (c : ContactId) (b : BatchId)
  | lose (c : ContactId) (b : BatchId) (cutoff : Int64)
  /-- A batch is to be acknowledged. -/
  | owe (c : ContactId) (b : BatchId)
  | settle (c : ContactId) (batches : List BatchId)
  | addSecrets (secrets : List Secret)
  | count (key : SecretKey)
  | setWindow (key : SecretKey) (window : Window)
  | dropSecrets (c : ContactId) (t : TransportId) (period : UInt64)

namespace Memory

/-! ## Changes made of two queries -/

/-- The store after a message arrived. -/
def accept (s : Memory) (m : Message) (sender : Option ContactId) : Memory :=
  if m.group ∈ s.subscriptions ∧ m.id ∉ s.messages then (s.addMessage m sender).2
  else
    match sender with
    | some c => (s.setSeenIfVisible c m.id).2
    | none => s

/-- The store after an author was rated. What may be sent changes with it if the author
becomes good, or no longer is. -/
def rate (s : Memory) (a : AuthorId) (rating : Rating) : Memory :=
  let rated := (s.setRating a rating).2
  if (s.ratingOf a).isGood ≠ rating.isGood then (rated.setSendability a rating.isGood).2
  else rated

/-! ## Runs of changes -/

/-- The store after a change. -/
def change (s : Memory) : Change → Memory
  | .addContact transports => (s.addContact transports).2
  | .removeContact c => s.removeContact c
  | .subscribe g now => (s.addSubscription g now).2
  | .unsubscribe g now => (s.removeSubscription g now).2
  | .share c groups timestamp => (s.setSubscriptions c groups timestamp).2
  | .setLocalTransports transports now => { s with transports, transportsAt := now }
  | .setTransports c transports timestamp => (s.setTransports c transports timestamp).2
  | .accept m sender => s.accept m sender
  | .forget id => s.removeMessage id
  | .see c id => (s.setSeenIfVisible c id).2
  | .rate a rating => s.rate a rating
  | .send c b messages sentAt => s.addOutstandingBatch c b messages sentAt
  | .ack c b => (s.removeAckedBatch c b).2
  | .lose c b cutoff => (s.removeLostBatch c b cutoff).2
  | .owe c b => { s with toAck := s.toAck.insert ⟨c, b⟩ () }
  | .settle c batches => s.removeBatchesToAck c batches
  | .addSecrets secrets =>
    { s with secrets := Table.insertAll s.secrets (secrets.map fun x => (x.key, x)) }
  | .count key => (s.incrementConnectionCounter key).2
  | .setWindow key window => (s.setConnectionWindow key window).2
  | .dropSecrets c t period => (s.removeSecretsBefore c t period).2

/-- A message that arrives is stored if it is of a group of ours and new. -/
lemma messages_accept (s : Memory) (m : Message) (sender : Option ContactId) :
    (s.accept m sender).messages =
      if m.group ∈ s.subscriptions ∧ m.id ∉ s.messages then s.messages.insert m.id m
      else s.messages := by
  unfold accept
  split
  · next hnew => rw [addMessage_of_not_mem hnew.2]
  · split <;> rfl

/-- What a contact says of its groups is refused if it is not newer than what it said before. -/
lemma change_share_of_old {s : Memory} {c : ContactId} {groups : List Group} {timestamp : Int64}
    (h : ∀ r, s.contacts[c]? = some r → timestamp ≤ r.groupsAt) :
    s.change (.share c groups timestamp) = s := by
  simp only [change, setSubscriptions]
  cases hr : s.contacts[c]? with
  | none => rfl
  | some r => simp only [if_pos (h r hr)]

/-- What a contact says of its groups is refused, or it decides the deliveries to the contact. -/
lemma delivery_change_share {s : Memory} (hs : s.Keyed) (c : ContactId) (groups : List Group)
    (timestamp : Int64) : s.change (.share c groups timestamp) = s ∨
      ∀ c' id, (s.change (.share c groups timestamp)).delivery c' id =
        if c' = c then s.sharedDelivery c (Group.toTable groups) id else s.delivery c' id := by
  cases hr : s.contacts[c]? with
  | none => exact .inl (change_share_of_old (by simp [hr]))
  | some r =>
    by_cases hat : timestamp ≤ r.groupsAt
    · exact .inl (change_share_of_old (by simpa [hr] using hat))
    · refine .inr fun c' id => ?_
      let r' : ContactRecord := { r with groups := Group.toTable groups, groupsAt := timestamp }
      let s' : Memory := { s with contacts := s.contacts.insert c r' }
      have hchange : s.change (.share c groups timestamp) = s'.share c r'.groups := by
        simp only [change, setSubscriptions, hr, if_neg hat]
        rfl
      rw [hchange, delivery_share (s := s') hs]
      rfl

/-- What a contact says of its transports is refused if it is not newer. -/
lemma change_setTransports_of_old {s : Memory} {c : ContactId} {transports : Properties}
    {timestamp : Int64} (h : ∀ r, s.contacts[c]? = some r → timestamp ≤ r.transportsAt) :
    s.change (.setTransports c transports timestamp) = s := by
  simp only [change, setTransports]
  cases hr : s.contacts[c]? with
  | none => rfl
  | some r => simp only [if_pos (h r hr)]

/-- The store after changes in turn. -/
def changes (s : Memory) (log : List Change) : Memory := log.foldl change s

@[simp] lemma changes_nil (s : Memory) : s.changes [] = s := rfl

@[simp] lemma changes_cons (s : Memory) (x : Change) (log : List Change) :
    s.changes (x :: log) = (s.change x).changes log := rfl

lemma changes_append (s : Memory) (log log' : List Change) :
    s.changes (log ++ log') = (s.changes log).changes log' := List.foldl_append

/-- Whether a message may go to a contact. -/
def MaySend (s : Memory) (c : ContactId) (id : MessageId) : Prop :=
  ∃ d, s.delivery c id = some d ∧ d.eligible

/-- Whether the engine makes this change now. -/
def Permits (s : Memory) : Change → Prop
  | .send c _ messages _ => c ∈ s.contacts ∧ messages.Nodup ∧ ∀ id ∈ messages, s.MaySend c id
  | .owe c _ => c ∈ s.contacts
  | _ => True

/-- Whether the engine makes these changes from here on. -/
def Allows (s : Memory) : List Change → Prop
  | [] => True
  | x :: log => s.Permits x ∧ (s.change x).Allows log

lemma allows_singleton {s : Memory} {x : Change} (h : s.Permits x) : s.Allows [x] :=
  ⟨h, trivial⟩

lemma allows_append {s : Memory} {log log' : List Change} (h : s.Allows log)
    (h' : (s.changes log).Allows log') : s.Allows (log ++ log') := by
  induction log generalizing s with
  | nil => exact h'
  | cons x rest ih => exact ⟨h.1, ih h.2 h'⟩

/-- Changes that the engine makes at any moment are made in any order. -/
lemma allows_of_forall {log : List Change} (h : ∀ x ∈ log, ∀ s : Memory, s.Permits x)
    (s : Memory) : s.Allows log := by
  induction log generalizing s with
  | nil => trivial
  | cons x rest ih =>
    exact ⟨h x List.mem_cons_self s, ih (fun y hy => h y (List.mem_cons_of_mem _ hy)) _⟩

/-- What each of some changes leaves as it is, all of them do. -/
lemma changes_frame {α : Type} (f : Memory → α) {log : List Change}
    (h : ∀ x ∈ log, ∀ s : Memory, f (s.change x) = f s) (s : Memory) :
    f (s.changes log) = f s := by
  induction log generalizing s with
  | nil => rfl
  | cons x rest ih =>
    rw [List.forall_mem_cons] at h
    rw [changes_cons, ih h.2, h.1]

/-- What every permitted change preserves holds after a run of changes. -/
theorem changes_induction {P : Memory → Prop}
    (step : ∀ s x, P s → s.Permits x → P (s.change x)) {s : Memory} (h : P s)
    {log : List Change} (hlog : s.Allows log) : P (s.changes log) := by
  induction log generalizing s with
  | nil => exact h
  | cons x rest ih => exact ih (step s x h hlog.1) hlog.2

end Memory

end MessageSync
