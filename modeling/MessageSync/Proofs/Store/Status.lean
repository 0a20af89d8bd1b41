import MessageSync.Proofs.Store.Consistent
import MessageSync.Proofs.Store.Frame

/-!
# Statuses and batches under changes

What one change does to the statuses and the outstanding batches of one contact:

* sending, acknowledging or losing a batch of the contact, and removing it, are `about` its
  batches. Each has facts of its own;
* all other changes leave its batches alone, and what they do to a status is one of the
  few cases of `Change.Effect` (`Memory.effect_change`).
-/

namespace MessageSync

namespace Memory

/-- How far a message has come on its way to a contact, if the contact may see it. -/
def status (s : Memory) (c : ContactId) (id : MessageId) : Option Status :=
  (s.delivery c id).map Delivery.status

/-- Whether a message is in an outstanding batch of a contact. -/
def Outgoing (s : Memory) (c : ContactId) (id : MessageId) : Prop :=
  ∃ b r, s.sentBatch c b = some r ∧ id ∈ r.messages

lemma status_eq_some_iff (s : Memory) (c : ContactId) (id : MessageId) (status : Status) :
    s.status c id = some status ↔ ∃ d, s.delivery c id = some d ∧ d.status = status :=
  Option.map_eq_some_iff

lemma status_of_delivery {s s' : Memory} {c : ContactId} {id : MessageId}
    (h : s'.delivery c id = s.delivery c id) : s'.status c id = s.status c id :=
  congrArg (Option.map Delivery.status) h

/-- A message may go to a contact only if it is new to it. -/
lemma MaySend.status {s : Memory} {c : ContactId} {id : MessageId} (h : s.MaySend c id) :
    s.status c id = some .new := by
  obtain ⟨d, hd, hel⟩ := h
  unfold Delivery.eligible at hel
  rw [Bool.and_eq_true, decide_eq_true_eq] at hel
  exact (s.status_eq_some_iff c id .new).mpr ⟨d, hd, hel.2⟩

end Memory

/-! ## What changes are about -/

namespace Change

/-- Whether a change is about the batches of a contact. -/
def About (c : ContactId) : Change → Prop
  | .send c' _ _ _ | .ack c' _ | .lose c' _ _ | .removeContact c' => c' = c
  | _ => False

/-- Whether a change comes of the contact showing that it has a message. -/
def Tells (c : ContactId) (id : MessageId) : Change → Prop
  | .see c' id' => c' = c ∧ id' = id
  | .accept m sender => sender = some c ∧ m.id = id
  | _ => False

/-- Whether a change can take a message from the sight of a contact that stays. -/
def Hides : Change → Prop
  | .unsubscribe _ _ | .share _ _ _ | .forget _ => True
  | _ => False

/-- Whether a change can bring a message into the sight of a contact. -/
def Shows : Change → Prop
  | .accept _ _ | .share _ _ _ => True
  | _ => False

/-- What a change can do to the status of a message for a contact. -/
inductive Effect (c : ContactId) (id : MessageId) (x : Change) :
    Option Status → Option Status → Prop
  | same (status : Option Status) : Effect c id x status status
  | hidden (status : Option Status) (h : x.Hides) : Effect c id x status none
  | shown (h : x.Shows) : Effect c id x none (some .new)
  | told (status : Option Status) (h : x.Tells c id) : Effect c id x status (some .seen)

lemma not_about_of_shows {x : Change} (h : x.Shows) (c : ContactId) : ¬ x.About c := by
  cases x with
  | accept _ _ | share _ _ _ => exact id
  | _ => exact h.elim

end Change

namespace Memory

variable {s : Memory} {c : ContactId}

/-- A batch is lost only if it is outstanding and was sent early enough. -/
lemma lose_cases (s : Memory) (c : ContactId) (b : BatchId) (cutoff : Int64) :
    (∃ r, s.sentBatch c b = some r ∧ r.sentAt ≤ cutoff) ∨ s.change (.lose c b cutoff) = s := by
  cases hr : s.sentBatch c b with
  | none => exact .inr (congrArg Prod.snd (removeLostBatch_of_none hr cutoff))
  | some r =>
    by_cases hat : r.sentAt ≤ cutoff
    · exact .inl ⟨r, rfl, hat⟩
    · exact .inr (congrArg Prod.snd (removeLostBatch_of_later hr hat))

/-! ## Changes about other things -/

/-- A change that is not about the batches of a contact leaves them alone. -/
lemma sentBatch_change {x : Change} (hx : ¬ x.About c) (b : BatchId) :
    (s.change x).sentBatch c b = s.sentBatch c b := by
  by_cases hpart : .outstanding ∈ x.parts
  · -- it is about the batches of another contact
    cases x with
    | removeContact c' =>
      show (s.removeContact c').sentBatch c b = _
      rw [sentBatch_removeContact, if_neg (Ne.symm hx)]
    | send c' b' messages sentAt =>
      show (s.addOutstandingBatch c' b' messages sentAt).sentBatch c b = _
      rw [sentBatch_addOutstandingBatch, if_neg fun h => hx h.1.symm]
    | ack c' b' =>
      show (s.removeAckedBatch c' b').2.sentBatch c b = _
      rw [sentBatch_removeAckedBatch, if_neg fun h => hx h.1.symm]
    | lose c' b' cutoff =>
      rcases s.lose_cases c' b' cutoff with ⟨r, hr, hat⟩ | hsame
      · show (s.removeLostBatch c' b' cutoff).2.sentBatch c b = _
        rw [sentBatch_removeLostBatch hr hat, if_neg fun h => hx h.1.symm]
      · rw [hsame]
    | _ => simp [Change.parts] at hpart
  · exact outstanding_change hpart c b

/-- The contact of a delivery is shown to have its message. -/
lemma effect_asSeen {x : Change} {id : MessageId} (hx : x.Tells c id) :
    x.Effect c id (s.status c id) (((s.delivery c id).map Delivery.asSeen).map Delivery.status) := by
  unfold status
  cases s.delivery c id with
  | none => exact .same none
  | some d => exact .told _ hx

lemma effect_share {c' : ContactId} {groups : List Group} {timestamp : Int64} (hs : s.Consistent)
    (id : MessageId) : (Change.share c' groups timestamp).Effect c id (s.status c id)
      ((s.change (.share c' groups timestamp)).status c id) := by
  rcases delivery_change_share hs.keyed c' groups timestamp with hrefused | hshared
  · rw [hrefused]
    exact .same _
  · unfold status
    rw [hshared]
    by_cases hc : c = c'
    · subst hc
      rw [if_pos rfl]
      unfold sharedDelivery
      -- the message is of one of the new groups, or out of sight
      split
      · exact .hidden _ trivial
      · split
        · show Change.Effect _ _ _ _ (some (Option.getD (s.delivery c id) _).status)
          cases s.delivery c id with
          | none => exact .shown trivial
          | some d => exact .same _
        · exact .hidden _ trivial
    · rw [if_neg hc]
      exact .same _

lemma effect_accept {m : Message} {sender : Option ContactId} (hs : s.Consistent)
    (id : MessageId) : (Change.accept m sender).Effect c id (s.status c id)
      ((s.change (.accept m sender)).status c id) := by
  have hsame : (Change.accept m sender).Effect c id (s.status c id) (s.status c id) := .same _
  simp only [change, accept]
  by_cases hnew : m.group ∈ s.subscriptions ∧ m.id ∉ s.messages
  · rw [if_pos hnew]
    show Change.Effect _ _ _ _ (Option.map _ ((s.addMessage m sender).2.delivery c id))
    rw [delivery_addMessage hnew.2]
    split
    · next h =>
      obtain ⟨rfl, -⟩ := h
      -- the sender of a message has it, and it is new to everyone else
      unfold status
      rw [hs.delivery_eq_none hnew.2, Option.map_some, startingDelivery]
      by_cases hsender : sender = some c
      · rw [if_pos hsender]
        exact .told _ ⟨hsender, rfl⟩
      · rw [if_neg hsender]
        exact .shown trivial
    · exact hsame
  · rw [if_neg hnew]
    cases sender with
    | none => exact hsame
    | some c' =>
      show Change.Effect _ _ _ _ (Option.map _ ((s.setSeenIfVisible c' m.id).2.delivery c id))
      rw [delivery_setSeenIfVisible]
      split
      · next h => exact effect_asSeen ⟨congrArg some h.1.symm, h.2.symm⟩
      · exact hsame

/-- What a change that is not about the batches of a contact does to a status. -/
theorem effect_change (hs : s.Consistent) {x : Change} (hx : ¬ x.About c) (id : MessageId) :
    x.Effect c id (s.status c id) ((s.change x).status c id) := by
  have hsame (h : (s.change x).delivery c id = s.delivery c id) :
      x.Effect c id (s.status c id) ((s.change x).status c id) := by
    rw [status_of_delivery h]
    exact .same _
  by_cases hpart : .deliveries ∈ x.parts
  · cases x with
    -- these can touch the row of the contact
    | unsubscribe g now =>
      by_cases hg : g ∈ s.subscriptions
      · show Change.Effect _ _ _ _ (Option.map _ ((s.removeSubscription g now).2.delivery c id))
        rw [delivery_removeSubscription hs.keyed hg]
        split
        · exact .hidden _ trivial
        · exact .same _
      · apply hsame
        simp only [change, removeSubscription_of_not_mem hg]
    | share c' groups timestamp => exact effect_share hs id
    | accept m sender => exact effect_accept hs id
    | forget a =>
      show Change.Effect _ _ _ _ (Option.map _ ((s.removeMessage a).delivery c id))
      rw [delivery_removeMessage]
      split
      · exact .hidden _ trivial
      · exact .same _
    | see c' a =>
      show Change.Effect _ _ _ _ (Option.map _ ((s.setSeenIfVisible c' a).2.delivery c id))
      rw [delivery_setSeenIfVisible]
      split
      · next h => exact effect_asSeen ⟨h.1.symm, h.2.symm⟩
      · exact .same _
    -- a rating decides whether the message may be passed on, which is not in the status
    | rate a rating =>
      have hstatus : (s.rate a rating).status c id = s.status c id := by
        unfold rate
        dsimp only
        split
        · unfold status
          rw [delivery_setSendability, Option.map_map]
          refine congrArg (Option.map · _) (funext fun d => ?_)
          show (if _ then _ else d).status = d.status
          split <;> rfl
        · rfl
      show Change.Effect _ _ _ _ ((s.rate a rating).status c id)
      rw [hstatus]
      exact .same _
    -- these are about the batches of another contact
    | removeContact c' =>
      apply hsame
      show (s.removeContact c').delivery c id = _
      rw [delivery_removeContact, if_neg (Ne.symm hx)]
    | send c' b messages sentAt =>
      apply hsame
      show (s.addOutstandingBatch c' b messages sentAt).delivery c id = _
      rw [delivery_addOutstandingBatch, if_neg fun h => hx h.1.symm]
    | ack c' b =>
      apply hsame
      show (s.removeAckedBatch c' b).2.delivery c id = _
      cases hr : s.sentBatch c' b with
      | none => rw [removeAckedBatch_of_none hr]
      | some r => rw [delivery_removeAckedBatch hr, if_neg fun h => hx h.1.symm]
    | lose c' b cutoff =>
      apply hsame
      rcases s.lose_cases c' b cutoff with ⟨r, hr, hat⟩ | hsame
      · show (s.removeLostBatch c' b cutoff).2.delivery c id = _
        rw [delivery_removeLostBatch hr hat, if_neg fun h => hx h.1.symm]
      · rw [hsame]
    | _ => simp [Change.parts] at hpart
  · exact hsame (delivery_change hpart c id)

/-! ## Changes about batches -/

lemma status_removeContact (id : MessageId) : (s.change (.removeContact c)).status c id = none := by
  unfold status
  show Option.map _ ((s.removeContact c).delivery c id) = none
  rw [delivery_removeContact, if_pos rfl, Option.map_none]

/-- The messages of a batch that is sent are new until then. -/
lemma status_send {b : BatchId} {messages : List MessageId} {sentAt : Int64}
    (hmay : ∀ id ∈ messages, s.MaySend c id) (id : MessageId) :
    (s.change (.send c b messages sentAt)).status c id =
      if id ∈ messages then some .sent else s.status c id := by
  show Option.map _ ((s.addOutstandingBatch c b messages sentAt).delivery c id) = _
  rw [delivery_addOutstandingBatch]
  -- a row of any other status would be left as it is
  by_cases hid : id ∈ messages
  · obtain ⟨d, hd, hnew⟩ := (s.status_eq_some_iff c id .new).mp (hmay id hid).status
    rw [if_pos ⟨rfl, hid⟩, if_pos hid, hd, Option.map_some, Option.map_some]
    rw [Delivery.asSent, if_pos hnew]
  · rw [if_neg fun h => hid h.2, if_neg hid]
    rfl

lemma sentBatch_send {b : BatchId} {messages : List MessageId} {sentAt : Int64} (b' : BatchId) :
    (s.change (.send c b messages sentAt)).sentBatch c b' =
      if b' = b then some ⟨messages, sentAt⟩ else s.sentBatch c b' := by
  show (s.addOutstandingBatch c b messages sentAt).sentBatch c b' = _
  rw [sentBatch_addOutstandingBatch]
  simp only [true_and]

lemma status_ack {b : BatchId} {r : SentRecord} (hr : s.sentBatch c b = some r)
    (id : MessageId) : (s.change (.ack c b)).status c id =
      if id ∈ r.messages then (s.status c id).map fun _ => .seen else s.status c id := by
  show Option.map _ ((s.removeAckedBatch c b).2.delivery c id) = _
  rw [delivery_removeAckedBatch hr]
  by_cases hid : id ∈ r.messages
  · rw [if_pos ⟨rfl, hid⟩, if_pos hid]
    unfold status
    cases s.delivery c id <;> rfl
  · rw [if_neg fun h => hid h.2, if_neg hid]
    rfl

lemma sentBatch_ack (b b' : BatchId) :
    (s.change (.ack c b)).sentBatch c b' = if b' = b then none else s.sentBatch c b' := by
  show (s.removeAckedBatch c b).2.sentBatch c b' = _
  rw [sentBatch_removeAckedBatch]
  simp only [true_and]

/-- An ack of a batch that is not outstanding is ignored. -/
lemma change_ack_of_none {b : BatchId} (hr : s.sentBatch c b = none) :
    s.change (.ack c b) = s := by
  show (s.removeAckedBatch c b).2 = s
  rw [removeAckedBatch_of_none hr]

lemma status_lose {b : BatchId} {r : SentRecord} (hr : s.sentBatch c b = some r)
    {cutoff : Int64} (hat : r.sentAt ≤ cutoff) (id : MessageId) :
    (s.change (.lose c b cutoff)).status c id =
      if id ∈ r.messages ∧ s.status c id = some .sent then some .new else s.status c id := by
  show Option.map _ ((s.removeLostBatch c b cutoff).2.delivery c id) = _
  rw [delivery_removeLostBatch hr hat]
  unfold status
  by_cases hid : id ∈ r.messages
  · rw [if_pos ⟨rfl, hid⟩]
    cases s.delivery c id with
    | none => simp
    | some d => by_cases hsent : d.status = .sent <;> simp [Delivery.asLost, hid, hsent]
  · rw [if_neg fun h => hid h.2, if_neg fun h => hid h.1]

lemma sentBatch_lose {b : BatchId} {r : SentRecord} (hr : s.sentBatch c b = some r)
    {cutoff : Int64} (hat : r.sentAt ≤ cutoff) (b' : BatchId) :
    (s.change (.lose c b cutoff)).sentBatch c b' = if b' = b then none else s.sentBatch c b' := by
  show (s.removeLostBatch c b cutoff).2.sentBatch c b' = _
  rw [sentBatch_removeLostBatch hr hat]
  simp only [true_and]

lemma sentBatch_lose_other {a b : BatchId} (hne : b ≠ a) (cutoff : Int64) :
    (s.change (.lose c a cutoff)).sentBatch c b = s.sentBatch c b := by
  rcases s.lose_cases c a cutoff with ⟨r, hr, hat⟩ | hsame
  · rw [sentBatch_lose hr hat, if_neg hne]
  · rw [hsame]

lemma sentBatch_lose_self {b : BatchId} {cutoff : Int64}
    (hat : ∀ r, s.sentBatch c b = some r → r.sentAt ≤ cutoff) :
    (s.change (.lose c b cutoff)).sentBatch c b = none := by
  cases hr : s.sentBatch c b with
  | some r => rw [sentBatch_lose hr (hat r hr), if_pos rfl]
  | none =>
    rcases s.lose_cases c b cutoff with ⟨r, hsome, -⟩ | hsame
    · rw [hr] at hsome
      cases hsome
    · rw [hsame, hr]

/-- A batch that is lost among others, or was not outstanding, is not outstanding afterwards. -/
lemma sentBatch_loses {b : BatchId} {ids : List BatchId} {cutoff : Int64}
    (hat : ∀ r, s.sentBatch c b = some r → r.sentAt ≤ cutoff)
    (hb : b ∈ ids ∨ s.sentBatch c b = none) :
    (s.changes (ids.map (.lose c · cutoff))).sentBatch c b = none := by
  induction ids generalizing s with
  | nil => exact hb.resolve_left List.not_mem_nil
  | cons a rest ih =>
    rw [List.map_cons, changes_cons]
    by_cases ha : b = a
    · subst ha
      have hnone := sentBatch_lose_self hat
      refine ih (fun r hr => ?_) (.inr hnone)
      rw [hnone] at hr
      cases hr
    · have hsame := sentBatch_lose_other (s := s) (c := c) ha cutoff
      refine ih (fun r hr => hat r (hsame ▸ hr)) ?_
      rw [hsame]
      exact hb.imp_left fun hmem => (List.mem_cons.mp hmem).resolve_left ha

lemma mem_toAck_settle (ids : List BatchId) (b : BatchId) :
    (⟨c, b⟩ : ContactKey BatchId) ∈ (s.change (.settle c ids)).toAck ↔
      b ∉ ids ∧ (⟨c, b⟩ : ContactKey BatchId) ∈ s.toAck := by
  have hlookup := Table.getElem?_foldl_erase (ContactKey.mk c) ids s.toAck ⟨c, b⟩
  simp only [mem_map_key_iff, true_and] at hlookup
  rw [Table.mem_iff_exists, Table.mem_iff_exists]
  show (∃ v, (ids.foldl _ s.toAck)[(⟨c, b⟩ : ContactKey BatchId)]? = some v) ↔ _
  rw [hlookup]
  by_cases hb : b ∈ ids
  · simp [hb]
  · simp [hb]

/-- A batch that is outstanding was so before, unless it is sent now. -/
lemma sentBatch_of_change {x : Change} {b : BatchId} {r : SentRecord}
    (h : (s.change x).sentBatch c b = some r) :
    s.sentBatch c b = some r ∨ x = .send c b r.messages r.sentAt := by
  by_cases habout : x.About c
  · cases x with
    | send c' b' messages sentAt =>
      obtain rfl : c' = c := habout
      rw [sentBatch_send] at h
      split at h
      · next heq =>
        rw [heq, ← Option.some.inj h]
        exact .inr rfl
      · exact .inl h
    | ack c' b' =>
      obtain rfl : c' = c := habout
      rw [sentBatch_ack] at h
      split at h
      · cases h
      · exact .inl h
    | lose c' b' cutoff =>
      obtain rfl : c' = c := habout
      rcases s.lose_cases c' b' cutoff with ⟨r', hr', hat⟩ | hsame
      · rw [sentBatch_lose hr' hat] at h
        split at h
        · cases h
        · exact .inl h
      · rw [hsame] at h
        exact .inl h
    | removeContact c' =>
      obtain rfl : c' = c := habout
      change (s.removeContact c').sentBatch c' b = some r at h
      rw [sentBatch_removeContact, if_pos rfl] at h
      cases h
    | _ => exact habout.elim
  · rw [sentBatch_change habout] at h
    exact .inl h

lemma sentBatch_of_changes {log : List Change} {b : BatchId} {r : SentRecord}
    (h : (s.changes log).sentBatch c b = some r) :
    s.sentBatch c b = some r ∨ .send c b r.messages r.sentAt ∈ log := by
  induction log generalizing s with
  | nil => exact .inl h
  | cons x rest ih =>
    rcases ih h with hnext | hmem
    · rcases sentBatch_of_change hnext with hfirst | hx
      · exact .inl hfirst
      · exact .inr (hx ▸ List.mem_cons_self)
    · exact .inr (List.mem_cons_of_mem x hmem)

end Memory

end MessageSync
