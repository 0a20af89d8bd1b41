import MessageSync.Proofs.Store.Origin

/-!
# What may be passed on

A delivery remembers whether its message may be passed on, so that nobody has to look up how
the author is rated. `Memory.Judged` says that it remembers rightly, and `Memory.Judged.change`
that it does so after every change.

What is remembered is written when a message arrives, when a contact takes up a group, and when
an author becomes good or no longer is. All other changes leave it alone (`flag_change`), and
ratings change only when an author is rated.
-/

namespace MessageSync.Memory

/-- Every delivery tells whether its message may be passed on, by the rating of its author. -/
def Judged (s : Memory) : Prop :=
  ∀ (c : ContactId) (id : MessageId) (d : Delivery) (m : Message),
    s.delivery c id = some d → s.messages[id]? = some m → d.sendable = s.sendable m

lemma Judged.empty : Memory.empty.Judged := by
  intro c id d m h
  simp [Memory.empty, delivery] at h

variable {s : Memory} {x : Change}

/-! ## Ratings -/

lemma ratingOf_setRating (s : Memory) (a a' : AuthorId) (rating : Rating) :
    (s.setRating a rating).2.ratingOf a' = if a = a' then rating else s.ratingOf a' := by
  unfold setRating ratingOf
  rw [Std.ExtTreeMap.getD_eq_getD_getElem?, Table.getElem?_insert,
    Std.ExtTreeMap.getD_eq_getD_getElem?]
  split <;> rfl

/-- Rating an author decides about the messages of that author. -/
lemma sendable_setRating (s : Memory) (a : AuthorId) (rating : Rating) (m : Message) :
    (s.setRating a rating).2.sendable m =
      if m.author = some a then rating.isGood else s.sendable m := by
  unfold sendable
  cases m.author with
  | none => rfl
  | some a' =>
    simp only [Option.map_some, Option.getD_some, ratingOf_setRating, isSendable,
      Option.isNone_some, Bool.false_or, Option.some.injEq]
    by_cases ha : a = a'
    · rw [if_pos ha, if_pos ha.symm]
    · rw [if_neg ha, if_neg (Ne.symm ha)]

lemma ratings_rate (s : Memory) (a : AuthorId) (rating : Rating) :
    (s.rate a rating).ratings = (s.setRating a rating).2.ratings := by
  unfold rate
  dsimp only
  split <;> rfl

lemma ratingOf_rate (s : Memory) (a a' : AuthorId) (rating : Rating) :
    (s.rate a rating).ratingOf a' = if a = a' then rating else s.ratingOf a' := by
  rw [← ratingOf_setRating]
  exact congrArg (Std.ExtTreeMap.getD · a' .unrated) (s.ratings_rate a rating)

lemma sendable_congr {s s' : Memory} (h : s'.ratings = s.ratings) (m : Message) :
    s'.sendable m = s.sendable m := by
  unfold sendable ratingOf
  rw [h]

lemma ratingOf_change {a : AuthorId} (hx : ∀ rating, x ≠ .rate a rating) :
    (s.change x).ratingOf a = s.ratingOf a := by
  by_cases hpart : .ratings ∈ x.parts
  · cases x with
    | rate a' rating =>
      have hne : a' ≠ a := fun heq => hx rating (heq ▸ rfl)
      exact (s.ratingOf_rate a' a rating).trans (if_neg hne)
    | _ => simp [Change.parts] at hpart
  · unfold ratingOf
    rw [ratings_change hpart]

/-- An author keeps the rating while nobody rates that author. -/
lemma ratingOf_changes {a : AuthorId} {log : List Change}
    (h : ∀ x ∈ log, ∀ rating, x ≠ .rate a rating) : (s.changes log).ratingOf a = s.ratingOf a :=
  changes_frame (·.ratingOf a) (fun x hx _ => ratingOf_change (h x hx)) s

/-! ## Messages -/

/-- A message that is stored stays what it is for as long as it is stored. -/
lemma message_change {id : MessageId} {m m' : Message} (h : s.messages[id]? = some m)
    (h' : (s.change x).messages[id]? = some m') : m' = m := by
  rcases messages_of_change h' with hold | ⟨sender, rfl⟩
  · rw [h] at hold
    exact (Option.some.inj hold).symm
  · rw [change, messages_accept] at h'
    split at h'
    · next hnew =>
      rw [Table.getElem?_insert] at h'
      split at h'
      · next hid => exact absurd (Table.mem_of_getElem? (hid ▸ h)) hnew.2
      · exact (Option.some.inj (h.symm.trans h')).symm
    · exact (Option.some.inj (h.symm.trans h')).symm

/-! ## Changes that rate nobody -/

/-- Where the flag of a delivery comes from: it was there before, or the delivery is added and
the flag comes of the rating of the author. -/
def FlagFrom (s s' : Memory) (c : ContactId) (id : MessageId) (d : Delivery) : Prop :=
  (∃ d', s.delivery c id = some d' ∧ d.sendable = d'.sendable) ∨
    ∃ m, s'.messages[id]? = some m ∧ d.sendable = s.sendable m

variable {s' : Memory} {c : ContactId} {id : MessageId} {d : Delivery}

lemma flagFrom_same (h : s.delivery c id = some d) : s.FlagFrom s' c id d :=
  .inl ⟨d, h, rfl⟩

/-- How far a message has come is not in the flag. -/
lemma flagFrom_map {f : Delivery → Delivery} (hf : ∀ d, (f d).sendable = d.sendable)
    {p : Prop} [Decidable p]
    (h : (if p then (s.delivery c id).map f else s.delivery c id) = some d) :
    s.FlagFrom s' c id d := by
  split at h
  · obtain ⟨d', hd', rfl⟩ := Option.map_eq_some_iff.mp h
    exact .inl ⟨d', hd', hf d'⟩
  · exact flagFrom_same h

/-- A delivery that is dropped has no flag. -/
lemma flagFrom_drop {p : Prop} [Decidable p]
    (h : (if p then none else s.delivery c id) = some d) : s.FlagFrom s' c id d := by
  split at h
  · cases h
  · exact flagFrom_same h

lemma sendable_asSeen (d : Delivery) : d.asSeen.sendable = d.sendable := rfl

lemma sendable_asSent (d : Delivery) : d.asSent.sendable = d.sendable := by
  unfold Delivery.asSent
  split <;> rfl

lemma sendable_asLost (d : Delivery) : d.asLost.sendable = d.sendable := by
  unfold Delivery.asLost
  split <;> rfl

lemma flagFrom_share {c' : ContactId} {groups : List Group} {timestamp : Int64}
    (hs : s.Consistent) (h : (s.change (.share c' groups timestamp)).delivery c id = some d) :
    s.FlagFrom (s.change (.share c' groups timestamp)) c id d := by
  have hmessages : (s.change (.share c' groups timestamp)).messages = s.messages :=
    messages_change (by simp [Change.parts])
  rcases delivery_change_share hs.keyed c' groups timestamp with hrefused | hshared
  · rw [hrefused] at h
    exact flagFrom_same h
  · rw [hshared] at h
    split at h
    · next hc =>
      subst hc
      unfold sharedDelivery at h
      -- a message of a group that is kept has a delivery, and one of a new group gets one
      cases hm : s.messages[id]? with
      | none =>
        rw [hm] at h
        cases h
      | some m =>
        rw [hm] at h
        dsimp only at h
        split at h
        · obtain rfl := Option.some.inj h
          cases hd : s.delivery c id with
          | some d' => exact .inl ⟨d', hd, rfl⟩
          | none => exact .inr ⟨m, by rw [hmessages, hm], rfl⟩
        · cases h
    · exact flagFrom_same h

lemma flagFrom_accept {m : Message} {sender : Option ContactId}
    (h : (s.change (.accept m sender)).delivery c id = some d) :
    s.FlagFrom (s.change (.accept m sender)) c id d := by
  simp only [change, accept] at h ⊢
  split at h
  · next hnew =>
    rw [delivery_addMessage hnew.2] at h
    rw [if_pos hnew]
    split at h
    · next hadv =>
      obtain rfl := Option.some.inj h
      refine .inr ⟨m, ?_, rfl⟩
      rw [addMessage_of_not_mem hnew.2, Table.getElem?_insert, if_pos hadv.1.symm]
    · exact flagFrom_same h
  · split at h
    · rw [delivery_setSeenIfVisible] at h
      exact flagFrom_map sendable_asSeen h
    · exact flagFrom_same h

/-- A change that rates nobody leaves the flags of deliveries alone, and the flags of those that
it adds come of the ratings. -/
theorem flag_change (hs : s.Consistent) (hx : .ratings ∉ x.parts)
    (h : (s.change x).delivery c id = some d) : s.FlagFrom (s.change x) c id d := by
  by_cases hpart : .deliveries ∈ x.parts
  · cases x with
    | removeContact c' =>
      change (s.removeContact c').delivery c id = some d at h
      rw [delivery_removeContact] at h
      exact flagFrom_drop h
    | unsubscribe g now =>
      by_cases hg : g ∈ s.subscriptions
      · change (s.removeSubscription g now).2.delivery c id = some d at h
        rw [delivery_removeSubscription hs.keyed hg] at h
        exact flagFrom_drop h
      · simp only [change, removeSubscription_of_not_mem hg] at h
        exact flagFrom_same h
    | share c' groups timestamp => exact flagFrom_share hs h
    | accept m sender => exact flagFrom_accept h
    | forget a =>
      change (s.removeMessage a).delivery c id = some d at h
      rw [delivery_removeMessage] at h
      exact flagFrom_drop h
    | see c' a =>
      change (s.setSeenIfVisible c' a).2.delivery c id = some d at h
      rw [delivery_setSeenIfVisible] at h
      exact flagFrom_map sendable_asSeen h
    | send c' b messages sentAt =>
      change (s.addOutstandingBatch c' b messages sentAt).delivery c id = some d at h
      rw [delivery_addOutstandingBatch] at h
      exact flagFrom_map sendable_asSent h
    | ack c' b =>
      cases hr : s.sentBatch c' b with
      | none =>
        rw [change_ack_of_none hr] at h
        exact flagFrom_same h
      | some r =>
        change (s.removeAckedBatch c' b).2.delivery c id = some d at h
        rw [delivery_removeAckedBatch hr] at h
        exact flagFrom_map sendable_asSeen h
    | lose c' b cutoff =>
      rcases s.lose_cases c' b cutoff with ⟨r, hr, hat⟩ | hsame
      · change (s.removeLostBatch c' b cutoff).2.delivery c id = some d at h
        rw [delivery_removeLostBatch hr hat] at h
        exact flagFrom_map sendable_asLost h
      · rw [hsame] at h
        exact flagFrom_same h
    | rate _ _ => simp [Change.parts] at hx
    | _ => simp [Change.parts] at hpart
  · rw [delivery_change hpart] at h
    exact flagFrom_same h

/-! ## All changes -/

namespace Judged

/-- Ratings that do not change the answer for any delivery need no more than to be stored, and
those that do are followed by a look at the messages of the author. -/
lemma rate (h : s.Judged) (a : AuthorId) (rating : Rating) : (s.rate a rating).Judged := by
  intro c id d m hd hm
  have hsendable : (s.rate a rating).sendable m =
      if m.author = some a then rating.isGood else s.sendable m := by
    rw [← sendable_setRating]
    exact sendable_congr (s.ratings_rate a rating) m
  rw [hsendable]
  unfold Memory.rate at hd hm
  dsimp only at hd hm
  split at hd
  · next hcross =>
    rw [if_pos hcross] at hm
    -- the rating crosses the line, and the flags of the author are set
    have hstored : s.messages[id]? = some m := hm
    rw [delivery_setSendability] at hd
    obtain ⟨d', hd', rfl⟩ := Option.map_eq_some_iff.mp hd
    have hby : (s.setRating a rating).2.isBy a id = decide (m.author = some a) := by
      show (s.messages[id]?).any _ = _
      rw [hstored]
      rfl
    rw [hby]
    by_cases hauthor : m.author = some a
    · simp [hauthor]
    · simp only [hauthor, decide_false, Bool.false_eq_true, if_false]
      exact h c id d' m hd' hstored
  · next hsame =>
    rw [if_neg hsame] at hm
    -- the rating stays on its side of the line
    have hold := h c id d m hd hm
    split
    · next hauthor =>
      rw [hold, ← not_not.mp hsame]
      simp [Memory.sendable, isSendable, hauthor]
    · exact hold

/-- Every change that the engine makes keeps the flags right. -/
theorem change (h : s.Judged) (hs : s.Consistent) : (s.change x).Judged := by
  by_cases hx : .ratings ∈ x.parts
  · cases x with
    | rate a rating => exact h.rate a rating
    | _ => simp [Change.parts] at hx
  · intro c id d m hd hm
    rw [sendable_congr (ratings_change hx)]
    rcases flag_change hs hx hd with ⟨d', hd', hflag⟩ | ⟨m', hm', hflag⟩
    · -- the message of a delivery that was there before was stored before
      obtain ⟨m₀, hm₀, -⟩ := (hs.visible c id).mp (by rw [hd']; rfl)
      rw [hflag, message_change hm₀ hm]
      exact h c id d' m₀ hd' hm₀
    · rw [hm] at hm'
      rw [hflag, Option.some.inj hm']

end Judged

end MessageSync.Memory
