import Mathlib.Tactic.SplitIfs
import MessageSync.Proofs.Store.Exchange
import MessageSync.Proofs.Store.Sendable

/-!
# Messages that arrive in any order

Messages that contacts send can be taken in in any order, if those with one identifier are one
message (`Memory.accept_comm`), and taking them in again changes nothing
(`Memory.Settled.accept`). A message that arrives for the first time gets a row for each
contact of its group. From then on it only marks the row of its sender, which cannot be undone
by another message.
-/

namespace MessageSync

lemma ReceivedBatch.mem_arrival {batch : ReceivedBatch} {c : ContactId} {x : Change} :
    x ∈ batch.arrival c ↔ (∃ m ∈ batch.messages, x = .accept m (some c)) ∨ x = .owe c batch.id := by
  simp only [arrival, List.mem_append, List.mem_map, List.mem_singleton, eq_comm]

namespace Memory

variable {s : Memory} {c c' : ContactId} {m m' : Message}

/-! ## One message -/

/-- Whether a message would be stored if it arrived. -/
def Wants (s : Memory) (m : Message) : Prop := m.group ∈ s.subscriptions ∧ m.id ∉ s.messages

/-- Stores that differ at most in their messages and deliveries, and agree about these, are
the same. -/
lemma eq_of_deliveries {t : Memory}
    (h : s.without [.messages, .deliveries] = t.without [.messages, .deliveries])
    (hmessages : s.messages = t.messages)
    (hdeliveries : ∀ c id, s.delivery c id = t.delivery c id) :
    s = t := by
  have hd : s.deliveries = t.deliveries :=
    Std.ExtTreeMap.ext_getElem? fun k => hdeliveries k.contact k.item
  simp [without] at h
  obtain ⟨hnext, hcontacts, hsubscriptions, hsubscriptionsAt, htransports, htransportsAt, hratings,
    houtstanding, htoAck, hsecrets⟩ := h
  exact Memory.ext hnext hcontacts hsubscriptions hsubscriptionsAt htransports htransportsAt
    hmessages hd hratings houtstanding htoAck hsecrets

lemma without_accept (s : Memory) (m : Message) (sender : Option ContactId) :
    (s.accept m sender).without [.messages, .deliveries] =
      s.without [.messages, .deliveries] := s.without_change (.accept m sender)

lemma subscriptions_accept (s : Memory) (m : Message) (sender : Option ContactId) :
    (s.accept m sender).subscriptions = s.subscriptions :=
  subscriptions_change (x := .accept m sender) (by simp [Change.parts])

lemma contacts_accept (s : Memory) (m : Message) (sender : Option ContactId) :
    (s.accept m sender).contacts = s.contacts :=
  (contacts_change (x := .accept m sender) (by simp [Change.parts])).1

lemma advertises_accept (s : Memory) (m : Message) (sender : Option ContactId) (c : ContactId)
    (g : GroupId) : (s.accept m sender).Advertises c g ↔ s.Advertises c g := by
  unfold Advertises
  rw [contacts_accept]

lemma startingDelivery_accept (s : Memory) (m : Message) (sender : Option ContactId) :
    (s.accept m sender).startingDelivery = s.startingDelivery := by
  have hratings : (s.accept m sender).ratings = s.ratings :=
    ratings_change (x := .accept m sender) (by simp [Change.parts])
  funext m' sender' c
  unfold startingDelivery
  rw [sendable_congr hratings]

/-- A message that is there, or that arrives and is stored. -/
lemma mem_messages_accept_iff (s : Memory) (m : Message) (sender : Option ContactId)
    (id : MessageId) :
    id ∈ (s.accept m sender).messages ↔
      m.group ∈ s.subscriptions ∧ id = m.id ∨ id ∈ s.messages := by
  rw [messages_accept]
  split
  · next hnew =>
    rw [Std.ExtTreeMap.mem_insert, Std.LawfulEqOrd.compare_eq_iff_eq, eq_comm]
    simp [hnew.1]
  · next hold =>
    refine ⟨.inr, ?_⟩
    rintro (⟨hg, rfl⟩ | hid)
    · exact not_not.mp fun hid => hold ⟨hg, hid⟩
    · exact hid

open Classical in
/-- What an arriving message does to a delivery. -/
lemma delivery_accept (s : Memory) (m : Message) (c c' : ContactId) (id : MessageId) :
    (s.accept m (some c)).delivery c' id =
      if s.Wants m then
        if id = m.id ∧ s.Advertises c' m.group then some (s.startingDelivery m (some c) c')
        else s.delivery c' id
      else if c' = c ∧ id = m.id then (s.delivery c' id).map Delivery.asSeen
      else s.delivery c' id := by
  unfold accept Wants
  split
  · next hnew => exact delivery_addMessage hnew.2 _ c' id
  · exact delivery_setSeenIfVisible s c c' m.id id

/-! ## Two messages -/

/-- A message that arrives stores no other one. -/
lemma wants_accept_of_ne (hne : m'.id ≠ m.id) (sender : Option ContactId) :
    (s.accept m sender).Wants m' ↔ s.Wants m' := by
  unfold Wants
  rw [subscriptions_accept, mem_messages_accept_iff]
  simp [hne]

/-- A message that arrived is not wanted again. -/
lemma not_wants_accept (s : Memory) (m : Message) (sender : Option ContactId) :
    ¬ (s.accept m sender).Wants m := by
  rintro ⟨hg, hid⟩
  rw [subscriptions_accept] at hg
  exact hid ((s.mem_messages_accept_iff m sender m.id).mpr (.inl ⟨hg, rfl⟩))

lemma messages_accept_of_wants (h : s.Wants m) (sender : Option ContactId) :
    (s.accept m sender).messages = s.messages.insert m.id m :=
  (s.messages_accept m sender).trans (if_pos h)

lemma messages_accept_of_not_wants (h : ¬ s.Wants m) (sender : Option ContactId) :
    (s.accept m sender).messages = s.messages :=
  (s.messages_accept m sender).trans (if_neg h)

/-- Different messages may arrive in any order. -/
lemma accept_comm_of_ne (hne : m.id ≠ m'.id) (c c' : ContactId) :
    (s.accept m (some c)).accept m' (some c') = (s.accept m' (some c')).accept m (some c) := by
  classical
  have hfirst := s.wants_accept_of_ne (m := m) (Ne.symm hne) (some c)
  have hsecond := s.wants_accept_of_ne (m := m') hne (some c')
  refine eq_of_deliveries ?_ (Std.ExtTreeMap.ext_getElem? fun id => ?_) fun d id => ?_
  · simp only [without_accept]
  · have hlookup (t : Memory) (m : Message) (sender : Option ContactId) :
        (t.accept m sender).messages[id]? =
          if t.Wants m ∧ m.id = id then some m else t.messages[id]? := by
      by_cases hwants : t.Wants m
      · simp [messages_accept_of_wants hwants, Table.getElem?_insert, hwants]
      · simp [messages_accept_of_not_wants hwants, hwants]
    simp only [hlookup, hfirst, hsecond]
    by_cases hid : m.id = id
    · subst hid
      simp [Ne.symm hne]
    · simp [hid]
  · simp only [delivery_accept, hfirst, hsecond, advertises_accept, startingDelivery_accept]
    by_cases hid : id = m.id
    · subst hid
      simp [hne]
    · simp only [hid, false_and, and_false, if_false, ite_self]

/-- One message may arrive of two contacts in any order. -/
lemma accept_comm_self (hs : s.Consistent) (m : Message) (c c' : ContactId) :
    (s.accept m (some c)).accept m (some c') = (s.accept m (some c')).accept m (some c) := by
  classical
  have hold (sender : Option ContactId) := s.not_wants_accept m sender
  refine eq_of_deliveries ?_ ?_ fun d id => ?_
  · simp only [without_accept]
  · simp only [messages_accept_of_not_wants (hold _), messages_accept]
  · simp only [delivery_accept, hold, if_false]
    by_cases hwants : s.Wants m
    -- the second arrival of a new message finds a row only for a contact of its group
    · simp only [hwants, if_true]
      by_cases hid : id = m.id
      · subst hid
        simp only [true_and, and_true, hs.delivery_eq_none hwants.2]
        by_cases hadv : s.Advertises d m.group
        · simp only [hadv, if_true, Option.map_some, startingDelivery, Option.some.injEq]
          simp only [eq_comm (a := c), eq_comm (a := c')]
          split_ifs <;> rfl
        · simp [hadv]
      · simp [hid]
    · simp only [hwants, if_false]
      by_cases hid : id = m.id
      · simp only [hid, and_true]
        split_ifs <;> rfl
      · simp only [hid, and_false, if_false]

/-- Messages may arrive in any order, if those with one identifier are one message. -/
theorem accept_comm (hs : s.Consistent) (hid : m.id = m'.id → m = m') (c c' : ContactId) :
    (s.accept m (some c)).accept m' (some c') = (s.accept m' (some c')).accept m (some c) := by
  by_cases heq : m.id = m'.id
  · rw [← hid heq]
    exact accept_comm_self hs m c c'
  · exact accept_comm_of_ne heq c c'

/-! ## The same message again -/

/-- Whether all that a message from a contact could do is done: it would not be stored, and the
contact is known to have it. -/
structure Settled (s : Memory) (c : ContactId) (m : Message) : Prop where
  unwanted : ¬ s.Wants m
  seen : ∀ d, s.delivery c m.id = some d → d.asSeen = d

/-- A message that is settled changes nothing when it arrives. -/
lemma Settled.accept_eq (h : s.Settled c m) : s.accept m (some c) = s := by
  classical
  refine eq_of_deliveries (s.without_accept m _) (messages_accept_of_not_wants h.unwanted _) ?_
  intro d id
  rw [delivery_accept, if_neg h.unwanted]
  split
  · next heq =>
    obtain ⟨rfl, rfl⟩ := heq
    cases hd : s.delivery d m.id with
    | none => rfl
    | some row => exact congrArg some (h.seen row hd)
  · rfl

/-- A message that arrived is settled. -/
lemma settled_accept (hs : s.Consistent) (m : Message) (c : ContactId) :
    (s.accept m (some c)).Settled c m where
  unwanted := s.not_wants_accept m _
  seen := by
    intro d hd
    rw [delivery_accept] at hd
    by_cases hwants : s.Wants m
    · rw [if_pos hwants, hs.delivery_eq_none hwants.2] at hd
      obtain ⟨-, heq⟩ := Option.ite_none_right_eq_some.mp hd
      rw [← Option.some.inj heq, startingDelivery, if_pos rfl]
      rfl
    · rw [if_neg hwants, if_pos ⟨rfl, rfl⟩] at hd
      obtain ⟨row, -, rfl⟩ := Option.map_eq_some_iff.mp hd
      exact asSeen_asSeen row

/-- Other messages of the contact leave a message settled. -/
lemma Settled.accept (h : s.Settled c m) (m' : Message) : (s.accept m' (some c)).Settled c m where
  unwanted := by
    rintro ⟨hg, hid⟩
    rw [subscriptions_accept] at hg
    exact h.unwanted ⟨hg, fun hmem => hid ((s.mem_messages_accept_iff m' _ m.id).mpr (.inr hmem))⟩
  seen := by
    intro d hd
    rw [delivery_accept] at hd
    split_ifs at hd
    · rw [← Option.some.inj hd, startingDelivery, if_pos rfl]
      rfl
    · exact h.seen d hd
    · obtain ⟨row, -, rfl⟩ := Option.map_eq_some_iff.mp hd
      exact asSeen_asSeen row
    · exact h.seen d hd

/-! ## Runs of messages -/

/-- Changes that commute one by one do so as runs, among stores with a property that they
keep. -/
lemma changes_comm {P : Memory → Prop} {log log' : List Change}
    (hkeep : ∀ x ∈ log, ∀ s, P s → P (s.change x)) (hkeep' : ∀ x ∈ log', ∀ s, P s → P (s.change x))
    (hcomm : ∀ x ∈ log, ∀ y ∈ log', ∀ s, P s → (s.change x).change y = (s.change y).change x)
    (hs : P s) : (s.changes log).changes log' = (s.changes log').changes log := by
  have hone (x : Change) (hx : x ∈ log) (s : Memory) (hs : P s) :
      (s.change x).changes log' = (s.changes log').change x := by
    induction log' generalizing s with
    | nil => rfl
    | cons y rest ih =>
      rw [List.forall_mem_cons] at hkeep'
      rw [changes_cons, changes_cons, hcomm x hx y List.mem_cons_self s hs]
      refine ih hkeep'.2 (fun x hx y hy => hcomm x hx y (List.mem_cons_of_mem _ hy)) _ ?_
      exact hkeep'.1 s hs
  induction log generalizing s with
  | nil => rfl
  | cons x rest ih =>
    rw [List.forall_mem_cons] at hkeep
    rw [changes_cons, changes_cons, ← hone x List.mem_cons_self s hs]
    refine ih hkeep.2 (fun x hx => hcomm x (List.mem_cons_of_mem _ hx)) (hkeep.1 s hs)
      fun x hx => ?_
    exact hone x (List.mem_cons_of_mem _ hx)

/-- That a batch is to be acknowledged is noted apart from the messages. -/
lemma accept_owe_comm (s : Memory) (m : Message) (sender : Option ContactId) (c : ContactId)
    (b : BatchId) : (s.change (.accept m sender)).change (.owe c b) =
      (s.change (.owe c b)).change (.accept m sender) := by
  by_cases hwants : s.Wants m
  · have hwants' : (s.change (.owe c b)).Wants m := hwants
    have haccept (t : Memory) (h : t.Wants m) : t.change (.accept m sender) =
        (t.addMessage m sender).2 := if_pos h
    rw [haccept s hwants, haccept _ hwants', addMessage_of_not_mem hwants.2,
      addMessage_of_not_mem hwants'.2]
    rfl
  · have hwants' : ¬ (s.change (.owe c b)).Wants m := hwants
    cases sender with
    | none =>
      have haccept (t : Memory) (h : ¬ t.Wants m) : t.change (.accept m none) = t := if_neg h
      rw [haccept s hwants, haccept _ hwants']
    | some d =>
      have haccept (t : Memory) (h : ¬ t.Wants m) : t.change (.accept m (some d)) =
          (t.setSeenIfVisible d m.id).2 := if_neg h
      rw [haccept s hwants, haccept _ hwants']
      rfl

lemma owe_comm (s : Memory) (c c' : ContactId) (b b' : BatchId) :
    (s.change (.owe c b)).change (.owe c' b') = (s.change (.owe c' b')).change (.owe c b) := by
  have htoAck : (s.toAck.insert ⟨c, b⟩ ()).insert ⟨c', b'⟩ () =
      (s.toAck.insert ⟨c', b'⟩ ()).insert ⟨c, b⟩ () := by
    refine Std.ExtTreeMap.ext_getElem? fun k => ?_
    simp only [Table.getElem?_insert]
    split_ifs <;> rfl
  simp only [change, htoAck]

/-- Batches of messages may arrive in any order, if messages with one identifier are one
message. -/
theorem changes_arrival_comm (hs : s.Consistent) (hc : c ∈ s.contacts) (hc' : c' ∈ s.contacts)
    {x y : ReceivedBatch} (hid : ∀ m ∈ x.messages, ∀ m' ∈ y.messages, m.id = m'.id → m = m') :
    (s.changes (x.arrival c)).changes (y.arrival c') =
      (s.changes (y.arrival c')).changes (x.arrival c) := by
  let P (s : Memory) : Prop := s.Consistent ∧ c ∈ s.contacts ∧ c' ∈ s.contacts
  have hkeep (z : Change) (hz : ∀ s, P s → s.Permits z) (hparts : .contacts ∉ z.parts) (s : Memory)
      (hP : P s) : P (s.change z) := by
    refine ⟨hP.1.change (hz s hP), ?_⟩
    rw [(contacts_change hparts).1]
    exact hP.2
  have haccept (m : Message) (sender : Option ContactId) :=
    hkeep (.accept m sender) (fun _ _ => trivial) (by simp [Change.parts])
  have howe (d : ContactId) (b : BatchId) (hd : ∀ s, P s → d ∈ s.contacts) :=
    hkeep (.owe d b) hd (by simp [Change.parts])
  refine changes_comm (P := P) ?_ ?_ ?_ ⟨hs, hc, hc'⟩
  · intro z hz
    rcases ReceivedBatch.mem_arrival.mp hz with ⟨m, -, rfl⟩ | rfl
    · exact haccept m _
    · exact howe c _ fun _ hP => hP.2.1
  · intro z hz
    rcases ReceivedBatch.mem_arrival.mp hz with ⟨m, -, rfl⟩ | rfl
    · exact haccept m _
    · exact howe c' _ fun _ hP => hP.2.2
  · intro z hz w hw t ht
    rcases ReceivedBatch.mem_arrival.mp hz with ⟨m, hm, rfl⟩ | rfl <;>
      rcases ReceivedBatch.mem_arrival.mp hw with ⟨m', hm', rfl⟩ | rfl
    · exact accept_comm ht.1 (hid m hm m' hm') c c'
    · exact accept_owe_comm t m _ c' _
    · exact (accept_owe_comm t m' _ c _).symm
    · exact owe_comm t c c' _ _

/-- All messages that arrived are settled. -/
lemma settled_changes (hs : s.Consistent) {messages : List Message} (hm : m ∈ messages) :
    (s.changes (messages.map (.accept · (some c)))).Settled c m := by
  have hrest (messages : List Message) (s : Memory) (h : s.Settled c m) :
      (s.changes (messages.map (.accept · (some c)))).Settled c m := by
    induction messages generalizing s with
    | nil => exact h
    | cons m' rest ih => exact ih _ (h.accept m')
  induction messages generalizing s with
  | nil => cases hm
  | cons m' rest ih =>
    rw [List.map_cons, changes_cons]
    rcases List.mem_cons.mp hm with rfl | hm
    · exact hrest rest _ (settled_accept hs m c)
    · exact ih (hs.change (x := .accept m' (some c)) trivial) hm

/-- A batch that arrives again changes nothing. -/
theorem changes_arrival_again (hs : s.Consistent) (c : ContactId) (batch : ReceivedBatch) :
    (s.changes (batch.arrival c)).changes (batch.arrival c) = s.changes (batch.arrival c) := by
  let t := s.changes (batch.arrival c)
  have hsettled (m : Message) (hm : m ∈ batch.messages) : t.Settled c m := by
    have hmessages := settled_changes (c := c) hs hm
    show (s.changes (_ ++ [_])).Settled c m
    rw [changes_append]
    exact ⟨hmessages.unwanted, hmessages.seen⟩
  have hnothing (messages : List Message) (h : ∀ m ∈ messages, t.Settled c m) :
      t.changes (messages.map (.accept · (some c))) = t := by
    induction messages with
    | nil => rfl
    | cons m rest ih =>
      rw [List.forall_mem_cons] at h
      rw [List.map_cons, changes_cons, change, h.1.accept_eq]
      exact ih h.2
  have howed : t.change (.owe c batch.id) = t := by
    have hmem : t.toAck[(⟨c, batch.id⟩ : ContactKey BatchId)]? = some () := by
      show (s.changes (_ ++ [_])).toAck[(⟨c, batch.id⟩ : ContactKey BatchId)]? = _
      rw [changes_append]
      show (Std.ExtTreeMap.insert _ _ _)[(⟨c, batch.id⟩ : ContactKey BatchId)]? = _
      rw [Table.getElem?_insert, if_pos rfl]
    have htoAck : t.toAck.insert ⟨c, batch.id⟩ () = t.toAck := by
      refine Std.ExtTreeMap.ext_getElem? fun k => ?_
      rw [Table.getElem?_insert]
      split
      · next heq => rw [← heq, hmem]
      · rfl
    simp only [change, htoAck]
  show t.changes (_ ++ [_]) = t
  rw [changes_append, hnothing _ hsettled]
  exact howed

end Memory

end MessageSync
