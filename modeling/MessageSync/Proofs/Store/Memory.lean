import MessageSync.Proofs.Table
import MessageSync.Store.Memory

/-!
# Entries of a store in memory

What the queries that change a store in memory do to single entries of its tables:

* deleting messages, one or all of a group, takes their deliveries along;
* new messages and new groups of a contact bring deliveries;
* batches that are sent, acknowledged or lost change the status of deliveries.

A delivery is looked up under its contact and its message. The facts about groups need the
messages of the store to be kept under their own identifiers.
-/

namespace MessageSync.Memory

/-! ## Looking up -/

/-- Every message is kept under its own identifier. -/
def Keyed (s : Memory) : Prop :=
  ∀ ⦃id : MessageId⦄ ⦃m : Message⦄, s.messages[id]? = some m → m.id = id

/-- The delivery of a message to a contact. -/
def delivery (s : Memory) (c : ContactId) (id : MessageId) : Option Delivery :=
  s.deliveries[(⟨c, id⟩ : ContactKey MessageId)]?

/-- The record of an outstanding batch of a contact. -/
def sentBatch (s : Memory) (c : ContactId) (b : BatchId) : Option SentRecord :=
  s.outstanding[(⟨c, b⟩ : ContactKey BatchId)]?

/-- Whether a contact is subscribed to a group. -/
def Advertises (s : Memory) (c : ContactId) (g : GroupId) : Prop :=
  ∃ r, s.contacts[c]? = some r ∧ g ∈ r.groups

lemma mem_values_iff {s : Memory} (hs : s.Keyed) (m : Message) :
    m ∈ s.messages.values ↔ s.messages[m.id]? = some m := by
  rw [Table.mem_values_iff]
  constructor
  · rintro ⟨id, h⟩
    rw [hs h]
    exact h
  · intro h
    exact ⟨m.id, h⟩

/-! ## Deleting messages -/

lemma messages_removeMessage (s : Memory) (id a : MessageId) :
    (s.removeMessage id).messages[a]? = if id = a then none else s.messages[a]? :=
  Table.getElem?_erase s.messages id a

lemma delivery_removeMessage (s : Memory) (id a : MessageId) (c : ContactId) :
    (s.removeMessage id).delivery c a = if id = a then none else s.delivery c a := by
  unfold delivery removeMessage
  rw [Std.ExtTreeMap.getElem?_filter']
  by_cases h : id = a
  · subst h
    cases s.deliveries[(⟨c, id⟩ : ContactKey MessageId)]? <;> simp
  · have hne : a ≠ id := fun h' => h h'.symm
    cases s.deliveries[(⟨c, a⟩ : ContactKey MessageId)]? <;> simp [h, hne]

/-- Deleting messages in turn changes no other tables. -/
lemma exists_foldl_removeMessage (ids : List MessageId) (s : Memory) :
    ∃ messages deliveries,
      ids.foldl removeMessage s = { s with messages := messages, deliveries := deliveries } := by
  induction ids generalizing s with
  | nil => exact ⟨s.messages, s.deliveries, rfl⟩
  | cons id rest ih => exact ih (s.removeMessage id)

/-- What goes with one deleted message goes with each of several. -/
lemma lookup_foldl_removeMessage {β : Type} (lookup : Memory → MessageId → Option β)
    (hlookup : ∀ s id a, lookup (removeMessage s id) a = if id = a then none else lookup s a)
    (ids : List MessageId) (s : Memory) (a : MessageId) :
    lookup (ids.foldl removeMessage s) a = if a ∈ ids then none else lookup s a := by
  induction ids generalizing s with
  | nil => simp
  | cons id rest ih =>
    rw [List.foldl_cons, ih, hlookup]
    by_cases h : id = a
    · simp [h]
    · have hne : a ≠ id := Ne.symm h
      simp only [h, if_false, List.mem_cons, hne, false_or]

lemma messages_foldl_removeMessage (ids : List MessageId) (s : Memory) (a : MessageId) :
    (ids.foldl removeMessage s).messages[a]? = if a ∈ ids then none else s.messages[a]? :=
  lookup_foldl_removeMessage (fun s a => s.messages[a]?) messages_removeMessage ids s a

lemma delivery_foldl_removeMessage (ids : List MessageId) (s : Memory) (c : ContactId)
    (a : MessageId) :
    (ids.foldl removeMessage s).delivery c a = if a ∈ ids then none else s.delivery c a :=
  lookup_foldl_removeMessage (fun s a => s.delivery c a)
    (fun s id a => delivery_removeMessage s id a c) ids s a

/-- The messages of a group, as they are listed to delete them. -/
lemma mem_doomed_iff {s : Memory} (hs : s.Keyed) (g : GroupId) (a : MessageId) :
    a ∈ (s.messages.values.filter fun m => m.group = g).map Message.id ↔
      ∃ m, s.messages[a]? = some m ∧ m.group = g := by
  rw [List.mem_map]
  constructor
  · rintro ⟨m, hm, rfl⟩
    obtain ⟨hv, hg⟩ := List.mem_filter.mp hm
    exact ⟨m, (mem_values_iff hs m).mp hv, of_decide_eq_true hg⟩
  · rintro ⟨m, hm, hg⟩
    have hid : m.id = a := hs hm
    subst hid
    exact ⟨m, List.mem_filter.mpr ⟨(mem_values_iff hs m).mpr hm, decide_eq_true hg⟩, rfl⟩

lemma messages_removeSubscription {s : Memory} (hs : s.Keyed) {g : GroupId}
    (hg : g ∈ s.subscriptions) (now : Int64) (a : MessageId) :
    (s.removeSubscription g now).2.messages[a]? = (s.messages[a]?).filter (·.group ≠ g) := by
  simp only [removeSubscription, Std.ExtTreeMap.contains_iff_mem.mpr hg, if_true]
  rw [messages_foldl_removeMessage]
  simp only [mem_doomed_iff hs]
  cases hm : s.messages[a]? with
  | none => simp
  | some m =>
    by_cases h : m.group = g
    · simp [h, Option.filter]
    · simp [h, Option.filter]

lemma delivery_removeSubscription {s : Memory} (hs : s.Keyed) {g : GroupId}
    (hg : g ∈ s.subscriptions) (now : Int64) (c : ContactId) (a : MessageId) :
    (s.removeSubscription g now).2.delivery c a =
      if (s.messages[a]?).any (·.group = g) then none else s.delivery c a := by
  simp only [removeSubscription, Std.ExtTreeMap.contains_iff_mem.mpr hg, if_true]
  rw [delivery_foldl_removeMessage]
  simp only [mem_doomed_iff hs, Option.any_eq_true, decide_eq_true_eq]
  rfl

/-- Ending a subscription changes no other tables. -/
lemma exists_removeSubscription {s : Memory} {g : GroupId} (hg : g ∈ s.subscriptions)
    (now : Int64) :
    ∃ messages deliveries, (s.removeSubscription g now).2 =
      { s with
        subscriptions := s.subscriptions.erase g, subscriptionsAt := now
        messages := messages, deliveries := deliveries } := by
  simp only [removeSubscription, Std.ExtTreeMap.contains_iff_mem.mpr hg, if_true]
  exact exists_foldl_removeMessage _ _

lemma removeSubscription_of_not_mem {s : Memory} {g : GroupId} (hg : g ∉ s.subscriptions)
    (now : Int64) : s.removeSubscription g now = (false, s) := by
  simp [removeSubscription, hg]

/-! ## Contacts and groups -/

lemma delivery_removeContact (s : Memory) (c c' : ContactId) (id : MessageId) :
    (s.removeContact c).delivery c' id = if c' = c then none else s.delivery c' id := 
  Table.getElem?_others s.deliveries c c' id

lemma sentBatch_removeContact (s : Memory) (c c' : ContactId) (b : BatchId) :
    (s.removeContact c).sentBatch c' b = if c' = c then none else s.sentBatch c' b := 
  Table.getElem?_others s.outstanding c c' b

/-- The deliveries that stay when the groups of a contact are replaced. -/
def kept (s : Memory) (c : ContactId) (groups : Table GroupId String) :
    Table (ContactKey MessageId) Delivery :=
  s.deliveries.filter fun k _ =>
    k.contact ≠ c || (s.messages[k.item]?).any fun m => groups.contains m.group

/-- The messages that a contact newly sees when its groups are replaced. -/
def missing (s : Memory) (c : ContactId) (groups : Table GroupId String) : List Message :=
  s.messages.values.filter fun m =>
    groups.contains m.group && !(s.kept c groups).contains ⟨c, m.id⟩

lemma share_eq (s : Memory) (c : ContactId) (groups : Table GroupId String) :
    s.share c groups = { s with
      deliveries := Table.insertAll (s.kept c groups) <|
        (s.missing c groups).map fun m => (⟨c, m.id⟩, ⟨.new, s.sendable m⟩) } := rfl

lemma getElem?_kept (s : Memory) (c : ContactId) (groups : Table GroupId String)
    (c' : ContactId) (id : MessageId) :
    (s.kept c groups)[(⟨c', id⟩ : ContactKey MessageId)]? =
      if c' = c ∧ ¬ (s.messages[id]?).any (fun m => groups.contains m.group) then none
      else s.delivery c' id := by
  unfold kept delivery
  rw [Table.getElem?_filter_keys]
  by_cases hc : c' = c
  · by_cases hm : (s.messages[id]?).any (fun m => groups.contains m.group)
    · simp [hc, hm]
    · simp [hc, hm]
  · simp [hc]

lemma mem_missing_iff {s : Memory} (hs : s.Keyed) (c : ContactId) (groups : Table GroupId String)
    (m : Message) :
    m ∈ s.missing c groups ↔
      s.messages[m.id]? = some m ∧ m.group ∈ groups ∧ s.delivery c m.id = none := by
  unfold missing
  rw [List.mem_filter, mem_values_iff hs]
  refine and_congr_right fun hm => ?_
  simp only [Bool.and_eq_true, Std.ExtTreeMap.contains_iff_mem, Bool.not_eq_true',
    ← Bool.not_eq_true]
  refine and_congr_right fun hg => ?_
  rw [Table.not_mem_iff, getElem?_kept]
  simp [hm, hg]

/-- The delivery of a message to the contact whose groups are replaced: it is there if the
message is of one of the groups, and new unless it was there before. -/
def sharedDelivery (s : Memory) (c : ContactId) (groups : Table GroupId String)
    (id : MessageId) : Option Delivery :=
  match s.messages[id]? with
  | none => none
  | some m =>
    if m.group ∈ groups then some ((s.delivery c id).getD ⟨.new, s.sendable m⟩) else none

lemma delivery_share {s : Memory} (hs : s.Keyed) (c : ContactId) (groups : Table GroupId String)
    (c' : ContactId) (id : MessageId) :
    (s.share c groups).delivery c' id =
      if c' = c then s.sharedDelivery c groups id else s.delivery c' id := by
  rw [share_eq]
  show (Table.insertAll _ _)[(⟨c', id⟩ : ContactKey MessageId)]? = _
  by_cases hmiss : c' = c ∧ ∃ m ∈ s.missing c groups, m.id = id
  · -- a delivery that is added
    obtain ⟨rfl, m, hm, rfl⟩ := hmiss
    obtain ⟨hstored, hg, hnone⟩ := (mem_missing_iff hs _ _ _).mp hm
    rw [Table.getElem?_insertAll_of_mem _ _ (v := ⟨.new, s.sendable m⟩)
      (List.mem_map.mpr ⟨m, hm, rfl⟩)]
    · simp [sharedDelivery, hstored, hg, hnone]
    -- messages with one identifier are one, so that no other delivery is added here
    · intro w hw
      obtain ⟨m', hm', he⟩ := List.mem_map.mp hw
      simp only [Prod.mk.injEq, ContactKey.mk.injEq, true_and] at he
      have hstored' := ((mem_missing_iff hs _ _ _).mp hm').1
      rw [he.1, hstored, Option.some.injEq] at hstored'
      rw [← he.2, hstored']
  · -- one that was there, or one that is not
    rw [Table.getElem?_insertAll_of_not_mem, getElem?_kept]
    · by_cases hc : c' = c
      · subst hc
        unfold sharedDelivery
        cases hm : s.messages[id]? with
        | none => simp
        | some m =>
          by_cases hg : m.group ∈ groups
          · cases hd : s.delivery c' id with
            | some d => simp [hg]
            | none =>
              have hid : m.id = id := hs hm
              subst hid
              exact absurd ⟨rfl, m, (mem_missing_iff hs _ _ _).mpr ⟨hm, hg, hd⟩, rfl⟩ hmiss
          · simp [hg]
      · simp [hc]
    · intro e he hk
      obtain ⟨m, hm, rfl⟩ := List.mem_map.mp he
      simp only [ContactKey.mk.injEq] at hk
      exact hmiss ⟨hk.1.symm, m, hm, hk.2⟩

/-! ## New messages -/

/-- How the delivery of a new message starts. -/
def startingDelivery (s : Memory) (m : Message) (sender : Option ContactId) (c : ContactId) :
    Delivery :=
  ⟨if sender = some c then .seen else .new, s.sendable m⟩

lemma addMessage_of_mem {s : Memory} {m : Message} (h : m.id ∈ s.messages)
    (sender : Option ContactId) : s.addMessage m sender = (false, s) := by
  simp [addMessage, h]

lemma addMessage_of_not_mem {s : Memory} {m : Message} (h : m.id ∉ s.messages)
    (sender : Option ContactId) :
    s.addMessage m sender = (true, { s with
      messages := s.messages.insert m.id m
      deliveries := Table.insertAll s.deliveries <|
        (s.contacts.toList.filter fun e => e.2.groups.contains m.group).map fun e =>
          (⟨e.1, m.id⟩, s.startingDelivery m sender e.1) }) := by
  simp only [addMessage, Std.ExtTreeMap.contains_iff_mem, h, if_false]
  rfl

lemma contacts_addMessage (s : Memory) (m : Message) (sender : Option ContactId) :
    (s.addMessage m sender).2.contacts = s.contacts := by
  unfold addMessage
  split <;> rfl

open Classical in
lemma delivery_addMessage {s : Memory} {m : Message} (h : m.id ∉ s.messages)
    (sender : Option ContactId) (c : ContactId) (id : MessageId) :
    (s.addMessage m sender).2.delivery c id =
      if id = m.id ∧ s.Advertises c m.group then some (s.startingDelivery m sender c)
      else s.delivery c id := by
  rw [addMessage_of_not_mem h]
  show (Table.insertAll _ _)[(⟨c, id⟩ : ContactKey MessageId)]? = _
  -- deliveries are added for the contacts that are subscribed to the group
  let key (e : ContactId × ContactRecord) : ContactKey MessageId := ⟨e.1, m.id⟩
  refine (Table.getElem?_insertAll_map key (fun k => s.startingDelivery m sender k.contact)
    _ _ _).trans (if_congr ?_ rfl rfl)
  rw [List.mem_map]
  constructor
  · rintro ⟨e, he, hk⟩
    obtain ⟨hmem, hg⟩ := List.mem_filter.mp he
    simp only [key, ContactKey.mk.injEq] at hk
    obtain ⟨rfl, rfl⟩ := hk
    exact ⟨rfl, e.2, (Table.mem_toList_iff _ _).mp hmem, Std.ExtTreeMap.contains_iff_mem.mp hg⟩
  · rintro ⟨rfl, r, hr, hg⟩
    exact ⟨(c, r), List.mem_filter.mpr ⟨(Table.mem_toList_iff _ _).mpr hr,
      Std.ExtTreeMap.contains_iff_mem.mpr hg⟩, rfl⟩

/-! ## Deliveries that change -/

lemma asSeen_asSeen (d : Delivery) : d.asSeen.asSeen = d.asSeen := rfl

lemma asSent_asSent (d : Delivery) : d.asSent.asSent = d.asSent := by
  rcases d with ⟨_ | _ | _, sendable⟩ <;> rfl

lemma asLost_asLost (d : Delivery) : d.asLost.asLost = d.asLost := by
  rcases d with ⟨_ | _ | _, sendable⟩ <;> rfl

lemma delivery_setSeenIfVisible (s : Memory) (c c' : ContactId) (id a : MessageId) :
    (s.setSeenIfVisible c id).2.delivery c' a =
      if c' = c ∧ a = id then (s.delivery c' a).map Delivery.asSeen else s.delivery c' a := by
  unfold delivery setSeenIfVisible
  rw [Table.getElem?_modify]
  simp only [ContactKey.mk.injEq, eq_comm]

lemma delivery_setSendability (s : Memory) (author : AuthorId) (sendable : Bool) (c : ContactId)
    (id : MessageId) :
    (s.setSendability author sendable).2.delivery c id =
      (s.delivery c id).map fun d =>
        if s.isBy author id then { d with sendable } else d := by
  unfold delivery setSendability
  rw [Std.ExtTreeMap.getElem?_map]
  -- only the deliveries that differ are written, but the others would stay what they are
  cases s.deliveries[(⟨c, id⟩ : ContactKey MessageId)]? with
  | none => rfl
  | some d =>
    by_cases hby : s.isBy author id
    · by_cases hd : d.sendable = sendable
      · simp [hby, ← hd]
      · simp [hby, hd]
    · simp [hby]

/-! ## Batches -/

lemma mem_map_key_iff {κ : Type} (c c' : ContactId) (ids : List κ) (a : κ) :
    (⟨c', a⟩ : ContactKey κ) ∈ ids.map (ContactKey.mk c) ↔ c' = c ∧ a ∈ ids := by
  rw [List.mem_map]
  constructor
  · rintro ⟨id, hid, h⟩
    simp only [ContactKey.mk.injEq] at h
    exact ⟨h.1.symm, h.2 ▸ hid⟩
  · rintro ⟨rfl, ha⟩
    exact ⟨a, ha, rfl⟩

lemma delivery_addOutstandingBatch (s : Memory) (c c' : ContactId) (b : BatchId)
    (ids : List MessageId) (sentAt : Int64) (a : MessageId) :
    (s.addOutstandingBatch c b ids sentAt).delivery c' a =
      if c' = c ∧ a ∈ ids then (s.delivery c' a).map Delivery.asSent else s.delivery c' a := by
  unfold delivery addOutstandingBatch
  rw [Table.getElem?_foldl_modify (ContactKey.mk c) Delivery.asSent asSent_asSent]
  simp only [mem_map_key_iff]

lemma sentBatch_addOutstandingBatch (s : Memory) (c c' : ContactId) (b b' : BatchId)
    (ids : List MessageId) (sentAt : Int64) :
    (s.addOutstandingBatch c b ids sentAt).sentBatch c' b' =
      if c' = c ∧ b' = b then some ⟨ids, sentAt⟩ else s.sentBatch c' b' := by
  unfold sentBatch addOutstandingBatch
  rw [Table.getElem?_insert]
  simp only [ContactKey.mk.injEq, eq_comm]

lemma removeAckedBatch_of_none {s : Memory} {c : ContactId} {b : BatchId}
    (h : s.sentBatch c b = none) : s.removeAckedBatch c b = ([], s) := by
  unfold sentBatch at h
  simp [removeAckedBatch, h]

/-- Messages that are not visible need not be marked as seen, but may as well. -/
lemma foldl_asSeen_filter (c : ContactId) (ids : List MessageId)
    (t u : Table (ContactKey MessageId) Delivery) (h : ∀ k, t.contains k = u.contains k) :
    (ids.filter fun m => u.contains ⟨c, m⟩).foldl (fun t m => t.modify ⟨c, m⟩ Delivery.asSeen) t =
      ids.foldl (fun t m => t.modify ⟨c, m⟩ Delivery.asSeen) t := by
  induction ids generalizing t with
  | nil => rfl
  | cons m rest ih =>
    have hmodify : ∀ k, (t.modify ⟨c, m⟩ Delivery.asSeen).contains k = u.contains k := by
      intro k
      rw [Std.ExtTreeMap.contains_modify, h]
    rw [List.filter_cons, List.foldl_cons, ← ih _ hmodify]
    split
    · rfl
    · next hm =>
      rw [← h, Std.ExtTreeMap.contains_iff_mem, Table.not_mem_iff] at hm
      rw [Table.modify_eq_self fun d hd => by rw [hm] at hd; cases hd]

lemma removeAckedBatch_of_some {s : Memory} {c : ContactId} {b : BatchId} {r : SentRecord}
    (h : s.sentBatch c b = some r) :
    s.removeAckedBatch c b = (r.messages.filter fun m => s.deliveries.contains ⟨c, m⟩, { s with
      outstanding := s.outstanding.erase ⟨c, b⟩
      deliveries := r.messages.foldl (fun t m => t.modify ⟨c, m⟩ Delivery.asSeen)
        s.deliveries }) := by
  unfold sentBatch at h
  simp only [removeAckedBatch, h, foldl_asSeen_filter c r.messages s.deliveries _ fun _ => rfl]

lemma delivery_removeAckedBatch {s : Memory} {c : ContactId} {b : BatchId} {r : SentRecord}
    (h : s.sentBatch c b = some r) (c' : ContactId) (a : MessageId) :
    (s.removeAckedBatch c b).2.delivery c' a =
      if c' = c ∧ a ∈ r.messages then (s.delivery c' a).map Delivery.asSeen
      else s.delivery c' a := by
  rw [removeAckedBatch_of_some h]
  unfold delivery
  rw [Table.getElem?_foldl_modify (ContactKey.mk c) Delivery.asSeen asSeen_asSeen]
  simp only [mem_map_key_iff]

lemma sentBatch_of_erase {s s' : Memory} {c : ContactId} {b : BatchId}
    (h : s'.outstanding = s.outstanding.erase ⟨c, b⟩) (c' : ContactId) (b' : BatchId) :
    s'.sentBatch c' b' = if c' = c ∧ b' = b then none else s.sentBatch c' b' := by
  unfold sentBatch
  rw [h, Table.getElem?_erase]
  simp only [ContactKey.mk.injEq, eq_comm]

lemma sentBatch_removeAckedBatch (s : Memory) (c c' : ContactId) (b b' : BatchId) :
    (s.removeAckedBatch c b).2.sentBatch c' b' =
      if c' = c ∧ b' = b then none else s.sentBatch c' b' := by
  cases h : s.sentBatch c b with
  | none =>
    rw [removeAckedBatch_of_none h]
    split
    · next hk => rw [hk.1, hk.2, h]
    · rfl
  | some r =>
    rw [removeAckedBatch_of_some h]
    exact sentBatch_of_erase rfl c' b'

/-- Acknowledging a batch changes no other tables. -/
lemma exists_removeAckedBatch (s : Memory) (c : ContactId) (b : BatchId) :
    ∃ deliveries outstanding, (s.removeAckedBatch c b).2 =
      { s with deliveries := deliveries, outstanding := outstanding } := by
  unfold removeAckedBatch
  split
  · exact ⟨s.deliveries, s.outstanding, rfl⟩
  · exact ⟨_, _, rfl⟩

/-- Making one more sent message new again is the change `Delivery.asLost`. -/
lemma returnSent_cons (c : ContactId) (m : MessageId) (rest : List MessageId)
    (t : Table (ContactKey MessageId) Delivery) :
    returnSent c (m :: rest) t =
      let returned := returnSent c rest (t.modify ⟨c, m⟩ Delivery.asLost)
      (if (t[(⟨c, m⟩ : ContactKey MessageId)]?).any (·.status = .sent) then m :: returned.1
        else returned.1, returned.2) := by
  rw [returnSent]
  split
  · next sendable h =>
    have hput : t.insert ⟨c, m⟩ ⟨.new, sendable⟩ = t.modify ⟨c, m⟩ Delivery.asLost :=
      Table.insert_eq_modify h Delivery.asLost
    simp [h, hput]
  · next h =>
    have hnot (d : Delivery) (hd : t[(⟨c, m⟩ : ContactKey MessageId)]? = some d) :
        d.status ≠ .sent := by
      rintro hsent
      exact h d.sendable (by rw [hd, ← hsent])
    have hsame : t.modify ⟨c, m⟩ Delivery.asLost = t :=
      Table.modify_eq_self fun d hd => if_neg (hnot d hd)
    have hany : ¬ (t[(⟨c, m⟩ : ContactKey MessageId)]?).any (·.status = .sent) := by
      rw [Option.any_eq_true]
      rintro ⟨d, hd, hsent⟩
      exact hnot d hd (of_decide_eq_true hsent)
    simp only [hsame, hany, Bool.false_eq_true, if_false]

lemma returnSent_snd (c : ContactId) (ids : List MessageId)
    (t : Table (ContactKey MessageId) Delivery) :
    (returnSent c ids t).2 = ids.foldl (fun t m => t.modify ⟨c, m⟩ Delivery.asLost) t := by
  induction ids generalizing t with
  | nil => rfl
  | cons m rest ih => rw [List.foldl_cons, ← ih, returnSent_cons]

lemma removeLostBatch_of_none {s : Memory} {c : ContactId} {b : BatchId}
    (h : s.sentBatch c b = none) (cutoff : Int64) : s.removeLostBatch c b cutoff = (none, s) := by
  unfold sentBatch at h
  simp [removeLostBatch, h]

lemma removeLostBatch_of_later {s : Memory} {c : ContactId} {b : BatchId} {r : SentRecord}
    (h : s.sentBatch c b = some r) {cutoff : Int64} (hr : ¬ r.sentAt ≤ cutoff) :
    s.removeLostBatch c b cutoff = (none, s) := by
  unfold sentBatch at h
  simp [removeLostBatch, h, hr]

lemma removeLostBatch_of_le {s : Memory} {c : ContactId} {b : BatchId} {r : SentRecord}
    (h : s.sentBatch c b = some r) {cutoff : Int64} (hr : r.sentAt ≤ cutoff) :
    s.removeLostBatch c b cutoff = (some (returnSent c r.messages s.deliveries).1, { s with
      outstanding := s.outstanding.erase ⟨c, b⟩
      deliveries := r.messages.foldl (fun t m => t.modify ⟨c, m⟩ Delivery.asLost)
        s.deliveries }) := by
  unfold sentBatch at h
  simp only [removeLostBatch, h, hr, if_true, returnSent_snd]

lemma delivery_removeLostBatch {s : Memory} {c : ContactId} {b : BatchId} {r : SentRecord}
    (h : s.sentBatch c b = some r) {cutoff : Int64} (hr : r.sentAt ≤ cutoff) (c' : ContactId)
    (a : MessageId) :
    (s.removeLostBatch c b cutoff).2.delivery c' a =
      if c' = c ∧ a ∈ r.messages then (s.delivery c' a).map Delivery.asLost
      else s.delivery c' a := by
  rw [removeLostBatch_of_le h hr]
  unfold delivery
  rw [Table.getElem?_foldl_modify (ContactKey.mk c) Delivery.asLost asLost_asLost]
  simp only [mem_map_key_iff]

lemma sentBatch_removeLostBatch {s : Memory} {c : ContactId} {b : BatchId} {r : SentRecord}
    (h : s.sentBatch c b = some r) {cutoff : Int64} (hr : r.sentAt ≤ cutoff) (c' : ContactId)
    (b' : BatchId) :
    (s.removeLostBatch c b cutoff).2.sentBatch c' b' =
      if c' = c ∧ b' = b then none else s.sentBatch c' b' := by
  rw [removeLostBatch_of_le h hr]
  exact sentBatch_of_erase rfl c' b'

/-- Losing a batch changes no other tables. -/
lemma exists_removeLostBatch (s : Memory) (c : ContactId) (b : BatchId) (cutoff : Int64) :
    ∃ deliveries outstanding, (s.removeLostBatch c b cutoff).2 =
      { s with deliveries := deliveries, outstanding := outstanding } := by
  unfold removeLostBatch
  split
  · exact ⟨s.deliveries, s.outstanding, rfl⟩
  · split
    · exact ⟨_, _, rfl⟩
    · exact ⟨s.deliveries, s.outstanding, rfl⟩

/-! ## Lists of entries -/

/-- The outstanding batches of a contact, as they are listed. -/
lemma mem_outstandingOf_iff (s : Memory) (c : ContactId) (o : OutstandingBatch) :
    o ∈ s.outstandingOf c ↔ o.contact = c ∧ s.sentBatch c o.id = some ⟨o.messages, o.sentAt⟩ := by
  unfold outstandingOf sentBatch
  rw [List.mem_mergeSort, List.mem_filterMap]
  constructor
  · rintro ⟨e, he, h⟩
    rw [Table.mem_toList_iff] at he
    split at h
    · next hc =>
      obtain rfl := Option.some.inj h
      subst hc
      exact ⟨rfl, he⟩
    · cases h
  · rintro ⟨hc, h⟩
    refine ⟨(⟨c, o.id⟩, ⟨o.messages, o.sentAt⟩), (Table.mem_toList_iff _ _).mpr h, ?_⟩
    rw [if_pos rfl, ← hc]

lemma mem_outstandingOf {s : Memory} {c : ContactId} {b : BatchId} {r : SentRecord}
    (hr : s.sentBatch c b = some r) :
    (⟨c, b, r.messages, r.sentAt⟩ : OutstandingBatch) ∈ s.outstandingOf c :=
  (s.mem_outstandingOf_iff c _).mpr ⟨rfl, hr⟩

lemma mem_ids_outstandingOf_iff (s : Memory) (c : ContactId) (b : BatchId) :
    b ∈ (s.outstandingOf c).map OutstandingBatch.id ↔ (s.sentBatch c b).isSome := by
  constructor
  · intro hb
    obtain ⟨batch, hbatch, rfl⟩ := List.mem_map.mp hb
    rw [((s.mem_outstandingOf_iff c batch).mp hbatch).2]
    rfl
  · intro hsome
    obtain ⟨r, hr⟩ := Option.isSome_iff_exists.mp hsome
    exact List.mem_map.mpr ⟨_, mem_outstandingOf hr, rfl⟩

lemma mem_eligible_iff {s : Memory} (hs : s.Keyed) (c : ContactId) (m : Message) :
    m ∈ s.eligible c ↔
      s.messages[m.id]? = some m ∧ ∃ d, s.delivery c m.id = some d ∧ d.eligible := by
  unfold eligible Message.oldestFirst
  rw [List.mem_mergeSort, List.mem_filterMap]
  constructor
  · rintro ⟨e, he, h⟩
    rw [Table.mem_toList_iff] at he
    split at h
    · next hc =>
      simp only [Bool.and_eq_true, decide_eq_true_eq] at hc
      have hid : m.id = e.1.item := hs h
      refine ⟨by rw [hid]; exact h, e.2, ?_, hc.2⟩
      unfold delivery
      rw [hid, ← hc.1]
      exact he
    · cases h
  · rintro ⟨hm, d, hd, hel⟩
    refine ⟨(⟨c, m.id⟩, d), (Table.mem_toList_iff _ _).mpr hd, ?_⟩
    simp [hel, hm]

lemma mem_toAckOf_iff (s : Memory) (c : ContactId) (b : BatchId) :
    b ∈ s.toAckOf c ↔ (⟨c, b⟩ : ContactKey BatchId) ∈ s.toAck := by
  unfold toAckOf
  rw [List.mem_filterMap]
  constructor
  · rintro ⟨k, hk, h⟩
    rw [Std.ExtTreeMap.mem_keys] at hk
    split at h
    · next hc =>
      obtain rfl := Option.some.inj h
      subst hc
      exact hk
    · cases h
  · intro h
    exact ⟨⟨c, b⟩, Std.ExtTreeMap.mem_keys.mpr h, by simp⟩

/-- No message is listed twice as one that may go to a contact. -/
lemma nodup_eligible {s : Memory} (hs : s.Keyed) (c : ContactId) :
    ((s.eligible c).map Message.id).Nodup := by
  -- two deliveries of one contact have different messages, since their keys differ
  have hkeys : s.deliveries.toList.Pairwise fun e e' => e.1 ≠ e'.1 :=
    Std.ExtTreeMap.distinct_keys_toList.imp fun h h' => h (Std.LawfulEqOrd.compare_eq_iff_eq.mpr h')
  unfold eligible Message.oldestFirst
  rw [((List.mergeSort_perm _ _).map Message.id).nodup_iff]
  unfold List.Nodup
  rw [List.pairwise_map, List.pairwise_filterMap]
  refine hkeys.imp fun {e e'} hne m hm m' hm' hid => hne ?_
  rw [Option.ite_none_right_eq_some] at hm hm'
  obtain ⟨hc, hm⟩ := hm
  obtain ⟨hc', hm'⟩ := hm'
  simp only [Bool.and_eq_true, decide_eq_true_eq] at hc hc'
  rw [hs hm, hs hm'] at hid
  exact ContactKey.ext (hc.1.trans hc'.1.symm) hid

end MessageSync.Memory
