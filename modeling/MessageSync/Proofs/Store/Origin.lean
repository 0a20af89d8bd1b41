import MessageSync.Proofs.Store.Status

/-!
# Where the contents of a store come from

A store holds only what some change brought: a message arrived, a batch to acknowledge was
received, and of a message that a contact is known to have, the contact showed that it has it
or acknowledged a batch with it (`Memory.seen_of_changes`).
-/

namespace MessageSync.Memory

variable {s : Memory} {c : ContactId} {log : List Change}

/-! ## Messages -/

lemma messages_of_change {x : Change} {id : MessageId} {m : Message}
    (h : (s.change x).messages[id]? = some m) :
    s.messages[id]? = some m ∨ ∃ sender, x = .accept m sender := by
  by_cases hpart : .messages ∈ x.parts
  · cases x with
    | unsubscribe g now =>
      simp only [change, removeSubscription] at h
      split at h
      · rw [messages_foldl_removeMessage] at h
        split at h
        · cases h
        · exact .inl h
      · exact .inl h
    | accept m' sender =>
      rw [change, messages_accept] at h
      split at h
      · rw [Table.getElem?_insert] at h
        split at h
        · exact .inr ⟨sender, by rw [Option.some.inj h]⟩
        · exact .inl h
      · exact .inl h
    | forget a =>
      change (s.removeMessage a).messages[id]? = some m at h
      rw [messages_removeMessage] at h
      split at h
      · cases h
      · exact .inl h
    | _ => simp [Change.parts] at hpart
  · rw [messages_change hpart] at h
    exact .inl h

/-- A message that is stored was so before, unless it arrived. -/
theorem messages_of_changes {id : MessageId} {m : Message}
    (h : (s.changes log).messages[id]? = some m) :
    s.messages[id]? = some m ∨ ∃ sender, .accept m sender ∈ log := by
  induction log generalizing s with
  | nil => exact .inl h
  | cons x rest ih =>
    rcases ih h with hnext | ⟨sender, hmem⟩
    · rcases messages_of_change hnext with hfirst | ⟨sender, hx⟩
      · exact .inl hfirst
      · exact .inr ⟨sender, hx ▸ List.mem_cons_self⟩
    · exact .inr ⟨sender, List.mem_cons_of_mem x hmem⟩

/-! ## Batches to acknowledge -/

lemma mem_of_mem_foldl_erase {ids : List BatchId} {t : Table (ContactKey BatchId) Unit}
    {k : ContactKey BatchId} (h : k ∈ ids.foldl (fun t id => t.erase ⟨c, id⟩) t) : k ∈ t := by
  induction ids generalizing t with
  | nil => exact h
  | cons id rest ih => exact Std.ExtTreeMap.mem_of_mem_erase (ih h)

lemma toAck_of_change {x : Change} {b : BatchId}
    (h : (⟨c, b⟩ : ContactKey BatchId) ∈ (s.change x).toAck) :
    (⟨c, b⟩ : ContactKey BatchId) ∈ s.toAck ∨ x = .owe c b := by
  by_cases hpart : .toAck ∈ x.parts
  · cases x with
    | removeContact c' => exact .inl (Std.ExtTreeMap.mem_of_mem_filter h)
    | settle c' batches => exact .inl (mem_of_mem_foldl_erase h)
    | owe c' b' =>
      change (⟨c, b⟩ : ContactKey BatchId) ∈ s.toAck.insert ⟨c', b'⟩ () at h
      rw [Std.ExtTreeMap.mem_insert] at h
      rcases h with heq | hmem
      · obtain ⟨rfl, rfl⟩ := ContactKey.mk.inj (Std.LawfulEqOrd.eq_of_compare heq)
        exact .inr rfl
      · exact .inl hmem
    | _ => simp [Change.parts] at hpart
  · rw [toAck_change hpart] at h
    exact .inl h

/-- A batch that is to be acknowledged was so before, unless it was received. -/
theorem toAck_of_changes {b : BatchId}
    (h : (⟨c, b⟩ : ContactKey BatchId) ∈ (s.changes log).toAck) :
    (⟨c, b⟩ : ContactKey BatchId) ∈ s.toAck ∨ .owe c b ∈ log := by
  induction log generalizing s with
  | nil => exact .inl h
  | cons x rest ih =>
    rcases ih h with hnext | hmem
    · rcases toAck_of_change hnext with hfirst | hx
      · exact .inl hfirst
      · exact .inr (hx ▸ List.mem_cons_self)
    · exact .inr (List.mem_cons_of_mem x hmem)

/-! ## Messages that a contact has -/

/-- Whether a change acknowledges a message in a batch of a contact. -/
def AckedBy (s : Memory) (c : ContactId) (x : Change) (id : MessageId) : Prop :=
  ∃ b r, x = .ack c b ∧ s.sentBatch c b = some r ∧ id ∈ r.messages

/-- Whether one of some changes in turn acknowledges a message in a batch of a contact. -/
def AckedIn (s : Memory) (c : ContactId) : List Change → MessageId → Prop
  | [], _ => False
  | x :: log, id => s.AckedBy c x id ∨ (s.change x).AckedIn c log id

lemma not_ackedIn (h : ∀ x ∈ log, ∀ b, x ≠ .ack c b) (id : MessageId) : ¬ s.AckedIn c log id := by
  induction log generalizing s with
  | nil => exact fun h => h
  | cons x rest ih =>
    rintro (⟨b, r, hx, -⟩ | hrest)
    · exact h x List.mem_cons_self b hx
    · exact ih (fun y hy => h y (List.mem_cons_of_mem x hy)) hrest

/-- Acks in turn acknowledge what is in the batches that they name. -/
lemma ackedIn_acks (ids : List BatchId) (id : MessageId) :
    s.AckedIn c (ids.map (.ack c)) id ↔
      ∃ b r, s.sentBatch c b = some r ∧ id ∈ r.messages ∧ b ∈ ids := by
  induction ids generalizing s with
  | nil => simp [AckedIn]
  | cons a rest ih =>
    rw [List.map_cons, AckedIn, ih]
    simp only [sentBatch_ack]
    constructor
    -- the first ack takes its batch away, so that a later one finds another batch
    · rintro (⟨b, r, hx, hr, hid⟩ | ⟨b, r, hr, hid, hb⟩)
      · obtain ⟨-, rfl⟩ := Change.ack.inj hx
        exact ⟨a, r, hr, hid, List.mem_cons_self⟩
      · split at hr
        · cases hr
        · exact ⟨b, r, hr, hid, List.mem_cons_of_mem a hb⟩
    · rintro ⟨b, r, hr, hid, hb⟩
      by_cases heq : b = a
      · subst heq
        exact .inl ⟨b, r, rfl, hr, hid⟩
      · refine .inr ⟨b, r, (if_neg heq).trans hr, hid, ?_⟩
        exact (List.mem_cons.mp hb).resolve_left heq

lemma seen_of_change (hs : s.Consistent) {x : Change} (hx : s.Permits x) {id : MessageId}
    (h : (s.change x).status c id = some .seen) :
    s.status c id = some .seen ∨ x.Tells c id ∨ s.AckedBy c x id := by
  by_cases habout : x.About c
  · cases x with
    | send c' b messages sentAt =>
      obtain rfl : c' = c := habout
      rw [status_send hx.2.2] at h
      split at h
      · cases h
      · exact .inl h
    | ack c' b =>
      obtain rfl : c' = c := habout
      cases hr : s.sentBatch c' b with
      | none =>
        rw [change_ack_of_none hr] at h
        exact .inl h
      | some r =>
        rw [status_ack hr] at h
        split at h
        · next hid => exact .inr (.inr ⟨b, r, rfl, hr, hid⟩)
        · exact .inl h
    | lose c' b cutoff =>
      obtain rfl : c' = c := habout
      rcases s.lose_cases c' b cutoff with ⟨r, hr, hat⟩ | hsame
      · rw [status_lose hr hat] at h
        split at h
        · cases h
        · exact .inl h
      · rw [hsame] at h
        exact .inl h
    | removeContact c' =>
      obtain rfl : c' = c := habout
      rw [status_removeContact] at h
      cases h
    | _ => exact habout.elim
  -- of the other changes, only one that tells of the message marks it as seen
  · have heffect := effect_change hs habout id
    rw [h] at heffect
    generalize hold : s.status c id = old at heffect ⊢
    cases heffect with
    | same => exact .inl rfl
    | told _ htells => exact .inr (.inl htells)

/-- Of a message that a contact is known to have, it was known before, or the contact showed
it, or it acknowledged a batch with it. -/
theorem seen_of_changes (hs : s.Consistent) (hlog : s.Allows log) {id : MessageId}
    (h : (s.changes log).status c id = some .seen) :
    s.status c id = some .seen ∨ (∃ x ∈ log, x.Tells c id) ∨ s.AckedIn c log id := by
  induction log generalizing s with
  | nil => exact .inl h
  | cons x rest ih =>
    rcases ih (hs.change hlog.1) hlog.2 h with hnext | ⟨y, hy, htells⟩ | hacked
    · rcases seen_of_change hs hlog.1 hnext with hfirst | htells | hacked
      · exact .inl hfirst
      · exact .inr (.inl ⟨x, List.mem_cons_self, htells⟩)
      · exact .inr (.inr (.inl hacked))
    · exact .inr (.inl ⟨y, List.mem_cons_of_mem x hy, htells⟩)
    · exact .inr (.inr (.inr hacked))

end MessageSync.Memory
