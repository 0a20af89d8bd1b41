import MessageSync.Proofs.Store.Arrivals
import MessageSync.Proofs.Store.Holdings
import MessageSync.Proofs.Store.SameFor
import MessageSync.Proofs.Store.Secrets

/-!
# Changes that concern one contact

A change that concerns a contact (`Change.Concerns`) leaves alone what is held of the others
(`Memory.held_changes`). Of their deliveries it can only add one, of a message that is stored by
it (`Memory.delivery_changes`).
-/

namespace MessageSync

/-- Whether a change is about one contact, and not its removal. -/
def Change.Concerns (c : ContactId) : Change → Prop
  | .share c' _ _ | .setTransports c' _ _ | .see c' _ | .send c' _ _ _ | .ack c' _ | .lose c' _ _
  | .owe c' _ | .settle c' _ | .dropSecrets c' _ _ => c' = c
  | .accept _ sender => sender = some c
  | .addSecrets xs => ∀ x ∈ xs, x.contact = c
  | .count key | .setWindow key _ => key.contact = c
  | _ => False

namespace Memory

variable {s : Memory} {x : Change} {c d : ContactId}

/-! ## What is held of others -/

lemma contact_change_other (hx : x.Concerns c) (hd : d ≠ c) :
    (s.change x).contacts[d]? = s.contacts[d]? := by
  by_cases hpart : .contacts ∈ x.parts
  · cases x with
    | share c' groups timestamp =>
      obtain rfl : c' = c := hx
      simp only [change, setSubscriptions]
      split
      · rfl
      · split
        · rfl
        · exact (Table.getElem?_insert _ _ _ _).trans (if_neg (Ne.symm hd))
    | setTransports c' transports timestamp =>
      obtain rfl : c' = c := hx
      simp only [change, setTransports]
      split
      · rfl
      · split
        · rfl
        · exact (Table.getElem?_insert _ _ _ _).trans (if_neg (Ne.symm hd))
    | addContact _ | removeContact _ => exact hx.elim
    | _ => simp [Change.parts] at hpart
  · rw [(contacts_change hpart).1]

lemma sentBatch_change_other (hx : x.Concerns c) (hd : d ≠ c) (b : BatchId) :
    (s.change x).sentBatch d b = s.sentBatch d b := by
  refine sentBatch_change (fun habout => hd ?_) b
  cases x with
  | send c' b' messages sentAt => exact habout.symm.trans hx
  | ack c' b' => exact habout.symm.trans hx
  | lose c' b' cutoff => exact habout.symm.trans hx
  | removeContact c' => exact hx.elim
  | _ => exact habout.elim

lemma toAck_change_other (hx : x.Concerns c) (hd : d ≠ c) (b : BatchId) :
    (s.change x).toAck[(⟨d, b⟩ : ContactKey BatchId)]? =
      s.toAck[(⟨d, b⟩ : ContactKey BatchId)]? := by
  have hkey (b' : BatchId) : (⟨c, b'⟩ : ContactKey BatchId) ≠ ⟨d, b⟩ := fun heq =>
    hd (ContactKey.mk.inj heq).1.symm
  by_cases hpart : .toAck ∈ x.parts
  · cases x with
    | owe c' b' =>
      obtain rfl : c' = c := hx
      exact (Table.getElem?_insert _ _ _ _).trans (if_neg (hkey b'))
    | settle c' ids =>
      obtain rfl : c' = c := hx
      refine (Table.getElem?_foldl_erase (ContactKey.mk c') ids s.toAck ⟨d, b⟩).trans (if_neg ?_)
      intro hmem
      obtain ⟨b', -, heq⟩ := List.mem_map.mp hmem
      exact hkey b' heq
    | removeContact _ => exact hx.elim
    | _ => simp [Change.parts] at hpart
  · rw [toAck_change hpart]

lemma secret_change_other (hx : x.Concerns c) (hd : d ≠ c) (i : PeriodKey UInt64) :
    (s.change x).secrets[(⟨d, i⟩ : SecretKey)]? = s.secrets[(⟨d, i⟩ : SecretKey)]? := by
  have hkey (key : SecretKey) (hc : key.contact = c) : key ≠ ⟨d, i⟩ := by
    rintro rfl
    exact hd hc
  by_cases hpart : .secrets ∈ x.parts
  · cases x with
    | addSecrets xs =>
      refine s.secrets_addSecrets fun hmem => ?_
      obtain ⟨y, hy, heq⟩ := List.mem_map.mp hmem
      exact hkey y.key (hx y hy) heq
    | count key =>
      simp only [change, incrementConnectionCounter]
      split
      · rfl
      · exact (Table.getElem?_insert _ _ _ _).trans (if_neg (hkey key hx))
    | setWindow key window =>
      exact (Table.getElem?_modify _ _ _ _).trans (if_neg (hkey key hx))
    | dropSecrets c' t period =>
      obtain rfl : c' = c := hx
      refine (Table.getElem?_filter_keys _ _ _).trans (if_pos ?_)
      simp [hd]
    | removeContact _ => exact hx.elim
    | _ => simp [Change.parts] at hpart
  · rw [secrets_change hpart]

/-- Changes that concern one contact leave alone what is held of another. -/
lemma held_changes {log : List Change} (hlog : ∀ x ∈ log, x.Concerns c) (hd : d ≠ c) :
    (s.changes log).held d = s.held d := by
  refine changes_frame (·.held d) (fun x hx s => ?_) s
  refine held_eq_iff.mpr ⟨contact_change_other (hlog x hx) hd, ?_, ?_, ?_⟩
  · exact sentBatch_change_other (hlog x hx) hd
  · exact toAck_change_other (hlog x hx) hd
  · exact secret_change_other (hlog x hx) hd

/-! ## Deliveries to others -/

/-- Such a change keeps the deliveries to another contact, or adds one of a message that it
stores. -/
lemma delivery_change_other (hs : s.Consistent) (hx : x.Concerns c) (hd : d ≠ c)
    (id : MessageId) : (s.change x).delivery d id = s.delivery d id ∨
      id ∉ s.messages ∧ ∃ row, (s.change x).delivery d id = some row ∧ row.status = .new := by
  by_cases hpart : .deliveries ∈ x.parts
  · cases x with
    | share c' groups timestamp =>
      obtain rfl : c' = c := hx
      rcases delivery_change_share hs.keyed c' groups timestamp with hsame | hshared
      · exact .inl (by rw [hsame])
      · exact .inl ((hshared d id).trans (if_neg hd))
    | accept m sender =>
      obtain rfl : sender = some c := hx
      rw [change, delivery_accept]
      split
      · next hwants =>
        split
        · next hadded =>
          refine .inr ⟨hadded.1 ▸ hwants.2, _, rfl, ?_⟩
          rw [startingDelivery, if_neg fun heq => hd (Option.some.inj heq).symm]
        · exact .inl rfl
      · exact .inl (if_neg fun h => hd h.1)
    | see c' a =>
      obtain rfl : c' = c := hx
      exact .inl ((delivery_setSeenIfVisible s c' d a id).trans (if_neg fun h => hd h.1))
    | send c' b messages sentAt =>
      obtain rfl : c' = c := hx
      exact .inl ((delivery_addOutstandingBatch s c' d b messages sentAt id).trans
        (if_neg fun h => hd h.1))
    | ack c' b =>
      obtain rfl : c' = c := hx
      cases hr : s.sentBatch c' b with
      | none => exact .inl (by rw [change_ack_of_none hr])
      | some r => exact .inl ((delivery_removeAckedBatch hr d id).trans (if_neg fun h => hd h.1))
    | lose c' b cutoff =>
      obtain rfl : c' = c := hx
      rcases s.lose_cases c' b cutoff with ⟨r, hr, hat⟩ | hsame
      · exact .inl ((delivery_removeLostBatch hr hat d id).trans (if_neg fun h => hd h.1))
      · exact .inl (by rw [hsame])
    | removeContact _ | unsubscribe _ _ | forget _ | rate _ _ => exact hx.elim
    | _ => simp [Change.parts] at hpart
  · exact .inl (delivery_change hpart d id)

/-- No message goes by such a change. -/
lemma mem_messages_change (hx : x.Concerns c) {id : MessageId} (h : id ∈ s.messages) :
    id ∈ (s.change x).messages := by
  by_cases hpart : .messages ∈ x.parts
  · cases x with
    | accept m sender => exact (s.mem_messages_accept_iff m sender id).mpr (.inr h)
    | unsubscribe _ _ | forget _ => exact hx.elim
    | _ => simp [Change.parts] at hpart
  · rwa [messages_change hpart]

/-- Changes that concern one contact keep the deliveries to another, but for new ones of messages
that they store. -/
lemma delivery_changes {log : List Change} (hs : s.Consistent) (hallows : s.Allows log)
    (hlog : ∀ x ∈ log, x.Concerns c) (hd : d ≠ c) (id : MessageId) :
    (s.changes log).delivery d id = s.delivery d id ∨
      id ∉ s.messages ∧ ∃ row, (s.changes log).delivery d id = some row ∧ row.status = .new := by
  induction log generalizing s with
  | nil => exact .inl rfl
  | cons x rest ih =>
    obtain ⟨hx, hrest⟩ := List.forall_mem_cons.mp hlog
    have hnext := hs.change hallows.1
    have hfirst := delivery_change_other hs hx hd id
    rcases ih hnext hallows.2 hrest with hsame | ⟨hnew, hrow⟩
    · rw [changes_cons, hsame]
      exact hfirst
    -- a message that is stored later was not there at first
    · exact .inr ⟨fun hid => hnew (mem_messages_change hx hid), hrow⟩

/-- A contact is given a new delivery of exactly those messages that are stored by such changes
in a group of the contact. -/
theorem delivery_changes_iff {log : List Change} (hs : s.Consistent) (hallows : s.Allows log)
    (hlog : ∀ x ∈ log, x.Concerns c) (hd : d ≠ c) (id : MessageId) :
    ((∃ m, s.messages[id]? = none ∧ (s.changes log).messages[id]? = some m ∧
        s.Advertises d m.group) →
      s.delivery d id = none ∧
        ∃ row, (s.changes log).delivery d id = some row ∧ row.status = .new) ∧
    ((¬ ∃ m, s.messages[id]? = none ∧ (s.changes log).messages[id]? = some m ∧
        s.Advertises d m.group) →
      (s.changes log).delivery d id = s.delivery d id) := by
  have hafter : (s.changes log).Consistent :=
    changes_induction (fun _ _ hs hx => hs.change hx) hs hallows
  have hgroups (g : GroupId) : (s.changes log).Advertises d g ↔ s.Advertises d g := by
    unfold Advertises
    rw [(held_eq_iff.mp (held_changes (s := s) hlog hd)).1]
  have hcases := delivery_changes hs hallows hlog hd id
  constructor
  · rintro ⟨m, hnone, hm, hadv⟩
    have hbefore := hs.delivery_eq_none ((Table.not_mem_iff _ _).mpr hnone) d
    refine ⟨hbefore, ?_⟩
    rcases hcases with hsame | ⟨-, hrow⟩
    · have hsome := (hafter.visible d id).mpr ⟨m, hm, (hgroups m.group).mpr hadv⟩
      rw [hsame, hbefore] at hsome
      cases hsome
    · exact hrow
  · intro hnot
    refine hcases.resolve_right fun ⟨hnew, row, hrow, _⟩ => hnot ?_
    obtain ⟨m, hm, hadv⟩ := (hafter.visible d id).mp (by rw [hrow]; rfl)
    exact ⟨m, (Table.not_mem_iff _ _).mp hnew, hm, (hgroups m.group).mp hadv⟩

end Memory

end MessageSync
