import MessageSync.Proofs.Store.Holdings
import MessageSync.Proofs.Store.Outgoing

/-!
# Batches that are closed together

An outstanding batch is closed when it is acknowledged or lost: its record goes, and the rows
of its messages change. Batches that are closed one after the other can be told in one go: the
records of all that are named go, and the rows of the messages that any of them covers change
(`Memory.close`, `Relational.close`). It then makes no difference in which order batches are
named, how often, or in how many goes (`Memory.close_close`, `Memory.close_congr`).
-/

namespace MessageSync

/-- The order in which batches are listed: by the time of sending, then by identifier. -/
def OutstandingBatch.compareSent (a b : OutstandingBatch) : Ordering :=
  (compare a.sentAt b.sentAt).then (compare a.id b.id)

instance : Std.TransCmp OutstandingBatch.compareSent :=
  inferInstanceAs (Std.TransCmp
    (compareLex (compareOn OutstandingBatch.sentAt) (compareOn OutstandingBatch.id)))

namespace Memory

/-- Whether a message is in an outstanding batch of a contact with one of these identifiers. -/
def covers (s : Memory) (c : ContactId) (batches : List BatchId) (id : MessageId) : Bool :=
  batches.any fun b => (s.sentBatch c b).any fun r => id ∈ r.messages

/-- Closes all outstanding batches of a contact with one of these identifiers, and changes the
rows of the contact for their messages. -/
def close (s : Memory) (c : ContactId) (f : Delivery → Delivery) (batches : List BatchId) :
    Memory :=
  { s with
    outstanding := s.outstanding.filter fun k _ => !(k.contact = c && k.item ∈ batches)
    deliveries := s.deliveries.map fun k d =>
      if k.contact = c && s.covers c batches k.item then f d else d }

variable {s t : Memory} {c c' : ContactId} {f : Delivery → Delivery} {xs ys : List BatchId}

lemma covers_eq_true_iff {id : MessageId} :
    s.covers c xs id = true ↔ ∃ b ∈ xs, ∃ r, s.sentBatch c b = some r ∧ id ∈ r.messages := by
  unfold covers
  simp only [List.any_eq_true, Option.any_eq_true, decide_eq_true_eq]

lemma sentBatch_close (s : Memory) (c c' : ContactId) (f : Delivery → Delivery)
    (xs : List BatchId) (b : BatchId) :
    (s.close c f xs).sentBatch c' b = if c' = c ∧ b ∈ xs then none else s.sentBatch c' b := by
  unfold sentBatch close
  dsimp only
  rw [Table.getElem?_filter_keys]
  by_cases hb : c' = c ∧ b ∈ xs
  · simp [hb]
  · rw [if_neg hb, ← Bool.decide_and, decide_eq_false hb]
    rfl

lemma delivery_close (s : Memory) (c c' : ContactId) (f : Delivery → Delivery)
    (xs : List BatchId) (id : MessageId) :
    (s.close c f xs).delivery c' id =
      (s.delivery c' id).map fun d => if c' = c ∧ s.covers c xs id = true then f d else d := by
  unfold delivery close
  dsimp only
  rw [Std.ExtTreeMap.getElem?_map]
  simp only [Bool.and_eq_true, decide_eq_true_eq]

/-- Stores that are the same apart from batches and deliveries are the same, if these are. -/
lemma ext_batches {u : Memory}
    (ht : ∃ deliveries outstanding, t = { s with deliveries, outstanding })
    (hu : ∃ deliveries outstanding, u = { s with deliveries, outstanding })
    (hdeliveries : ∀ c id, t.delivery c id = u.delivery c id)
    (hbatches : ∀ c b, t.sentBatch c b = u.sentBatch c b) : t = u := by
  obtain ⟨deliveries, outstanding, rfl⟩ := ht
  obtain ⟨deliveries', outstanding', rfl⟩ := hu
  have hdeliveries : deliveries = deliveries' :=
    Std.ExtTreeMap.ext_getElem? fun k => hdeliveries k.contact k.item
  have hbatches : outstanding = outstanding' :=
    Std.ExtTreeMap.ext_getElem? fun k => hbatches k.contact k.item
  rw [hdeliveries, hbatches]

lemma covers_append (s : Memory) (c : ContactId) (xs ys : List BatchId) (id : MessageId) :
    s.covers c (xs ++ ys) id = (s.covers c xs id || s.covers c ys id) := List.any_append

/-- What is still covered after batches were closed is what only other batches cover. -/
lemma covers_close (s : Memory) (c : ContactId) (f : Delivery → Delivery) (xs ys : List BatchId)
    (id : MessageId) :
    ((s.close c f xs).covers c ys id || s.covers c xs id) =
      (s.covers c ys id || s.covers c xs id) := by
  rw [Bool.eq_iff_iff, Bool.or_eq_true, Bool.or_eq_true]
  simp only [covers_eq_true_iff, sentBatch_close]
  constructor
  · rintro (⟨b, hb, r, hr, hid⟩ | hold)
    · rw [Option.ite_none_left_eq_some] at hr
      exact .inl ⟨b, hb, r, hr.2, hid⟩
    · exact .inr hold
  · rintro (⟨b, hb, r, hr, hid⟩ | hold)
    · by_cases hmem : b ∈ xs
      · exact .inr ⟨b, hmem, r, hr, hid⟩
      · refine .inl ⟨b, hb, r, ?_, hid⟩
        rw [if_neg fun h => hmem h.2]
        exact hr
    · exact .inr hold

/-- Closing batches in two goes is closing them in one. -/
theorem close_close (hf : ∀ d, f (f d) = f d) :
    (s.close c f xs).close c f ys = s.close c f (xs ++ ys) := by
  refine ext_batches (s := s) ⟨_, _, rfl⟩ ⟨_, _, rfl⟩ (fun c' id => ?_) fun c' b => ?_
  · rw [delivery_close, delivery_close, delivery_close, Option.map_map, covers_append]
    refine congrArg (fun g => Option.map g (s.delivery c' id)) (funext fun d => ?_)
    have hcovers := s.covers_close c f xs ys id
    by_cases hc : c' = c
    · simp only [hc, true_and, Function.comp]
      rcases hfirst : s.covers c xs id with _ | _
      · rw [hfirst, Bool.or_false, Bool.or_false] at hcovers
        simp [hcovers]
      · simp [hf]
    · simp [hc]
  · rw [sentBatch_close, sentBatch_close, sentBatch_close]
    simp only [List.mem_append]
    by_cases hc : c' = c
    · by_cases hy : b ∈ ys
      · simp [hc, hy]
      · simp [hy]
    · simp [hc]

/-- It only matters which batches are named. -/
theorem close_congr (h : ∀ b, b ∈ xs ↔ b ∈ ys) : s.close c f xs = s.close c f ys := by
  refine ext_batches (s := s) ⟨_, _, rfl⟩ ⟨_, _, rfl⟩ (fun c' id => ?_) fun c' b => ?_
  · rw [delivery_close, delivery_close]
    simp only [covers_eq_true_iff, h]
  · rw [sentBatch_close, sentBatch_close]
    simp only [h]

lemma close_nil (s : Memory) (c : ContactId) (f : Delivery → Delivery) : s.close c f [] = s := by
  refine ext_batches (s := s) ⟨_, _, rfl⟩ ⟨_, _, rfl⟩ (fun c' id => ?_) fun c' b => ?_
  · rw [delivery_close]
    simp [covers]
  · rw [sentBatch_close]
    simp

lemma sentBatch_close_singleton (s : Memory) (c c' : ContactId) (f : Delivery → Delivery)
    (b b' : BatchId) :
    (s.close c f [b]).sentBatch c' b' = if c' = c ∧ b' = b then none else s.sentBatch c' b' := by
  rw [sentBatch_close]
  simp only [List.mem_singleton]

lemma close_of_none {b : BatchId} (h : s.sentBatch c b = none) : s.close c f [b] = s := by
  refine ext_batches (s := s) ⟨_, _, rfl⟩ ⟨_, _, rfl⟩ (fun c' id => ?_) fun c' b' => ?_
  · rw [delivery_close]
    simp [covers, h]
  · rw [sentBatch_close_singleton]
    split
    · next hb => rw [hb.1, hb.2, h]
    · rfl

lemma delivery_close_of_some {b : BatchId} {r : SentRecord} (h : s.sentBatch c b = some r)
    (c' : ContactId) (id : MessageId) :
    (s.close c f [b]).delivery c' id =
      if c' = c ∧ id ∈ r.messages then (s.delivery c' id).map f else s.delivery c' id := by
  rw [delivery_close]
  simp only [covers, List.any_cons, List.any_nil, h, Option.any_some, Bool.or_false,
    decide_eq_true_eq]
  split <;> simp

/-- An ack of one batch. -/
lemma change_ack (s : Memory) (c : ContactId) (b : BatchId) :
    s.change (.ack c b) = s.close c .asSeen [b] := by
  cases hr : s.sentBatch c b with
  | none =>
    rw [close_of_none hr]
    exact congrArg Prod.snd (removeAckedBatch_of_none hr)
  | some r =>
    refine ext_batches (s := s) (s.exists_removeAckedBatch c b) ⟨_, _, rfl⟩ (fun c' id => ?_)
      fun c' b' => ?_
    · rw [delivery_close_of_some hr]
      exact delivery_removeAckedBatch hr c' id
    · rw [sentBatch_close_singleton]
      exact s.sentBatch_removeAckedBatch c c' b b'

/-- An ack of several batches, one after the other. -/
lemma changes_ack (s : Memory) (c : ContactId) (batches : List BatchId) :
    s.changes (batches.map (.ack c)) = s.close c .asSeen batches := by
  induction batches generalizing s with
  | nil => rw [List.map_nil, changes_nil, close_nil]
  | cons b rest ih =>
    rw [List.map_cons, changes_cons, ih, change_ack, close_close asSeen_asSeen]
    rfl

/-- The loss of one batch, if it was sent early enough. -/
lemma change_lose {b : BatchId} {cutoff : Int64}
    (h : ∀ r, s.sentBatch c b = some r → r.sentAt ≤ cutoff) :
    s.change (.lose c b cutoff) = s.close c .asLost [b] := by
  cases hr : s.sentBatch c b with
  | none =>
    rw [close_of_none hr]
    exact congrArg Prod.snd (removeLostBatch_of_none hr cutoff)
  | some r =>
    refine ext_batches (s := s) (s.exists_removeLostBatch c b cutoff) ⟨_, _, rfl⟩ (fun c' id => ?_)
      fun c' b' => ?_
    · rw [delivery_close_of_some hr]
      exact delivery_removeLostBatch hr (h r hr) c' id
    · rw [sentBatch_close_singleton]
      exact sentBatch_removeLostBatch hr (h r hr) c' b'

/-- The loss of several batches, one after the other. -/
lemma changes_lose {cutoff : Int64} {batches : List BatchId}
    (h : ∀ b ∈ batches, ∀ r, s.sentBatch c b = some r → r.sentAt ≤ cutoff) :
    s.changes (batches.map (.lose c · cutoff)) = s.close c .asLost batches := by
  induction batches generalizing s with
  | nil => rw [List.map_nil, changes_nil, close_nil]
  | cons b rest ih =>
    rw [List.map_cons, changes_cons, change_lose (h b List.mem_cons_self), ih,
      close_close asLost_asLost]
    · rfl
    -- what is outstanding after the first one was lost was so before
    · intro b' hb' r hr
      rw [sentBatch_close, Option.ite_none_left_eq_some] at hr
      exact h b' (List.mem_cons_of_mem b hb') r hr.2

lemma Consistent.close (h : s.Consistent) (c : ContactId) (f : Delivery → Delivery)
    (batches : List BatchId) : (s.close c f batches).Consistent := by
  refine h.congr rfl rfl rfl (fun _ => Iff.rfl) (fun _ _ => Iff.rfl) (fun c' id => ?_)
    (fun c' b r hr => ?_)
  · rw [delivery_close, Option.isSome_map]
  · rw [sentBatch_close, Option.ite_none_left_eq_some] at hr
    exact h.owned c' b r hr.2

/-- Batches are listed in the order in which they were sent. -/
lemma pairwise_outstandingOf (s : Memory) (c : ContactId) :
    (s.outstandingOf c).Pairwise fun a b => a.compareSent b = .lt := by
  have hsorted : (s.outstandingOf c).Pairwise fun a b => (a.compareSent b).isLE := by
    refine List.pairwise_mergeSort (fun _ _ _ => Std.TransCmp.isLE_trans) (fun a b => ?_) _
    have hswap : b.compareSent a = (a.compareSent b).swap := Std.OrientedCmp.eq_swap
    show ((a.compareSent b).isLE || (b.compareSent a).isLE) = true
    rw [hswap, Ordering.isLE_swap]
    cases a.compareSent b <;> rfl
  refine (hsorted.and (List.pairwise_map.mp (s.nodup_outstandingOf c))).imp fun {a b} h => ?_
  refine (Ordering.isLE_iff_eq_lt_or_eq_eq.mp h.1).resolve_right fun heq => h.2 ?_
  rw [OutstandingBatch.compareSent, Ordering.then_eq_eq] at heq
  exact Std.LawfulEqOrd.compare_eq_iff_eq.mp heq.2

/-- The batches that are left are listed as before. -/
lemma outstandingOf_close (s : Memory) (c : ContactId) (f : Delivery → Delivery)
    (batches : List BatchId) :
    (s.close c f batches).outstandingOf c = (s.outstandingOf c).filter (·.id ∉ batches) := by
  refine Table.eq_of_pairwise_lt OutstandingBatch.compareSent
    ((s.close c f batches).pairwise_outstandingOf c)
    ((s.pairwise_outstandingOf c).filter (·.id ∉ batches)) fun b => ?_
  rw [List.mem_filter, mem_outstandingOf_iff, mem_outstandingOf_iff, sentBatch_close,
    Option.ite_none_left_eq_some, decide_eq_true_eq]
  exact ⟨fun h => ⟨⟨h.1, h.2.2⟩, fun hb => h.2.1 ⟨rfl, hb⟩⟩,
    fun h => ⟨h.1.1, fun hb => h.2 hb.2, h.1.2⟩⟩

end Memory

/-! ## Rows -/

/-- The row of a message that the contact turned out to have. -/
def StatusRow.asSeen (row : StatusRow) : StatusRow := { row with status := Status.seen.toNat }

/-- The row of a message whose batch was lost. -/
def StatusRow.asLost (row : StatusRow) : StatusRow :=
  if row.status = Status.sent.toNat then { row with status := Status.new.toNat } else row

lemma Delivery.toRow_asLost (d : Delivery) : d.asLost.toRow = d.toRow.asLost := by
  rcases d with ⟨_ | _ | _, sendable⟩ <;> rfl

namespace Relational

/-- Whether a message is in an outstanding batch of a contact with one of these identifiers. -/
def covers (s : Relational) (c : ContactId) (batches : List BatchId) (id : MessageId) : Bool :=
  batches.any fun b => s.outstanding.contains ⟨c, b⟩ && id ∈ s.batchMessages c b

/-- Closes all outstanding batches of a contact with one of these identifiers, and changes the
rows of the contact for their messages. -/
def close (s : Relational) (c : ContactId) (f : StatusRow → StatusRow) (batches : List BatchId) :
    Relational :=
  { s with
    outstanding := s.outstanding.filter fun k _ => !(k.contact = c && k.item ∈ batches)
    batched := s.batched.filter fun k _ => !(k.contact = c && k.item.batch ∈ batches)
    statuses := s.statuses.map fun k row =>
      if k.contact = c && s.covers c batches k.item then f row else row }

namespace Mirrors

variable {s : Relational} {t : Memory} {c : ContactId}

lemma covers (h : s.Mirrors t) (c : ContactId) (batches : List BatchId) (id : MessageId) :
    s.covers c batches id = t.covers c batches id := by
  unfold Relational.covers Memory.covers
  congr 1
  funext b
  have hrow := h.batch c b
  rw [Std.ExtTreeMap.contains_eq_isSome_getElem?, hrow]
  cases hr : t.sentBatch c b with
  | none => rfl
  | some r =>
    rw [h.batchMessages hr]
    rfl

/-- Rows that are changed where deliveries are, and as they are, stay in step with them. -/
lemma statuses_map (h : s.Mirrors t) (p : ContactKey MessageId → Bool) {f : Delivery → Delivery}
    {g : StatusRow → StatusRow} (hf : ∀ d, (f d).toRow = g d.toRow) :
    s.statuses.map (fun k row => if p k then g row else row) =
      (t.deliveries.map fun k d => if p k then f d else d).map fun _ d => d.toRow := by
  rw [h.statuses]
  refine Std.ExtTreeMap.ext_getElem? fun k => ?_
  simp only [Std.ExtTreeMap.getElem?_map, Option.map_map]
  refine congrArg (fun F => Option.map F t.deliveries[k]?) (funext fun d => ?_)
  simp only [Function.comp]
  split
  · exact (hf d).symm
  · rfl

/-- Closing the same batches keeps the rows in step, if rows change as deliveries do. -/
lemma close (h : s.Mirrors t) (c : ContactId) {f : Delivery → Delivery}
    {g : StatusRow → StatusRow} (hf : ∀ d, (f d).toRow = g d.toRow) (batches : List BatchId) :
    (s.close c g batches).Mirrors (t.close c f batches) := by
  exact {
    h with
    consistent := h.consistent.close c f batches
    statuses := by
      show s.statuses.map (fun k row =>
        if k.contact = c && s.covers c batches k.item then g row else row) = _
      simp only [h.covers]
      exact h.statuses_map (fun k => k.contact = c && t.covers c batches k.item) hf
    outstanding := by
      show s.outstanding.filter _ = (t.outstanding.filter _).map _
      rw [h.outstanding, Table.filter_map]
    batched := by
      intro c' b i
      show (s.batched.filter fun k _ => _)[(⟨c', ⟨b, i⟩⟩ : ContactKey PlaceKey)]? = _
      rw [Table.getElem?_filter_keys, h.batched, Memory.sentBatch_close]
      by_cases hb : c' = c ∧ b ∈ batches
      · simp [hb]
      · rw [if_neg hb, ← Bool.decide_and, decide_eq_false hb]
        rfl }

end Mirrors

end Relational

end MessageSync
