import MessageSync.Proofs.Table
import MessageSync.Store.Relational

/-!
# Rows of the messages of batches

The messages of an outstanding batch have rows of their own, one for each position. Read in
the order of the positions, they are the messages of the batch (`Relational.batchMessages_eq`);
deleting the batch deletes them, and a batch that is put in its place has none but its own.
-/

namespace MessageSync.Relational

/-- Numbered messages are in the order of their numbers. -/
lemma ordered_zipIdx (messages : List MessageId) :
    (messages.zipIdx.map Prod.swap).Pairwise fun x y => compare x.1 y.1 = .lt := by
  rw [List.pairwise_map, List.pairwise_iff_getElem]
  intro i j hi hj hij
  rw [List.getElem_zipIdx, List.getElem_zipIdx]
  show compare (0 + i) (0 + j) = .lt
  exact Nat.compare_eq_lt.mpr (by omega)

/-- Messages that have rows by their positions are listed in that order. -/
lemma batchMessages_eq {s : Relational} {c : ContactId} {b : BatchId} {messages : List MessageId}
    (h : ∀ i : Nat, s.batched[(⟨c, ⟨b, i⟩⟩ : ContactKey PlaceKey)]? = messages[i]?) :
    s.batchMessages c b = messages := by
  let placed : List (Nat × MessageId) := s.batched.toList.filterMap fun e =>
    if e.1.contact = c ∧ e.1.item.batch = b then some (e.1.item.position, e.2) else none
  have hplaced : s.batchMessages c b = placed.map Prod.snd := by
    rw [List.map_filterMap]
    unfold batchMessages
    congr 1
    funext e
    split <;> rfl
  have hordered : placed.Pairwise fun x y => compare x.1 y.1 = .lt := by
    rw [List.pairwise_filterMap]
    refine (Table.ordered_toList s.batched).imp fun {e e'} hlt x hx y hy => ?_
    rw [Option.ite_none_right_eq_some] at hx hy
    obtain ⟨⟨hc, hb⟩, hx⟩ := hx
    obtain ⟨⟨hc', hb'⟩, hy⟩ := hy
    rw [← Option.some.inj hx, ← Option.some.inj hy]
    -- of two rows of one batch, the first has the lesser position
    change (compare e.1.contact e'.1.contact).then ((compare e.1.item.batch e'.1.item.batch).then
      (compare e.1.item.position e'.1.item.position)) = .lt at hlt
    rw [hc, hc', hb, hb', Std.ReflOrd.compare_self, Std.ReflOrd.compare_self] at hlt
    exact hlt
  have hmem (x : Nat × MessageId) : x ∈ placed ↔ messages[x.1]? = some x.2 := by
    simp only [placed, List.mem_filterMap, Table.mem_toList_iff, Option.ite_none_right_eq_some]
    rw [← h]
    constructor
    · rintro ⟨e, he, ⟨rfl, rfl⟩, hx⟩
      rw [← Option.some.inj hx]
      exact he
    · intro hx
      exact ⟨(⟨c, ⟨b, x.1⟩⟩, x.2), hx, ⟨rfl, rfl⟩, rfl⟩
  have hsame : placed = messages.zipIdx.map Prod.swap := by
    refine Table.eq_of_ordered Prod.fst hordered (ordered_zipIdx messages) fun x => ?_
    rw [hmem, List.mem_map]
    constructor
    · intro hx
      exact ⟨x.swap, List.mem_zipIdx_iff_getElem?.mpr hx, x.swap_swap⟩
    · rintro ⟨y, hy, rfl⟩
      exact List.mem_zipIdx_iff_getElem?.mp hy
  rw [hplaced, hsame, List.map_map]
  exact List.zipIdx_map_fst 0 messages

/-- What is left of the rows of messages when a batch is deleted. -/
lemma batched_deleteBatch (s : Relational) (c c' : ContactId) (b b' : BatchId) (i : Nat) :
    (s.deleteBatch c b).batched[(⟨c', ⟨b', i⟩⟩ : ContactKey PlaceKey)]? =
      if c' = c ∧ b' = b then none else s.batched[(⟨c', ⟨b', i⟩⟩ : ContactKey PlaceKey)]? := by
  rw [deleteBatch, Table.getElem?_filter_keys]
  by_cases hk : c' = c ∧ b' = b
  · simp [hk]
  · rw [if_neg hk, if_pos]
    rw [← Bool.decide_and, decide_eq_false hk]
    rfl

/-- The rows of the messages of a batch that is put in the place of another. -/
lemma batched_insertAll (s : Relational) (c c' : ContactId) (b b' : BatchId)
    (messages : List MessageId) (i : Nat) :
    (Table.insertAll (s.deleteBatch c b).batched (messages.zipIdx.map fun e =>
      ((⟨c, ⟨b, e.2⟩⟩ : ContactKey PlaceKey), e.1)))[(⟨c', ⟨b', i⟩⟩ : ContactKey PlaceKey)]? =
      if c' = c ∧ b' = b then messages[i]?
      else s.batched[(⟨c', ⟨b', i⟩⟩ : ContactKey PlaceKey)]? := by
  have hmem (m : MessageId) : ((⟨c', ⟨b', i⟩⟩ : ContactKey PlaceKey), m) ∈
      messages.zipIdx.map (fun e => ((⟨c, ⟨b, e.2⟩⟩ : ContactKey PlaceKey), e.1)) ↔
        (c' = c ∧ b' = b) ∧ messages[i]? = some m := by
    rw [List.mem_map]
    constructor
    · rintro ⟨e, he, heq⟩
      obtain ⟨hkey, rfl⟩ := Prod.mk.inj heq
      simp only [ContactKey.mk.injEq, PlaceKey.mk.injEq] at hkey
      obtain ⟨rfl, rfl, rfl⟩ := hkey
      exact ⟨⟨rfl, rfl⟩, List.mem_zipIdx_iff_getElem?.mp he⟩
    · rintro ⟨⟨rfl, rfl⟩, hm⟩
      exact ⟨(m, i), List.mem_zipIdx_iff_getElem?.mpr hm, rfl⟩
  by_cases hfound : ∃ m, (c' = c ∧ b' = b) ∧ messages[i]? = some m
  · obtain ⟨m, hk, hm⟩ := hfound
    rw [if_pos hk, hm]
    refine Table.getElem?_insertAll_of_mem _ _ ((hmem m).mpr ⟨hk, hm⟩) fun m' hm' => ?_
    exact Option.some.inj (((hmem m').mp hm').2.symm.trans hm)
  · rw [Table.getElem?_insertAll_of_not_mem, batched_deleteBatch]
    · split
      · next hk =>
        exact (Option.eq_none_iff_forall_ne_some.mpr fun m hm => hfound ⟨m, hk, hm⟩).symm
      · rfl
    · rintro ⟨k, m⟩ he rfl
      exact hfound ⟨m, (hmem m).mp he⟩

end MessageSync.Relational
