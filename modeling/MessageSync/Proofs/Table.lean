import Mathlib.Logic.Basic
import Mathlib.Tactic.Lemma
import MessageSync.Ident

/-!
# Looking up entries of tables

What a table answers for a key after it was changed. All facts here are about one key at
a time, so that a change of a table can be followed entry by entry:

* `insert`, `erase` and `modify`, with equality of keys in the place of their order;
* `insertAll`, for a key about which its entries agree;
* the same change made to a list of keys in turn;
* `filter`, for a test of keys.
-/

namespace MessageSync.Table

variable {κ ν μ : Type} [Ord κ] [Std.TransOrd κ]

/-! ## Keys and entries -/

lemma mem_iff_exists (t : Table κ ν) (k : κ) : k ∈ t ↔ ∃ v, t[k]? = some v := by
  rw [Std.ExtTreeMap.mem_iff_isSome_getElem?, Option.isSome_iff_exists]

lemma mem_of_getElem? {t : Table κ ν} {k : κ} {v : ν} (h : t[k]? = some v) : k ∈ t :=
  (mem_iff_exists t k).mpr ⟨v, h⟩

lemma not_mem_iff (t : Table κ ν) (k : κ) : k ∉ t ↔ t[k]? = none := by
  rw [Std.ExtTreeMap.mem_iff_isSome_getElem?, Option.not_isSome_iff_eq_none]

/-- The values of a table stand in the order of their keys. -/
lemma values_eq (t : Table κ ν) : t.values = t.toList.map Prod.snd := by
  obtain ⟨⟨t⟩⟩ := t
  induction t using Quotient.inductionOn with
  | h t =>
    show t.inner.values = (Std.DTreeMap.Internal.Impl.Const.toList t.inner).map Prod.snd
    rw [Std.DTreeMap.Internal.Impl.values_eq_map_snd,
      Std.DTreeMap.Internal.Impl.Const.toList_eq_toListModel_map, List.map_map]
    rfl

variable [Std.LawfulEqOrd κ]

lemma mem_toList_iff (t : Table κ ν) (e : κ × ν) : e ∈ t.toList ↔ t[e.1]? = some e.2 :=
  Std.ExtTreeMap.mem_toList_iff_getElem?_eq_some

lemma mem_values_iff (t : Table κ ν) (v : ν) : v ∈ t.values ↔ ∃ k : κ, t[k]? = some v := by
  rw [values_eq, List.mem_map]
  constructor
  · rintro ⟨e, he, rfl⟩
    exact ⟨e.1, (mem_toList_iff t e).mp he⟩
  · rintro ⟨k, hk⟩
    exact ⟨(k, v), (mem_toList_iff t (k, v)).mpr hk, rfl⟩

/-! ## One change -/

section

variable [DecidableEq κ]

lemma getElem?_insert (t : Table κ ν) (k a : κ) (v : ν) :
    (t.insert k v)[a]? = if k = a then some v else t[a]? := by
  rw [Std.ExtTreeMap.getElem?_insert]
  simp only [Std.LawfulEqOrd.compare_eq_iff_eq]

lemma getElem?_erase (t : Table κ ν) (k a : κ) :
    (t.erase k)[a]? = if k = a then none else t[a]? := by
  rw [Std.ExtTreeMap.getElem?_erase]
  simp only [Std.LawfulEqOrd.compare_eq_iff_eq]

lemma getElem?_modify (t : Table κ ν) (k a : κ) (f : ν → ν) :
    (t.modify k f)[a]? = if k = a then (t[a]?).map f else t[a]? := by
  rw [Std.ExtTreeMap.getElem?_modify]
  simp only [Std.LawfulEqOrd.compare_eq_iff_eq]
  by_cases h : k = a
  · simp [h]
  · simp [h]

lemma insert_eq_modify {t : Table κ ν} {k : κ} {v : ν} (h : t[k]? = some v) (f : ν → ν) :
    t.insert k (f v) = t.modify k f := by
  refine Std.ExtTreeMap.ext_getElem? fun a => ?_
  rw [getElem?_insert, getElem?_modify]
  by_cases hk : k = a
  · subst hk
    simp [h]
  · simp [hk]

lemma modify_eq_self {t : Table κ ν} {k : κ} {f : ν → ν} (h : ∀ v, t[k]? = some v → f v = v) :
    t.modify k f = t := by
  refine Std.ExtTreeMap.ext_getElem? fun a => ?_
  rw [getElem?_modify]
  by_cases hk : k = a
  · subst hk
    cases hv : t[k]? with
    | none => simp
    | some v => simp [h v hv]
  · rw [if_neg hk]

lemma insert_erase (t : Table κ ν) (k : κ) (v : ν) : (t.erase k).insert k v = t.insert k v := by
  refine Std.ExtTreeMap.ext_getElem? fun a => ?_
  rw [getElem?_insert, getElem?_insert, getElem?_erase]
  split <;> rfl

lemma erase_insert {t : Table κ ν} {k : κ} (h : k ∉ t) (v : ν) : (t.insert k v).erase k = t := by
  refine Std.ExtTreeMap.ext_getElem? fun a => ?_
  rw [getElem?_erase, getElem?_insert]
  by_cases hk : k = a
  · subst hk
    rw [if_pos rfl, (not_mem_iff _ _).mp h]
  · rw [if_neg hk, if_neg hk]

/-! ## Many changes -/

lemma getElem?_insertAll_of_not_mem (entries : List (κ × ν)) (t : Table κ ν) (a : κ)
    (h : ∀ e ∈ entries, e.1 ≠ a) : (insertAll t entries)[a]? = t[a]? := by
  induction entries generalizing t with
  | nil => rfl
  | cons e rest ih =>
    have hrest : ∀ e' ∈ rest, e'.1 ≠ a := fun e' he' => h e' (List.mem_cons_of_mem _ he')
    have hstep := ih (t.insert e.1 e.2) hrest
    rw [getElem?_insert, if_neg (h e List.mem_cons_self)] at hstep
    exact hstep

lemma getElem?_insertAll_of_mem (entries : List (κ × ν)) (t : Table κ ν) {a : κ} {v : ν}
    (hmem : (a, v) ∈ entries) (hsame : ∀ w, (a, w) ∈ entries → w = v) :
    (insertAll t entries)[a]? = some v := by
  induction entries generalizing t with
  | nil => exact absurd hmem List.not_mem_nil
  | cons e rest ih =>
    have hsame' : ∀ w, (a, w) ∈ rest → w = v := fun w hw => hsame w (List.mem_cons_of_mem _ hw)
    by_cases hrest : (a, v) ∈ rest
    · exact ih (t.insert e.1 e.2) hrest hsame'
    · have he : (a, v) = e := (List.mem_cons.mp hmem).resolve_right hrest
      have hnot : ∀ e' ∈ rest, e'.1 ≠ a := by
        intro e' he' hk
        have hw := hsame' e'.2 (by rw [← hk]; exact he')
        exact hrest (by rw [← hk, ← hw]; exact he')
      have hstep := getElem?_insertAll_of_not_mem rest (t.insert e.1 e.2) a hnot
      rw [getElem?_insert, ← he, if_pos rfl] at hstep
      rw [← he]
      exact hstep

/-- An entry is one of those that were put in, or was there before. -/
lemma getElem?_insertAll_eq_some {entries : List (κ × ν)} {t : Table κ ν} {a : κ} {v : ν}
    (h : (insertAll t entries)[a]? = some v) : (a, v) ∈ entries ∨ t[a]? = some v := by
  induction entries generalizing t with
  | nil => exact .inr h
  | cons e rest ih =>
    rcases ih (t := t.insert e.1 e.2) h with hmem | hold
    · exact .inl (List.mem_cons_of_mem e hmem)
    · rw [getElem?_insert] at hold
      split at hold
      · next hk =>
        subst hk
        obtain rfl := Option.some.inj hold
        exact .inl List.mem_cons_self
      · exact .inr hold

/-- Entries whose values are determined by their keys. -/
lemma getElem?_insertAll_map (key : μ → κ) (value : κ → ν) (items : List μ) (t : Table κ ν)
    (a : κ) :
    (insertAll t (items.map fun i => (key i, value (key i))))[a]? =
      if a ∈ items.map key then some (value a) else t[a]? := by
  induction items generalizing t with
  | nil => simp [insertAll]
  | cons i rest ih =>
    show (insertAll (t.insert (key i) (value (key i))) _)[a]? = _
    rw [ih, getElem?_insert, List.map_cons]
    by_cases hi : key i = a
    · simp [hi]
    · have hne : a ≠ key i := Ne.symm hi
      simp only [hi, if_false, List.mem_cons, hne, false_or]

/-- One change, made to several keys in turn, reaches each of them once if making it
twice is the same as making it once. -/
lemma getElem?_foldl_modify (key : μ → κ) (f : ν → ν) (hf : ∀ v, f (f v) = f v)
    (items : List μ) (t : Table κ ν) (a : κ) :
    (items.foldl (fun t m => t.modify (key m) f) t)[a]? =
      if a ∈ items.map key then (t[a]?).map f else t[a]? := by
  induction items generalizing t with
  | nil => simp
  | cons m rest ih =>
    rw [List.foldl_cons, ih, getElem?_modify, List.map_cons]
    by_cases hm : key m = a
    · by_cases hr : a ∈ rest.map key
      · cases t[a]? <;> simp [hm, hr, hf]
      · simp [hm, hr]
    · have hne : a ≠ key m := fun h => hm h.symm
      simp only [hm, if_false, List.mem_cons, hne, false_or]

lemma getElem?_foldl_erase (key : μ → κ) (items : List μ) (t : Table κ ν) (a : κ) :
    (items.foldl (fun t m => t.erase (key m)) t)[a]? =
      if a ∈ items.map key then none else t[a]? := by
  induction items generalizing t with
  | nil => simp
  | cons m rest ih =>
    rw [List.foldl_cons, ih, getElem?_erase, List.map_cons]
    by_cases hm : key m = a
    · simp [hm]
    · have hne : a ≠ key m := fun h => hm h.symm
      simp only [hm, if_false, List.mem_cons, hne, false_or]

/-! ## Tables made from others -/

lemma map_insert (t : Table κ ν) (f : κ → ν → μ) (k : κ) (v : ν) :
    (t.map f).insert k (f k v) = (t.insert k v).map f := by
  refine Std.ExtTreeMap.ext_getElem? fun a => ?_
  rw [getElem?_insert, Std.ExtTreeMap.getElem?_map, Std.ExtTreeMap.getElem?_map, getElem?_insert]
  by_cases h : k = a
  · simp [h]
  · simp [h]

lemma map_erase (t : Table κ ν) (f : κ → ν → μ) (k : κ) :
    (t.map f).erase k = (t.erase k).map f := by
  refine Std.ExtTreeMap.ext_getElem? fun a => ?_
  rw [getElem?_erase, Std.ExtTreeMap.getElem?_map, Std.ExtTreeMap.getElem?_map, getElem?_erase]
  by_cases h : k = a
  · simp [h]
  · simp [h]

/-- A table is put together again from its entries. -/
lemma insertAll_toList (t : Table κ ν) : insertAll ∅ t.toList = t := by
  refine Std.ExtTreeMap.ext_getElem? fun k => ?_
  have hmem (v : ν) : (k, v) ∈ t.toList ↔ t[k]? = some v :=
    Std.ExtTreeMap.mem_toList_iff_getElem?_eq_some
  cases hk : t[k]? with
  | none =>
    rw [getElem?_insertAll_of_not_mem, Std.ExtTreeMap.getElem?_empty]
    rintro e he rfl
    rw [(hmem e.2).mp he] at hk
    cases hk
  | some v =>
    refine getElem?_insertAll_of_mem _ _ ((hmem v).mpr hk) fun w hw => ?_
    rw [(hmem w).mp hw] at hk
    exact Option.some.inj hk

lemma insertAll_map (f : κ → ν → μ) (entries : List (κ × ν)) (t : Table κ ν) :
    insertAll (t.map f) (entries.map fun e => (e.1, f e.1 e.2)) = (insertAll t entries).map f := by
  induction entries generalizing t with
  | nil => rfl
  | cons e rest ih =>
    show insertAll ((t.map f).insert e.1 (f e.1 e.2)) _ = (insertAll (t.insert e.1 e.2) rest).map f
    rw [map_insert, ih]

end

lemma filter_map (t : Table κ ν) (f : κ → ν → μ) (p : κ → μ → Bool) :
    (t.map f).filter p = (t.filter fun k v => p k (f k v)).map f := by
  refine Std.ExtTreeMap.ext_getElem? fun a => ?_
  rw [Std.ExtTreeMap.getElem?_filter', Std.ExtTreeMap.getElem?_map, Std.ExtTreeMap.getElem?_map,
    Std.ExtTreeMap.getElem?_filter']
  cases t[a]? with
  | none => rfl
  | some v => by_cases h : p a (f a v) <;> simp [Option.filter, h]

/-- What a test of keys leaves of a table. -/
lemma getElem?_filter_keys (t : Table κ ν) (keep : κ → Bool) (a : κ) :
    (t.filter fun k _ => keep k)[a]? = if keep a then t[a]? else none := by
  rw [Std.ExtTreeMap.getElem?_filter']
  cases t[a]? with
  | none => simp
  | some v => by_cases h : keep a <;> simp [Option.filter, h]

/-- What is left of a table without the entries of a contact. -/
lemma getElem?_others {ι : Type} [Ord ι] [Std.TransOrd ι] [Std.LawfulEqOrd ι]
    (t : Table (ContactKey ι) ν) (c c' : ContactId) (i : ι) :
    (t.filter fun k _ => k.contact ≠ c)[(⟨c', i⟩ : ContactKey ι)]? =
      if c' = c then none else t[(⟨c', i⟩ : ContactKey ι)]? := by
  rw [getElem?_filter_keys]
  by_cases hc : c' = c
  · simp [hc]
  · simp [hc]

/-! ## Lists in the order of their keys -/

/-- Two lists in strict order have the same members only if they are the same. -/
lemma eq_of_pairwise_lt {α : Type} (cmp : α → α → Ordering) [Std.OrientedCmp cmp] {l l' : List α}
    (h : l.Pairwise fun a b => cmp a b = .lt) (h' : l'.Pairwise fun a b => cmp a b = .lt)
    (hmem : ∀ a, a ∈ l ↔ a ∈ l') : l = l' := by
  have hne {a b : α} (hab : cmp a b = .lt) : a ≠ b := by
    rintro rfl
    have hself : cmp a a = .eq := Std.ReflCmp.compare_self
    rw [hab] at hself
    cases hself
  have hperm : l.Perm l' := (List.perm_ext_iff_of_nodup (h.imp hne) (h'.imp hne)).mpr hmem
  refine hperm.eq_of_pairwise (fun a b _ _ hab hba => ?_) h h'
  have hswap : cmp a b = (cmp b a).swap := Std.OrientedCmp.eq_swap
  rw [hab, hba] at hswap
  cases hswap

omit [Std.LawfulEqOrd κ] in
lemma eq_of_ordered {α : Type} (key : α → κ) {l l' : List α}
    (h : l.Pairwise fun a b => compare (key a) (key b) = .lt)
    (h' : l'.Pairwise fun a b => compare (key a) (key b) = .lt) (hmem : ∀ a, a ∈ l ↔ a ∈ l') :
    l = l' :=
  eq_of_pairwise_lt (compareOn key) h h' hmem

omit [Std.LawfulEqOrd κ] in
lemma ordered_toList (t : Table κ ν) : t.toList.Pairwise fun a b => compare a.1 b.1 = .lt :=
  Std.ExtTreeMap.ordered_keys_toList

end MessageSync.Table
