import MessageSync.Proofs.Cbor.Basic

/-!
# Encodings that are told apart

No encoding of an item is the beginning of the encoding of another one, so that items that are
written one after the other are found again without reading them (`Apart`). This asks of each
length that it is a number of 64 bits, and nothing of the length of an encoding as a whole.
-/

namespace MessageSync.Cbor

open Read Write

/-- Whether a byte string begins with the encoding of at most one value that fits, so that what
follows the encoding is known as well. -/
def Apart {α : Type} (fits : α → Prop) (encode : α → Bytes) : Prop :=
  ∀ {a b : α}, fits a → fits b → ∀ {rest rest' : Bytes},
    encode a ++ rest = encode b ++ rest' → a = b ∧ rest = rest'

/-- Whether a list, and so an array, has a length of 64 bits. -/
def LengthFits {α : Type} (elements : List α) : Prop := elements.length < 2 ^ 64

instance {α : Type} (elements : List α) : Decidable (LengthFits elements) :=
  inferInstanceAs (Decidable (elements.length < 2 ^ 64))

section
variable {α : Type} {fits : α → Prop} {encode : α → Bytes}

/-- Values with one encoding are the same. -/
lemma Apart.eq (h : Apart fits encode) {a b : α} (ha : fits a) (hb : fits b)
    (heq : encode a = encode b) : a = b := by
  have hnothing : encode a ++ [] = encode b ++ [] := by rw [heq]
  exact (h ha hb hnothing).1

/-- Heads of one major type are told apart by what is read from them. -/
lemma apart_head {major : Nat} (hmajor : major < 7) : Apart (· < 2 ^ 64) (head major) := by
  intro n m hn hm rest rest' h
  have hread := readHead_head hmajor hn rest
  rw [h, readHead_head hmajor hm] at hread
  interval_cases major <;> cases hread <;> exact ⟨rfl, rfl⟩

/-- As many elements on both sides are told apart one after the other. -/
lemma Apart.flatMap (h : Apart fits encode) {xs ys : List α} (hxs : ∀ x ∈ xs, fits x)
    (hys : ∀ y ∈ ys, fits y) (hlen : xs.length = ys.length) {rest rest' : Bytes}
    (heq : xs.flatMap encode ++ rest = ys.flatMap encode ++ rest') : xs = ys ∧ rest = rest' := by
  induction xs generalizing ys with
  | nil =>
    obtain rfl : ys = [] := List.length_eq_zero_iff.mp hlen.symm
    exact ⟨rfl, heq⟩
  | cons x xs ih =>
    cases ys with
    | nil => cases hlen
    | cons y ys =>
      rw [List.flatMap_cons, List.flatMap_cons, List.append_assoc, List.append_assoc] at heq
      obtain ⟨hx, hxs'⟩ := List.forall_mem_cons.mp hxs
      obtain ⟨hy, hys'⟩ := List.forall_mem_cons.mp hys
      obtain ⟨rfl, htail⟩ := h hx hy heq
      obtain ⟨rfl, hrest⟩ := ih hxs' hys' (Nat.add_right_cancel hlen) htail
      exact ⟨rfl, hrest⟩

/-- Arrays are told apart by their lengths, and then by their elements. -/
lemma Apart.array (h : Apart fits encode) :
    Apart (fun xs => LengthFits xs ∧ ∀ x ∈ xs, fits x) (array encode) := by
  intro xs ys hxs hys rest rest' heq
  rw [Write.array, Write.array, List.append_assoc, List.append_assoc] at heq
  obtain ⟨hlen, helements⟩ := apart_head (by decide) hxs.1 hys.1 heq
  exact h.flatMap hxs.2 hys.2 hlen helements

end

/-- Byte strings are told apart by their lengths, and then byte by byte. -/
lemma apart_byteString : Apart LengthFits byteString := by
  intro x y hx hy rest rest' h
  rw [byteString, byteString, List.append_assoc, List.append_assoc] at h
  obtain ⟨hlen, hbytes⟩ := apart_head (by decide) hx hy h
  exact List.append_inj hbytes hlen

/-- Bytes are told apart also as numbers, which take one byte or two. -/
lemma apart_byteArray : Apart LengthFits byteArray := by
  have hnumber : Apart (fun _ => True) fun b : UInt8 => number b.toNat := by
    intro a b _ _ rest rest' h
    have hlt (b : UInt8) : b.toNat < 2 ^ 64 := Nat.lt_trans b.toNat_lt (by decide)
    obtain ⟨hsame, hrest⟩ := apart_head (by decide) (hlt a) (hlt b) h
    exact ⟨UInt8.toNat_inj.mp hsame, hrest⟩
  intro x y hx hy rest rest' h
  exact hnumber.array ⟨hx, fun _ _ => trivial⟩ ⟨hy, fun _ _ => trivial⟩ h

end MessageSync.Cbor
