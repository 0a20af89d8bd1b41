import MessageSync.Proofs.Cbor.Basic

/-!
# Reading records that were written

Texts and names are read back, and so is a record whose fields are: `Fields` follows what
a record gathers, field by field.
-/

namespace MessageSync.Cbor

open Read Write

/-! ## Texts -/

lemma ofUtf8?_utf8 (s : String) : ofUtf8? (utf8 s) = some s := by
  have hbytes : (⟨(utf8 s).toArray⟩ : ByteArray) = s.toByteArray := rfl
  unfold ofUtf8? String.fromUTF8?
  rw [hbytes, dif_pos s.isValidUTF8]
  rfl

lemma textContent_utf8 (s : String) (rest : Bytes) :
    textContent (some (utf8 s).length) (utf8 s ++ rest) = some (utf8 s, rest) := by
  have hvalid : (ofUtf8? (utf8 s)).isSome := by rw [ofUtf8?_utf8, Option.isSome_some]
  rw [textContent, Read.content, bind_apply, take_append, Option.bind_some]
  dsimp only
  rw [if_pos hvalid]
  rfl

lemma untagged_text {s : String} (hlen : (text s).length < 2 ^ 64) (rest : Bytes) :
    untagged (text s ++ rest) = some (.text (some (utf8 s).length), utf8 s ++ rest) := by
  rw [text, List.length_append] at hlen
  rw [text, List.append_assoc]
  exact untagged_head 3 (by omega) (by omega) (utf8 s ++ rest)

lemma reads_string (s : String) : Reads string (text s) s := by
  intro hlen rest
  rw [string, bind_apply, untagged_text hlen, Option.bind_some]
  show (textContent _ _).bind _ = _
  rw [textContent_utf8]
  show (ofUtf8? (utf8 s)).bind _ = _
  rw [ofUtf8?_utf8]
  rfl

/-- A name that is not too long is read back. -/
lemma reads_name {s : String} (hs : (utf8 s).length ≤ longestName) :
    Reads name (text s) (utf8 s) := by
  intro hlen rest
  rw [name, bind_apply, untagged_text hlen, Option.bind_some]
  dsimp only
  rw [if_pos hs, textContent_utf8]

/-! ## Signed numbers -/

lemma integer_integer {i : Int} (hlow : -2 ^ 64 ≤ i) (hhigh : i < 2 ^ 64) (rest : Bytes) :
    Read.integer (Write.integer i ++ rest) = some (i, rest) := by
  -- a negative number is written as the one that is as far below -1
  by_cases hi : 0 ≤ i
  · have hnat : ((i.toNat : Nat) : Int) = i := by omega
    have hread := integer_number (n := i.toNat) (by omega) rest
    rw [Write.integer, if_pos hi]
    rw [hnat] at hread
    exact hread
  · have hnat : -1 - (((-1 - i).toNat : Nat) : Int) = i := by omega
    obtain ⟨first, bound, hcons⟩ := List.exists_cons_of_ne_nil
      (List.append_ne_nil_of_left_ne_nil (head_ne_nil 1 (-1 - i).toNat) rest)
    rw [Write.integer, if_neg hi, Read.integer]
    nth_rewrite 1 [hcons]
    rw [integerWithin, bind_apply, readHead_head (by omega) (by omega)]
    show some (-1 - (((-1 - i).toNat : Nat) : Int), rest) = _
    rw [hnat]

lemma reads_int64 (i : Int64) : Reads int64 (Write.integer i.toInt) i := by
  intro _ rest
  have hlow : Int64.minValue.toInt ≤ i.toInt := i.minValue_le_toInt
  have hhigh : i.toInt ≤ Int64.maxValue.toInt := by
    have := i.toInt_lt
    show i.toInt ≤ 9223372036854775807
    omega
  have hmin : Int64.minValue.toInt = -2 ^ 63 := rfl
  have hmax : Int64.maxValue.toInt = 2 ^ 63 - 1 := rfl
  rw [int64, bind_apply, integer_integer (by omega) (by omega), Option.bind_some]
  dsimp only
  rw [if_pos ⟨hlow, hhigh⟩, pure_apply, Int64.ofInt_toInt]

/-! ## Records -/

section
variable {ρ : Type}

/-- Whether fields are read in turn from what they are written as. Each brings what was read
so far one field further. -/
inductive Fields (field : Bytes → ρ → Option (Reader ρ)) : ρ → List (String × Bytes) → ρ → Prop
  | nil (r : ρ) : Fields field r [] r
  | cons {r next last : ρ} {label : String} {code : Bytes} {value : Reader ρ}
    {fields : List (String × Bytes)} (hshort : (utf8 label).length ≤ longestName)
    (hfield : field (utf8 label) r = some value) (hvalue : Reads value code next)
    (hrest : Fields field next fields last) : Fields field r ((label, code) :: fields) last

/-- The code of one field. -/
abbrev fieldCode (f : String × Bytes) : Bytes := text f.1 ++ f.2

lemma fieldCode_ne_nil (f : String × Bytes) : fieldCode f ≠ [] :=
  List.append_ne_nil_of_left_ne_nil
    (List.append_ne_nil_of_left_ne_nil (head_ne_nil 3 _) _) _

lemma times_fields {levels : Nat} {field : Bytes → ρ → Option (Reader ρ)} {r last : ρ}
    {fields : List (String × Bytes)} (h : Fields field r fields last)
    (hlen : (fields.flatMap fieldCode).length < 2 ^ 64) (rest : Bytes) :
    times (fun r => do
      match field (← name) r with
      | some value => value
      | none => do skip levels; return r) fields.length r (fields.flatMap fieldCode ++ rest) =
        some (last, rest) := by
  induction h with
  | nil r => rfl
  | @cons r next last label code value fields hshort hfield hvalue hrest ih =>
    have hlens : (text label).length + code.length + (fields.flatMap fieldCode).length < 2 ^ 64 := by
      rw [List.flatMap_cons, List.length_append, List.length_append] at hlen
      exact hlen
    have hname := reads_name hshort (by omega) (code ++ (fields.flatMap fieldCode ++ rest))
    have hcode := hvalue (by omega) (fields.flatMap fieldCode ++ rest)
    rw [List.flatMap_cons, fieldCode, List.append_assoc, List.append_assoc, List.length_cons,
      times, bind_apply, hname, Option.bind_some]
    dsimp only
    rw [hfield]
    dsimp only
    rw [hcode]
    exact ih (by omega)

/-- A record is read back if its fields are. -/
theorem Fields.reads_record {field : Bytes → ρ → Option (Reader ρ)} {r last : ρ}
    {fields : List (String × Bytes)} (h : Fields field r fields last) (levels : Nat) :
    Reads (Read.record levels field r) (Write.record fields) last := by
  intro hlen rest
  -- the number of fields fits into the head, since no field is empty
  have hcount := length_le_flatMap fields fun f _ => fieldCode_ne_nil f
  have hlens : (head 5 fields.length).length + (fields.flatMap fieldCode).length < 2 ^ 64 := by
    rw [Write.record, List.length_append] at hlen
    exact hlen
  have hhead := untagged_head 5 (by omega) (show fields.length < 2 ^ 64 by omega)
    (fields.flatMap fieldCode ++ rest)
  rw [Read.record, Write.record, List.append_assoc, bind_apply, hhead]
  exact times_fields h (by omega) rest

end

/-! ## Forms -/

/-- One of several forms is read back by the reader of its content. -/
theorem reads_variant {α : Type} {form : Bytes → Option (Reader α)} {label : String}
    {code : Bytes} {value : Reader α} {a : α} (hshort : (utf8 label).length ≤ longestName)
    (hform : form (utf8 label) = some value) (hvalue : Reads value code a) :
    Reads (Read.variant form) (Write.variant label code) a := by
  intro hlen rest
  have hcode : Write.variant label code = head 5 1 ++ (text label ++ code) := by
    rw [Write.variant, Write.record, List.flatMap_singleton]
    rfl
  rw [hcode, List.length_append, List.length_append] at hlen
  have hname := reads_name hshort (by omega) (code ++ rest)
  have hcontent := hvalue (by omega) rest
  have hget (input : Bytes) : (get : Reader Bytes) input = some (input, input) := rfl
  rw [hcode, List.append_assoc, List.append_assoc, Read.variant, bind_apply,
    skipTags_head (by omega) (by omega), Option.bind_some, bind_apply, hget, Option.bind_some,
    bind_apply, readHead_head (by omega) (by omega)]
  show ((name >>= _ : Reader α) (text label ++ (code ++ rest))) = _
  rw [bind_apply, hname, Option.bind_some]
  dsimp only
  rw [hform]
  exact hcontent

end MessageSync.Cbor
