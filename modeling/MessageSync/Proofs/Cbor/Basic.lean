import Mathlib.Tactic.IntervalCases
import MessageSync.Cbor.Read
import MessageSync.Cbor.Write

/-!
# Reading what was written

`Reads r code a` says that the reader `r` takes the value `a` from the front of a byte
string that begins with `code`. Readers that are put together read encodings that are put
together, from heads to sequences.
-/

namespace MessageSync.Cbor

open Read Write

/-- Whether a reader takes a value from its encoding, whatever follows it. A head holds no
number from 2^64 on, so that nothing is said of encodings that are as long. -/
def Reads {α : Type} (r : Reader α) (code : Bytes) (a : α) : Prop :=
  code.length < 2 ^ 64 → ∀ rest, r (code ++ rest) = some (a, rest)

/-! ## Putting readers together -/

section
variable {α β : Type} {r : Reader α} {a : α}

lemma bind_apply (r : Reader α) (f : α → Reader β) (input : Bytes) :
    (r >>= f) input = (r input).bind fun x => f x.1 x.2 := rfl

lemma pure_apply (a : α) (input : Bytes) : (pure a : Reader α) input = some (a, input) := rfl

lemma Reads.bind {f : α → Reader β} {b : β} {x y : Bytes} (hr : Reads r x a)
    (hf : Reads (f a) y b) : Reads (r >>= f) (x ++ y) b := by
  intro hlen rest
  rw [List.length_append] at hlen
  rw [List.append_assoc, bind_apply, hr (by omega), Option.bind_some, hf (by omega)]

/-- What is read is returned in another form. -/
lemma Reads.map {x : Bytes} (hr : Reads r x a) (g : α → β) :
    Reads (r >>= fun a => Pure.pure (g a)) x (g a) := by
  intro hlen rest
  rw [bind_apply, hr hlen, Option.bind_some, pure_apply]

end

/-! ## Heads -/

lemma takeOnto_append (taken code rest : Bytes) :
    takeOnto taken code.length (code ++ rest) = some (taken.reverse ++ code, rest) := by
  induction code generalizing taken with
  | nil => simp [takeOnto]
  | cons b code ih =>
    show takeOnto (b :: taken) code.length (code ++ rest) = _
    rw [ih, List.reverse_cons, List.append_assoc, List.singleton_append]

lemma take_append (code rest : Bytes) : take code.length (code ++ rest) = some (code, rest) := by
  rw [take, takeOnto_append, List.reverse_nil, List.nil_append]

lemma length_bigEndian (width n : Nat) : (bigEndian width n).length = width := by
  induction width generalizing n with
  | zero => rfl
  | succ width ih => rw [bigEndian, List.length_append, ih, List.length_singleton]

lemma ofBigEndian_bigEndian {width n : Nat} (h : n < 256 ^ width) :
    ofBigEndian (bigEndian width n) = n := by
  induction width generalizing n with
  | zero =>
    rw [Nat.pow_zero, Nat.lt_one_iff] at h
    rw [h]
    rfl
  | succ width ih =>
    have hdiv : n / 256 < 256 ^ width := by
      rw [Nat.pow_succ] at h
      omega
    have hlast : (UInt8.ofNat (n % 256)).toNat = n % 256 := by
      rw [UInt8.toNat_ofNat']
      omega
    have hfold : ofBigEndian (bigEndian (width + 1) n) =
        256 * ofBigEndian (bigEndian width (n / 256)) + (UInt8.ofNat (n % 256)).toNat := by
      rw [bigEndian, ofBigEndian, List.foldl_append]
      rfl
    rw [hfold, ih hdiv, hlast]
    omega

/-- The number of a head stands in so many bytes after the first. -/
lemma take_bigEndian (width : Nat) {n : Nat} (h : n < 256 ^ width) (rest : Bytes) :
    (take width >>= fun bytes => pure (some (ofBigEndian bytes)) : Reader (Option Nat))
      (bigEndian width n ++ rest) = some (some n, rest) := by
  have htake := take_append (bigEndian width n) rest
  rw [length_bigEndian] at htake
  rw [bind_apply, htake, Option.bind_some, pure_apply, ofBigEndian_bigEndian h]

/-- The first byte tells the major type and how the number is written. -/
lemma readHead_cons {major info n : Nat} {input rest : Bytes} (hmajor : major < 7)
    (hinfo : info < 32) (harg : argument info input = some (some n, rest)) :
    readHead (UInt8.ofNat (32 * major + info) :: input) =
      (headOf major 0 (some n)).map fun h => (h, rest) := by
  have hfirst : (UInt8.ofNat (32 * major + info)).toNat = 32 * major + info := by
    rw [UInt8.toNat_ofNat']
    omega
  have hlow : (32 * major + info) % 32 = info := by omega
  have hhigh : (32 * major + info) / 32 = major := by omega
  have hsame : headOf major info (some n) = headOf major 0 (some n) := by
    interval_cases major <;> rfl
  rw [readHead, hfirst, hlow, hhigh, harg]
  exact congrArg (Option.map _) hsame

/-- A head is read back. -/
theorem readHead_head {major n : Nat} (hmajor : major < 7) (hn : n < 2 ^ 64) (rest : Bytes) :
    readHead (head major n ++ rest) = (headOf major 0 (some n)).map fun h => (h, rest) := by
  unfold head
  dsimp only
  -- in the first byte, or in one, two, four or eight more
  split
  · next h => exact readHead_cons hmajor (by omega) (by rw [argument, if_pos h]; rfl)
  · split
    · next h => exact readHead_cons hmajor (by omega) (take_bigEndian 1 h rest)
    · split
      · next h => exact readHead_cons hmajor (by omega) (take_bigEndian 2 h rest)
      · split
        · next h => exact readHead_cons hmajor (by omega) (take_bigEndian 4 h rest)
        · exact readHead_cons hmajor (by omega) (take_bigEndian 8 hn rest)

lemma head_ne_nil (major n : Nat) : head major n ≠ [] := by
  unfold head
  dsimp only
  split_ifs <;> exact List.cons_ne_nil _ _

/-- Nothing is passed over in front of a head that is no tag. -/
lemma skipTags_head {major n : Nat} (hmajor : major < 6) (hn : n < 2 ^ 64) (rest : Bytes) :
    skipTags (head major n ++ rest) = some ((), head major n ++ rest) := by
  obtain ⟨first, bound, hcons⟩ := List.exists_cons_of_ne_nil
    (List.append_ne_nil_of_left_ne_nil (head_ne_nil major n) rest)
  rw [skipTags]
  nth_rewrite 1 [hcons]
  rw [passTags, readHead_head (by omega) hn]
  interval_cases major <;> rfl

lemma untagged_head (major : Nat) (hmajor : major < 6) {n : Nat} (hn : n < 2 ^ 64) (rest : Bytes) :
    untagged (head major n ++ rest) = (headOf major 0 (some n)).map fun h => (h, rest) := by
  rw [untagged, bind_apply, skipTags_head hmajor hn, Option.bind_some, readHead_head (by omega) hn]

/-! ## Numbers -/

lemma integer_number {n : Nat} (hn : n < 2 ^ 64) (rest : Bytes) :
    integer (number n ++ rest) = some ((n : Int), rest) := by
  obtain ⟨first, bound, hcons⟩ := List.exists_cons_of_ne_nil
    (List.append_ne_nil_of_left_ne_nil (head_ne_nil 0 n) rest)
  rw [Read.integer, number]
  nth_rewrite 1 [hcons]
  rw [integerWithin, bind_apply, readHead_head (by omega) hn]
  rfl

/-- A number below a bound of no more than 2^64 is read back. -/
lemma natural_number {bound n : Nat} (hn : n < bound) (hbound : bound ≤ 2 ^ 64) (rest : Bytes) :
    natural bound (number n ++ rest) = some (n, rest) := by
  have hrange : (0 : Int) ≤ n ∧ (n : Int) < bound := by omega
  rw [natural, bind_apply, integer_number (by omega), Option.bind_some]
  dsimp only
  rw [if_pos hrange]
  rfl

lemma reads_byte (b : UInt8) : Reads byte (number b.toNat) b := by
  intro _ rest
  rw [byte, bind_apply, natural_number b.toNat_lt (by decide), Option.bind_some, pure_apply,
    UInt8.ofNat_toNat]

lemma reads_word32 (w : UInt32) : Reads word32 (number w.toNat) w := by
  intro _ rest
  rw [word32, bind_apply, natural_number w.toNat_lt (by decide), Option.bind_some, pure_apply,
    UInt32.ofNat_toNat]

lemma number_ne_nil (n : Nat) : number n ≠ [] := head_ne_nil 0 n

/-! ## Elements in turn -/

section
variable {α : Type} {item : Reader α} {encode : α → Bytes}

/-- No more elements than bytes are written. -/
lemma length_le_flatMap (elements : List α) (hne : ∀ a ∈ elements, encode a ≠ []) :
    elements.length ≤ (elements.flatMap encode).length := by
  induction elements with
  | nil => exact Nat.zero_le _
  | cons a rest ih =>
    have hfirst := List.length_pos_iff.mpr (hne a List.mem_cons_self)
    have hrest := ih fun x hx => hne x (List.mem_cons_of_mem a hx)
    rw [List.flatMap_cons, List.length_append, List.length_cons]
    omega

/-- Elements are read in turn onto those that were read before. -/
lemma times_append {elements : List α} (hitem : ∀ a ∈ elements, Reads item (encode a) a)
    (taken : List α) (hlen : (elements.flatMap encode).length < 2 ^ 64) (rest : Bytes) :
    times (fun taken => do return (← item) :: taken) elements.length taken
      (elements.flatMap encode ++ rest) = some (elements.reverse ++ taken, rest) := by
  induction elements generalizing taken with
  | nil => rfl
  | cons a elements ih =>
    rw [List.flatMap_cons, List.length_append] at hlen
    -- the first element is put before those that were taken, and the rest before it
    have hfirst := (hitem a List.mem_cons_self).map (· :: taken) (by omega)
      (elements.flatMap encode ++ rest)
    have hrest := ih (fun x hx => hitem x (List.mem_cons_of_mem a hx)) (a :: taken) (by omega)
    rw [List.flatMap_cons, List.append_assoc, List.length_cons, times, hfirst]
    dsimp only
    rw [hrest, List.reverse_cons, List.append_assoc, List.singleton_append]

/-- The length of an array is below 2^64 if its elements take that many bytes at most. -/
lemma length_array {elements : List α} (hne : ∀ a ∈ elements, encode a ≠ [])
    (hlen : (array encode elements).length < 2 ^ 64) :
    elements.length < 2 ^ 64 ∧ (elements.flatMap encode).length < 2 ^ 64 := by
  have hle := length_le_flatMap elements hne
  rw [array, List.length_append] at hlen
  omega

/-- An array of elements is read back as a sequence. -/
lemma reads_sequence {ofByte : UInt8 → Option α} {elements : List α}
    (hne : ∀ a ∈ elements, encode a ≠ []) (hitem : ∀ a ∈ elements, Reads item (encode a) a) :
    Reads (sequence ofByte item) (array encode elements) elements := by
  intro hlen rest
  obtain ⟨hcount, hbytes⟩ := length_array hne hlen
  have hhead := untagged_head 4 (by omega) hcount (elements.flatMap encode ++ rest)
  have htimes := times_append hitem [] hbytes rest
  rw [Read.sequence, array, List.append_assoc, bind_apply, hhead]
  show list (some elements.length) item _ = _
  rw [list, bind_apply, items, htimes, Option.bind_some, pure_apply, List.append_nil,
    List.reverse_reverse]

end

/-! ## Strings of bytes -/

/-- A byte string is read back as a sequence of bytes. -/
lemma reads_byteString (content : Bytes) : Reads bytes (byteString content) content := by
  intro hlen rest
  rw [byteString, List.length_append] at hlen
  have hhead := untagged_head 2 (by omega) (show content.length < 2 ^ 64 by omega)
    (content ++ rest)
  have hmapM : content.mapM (some : UInt8 → Option UInt8) = some content := by
    simpa using List.mapM_pure (m := Option) (f := id) (l := content)
  rw [bytes, Read.sequence, byteString, List.append_assoc, bind_apply, hhead]
  show ((bytesContent (some content.length)) (content ++ rest)).bind _ = _
  rw [bytesContent, Read.content, bind_apply, take_append]
  show (content.mapM some).bind _ = _
  rw [hmapM]
  rfl

/-- An array of numbers is read back as a sequence of bytes. -/
lemma reads_byteArray (content : Bytes) : Reads bytes (byteArray content) content :=
  reads_sequence (fun _ _ => number_ne_nil _) fun b _ => reads_byte b

/-- An array of as many numbers as there are to be is read back. -/
lemma reads_fixedBytes (content : Bytes) :
    Reads (fixedBytes content.length) (byteArray content) content := by
  intro hlen rest
  obtain ⟨hcount, hbytes⟩ := length_array (fun _ _ => number_ne_nil _) hlen
  have hhead := untagged_head 4 (by omega) hcount
    (content.flatMap (fun b => number b.toNat) ++ rest)
  have htimes := times_append (fun b _ => reads_byte b) [] hbytes rest
  rw [fixedBytes, byteArray, array, List.append_assoc, bind_apply, hhead]
  show (if content.length ≤ content.length then _ else failure : Reader Bytes) _ = _
  rw [if_pos (Nat.le_refl _), bind_apply, htimes, Option.bind_some, pure_apply, List.append_nil,
    List.reverse_reverse]

lemma reads_ident {kind : IdKind} (id : Id kind) : Reads Read.ident (Write.ident id) id := by
  intro hlen rest
  have hbytes := reads_fixedBytes id.bytes hlen rest
  rw [id.length_bytes] at hbytes
  rw [Read.ident, Write.ident, hbytes]
  show (Id.ofBytes? id.bytes).bind _ = _
  rw [Id.ofBytes?_bytes]
  rfl

lemma ident_ne_nil {kind : IdKind} (id : Id kind) : Write.ident id ≠ [] :=
  List.append_ne_nil_of_left_ne_nil (head_ne_nil 4 _) _

lemma byteString_ne_nil (content : Bytes) : byteString content ≠ [] :=
  List.append_ne_nil_of_left_ne_nil (head_ne_nil 2 _) _

end MessageSync.Cbor
