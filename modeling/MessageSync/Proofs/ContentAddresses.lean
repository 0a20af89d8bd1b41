import MessageSync.Packet.Encode
import MessageSync.Proofs.Cbor.Apart
import MessageSync.Proofs.Cbor.Record

/-!
# What is told by an identifier

An identifier is the hash of a byte string, and as long as no other byte string with this hash is
met (`Blake3.Discerns`), it tells what the byte string tells.

* What is hashed for a batch tells its nonce and its messages, each message with the bounds that
  it has, and is never what is hashed for a message (`Batch.eq_of_id`).
* What is hashed for a group is its name and its salt with a colon between them. A name or a salt
  that has a colon of its own can be divided there as well, and only there, so that two groups
  with one identifier are the same or differ in the place of a colon (`Group.id_ofName_eq_iff`).
-/

namespace MessageSync

open Cbor

/-- Whether two byte strings with one hash are the same. -/
def Blake3.Discerns (x y : Bytes) : Prop := hash x = hash y → x = y

/-- Identifiers are the same exactly if what is hashed is. -/
lemma Id.ofHash_eq_iff {kind : IdKind} {x y : Bytes} (h : Blake3.Discerns x y) :
    ofHash kind x = ofHash kind y ↔ x = y := by
  refine ⟨fun heq => h ?_, congrArg (ofHash kind)⟩
  exact congrArg Id.bytes heq

/-! ## Batches -/

/-- Nonces are told apart by their encodings, whatever follows. -/
lemma Nonce.apart : Apart (fun _ => True) fun n : Nonce => Write.byteArray n.bytes := by
  intro n n' _ _ rest rest' h
  have hcount (n : Nonce) : LengthFits n.bytes := by
    rw [LengthFits, n.length_bytes]
    decide
  obtain ⟨hbytes, hrest⟩ := apart_byteArray (hcount n) (hcount n') h
  exact ⟨Nonce.ext hbytes, hrest⟩

/-- What is hashed for a batch is never what is hashed for a message: the tags in front part at
their ninth letter. -/
lemma batchHashInput_ne (body raw : Bytes) : batchHashInput body ≠ messageHashInput raw := by
  intro h
  have hfront := congrArg (List.take 9) h
  rw [batchHashInput, messageHashInput, List.take_append_of_le_length (by decide),
    List.take_append_of_le_length (by decide)] at hfront
  exact absurd hfront (by decide)

namespace Batch

/-- Whether the number of messages and the length of each are numbers of 64 bits. -/
def Fits (b : Batch) : Prop := LengthFits b.messages ∧ ∀ raw ∈ b.messages, LengthFits raw

instance (b : Batch) : Decidable b.Fits :=
  inferInstanceAs (Decidable (LengthFits b.messages ∧ ∀ raw ∈ b.messages, LengthFits raw))

/-- Batches are told apart by what is hashed for them. -/
lemma apart_body : Apart Fits body := by
  intro x y hx hy rest rest' h
  simp only [body, List.append_assoc] at h
  obtain ⟨hnonce, hmessages⟩ := Nonce.apart trivial trivial (List.append_cancel_left h)
  obtain ⟨hmessages, hrest⟩ := apart_byteString.array hx hy hmessages
  exact ⟨Batch.ext hnonce hmessages, hrest⟩

lemma batchHashInput_body_eq_iff {x y : Batch} (hx : x.Fits) (hy : y.Fits) :
    batchHashInput x.body = batchHashInput y.body ↔ x = y := by
  refine ⟨fun h => apart_body.eq hx hy (List.append_cancel_left h), ?_⟩
  rintro rfl
  rfl

/-- What is hashed for a batch determines its nonce and its messages, one by one and in their
order, and it is never what is hashed for a message. If the hash function discerns what is
hashed, two batches with one identifier are the same, and no message has the bytes of the
identifier of a batch for its own. -/
theorem eq_of_id (x y : Batch) (hx : x.Fits) (hy : y.Fits) :
    (x.body = y.body → x.nonce = y.nonce ∧ x.messages = y.messages) ∧
      (∀ raw, batchHashInput x.body ≠ messageHashInput raw) ∧
      (Blake3.Discerns (batchHashInput x.body) (batchHashInput y.body) → x.id = y.id → x = y) ∧
      ∀ raw, Blake3.Discerns (batchHashInput x.body) (messageHashInput raw) →
        x.id.bytes ≠ (MessageId.ofRaw raw).bytes := by
  refine ⟨fun h => ?_, batchHashInput_ne x.body, fun hhash hid => ?_, fun raw hhash hid => ?_⟩
  · obtain rfl := apart_body.eq hx hy h
    exact ⟨rfl, rfl⟩
  · exact (batchHashInput_body_eq_iff hx hy).mp ((Id.ofHash_eq_iff hhash).mp hid)
  · exact batchHashInput_ne x.body raw (hhash hid)

end Batch

namespace Sample

/-- A batch whose nonce takes two bytes for each of its own. -/
def divided (messages : List Bytes) : Batch := ⟨⟨List.replicate 16 200, rfl⟩, messages⟩

end Sample

/-- The same bytes, divided into messages in two ways. -/
theorem Batch.eq_of_id_divided :
    (Sample.divided [[1], [2, 3]]).body ≠ (Sample.divided [[1, 2], [3]]).body ∧
      (Sample.divided [[1], [2, 3]]).id ≠ (Sample.divided [[1, 2], [3]]).id := by
  obtain ⟨hbody, -, hid, -⟩ := Batch.eq_of_id (Sample.divided [[1], [2, 3]])
    (Sample.divided [[1, 2], [3]]) (by decide) (by decide)
  have hhash : Blake3.Discerns (batchHashInput (Sample.divided [[1], [2, 3]]).body)
      (batchHashInput (Sample.divided [[1, 2], [3]]).body) :=
    fun h => absurd h (by decide +kernel)
  exact ⟨fun h => absurd (hbody h).2 (by decide), fun h => absurd (hid hhash h) (by decide)⟩

/-! ## Texts -/

lemma utf8_append (s t : String) : utf8 (s ++ t) = utf8 s ++ utf8 t := by
  simp only [utf8, String.toUTF8_eq_toByteArray, String.toByteArray_append, ByteArray.data_append,
    Array.toList_append]

lemma utf8_inj {s t : String} : utf8 s = utf8 t ↔ s = t := by
  refine ⟨fun h => ?_, congrArg utf8⟩
  have hread := Cbor.ofUtf8?_utf8 s
  rw [h, Cbor.ofUtf8?_utf8] at hread
  exact (Option.some.inj hread).symm

/-- What is left of a text behind some characters is a text. -/
lemma isValidUTF8_of_append (chars : List Char) {rest : ByteArray}
    (h : (chars.utf8Encode ++ rest).IsValidUTF8) : rest.IsValidUTF8 := by
  induction chars with
  | nil => simpa using h
  | cons c chars ih =>
    rw [List.utf8Encode_cons, ByteArray.append_assoc] at h
    exact ih (ByteArray.isValidUTF8_utf8Encode_singleton_append_iff.mp h)

/-- A text that begins with the bytes of another one is that text and a further one. -/
lemma exists_of_utf8_append {s t : String} {rest : Bytes} (h : utf8 t = utf8 s ++ rest) :
    ∃ u : String, t = s ++ u ∧ rest = utf8 u := by
  let bytes : ByteArray := ⟨rest.toArray⟩
  have hchars : s.toByteArray = s.toList.utf8Encode := by
    rw [← String.toByteArray_ofList, String.ofList_toList]
  have hbytes : t.toByteArray = s.toList.utf8Encode ++ bytes := by
    rw [← hchars]
    refine ByteArray.ext (Array.toList_inj.mp ?_)
    rw [ByteArray.data_append, Array.toList_append]
    exact h
  have hvalid : bytes.IsValidUTF8 := isValidUTF8_of_append s.toList (hbytes ▸ t.isValidUTF8)
  have hrest : rest = utf8 ⟨bytes, hvalid⟩ := rfl
  refine ⟨⟨bytes, hvalid⟩, utf8_inj.mp ?_, hrest⟩
  rw [h, utf8_append, ← hrest]

/-! ## Groups -/

namespace Group

/-- Whether a name and a salt are those of another group with the colon between them moved: the
longer name has the colon and what is in front of it in the salt. -/
def Shifts (name : String) (salt : Bytes) (name' : String) (salt' : Bytes) : Prop :=
  ∃ middle : String, name' = name ++ ":" ++ middle ∧ salt = utf8 (middle ++ ":") ++ salt'

variable {name name' : String} {salt salt' : Bytes}

/-- A colon that comes first in one byte string, and later in the other one, was moved. -/
lemma eq_or_shifts {between : Bytes} (hname : utf8 name' = utf8 name ++ between)
    (hsalt : utf8 ":" ++ salt = between ++ (utf8 ":" ++ salt')) :
    name = name' ∧ salt = salt' ∨ Shifts name salt name' salt' := by
  have hcolon : utf8 ":" = [58] := by decide
  cases between with
  | nil =>
    rw [List.append_nil, utf8_inj] at hname
    exact .inl ⟨hname.symm, List.append_cancel_left hsalt⟩
  | cons first between =>
    rw [hcolon, List.singleton_append, List.cons_append, List.cons.injEq] at hsalt
    obtain ⟨rfl, rfl⟩ := hsalt
    have hlonger : utf8 name' = utf8 (name ++ ":") ++ between := by
      rw [hname, utf8_append, hcolon, List.append_assoc]
      rfl
    obtain ⟨middle, rfl, rfl⟩ := exists_of_utf8_append hlonger
    refine .inr ⟨middle, rfl, ?_⟩
    rw [utf8_append, hcolon, List.append_assoc]

lemma Shifts.hashInput (h : Shifts name salt name' salt') :
    groupHashInput name salt = groupHashInput name' salt' := by
  obtain ⟨middle, rfl, rfl⟩ := h
  simp only [groupHashInput, utf8_append, List.append_assoc]

/-- What is hashed for two groups is the same exactly if the groups are, or one is the other one
with its colon moved. -/
lemma hashInput_eq_iff : groupHashInput name salt = groupHashInput name' salt' ↔
    name = name' ∧ salt = salt' ∨ Shifts name salt name' salt' ∨ Shifts name' salt' name salt := by
  constructor
  · intro h
    simp only [groupHashInput, List.append_assoc] at h
    rcases List.append_eq_append_iff.mp (List.append_cancel_left h) with
      ⟨between, hname, hsalt⟩ | ⟨between, hname, hsalt⟩
    · exact (eq_or_shifts hname hsalt).imp_right .inl
    · exact (eq_or_shifts hname hsalt).imp (fun h => ⟨h.1.symm, h.2.symm⟩) .inr
  · rintro (⟨rfl, rfl⟩ | h | h)
    · rfl
    · exact h.hashInput
    · exact h.hashInput.symm

/-- The longer name has the colon that was moved. -/
lemma Shifts.mem_toList (h : Shifts name salt name' salt') : ':' ∈ name'.toList := by
  obtain ⟨middle, rfl, -⟩ := h
  simp

/-- A moved colon makes the name longer and the salt shorter. -/
lemma Shifts.length_lt (h : Shifts name salt name' salt') :
    name.length < name'.length ∧ salt'.length < salt.length := by
  obtain ⟨middle, rfl, rfl⟩ := h
  have hchar : ":".length = 1 := by decide
  have hbyte : (utf8 ":").length = 1 := by decide
  constructor
  · rw [String.length_append, String.length_append, hchar]
    omega
  · rw [utf8_append, List.length_append, List.length_append, hbyte]
    omega

/-- The colon is in the longer name, and both names and both salts differ in their lengths. -/
lemma Shifts.not_plain (h : Shifts name salt name' salt') :
    ¬ (':' ∉ name'.toList ∨ name = name' ∨ salt.length = salt'.length) := by
  obtain ⟨hname, hsalt⟩ := h.length_lt
  rintro (hcolon | rfl | hlen)
  · exact hcolon h.mem_toList
  · omega
  · omega

/-- If the hash function discerns what is hashed, two groups have one identifier exactly if they
have the same name and salt, or one has the name and the salt of the other with the colon between
them moved. So the identifier tells both of groups whose names have no colons, of groups with the
same name, and of groups with salts of the same length. -/
theorem id_ofName_eq_iff (name name' : String) (salt salt' : Bytes)
    (hhash : Blake3.Discerns (groupHashInput name salt) (groupHashInput name' salt')) :
    ((ofName name salt).id = (ofName name' salt').id ↔
      name = name' ∧ salt = salt' ∨ Shifts name salt name' salt' ∨
        Shifts name' salt' name salt) ∧
      ((':' ∉ name.toList ∧ ':' ∉ name'.toList) ∨ name = name' ∨ salt.length = salt'.length →
        (ofName name salt).id = (ofName name' salt').id → name = name' ∧ salt = salt') := by
  have hiff : (ofName name salt).id = (ofName name' salt').id ↔ _ :=
    (Id.ofHash_eq_iff hhash).trans hashInput_eq_iff
  refine ⟨hiff, fun hplain hid => ?_⟩
  -- a moved colon is in one of the names, and changes the lengths of both
  rcases hiff.mp hid with hsame | hshift | hshift
  · exact hsame
  · exact absurd (hplain.imp_left And.right) hshift.not_plain
  · exact absurd (hplain.imp And.left (Or.imp Eq.symm Eq.symm)) hshift.not_plain

/-- Two groups with different names and salts can have one identifier, though the hash function
discerns what is hashed. -/
theorem not_id_ofName_inj :
    ¬ ∀ (name name' : String) (salt salt' : Bytes),
      Blake3.Discerns (groupHashInput name salt) (groupHashInput name' salt') →
        (ofName name salt).id = (ofName name' salt').id → name = name' ∧ salt = salt' := by
  intro h
  have hinput : groupHashInput "a:b" (utf8 "c") = groupHashInput "a" (utf8 "b:c") := by decide
  have hsame := h "a:b" "a" (utf8 "c") (utf8 "b:c") (fun _ => hinput)
    (congrArg (Id.ofHash .group) hinput)
  exact absurd hsame.1 (by decide)

end Group

/-- Two groups with one name are told apart by their salts. -/
theorem Group.id_ofName_forum :
    (ofName "a:forum" (utf8 "one")).id ≠ (ofName "a:forum" (utf8 "two")).id := by
  have hhash : Blake3.Discerns (groupHashInput "a:forum" (utf8 "one"))
      (groupHashInput "a:forum" (utf8 "two")) := fun h => absurd h (by decide +kernel)
  obtain ⟨-, htold⟩ := id_ofName_eq_iff "a:forum" "a:forum" (utf8 "one") (utf8 "two") hhash
  exact fun hid => absurd (htold (.inr (.inl rfl)) hid).2 (by decide)

end MessageSync
