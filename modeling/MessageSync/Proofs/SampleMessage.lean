import MessageSync.Proofs.Cbor.Record
import MessageSync.SampleMessage

/-!
# Sample messages are read back

A sample message is parsed from its raw form (`parseSample_sampleRaw`), and so are all the
messages of a batch of sample messages (`parseAll_raws`).
-/

namespace MessageSync

open Cbor Cbor.Read

/-! ## Values that may be absent -/

section
variable {α : Type} {value : Reader α}

lemma reads_null : Reads (Read.option value) Write.null none := fun _ _ => rfl

/-- What is written as an array is not taken to be absent. -/
lemma reads_option_array {β : Type} {encode : β → Bytes} {elements : List β} {a : α}
    (hne : ∀ b ∈ elements, encode b ≠ [])
    (hvalue : Reads value (Write.array encode elements) a) :
    Reads (Read.option value) (Write.array encode elements) (some a) := by
  intro hlen rest
  have hhead : readHead (Write.array encode elements ++ rest) =
      some (.array (some elements.length), elements.flatMap encode ++ rest) := by
    rw [Write.array, List.append_assoc]
    exact readHead_head (by omega) (length_array hne hlen).1 _
  rw [Read.option, hhead]
  dsimp only
  rw [hvalue hlen]
  rfl

end

/-- The author of a sample message as it is written. -/
def authorCode : Option AuthorId → Bytes
  | some a => Write.ident a
  | none => Write.null

lemma reads_author (author : Option AuthorId) :
    Reads (Read.option Read.ident) (authorCode author) author := by
  cases author with
  | none => exact reads_null
  | some a => exact reads_option_array (fun _ _ => number_ne_nil _) (reads_ident a)

/-! ## Messages -/

/-- The four fields of a sample message are read in turn. -/
lemma reads_sample (group : GroupId) (author : Option AuthorId) (timestamp : Int64)
    (body : Bytes) : Reads SampleFields.reader (sampleRaw group author timestamp body)
      ⟨some group, some author, some timestamp, some body⟩ := by
  have hgroup := (reads_ident group).map fun v => ({ group := some v } : SampleFields)
  have hauthor := (reads_author author).map fun v =>
    ({ group := some group, author := some v } : SampleFields)
  have htimestamp := (reads_int64 timestamp).map fun v =>
    ({ group := some group, author := some author, timestamp := some v } : SampleFields)
  have hbody := (reads_byteArray body).map fun v =>
    (⟨some group, some author, some timestamp, some v⟩ : SampleFields)
  refine Fields.reads_record (.cons (by decide) (if_pos rfl) hgroup <|
    .cons (by decide) ?_ hauthor <| .cons (by decide) ?_ htimestamp <|
    .cons (by decide) ?_ hbody (.nil _)) sampleLevels
  · rw [if_neg (by decide), if_pos rfl]
    rfl
  · rw [if_neg (by decide), if_neg (by decide), if_pos rfl]
    rfl
  · rw [if_neg (by decide), if_neg (by decide), if_neg (by decide), if_pos rfl]
    rfl

/-- A sample message is parsed from its raw form. -/
theorem parseSample_sampleRaw {group : GroupId} {author : Option AuthorId} {timestamp : Int64}
    {body : Bytes} (hlen : (sampleRaw group author timestamp body).length < 2 ^ 64) :
    parseSample (sampleRaw group author timestamp body) =
      .ok (sampleMessage group author timestamp body) := by
  have hread := reads_sample group author timestamp body hlen []
  rw [List.append_nil] at hread
  rw [parseSample, hread]
  rfl

/-- Whether a message is a sample message. -/
def Message.IsSample (m : Message) : Prop :=
  ∃ group author timestamp body, m = sampleMessage group author timestamp body

namespace Message.IsSample

variable {m : Message}

lemma raw_ne_nil (h : m.IsSample) : m.raw ≠ [] := by
  obtain ⟨group, author, timestamp, body, rfl⟩ := h
  exact List.append_ne_nil_of_left_ne_nil (head_ne_nil 5 _) _

lemma parse (h : m.IsSample) (hlen : m.size < 2 ^ 64) : parseSample m.raw = .ok m := by
  obtain ⟨group, author, timestamp, body, rfl⟩ := h
  exact parseSample_sampleRaw hlen

end Message.IsSample

/-- Messages that are parsed from their raw forms are parsed in turn. -/
lemma parseAll_raws {parse : Bytes → Except Violation Message} {messages : List Message}
    (h : ∀ m ∈ messages, parse m.raw = .ok m) :
    parseAll parse (messages.map Message.raw) = .ok messages := by
  induction messages with
  | nil => rfl
  | cons m rest ih =>
    obtain ⟨hm, hrest⟩ := List.forall_mem_cons.mp h
    rw [List.map_cons, parseAll, hm]
    dsimp only
    rw [ih hrest]
    rfl

end MessageSync
