import MessageSync.Engine.Offers
import MessageSync.Proofs.Requests
import MessageSync.Proofs.Topic.Basic
import MessageSync.Proofs.UsedNumbers

/-!
# What a request tells

A request is read in four ways: message by message, as a count, as a text, and together with
the offer that it answers. All four tell the same flags (`Request.Tells`). Those of a request
that was made of flags are these flags. Those of a request that was received are the first bits
of its bitmap, whatever stands behind them.

A bitmap may be too short for the length that it comes with, and then the flags that are missing
are taken as not set. Read with one lookup for each flag, such a request has no answer at all. A
request that was received has one, and it is the same (`Request.count?_eq`,
`Request.appliedTo?_eq`). The main statement is `Request.tells_ofFlags_and_leading`.
-/

namespace MessageSync

/-! ## Bits in a row -/

/-- The bits of some bytes, the most significant bit of each byte first. -/
def bits (bytes : Bytes) : List Bool :=
  bytes.flatMap fun byte => (List.range 8).map byte.toBitVec.getMsbD

lemma bits_cons (byte : UInt8) (rest : Bytes) :
    bits (byte :: rest) = (List.range 8).map byte.toBitVec.getMsbD ++ bits rest :=
  List.flatMap_cons

lemma length_bits (bytes : Bytes) : (bits bytes).length = 8 * bytes.length := by
  induction bytes with
  | nil => rfl
  | cons byte rest ih =>
    rw [bits_cons, List.length_append, List.length_map, List.length_range, ih, List.length_cons]
    omega

/-- The bits in a row are those that are looked up byte by byte. -/
lemma getElem?_bits (bytes : Bytes) (i : Nat) : (bits bytes)[i]? = bit? bytes i := by
  unfold bit?
  induction bytes generalizing i with
  | nil => rfl
  | cons byte rest ih =>
    have hlen : ((List.range 8).map byte.toBitVec.getMsbD).length = 8 := by
      rw [List.length_map, List.length_range]
    rw [bits_cons]
    by_cases hi : i < 8
    · have hfirst : i / 8 = 0 := by omega
      have hplace : i % 8 = i := by omega
      rw [List.getElem?_append_left (by omega), List.getElem?_map, List.getElem?_range hi, hfirst,
        hplace, List.getElem?_cons_zero]
      rfl
    · have hnext : i / 8 = (i - 8) / 8 + 1 := by omega
      have hplace : i % 8 = (i - 8) % 8 := by omega
      rw [List.getElem?_append_right (by omega), hlen, ih (i - 8), hnext, hplace,
        List.getElem?_cons_succ]

namespace Request

/-- The first bits of a request's bitmap, as many as it has flags. -/
def leading (r : Request) : List Bool := (bits r.bitmap).take r.size

/-- Of things in a row, those at the places of flags that are set. -/
def chosen {α : Type} (flags : List Bool) (things : List α) : List α :=
  ((things.zip flags).filter Prod.snd).map Prod.fst

/-! ## One lookup for each flag -/

/-- Flag `i`, looked up in its byte. Nothing is looked up past the last flag. -/
def isRequested? (r : Request) (i : Nat) : Option Bool :=
  if i < r.size then bit? r.bitmap i else some false

/-- The number of wanted messages, one flag looked up after the other. -/
def count? (r : Request) : Option Nat :=
  ((List.range r.size).mapM r.isRequested?).map (List.count true)

/-- The messages of an offer that are wanted, one flag looked up after the other. -/
def appliedTo? (r : Request) (offer : List MessageId) :
    Option (Except Violation (List MessageId)) :=
  if offer.length = r.size then
    (offer.zipIdx.mapM fun e => (r.isRequested? e.2).map fun flag => (e.1, flag)).map
      fun flagged => .ok ((flagged.filter Prod.snd).map Prod.fst)
  else some (.error (.requestMismatch r.size offer.length))

/-! ## Flags -/

section
variable {r : Request} {i : Nat}

/-- A flag that is missing is taken as not set. -/
lemma getD_isRequested? (r : Request) (i : Nat) :
    (r.isRequested? i).getD false = r.isRequested i := by
  unfold isRequested? isRequested bit?
  by_cases hi : i < r.size
  · rw [if_pos hi, decide_eq_true hi, Bool.true_and]
    cases r.bitmap[i / 8]? <;> rfl
  · rw [if_neg hi, decide_eq_false hi]
    rfl

lemma length_flags (r : Request) : r.flags.length = r.size := by
  rw [flags, List.length_map, List.length_range]

lemma getElem?_flags (hi : i < r.size) : r.flags[i]? = some (r.isRequested i) := by
  rw [flags, List.getElem?_map, List.getElem?_range hi, Option.map_some]

lemma isRequested_eq_getD (r : Request) (i : Nat) : r.isRequested i = r.flags.getD i false := by
  rw [List.getD_eq_getElem?_getD]
  by_cases hi : i < r.size
  · rw [getElem?_flags hi, Option.getD_some]
  · rw [List.getElem?_eq_none (by rw [length_flags]; omega), Option.getD_none, isRequested,
      decide_eq_false hi, Bool.false_and]

/-- The flags of a request, from a list that has each of them in its place. -/
lemma flags_eq_of_getElem? {list : List Bool} (hlen : list.length = r.size)
    (h : ∀ i < r.size, list[i]? = some (r.isRequested i)) : r.flags = list := by
  refine List.ext_getElem? fun i => ?_
  by_cases hi : i < r.size
  · rw [getElem?_flags hi, h i hi]
  · rw [List.getElem?_eq_none (by rw [length_flags]; omega), List.getElem?_eq_none (by omega)]

lemma flags_ofFlags {flags : List Bool} (hlen : flags.length < UInt32.size) :
    (ofFlags flags).flags = flags := by
  have hsize := size_ofFlags hlen
  refine flags_eq_of_getElem? hsize.symm fun i hi => ?_
  rw [isRequested_ofFlags hlen, List.getD_eq_getElem?_getD, List.getElem?_eq_getElem (hsize ▸ hi),
    Option.getD_some]

lemma getElem?_leading (hi : i < r.size) : r.leading[i]? = bit? r.bitmap i := by
  rw [leading, List.getElem?_take_of_lt hi, getElem?_bits]

/-- A bitmap of the right size has a bit for each flag. -/
lemma length_leading (h : r.bitmap.length = bytesFor r.size) : r.leading.length = r.size := by
  rw [leading, List.length_take, length_bits, h, bytesFor]
  omega

end

/-! ## No flag is missing -/

section
variable {r : Request} (h : r.leading.length = r.size)
include h

lemma isRequested?_eq (i : Nat) : r.isRequested? i = some (r.isRequested i) := by
  have hflag := r.getD_isRequested? i
  unfold isRequested? at hflag ⊢
  by_cases hi : i < r.size
  · rw [if_pos hi, ← getElem?_leading hi, List.getElem?_eq_getElem (h ▸ hi)] at hflag ⊢
    exact congrArg some hflag
  · rw [if_neg hi] at hflag ⊢
    exact congrArg some hflag

/-- The flags are the first bits of the bitmap. -/
lemma flags_eq_leading : r.flags = r.leading := by
  refine flags_eq_of_getElem? h fun i hi => ?_
  have hlookup := isRequested?_eq h i
  rw [isRequested?, if_pos hi] at hlookup
  rw [getElem?_leading hi, hlookup]

end

/-! ## Four ways to read -/

/-- Whether a request, however it is read, tells these flags. An offer with another number of
messages is not the one that it answers. -/
structure Tells (r : Request) (flags : List Bool) : Prop where
  size : r.size = flags.length
  isRequested (i : Nat) : r.isRequested i = flags.getD i false
  count : r.count = flags.count true
  display : r.display = String.ofList (flags.map fun flag => if flag then '1' else '0')
  appliedTo (offer : List MessageId) : r.appliedTo offer =
    if offer.length = flags.length then .ok (chosen flags offer)
    else .error (.requestMismatch flags.length offer.length)

/-- What is wanted of an offer is told by the flags, one for each message. -/
lemma wanted_eq_chosen {α : Type} {r : Request} {offered : List α} (h : offered.length = r.size) :
    r.wanted offered = chosen r.flags offered := by
  rw [wanted, chosen, flags, List.zip_map_right, List.zipIdx_eq_zip_range', h,
    ← List.range_eq_range', List.filter_map, List.map_map]
  rfl

lemma count_eq (r : Request) : r.count = r.flags.count true := by
  rw [count, flags, List.count_eq_countP, List.countP_map]
  exact List.countP_congr fun i _ => by simp

/-- All that is read from a request is read from its flags. -/
lemma tells_flags (r : Request) : r.Tells r.flags where
  size := r.length_flags.symm
  isRequested := r.isRequested_eq_getD
  count := r.count_eq
  display := by
    rw [display, flags, List.map_map]
    rfl
  appliedTo offer := by
    rw [length_flags]
    unfold Request.appliedTo
    by_cases h : offer.length = r.size
    · rw [if_pos h, requestedIds_eq h, wanted_eq_chosen h]
    · rw [if_neg h, requestedIds, if_neg h]

section
variable {r : Request} (h : r.leading.length = r.size)
include h

lemma tells_leading : r.Tells r.leading := flags_eq_leading h ▸ r.tells_flags

lemma count?_eq : r.count? = some r.count := by
  have hlookups : r.isRequested? = fun i => some (r.isRequested i) :=
    funext (isRequested?_eq h)
  have hflags : (List.range r.size).mapM r.isRequested? = some r.flags := by
    rw [hlookups]
    exact List.mapM_pure
  rw [count?, hflags, Option.map_some, count_eq]

lemma appliedTo?_eq (offer : List MessageId) : r.appliedTo? offer = some (r.appliedTo offer) := by
  have hlookups : (fun e : MessageId × Nat => (r.isRequested? e.2).map fun flag => (e.1, flag)) =
      fun e => some (e.1, r.isRequested e.2) := by
    funext e
    rw [isRequested?_eq h, Option.map_some]
  have hflagged : (offer.zipIdx.mapM fun e => (r.isRequested? e.2).map fun flag => (e.1, flag)) =
      some (offer.zipIdx.map fun e => (e.1, r.isRequested e.2)) := by
    rw [hlookups]
    exact List.mapM_pure
  unfold appliedTo? Request.appliedTo
  by_cases hsize : offer.length = r.size
  · rw [if_pos hsize, hflagged, Option.map_some, requestedIds_eq hsize, wanted, List.filter_map,
      List.map_map]
    rfl
  · rw [if_neg hsize, requestedIds, if_neg hsize]

end

/-- Of twenty flags in a single byte, the eight that are there are counted, but no lookup finds
the ninth. -/
example : (⟨20, [0xff]⟩ : Request).count = 8 ∧ (⟨20, [0xff]⟩ : Request).count? = none := by
  decide

end Request

/-! ## Requests that are received -/

/-- A request that is received has a bitmap of the size that its length asks for. -/
lemma Packet.length_bitmap_of_decode {input : Bytes} {r : Request}
    (h : Packet.decode input = .ok (.request r)) : r.bitmap.length = Request.bytesFor r.size :=
  (excess?_request.mp (excess?_of_decode h)).2

namespace Request

/-- A request that was made of flags tells these flags, and is received as it is if there are no
more of them than messages in an offer. A request that is received tells the first bits of its
bitmap, and no lookup in the bitmap fails. Another request that has the same first bits, and
anything behind them, wants as many messages, and the same ones of every offer. -/
theorem tells_ofFlags_and_leading :
    (∀ flags : List Bool, flags.length < 2 ^ 32 →
      (ofFlags flags).Tells flags ∧
      (flags.length ≤ Packet.mostOffered →
        Packet.decode (Packet.request (ofFlags flags)).encode = .ok (.request (ofFlags flags)))) ∧
    ∀ (input : Bytes) (r : Request), Packet.decode input = .ok (.request r) →
      r.Tells r.leading ∧
      ((∀ i, r.isRequested? i = some (r.isRequested i)) ∧ r.count? = some r.count ∧
        ∀ offer, r.appliedTo? offer = some (r.appliedTo offer)) ∧
      ∀ other : Request, other.length = r.length → other.leading = r.leading →
        other.count = r.count ∧ ∀ offer, other.appliedTo offer = r.appliedTo offer := by
  refine ⟨fun flags hlen => ⟨?_, Packet.decode_request⟩, fun input r hdecode => ?_⟩
  · have htells := (ofFlags flags).tells_flags
    rwa [flags_ofFlags hlen] at htells
  · have hleading := length_leading (Packet.length_bitmap_of_decode hdecode)
    have htells := tells_leading hleading
    refine ⟨htells, ⟨isRequested?_eq hleading, count?_eq hleading, appliedTo?_eq hleading⟩,
      fun other hlength hbits => ?_⟩
    -- the other request need not be one that is received
    have hsize : other.size = r.size := congrArg UInt32.toNat hlength
    have hother : other.Tells r.leading :=
      hbits ▸ tells_leading (by rw [hbits, hleading, hsize])
    refine ⟨hother.count.trans htells.count.symm, fun offer => ?_⟩
    exact (hother.appliedTo offer).trans (htells.appliedTo offer).symm

/-- Eleven flags, and a request for them in which all bits behind the last flag are set: both
want the same messages of an offer that repeats some. -/
theorem tells_padded :
    let flags := [true, false, true, true, false, false, false, true, false, true, true]
    let padded : Request := ⟨11, [0xb1, 0x7f]⟩
    let id (byte : UInt8) : MessageId := ⟨List.replicate 32 byte, List.length_replicate⟩
    let offer := [1, 1, 2, 2, 3, 3, 4, 4, 5, 5, 5].map id
    Packet.decode (Packet.request (ofFlags flags)).encode = .ok (.request (ofFlags flags)) ∧
    Packet.decode (Packet.request padded).encode = .ok (.request padded) ∧
    padded ≠ ofFlags flags ∧
    padded.count? = some 6 ∧ padded.display = "10110001011" ∧
    padded.appliedTo offer = .ok ([1, 2, 2, 4, 5, 5].map id) ∧
    (ofFlags flags).appliedTo offer = .ok ([1, 2, 2, 4, 5, 5].map id) ∧
    padded.appliedTo [] = .error (.requestMismatch 11 0) ∧
    (ofFlags flags).count = padded.count := by
  intro flags padded id offer
  obtain ⟨hmade, hreceived⟩ := tells_ofFlags_and_leading
  obtain ⟨htells, hdecode⟩ := hmade flags (by decide)
  have hpadded : Packet.decode (Packet.request padded).encode = .ok (.request padded) :=
    Packet.decode_request_within (by decide)
  obtain ⟨hleading, ⟨-, hcount, -⟩, hother⟩ := hreceived _ padded hpadded
  refine ⟨hdecode (by decide), hpadded, by decide, ?_, ?_, ?_, ?_, ?_, ?_⟩
  · rw [hcount, hleading.count]
    rfl
  · exact hleading.display
  · exact hleading.appliedTo offer
  · exact htells.appliedTo offer
  · exact hleading.appliedTo []
  · exact (hother (ofFlags flags) rfl (by decide)).1

end Request

end MessageSync
