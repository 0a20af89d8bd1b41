import MessageSync.Proofs.Peer

/-!
# Offers and requests are read back

A request has one flag for each message of an offer, eight to a byte. The flags come back out
of the bytes as they went in (`Request.isRequested_ofFlags`), and the packets of an offer and of
a request for it are within all limits if the offer lists no more messages than it may
(`Packet.decode_offer`, `Packet.decode_request`). What a bitmap holds behind the last flag does
not keep a request from being received (`Packet.decode_request_within`).
-/

namespace MessageSync

open Cbor

namespace Request

/-! ## Flags in bytes -/

/-- Of `n` flags that are added to a number in turn, the first one is the highest bit. -/
lemma testBit_foldl (flag : Nat → Bool) {n i : Nat} (hi : i < n) :
    ((List.range n).foldl (fun v j => 2 * v + (flag j).toNat) 0).testBit (n - 1 - i) =
      flag i := by
  induction n with
  | zero => omega
  | succ n ih =>
    rw [List.range_succ, List.foldl_append, List.foldl_cons, List.foldl_nil]
    generalize hv : (List.range n).foldl (fun v j => 2 * v + (flag j).toNat) 0 = v at ih
    have hflag := Bool.toNat_lt (flag n)
    obtain rfl | hless := Nat.eq_or_lt_of_le (Nat.le_of_lt_succ hi)
    · -- the last flag is the lowest bit
      have hlast : (2 * v + (flag i).toNat) % 2 = (flag i).toNat := by omega
      rw [Nat.add_sub_cancel, Nat.sub_self, Nat.testBit_zero, hlast]
      cases flag i <;> rfl
    · have hplace : n + 1 - 1 - i = n - 1 - i + 1 := by omega
      have hrest : (2 * v + (flag n).toNat) / 2 = v := by omega
      rw [hplace, Nat.testBit_succ, hrest]
      exact ih hless

lemma getMsbD_packByte (flags : List Bool) {i : Nat} (hi : i < 8) :
    (packByte flags).toBitVec.getMsbD i = flags.getD i false := by
  have hbit := testBit_foldl (flags.getD · false) hi
  rw [packByte, BitVec.getMsbD_eq_getLsbD, decide_eq_true hi, Bool.true_and]
  show (BitVec.ofNat 8 _).getLsbD (8 - 1 - i) = _
  rw [BitVec.getLsbD_ofNat, hbit, decide_eq_true (by omega), Bool.true_and]

lemma getElem?_pack {n k : Nat} {flags : List Bool} (hk : k < n) (hlen : 8 * k < flags.length) :
    (pack n flags)[k]? = some (packByte ((flags.drop (8 * k)).take 8)) := by
  induction n generalizing flags k with
  | zero => omega
  | succ n ih =>
    cases flags with
    | nil => exact absurd hlen (Nat.not_lt_zero _)
    | cons flag rest =>
      cases k with
      | zero => rfl
      | succ k =>
        have hdrop : 8 * k < ((flag :: rest).drop 8).length := by
          rw [List.length_drop]
          omega
        have hplace : 8 + 8 * k = 8 * (k + 1) := by omega
        rw [pack, List.getElem?_cons_succ, ih (by omega) hdrop, List.drop_drop, hplace]
        exact List.cons_ne_nil flag rest

lemma length_pack {n : Nat} {flags : List Bool} (hlen : flags.length ≤ 8 * n) :
    (pack n flags).length = bytesFor flags.length := by
  induction n generalizing flags with
  | zero =>
    obtain rfl := List.length_eq_zero_iff.mp (Nat.le_zero.mp hlen)
    rfl
  | succ n ih =>
    cases flags with
    | nil => rfl
    | cons flag rest =>
      have hdrop : ((flag :: rest).drop 8).length = rest.length + 1 - 8 := List.length_drop
      rw [List.length_cons] at hlen
      rw [pack, List.length_cons, ih (by omega), hdrop, List.length_cons, bytesFor, bytesFor]
      · omega
      · exact List.cons_ne_nil flag rest

section
variable {flags : List Bool} (hlen : flags.length < UInt32.size)
include hlen

lemma size_ofFlags : (ofFlags flags).size = flags.length := UInt32.toNat_ofNat_of_lt' hlen

/-- The flags of a request are those that it was made of. -/
theorem isRequested_ofFlags (i : Nat) : (ofFlags flags).isRequested i = flags.getD i false := by
  rw [isRequested, size_ofFlags hlen]
  by_cases hi : i < flags.length
  · have hbyte : (ofFlags flags).bitmap[i / 8]? =
        some (packByte ((flags.drop (8 * (i / 8))).take 8)) := by
      refine getElem?_pack ?_ (by omega)
      rw [bytesFor]
      omega
    have hplace : 8 * (i / 8) + i % 8 = i := Nat.div_add_mod i 8
    rw [hbyte, decide_eq_true hi, Bool.true_and]
    dsimp only
    rw [getMsbD_packByte _ (Nat.mod_lt i (by decide)), List.getD_eq_getElem?_getD,
      List.getElem?_take_of_lt (Nat.mod_lt i (by decide)), List.getElem?_drop, hplace,
      List.getD_eq_getElem?_getD]
  · rw [decide_eq_false hi, Bool.false_and, List.getD_eq_getElem?_getD,
      List.getElem?_eq_none (Nat.le_of_not_lt hi), Option.getD_none]

end

/-! ## What is wanted -/

/-- What a request wants of some things that were offered. -/
def wanted {α : Type} (r : Request) (offered : List α) : List α :=
  (offered.zipIdx.filter fun e => r.isRequested e.2).map Prod.fst

lemma requestedIds_eq {r : Request} {offer : List MessageId} (h : offer.length = r.size) :
    r.requestedIds offer = some (r.wanted offer) := if_pos h

section
variable {α β : Type} (r : Request) (offered : List α)

lemma wanted_map (f : α → β) : r.wanted (offered.map f) = (r.wanted offered).map f := by
  unfold wanted
  rw [List.zipIdx_map, List.filter_map, List.map_map, List.map_map]
  rfl

lemma wanted_sublist : (r.wanted offered).Sublist offered := by
  have hsub := (List.filter_sublist (p := fun e => r.isRequested e.2)
    (l := offered.zipIdx)).map Prod.fst
  rwa [List.zipIdx_map_fst] at hsub

variable {r offered}

/-- All is wanted if all flags are set. -/
lemma wanted_eq_self (h : ∀ i < offered.length, r.isRequested i = true) :
    r.wanted offered = offered := by
  have hall : (offered.zipIdx.filter fun e => r.isRequested e.2) = offered.zipIdx := by
    refine List.filter_eq_self.mpr fun e he => h e.2 ?_
    rw [List.mem_zipIdx_iff_getElem?] at he
    exact (List.getElem?_eq_some_iff.mp he).1
  rw [wanted, hall, List.zipIdx_map_fst]

end

end Request

/-! ## Packets -/

namespace Packet

/-- The packet of an offer of no more messages than there may be is received. -/
lemma decode_offer {ids : List MessageId} (hmost : ids.length ≤ mostOffered) :
    decode (Packet.offer ids).encode = .ok (.offer ids) := by
  have hlisting := length_listing_le "Offer" "ids" hmost
  have hform : (Write.text "Offer").length = 6 := by decide
  have hfield : (Write.text "ids").length = 4 := by decide
  have hlen : ((Packet.offer ids).encode ++ []).length ≤ longest := by
    rw [hform, hfield] at hlisting
    rw [List.append_nil]
    exact hlisting.trans (by decide)
  have hread := decode_append (p := .offer ids) (if_neg (Nat.not_lt.mpr hmost)) hlen
  rw [List.append_nil] at hread
  exact hread

/-- The limits of a request: on its length, and on its bitmap for this length. -/
lemma excess?_request {r : Request} : (Packet.request r).excess? = none ↔
    r.size ≤ mostOffered ∧ r.bitmap.length = Request.bytesFor r.size := by
  rw [excess?]
  split_ifs with hmost hlength
  · exact iff_of_false not_false fun h => Nat.not_lt.mpr h.1 hmost
  · exact iff_of_false not_false fun h => hlength h.2
  · exact iff_of_true rfl ⟨Nat.not_lt.mp hmost, not_not.mp hlength⟩

/-- The packet of a request within its limits is received, whatever its bitmap holds. -/
lemma decode_request_within {r : Request} (hlimits : (Packet.request r).excess? = none) :
    decode (Packet.request r).encode = .ok (.request r) := by
  obtain ⟨hmost, hbytes⟩ := excess?_request.mp hlimits
  have hbound : mostOffered = 1000 := rfl
  have hlongest : longest = 1048576 := rfl
  have hcount : r.bitmap.length ≤ 126 := by
    rw [hbytes, Request.bytesFor]
    omega
  have hbitmap : (Write.byteArray r.bitmap).length ≤ 5 + 126 * 2 := by
    have hnumbers := headSizes_bytes_le r.bitmap
    have hhead : headSize r.bitmap.length ≤ 5 := headSize_le_five (by
      show _ < 4294967296
      omega)
    rw [length_byteArray]
    omega
  have hlength : (Write.number r.length.toNat).length ≤ 5 :=
    (length_head 0 _).trans_le (headSize_le_five (UInt32.toNat_lt _))
  have hform : (Write.text "Request").length = 8 := by decide
  have hfirst : (Write.text "length").length = 7 := by decide
  have hsecond : (Write.text "bitmap").length = 7 := by decide
  have hone : headSize 1 = 1 := rfl
  have htwo : headSize 2 = 1 := rfl
  have hlen : ((Packet.request r).encode ++ []).length ≤ longest := by
    simp only [encode, Request.encode, Write.variant, Write.record, List.length_append,
      length_head, List.flatMap_cons, List.flatMap_nil, List.length_cons, List.length_nil, hform,
      hfirst, hsecond, Nat.zero_add, Nat.reduceAdd, hone, htwo]
    omega
  have hread := decode_append hlimits hlen
  rw [List.append_nil] at hread
  exact hread

/-- The packet of a request for no more messages than there may be is received. -/
lemma decode_request {flags : List Bool} (hmost : flags.length ≤ mostOffered) :
    decode (Packet.request (.ofFlags flags)).encode = .ok (.request (.ofFlags flags)) := by
  have hword : flags.length < UInt32.size :=
    Nat.lt_of_le_of_lt hmost (by decide)
  have hsize := Request.size_ofFlags hword
  have hbytes : (Request.ofFlags flags).bitmap.length = Request.bytesFor flags.length :=
    Request.length_pack (by rw [Request.bytesFor]; omega)
  exact decode_request_within (excess?_request.mpr ⟨hsize ▸ hmost, hsize ▸ hbytes⟩)

end Packet

end MessageSync
