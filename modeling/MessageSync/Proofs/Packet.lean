import MessageSync.Packet.Decode
import MessageSync.Packet.Encode
import MessageSync.Proofs.Cbor.Record
import MessageSync.Proofs.Table

/-!
# Packets are read back

Every packet is read back from its encoding, whatever follows (`Packet.reads_encode`). A
packet that was decoded from an encoding is therefore the packet that was encoded
(`Packet.eq_of_decode`).
-/

namespace MessageSync

open Cbor Cbor.Read

/-! ## Records of one and two fields -/

section
variable {α β : Type} {value : Reader α} {value' : Reader β} {code code' : Bytes} {a : α} {b : β}

lemma reads_readOne (field : String) (hshort : (utf8 field).length ≤ longestName)
    (hvalue : Reads value code a) :
    Reads (readOne field value) (Write.record [(field, code)]) a := by
  intro hlen rest
  let next (name : Bytes) (found : Option α) : Option (Reader (Option α)) :=
    if name = utf8 field then some (once found value some) else none
  have hfield : Reads (once none value some) code (some a) := hvalue.map some
  have hfields : Fields next none [(field, code)] (some a) :=
    .cons hshort (if_pos rfl) hfield (.nil (some a))
  have hrecord := hfields.reads_record Packet.fieldLevels hlen rest
  rw [readOne, bind_apply, hrecord]
  rfl

lemma reads_readTwo (levels : Nat) (first second : String) (hne : utf8 second ≠ utf8 first)
    (hshort : (utf8 first).length ≤ longestName) (hshort' : (utf8 second).length ≤ longestName)
    (hvalue : Reads value code a) (hvalue' : Reads value' code' b) :
    Reads (readTwo levels first second value value')
      (Write.record [(first, code), (second, code')]) (a, b) := by
  intro hlen rest
  -- both fields are missing at first, so that neither comes twice
  let next (name : Bytes) (found : Option α × Option β) :
      Option (Reader (Option α × Option β)) :=
    if name = utf8 first then some (once found.1 value fun a => (some a, found.2))
    else if name = utf8 second then some (once found.2 value' fun b => (found.1, some b))
    else none
  have hfirst : Reads (once none value fun a => (some a, (none : Option β))) code
      (some a, none) := hvalue.map fun a => (some a, none)
  have hsecond : Reads (once none value' fun b => (some a, some b)) code' (some a, some b) :=
    hvalue'.map fun b => (some a, some b)
  have hfields : Fields next (none, none) [(first, code), (second, code')] (some a, some b) := by
    refine .cons hshort (if_pos rfl) hfirst (.cons hshort' ?_ hsecond (.nil _))
    show (if utf8 second = utf8 first then _ else _) = _
    rw [if_neg hne, if_pos rfl]
  have hrecord := hfields.reads_record levels hlen rest
  rw [readTwo, bind_apply, hrecord]
  rfl

end

/-! ## Contents -/

lemma reads_nonce (n : Nonce) : Reads Nonce.reader (Write.byteArray n.bytes) n := by
  intro hlen rest
  have hbytes := reads_fixedBytes n.bytes hlen rest
  have hnonce : Nonce.ofBytes? n.bytes = some n := dif_pos n.length_bytes
  rw [n.length_bytes] at hbytes
  rw [Nonce.reader, hbytes]
  show (Nonce.ofBytes? n.bytes).bind _ = _
  rw [hnonce]
  rfl

lemma reads_idents {kind : IdKind} (ids : List (Id kind)) :
    Reads (sequenceOf ident) (Write.array Write.ident ids) ids :=
  reads_sequence (fun id _ => ident_ne_nil id) fun id _ => reads_ident id

lemma reads_group (g : Group) : Reads Group.reader g.encode g :=
  (reads_readTwo Packet.groupLevels "id" "name" (by decide) (by decide) (by decide)
    (reads_ident g.id) (reads_string g.name)).map fun x => Group.mk x.1 x.2

lemma reads_batch (x : Batch) : Reads Batch.reader x.encode x := by
  have hmessages : Reads (sequenceOf bytes) (Write.array Write.byteString x.messages) x.messages :=
    reads_sequence (fun raw _ => byteString_ne_nil raw) fun raw _ => reads_byteString raw
  exact (reads_readTwo Packet.fieldLevels "nonce" "messages" (by decide) (by decide) (by decide)
    (reads_nonce x.nonce) hmessages).map fun x => Batch.mk x.1 x.2

lemma reads_request (r : Request) : Reads Request.reader r.encode r :=
  (reads_readTwo Packet.fieldLevels "length" "bitmap" (by decide) (by decide) (by decide)
    (reads_word32 r.length) (reads_byteArray r.bitmap)).map fun x => Request.mk x.1 x.2

lemma reads_subscriptionUpdate (u : SubscriptionUpdate) :
    Reads SubscriptionUpdate.reader u.encode u := by
  have hgroups : Reads (sequenceOf Group.reader) (Write.array Group.encode u.groups) u.groups :=
    reads_sequence (fun g _ => List.append_ne_nil_of_left_ne_nil (head_ne_nil 5 _) _)
      fun g _ => reads_group g
  exact (reads_readTwo Packet.fieldLevels "groups" "timestamp" (by decide) (by decide) (by decide)
    hgroups (reads_int64 u.timestamp)).map fun x => SubscriptionUpdate.mk x.1 x.2

/-- The code of one property. -/
abbrev propertyCode (e : String × String) : Bytes := Write.text e.1 ++ Write.text e.2

lemma times_properties (entries : List (String × String)) (table : Properties)
    (hlen : (entries.flatMap propertyCode).length < 2 ^ 64) (rest : Bytes) :
    times (fun table => do
      let key ← string
      let value ← string
      return table.insert key value) entries.length table
        (entries.flatMap propertyCode ++ rest) = some (Table.insertAll table entries, rest) := by
  induction entries generalizing table with
  | nil => rfl
  | cons e entries ih =>
    rw [List.flatMap_cons, List.length_append] at hlen
    have hentry : Reads (do let key ← string; let value ← string; return table.insert key value)
        (propertyCode e) (table.insert e.1 e.2) :=
      (reads_string e.1).bind ((reads_string e.2).map fun value => table.insert e.1 value)
    rw [List.flatMap_cons, List.append_assoc, List.length_cons, times, hentry (by omega)]
    exact ih (table.insert e.1 e.2) (by omega)

lemma reads_properties (p : Properties) : Reads textMap (encodeProperties p) p := by
  intro hlen rest
  have hne (e : String × String) : propertyCode e ≠ [] :=
    List.append_ne_nil_of_left_ne_nil (List.append_ne_nil_of_left_ne_nil (head_ne_nil 3 _) _) _
  have hcount := length_le_flatMap p.toList fun e _ => hne e
  have hlens : (Write.head 5 p.toList.length).length + (p.toList.flatMap propertyCode).length <
      2 ^ 64 := by
    rw [encodeProperties, Write.textMap, List.length_append] at hlen
    exact hlen
  have hhead := untagged_head 5 (by omega) (show p.toList.length < 2 ^ 64 by omega)
    (p.toList.flatMap propertyCode ++ rest)
  have htimes := times_properties p.toList ∅ (by omega) rest
  rw [Table.insertAll_toList] at htimes
  rw [textMap, encodeProperties, Write.textMap, List.append_assoc, bind_apply, hhead]
  exact htimes

lemma reads_transportUpdate (u : TransportUpdate) : Reads TransportUpdate.reader u.encode u :=
  (reads_readTwo Packet.fieldLevels "properties" "timestamp" (by decide) (by decide) (by decide)
    (reads_properties u.properties) (reads_int64 u.timestamp)).map
    fun x => TransportUpdate.mk x.1 x.2

/-! ## Packets -/

/-- A packet is read back from its encoding. -/
theorem Packet.reads_encode (p : Packet) : Reads Packet.reader p.encode p := by
  cases p with
  | ack batches =>
    apply reads_variant (by decide) (if_pos rfl)
    exact (reads_readOne "batches" (by decide) (reads_idents batches)).map Packet.ack
  | batch x =>
    refine reads_variant (by decide) ?_ ((reads_batch x).map Packet.batch)
    rw [contentReader, if_neg (by decide), if_pos rfl]
  | offer ids =>
    refine reads_variant (by decide) ?_
      ((reads_readOne "ids" (by decide) (reads_idents ids)).map Packet.offer)
    rw [contentReader, if_neg (by decide), if_neg (by decide), if_pos rfl]
  | request r =>
    refine reads_variant (by decide) ?_ ((reads_request r).map Packet.request)
    rw [contentReader, if_neg (by decide), if_neg (by decide), if_neg (by decide), if_pos rfl]
  | subscriptions u =>
    refine reads_variant (by decide) ?_ ((reads_subscriptionUpdate u).map Packet.subscriptions)
    rw [contentReader, if_neg (by decide), if_neg (by decide), if_neg (by decide),
      if_neg (by decide), if_pos rfl]
  | transports u =>
    refine reads_variant (by decide) ?_ ((reads_transportUpdate u).map Packet.transports)
    rw [contentReader, if_neg (by decide), if_neg (by decide), if_neg (by decide),
      if_neg (by decide), if_neg (by decide), if_pos rfl]

/-- What is decoded from the encoding of a packet is that packet. -/
theorem Packet.eq_of_decode {p p' : Packet} (h : Packet.decode p.encode = .ok p') : p' = p := by
  unfold decode at h
  split at h
  · cases h
  · next hlen =>
    have hlongest : Packet.longest < 2 ^ 64 := by decide
    have hread := p.reads_encode (by omega) []
    rw [List.append_nil] at hread
    rw [hread] at h
    dsimp only at h
    -- nothing is left over, and a packet that is too large is refused
    split at h
    · cases h
    · exact (Except.ok.inj h).symm

end MessageSync
