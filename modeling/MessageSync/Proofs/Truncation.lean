import MessageSync.Proofs.Cbor.Local
import MessageSync.Proofs.Packet
import MessageSync.Writer

/-!
# Packets that are cut short

The reader of packets is local (`Packet.local_reader`), and a packet is read back from its
encoding. Nothing is read from a part of an encoding that is cut short
(`Packet.decode_take`), such as a sink leaves that closes on the way (`Packet.decode_encode`).
-/

namespace MessageSync

open Cbor Cbor.Read

/-! ## Packets are read locally -/

section

variable {α β : Type} {value : Reader α} {value' : Reader β}

lemma local_readOne (field : String) (h : Local value) : Local (readOne field value) := by
  have hfield (name : Bytes) (found : Option α) (reader : Reader (Option α))
      (heq : (if name = utf8 field then some (once found value some) else none) = some reader) :
      Local reader := by
    split_ifs at heq
    cases heq
    exact h.once found some
  refine (local_record Packet.fieldLevels hfield none).bind fun found => ?_
  cases found with
  | some a => exact local_pure a
  | none => exact local_failure

lemma local_readTwo (levels : Nat) (first second : String) (h : Local value) (h' : Local value') :
    Local (readTwo levels first second value value') := by
  have hfield (name : Bytes) (found : Option α × Option β)
      (reader : Reader (Option α × Option β))
      (heq : (if name = utf8 first then some (once found.1 value fun a => (some a, found.2))
        else if name = utf8 second then some (once found.2 value' fun b => (found.1, some b))
        else none) = some reader) : Local reader := by
    split_ifs at heq
    · cases heq
      exact h.once _ _
    · cases heq
      exact h'.once _ _
  refine (local_record levels hfield (none, none)).bind fun found => ?_
  rcases found with ⟨_ | a, _ | b⟩
  · exact local_failure
  · exact local_failure
  · exact local_failure
  · exact local_pure (a, b)

end

lemma opens_readTwo {α β : Type} (levels : Nat) (first second : String) (value : Reader α)
    (value' : Reader β) : Opens (readTwo levels first second value value') :=
  (opens_record levels _ _).bind _

lemma local_idents {kind : IdKind} : Local (sequenceOf ident : Reader (List (Id kind))) :=
  local_sequence _ local_ident opens_ident

lemma local_batch : Local Batch.reader := by
  have hnonce : Local Nonce.reader := (local_fixedBytes Nonce.size).check Nonce.ofBytes?
  have hmessages : Local (sequenceOf bytes) := local_sequence _ local_bytes opens_bytes
  exact (local_readTwo _ _ _ hnonce hmessages).bind fun _ => local_pure _

lemma local_request : Local Request.reader :=
  (local_readTwo _ _ _ local_word32 local_bytes).bind fun _ => local_pure _

lemma local_subscriptionUpdate : Local SubscriptionUpdate.reader := by
  have hgroup : Local Group.reader :=
    (local_readTwo _ _ _ local_ident local_string).bind fun _ => local_pure _
  have hopens : Opens Group.reader := (opens_readTwo _ _ _ _ _).bind _
  have hgroups : Local (sequenceOf Group.reader) := local_sequence _ hgroup hopens
  exact (local_readTwo _ _ _ hgroups local_int64).bind fun _ => local_pure _

lemma local_transportUpdate : Local TransportUpdate.reader :=
  (local_readTwo _ _ _ local_textMap local_int64).bind fun _ => local_pure _

/-- A packet is read in the same way whatever follows it. -/
theorem Packet.local_reader : Local Packet.reader := by
  refine local_variant fun kind content hcontent => ?_
  unfold contentReader at hcontent
  split_ifs at hcontent
  all_goals cases hcontent
  · exact (local_readOne _ local_idents).bind fun _ => local_pure _
  · exact local_batch.bind fun _ => local_pure _
  · exact (local_readOne _ local_idents).bind fun _ => local_pure _
  · exact local_request.bind fun _ => local_pure _
  · exact local_subscriptionUpdate.bind fun _ => local_pure _
  · exact local_transportUpdate.bind fun _ => local_pure _

/-! ## Decoding encodings and parts of them -/

namespace Packet

variable {p : Packet}

lemma lt_of_le_longest {n : Nat} (h : n ≤ longest) : n < 2 ^ 64 :=
  Nat.lt_of_le_of_lt h (by decide)

/-- A packet within its limits is decoded from its encoding, whatever follows it. -/
theorem decode_append (hlimits : p.excess? = none) {suffix : Bytes}
    (hlen : (p.encode ++ suffix).length ≤ longest) : decode (p.encode ++ suffix) = .ok p := by
  have hcode : p.encode.length < 2 ^ 64 := by
    rw [List.length_append] at hlen
    exact lt_of_le_longest (by omega)
  have hread := p.reads_encode hcode suffix
  rw [decode, if_neg (by omega), hread]
  dsimp only
  rw [hlimits]

/-- No packet is decoded from a part of an encoding that is cut short. -/
theorem decode_take (hlen : p.encode.length ≤ longest) {k : Nat} (hk : k < p.encode.length) :
    decode (p.encode.take k) = .error .malformedPacket := by
  have hcut := p.reads_encode.cut local_reader (lt_of_le_longest hlen) hk
  have hshort : ¬ longest < (p.encode.take k).length := by
    rw [List.length_take]
    omega
  rw [decode, if_neg hshort, hcut]

/-- Packets of one encoding are one packet. -/
theorem encode_inj {q : Packet} (hlen : p.encode.length ≤ longest) (h : q.encode = p.encode) :
    q = p := by
  have hread := p.reads_encode (lt_of_le_longest hlen) []
  have hread' := q.reads_encode (by rw [h]; exact lt_of_le_longest hlen) []
  rw [h, hread] at hread'
  exact (congrArg Prod.fst (Option.some.inj hread')).symm

end Packet

/-- A sink that closes while a packet is written took a part of it that is cut short. -/
lemma Sink.taken_send_of_closed {sink : Sink} {packet : Packet}
    (h : (sink.send packet).1 = .error .closed) : ∃ k < packet.encode.length,
      (sink.send packet).2.taken.drop sink.taken.length = packet.encode.take k := by
  unfold send write at h ⊢
  cases hlimit : sink.limit with
  | none =>
    simp only [hlimit] at h
    split_ifs at h
    cases h
  | some limit =>
    simp only [hlimit] at h ⊢
    by_cases hroom : packet.encode.length ≤ limit - sink.taken.length
    · rw [if_pos hroom] at h
      dsimp only at h
      split_ifs at h
      cases h
    · rw [if_neg hroom]
      exact ⟨limit - sink.taken.length, by omega, List.drop_left⟩

/-- A packet that is within its limits, and not too long, is decoded from its encoding,
whatever follows it, and from no part of it that is cut short. No other packet has its
encoding, and what a sink that closes on the way took of it is no packet. -/
theorem Packet.decode_encode (p : Packet) (hlimits : p.excess? = none)
    (hlen : p.encode.length ≤ longest) :
    (∀ suffix, (p.encode ++ suffix).length ≤ longest → decode (p.encode ++ suffix) = .ok p) ∧
    (∀ part, part <+: p.encode → part ≠ p.encode → decode part = .error .malformedPacket) ∧
    (∀ q : Packet, q.encode = p.encode → q = p) ∧
    ∀ sink : Sink, (sink.send p).1 = .error .closed →
      decode ((sink.send p).2.taken.drop sink.taken.length) = .error .malformedPacket := by
  refine ⟨fun suffix h => decode_append hlimits h, fun part hpart hne => ?_,
    fun q h => encode_inj hlen h, fun sink h => ?_⟩
  · have htake := List.prefix_iff_eq_take.mp hpart
    have hshort : part.length < p.encode.length := by
      refine Nat.lt_of_le_of_ne hpart.length_le fun heq => hne ?_
      exact hpart.eq_of_length heq
    rw [htake]
    exact decode_take hlen hshort
  · obtain ⟨k, hk, htaken⟩ := Sink.taken_send_of_closed h
    rw [htaken]
    exact decode_take hlen hk

/-- A request for two of three messages, in full, without its last byte, and as a sink has
it that closes after five bytes. -/
theorem Packet.decode_encode_request :
    let p := Packet.request ⟨3, [0xa0]⟩
    decode (p.encode ++ [0]) = .ok p ∧ decode p.encode.dropLast = .error .malformedPacket ∧
      decode (({ limit := some 5 } : Sink).send p).2.taken = .error .malformedPacket := by
  intro p
  obtain ⟨happend, hpart, -, hsink⟩ :=
    Packet.decode_encode p (by decide +kernel) (by decide +kernel)
  refine ⟨happend [0] (by decide +kernel), hpart _ (List.dropLast_prefix _) (by decide +kernel), ?_⟩
  exact hsink { limit := some 5 } (by decide +kernel)

end MessageSync
