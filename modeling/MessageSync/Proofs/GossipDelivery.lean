import MessageSync.Proofs.Gossip
import MessageSync.Proofs.WrittenBatches

/-!
# Gossip that can be read

What a node tells of itself is bounded where it is read, not where it is written: a packet may
have so many bytes, and list so many groups or properties, while the groups that a node joins
and the properties that it is given are not counted. The bytes of an update are therefore
decoded to that update if it is within these bounds, and are refused for what it goes beyond
if it is not (`Backend.decode_told`).
-/

namespace MessageSync

/-- What comes of decoding an encoding: too long a packet is refused for its size, then one
that lists too much for that, and any other packet is read back. -/
theorem Packet.decode_encode_eq (p : Packet) : decode p.encode =
    if longest < p.encode.length then .error (.packetTooLong p.encode.length)
    else match p.excess? with
      | some excess => .error (.excess excess)
      | none => .ok p := by
  by_cases hlen : longest < p.encode.length
  · rw [decode, if_pos hlen, if_pos hlen]
  · have hread := p.reads_encode (lt_of_le_longest (Nat.le_of_not_lt hlen)) []
    rw [List.append_nil] at hread
    rw [decode, if_neg hlen, if_neg hlen]
    cases hexcess : p.excess? with
    | none => simp only [hread, hexcess]
    | some excess => simp only [hread, hexcess]

/-! ## Updates and their bounds -/

namespace Topic

/-- What is answered when a contact is told about a topic. -/
abbrev Update : Topic → Type
  | subscriptions => SubscriptionUpdate
  | transports => TransportUpdate

/-- The update with a version. -/
def update : (topic : Topic) → topic.Version → topic.Update
  | subscriptions, v => ⟨v.1, v.2⟩
  | transports, v => ⟨v.1, v.2⟩

/-- The operation that tells a contact what is so of a node. -/
def tell (c : ContactId) : (topic : Topic) → Operation topic.Update
  | subscriptions => .generateSubscriptions c
  | transports => .generateTransports c

/-- How many things are listed. -/
def count : (topic : Topic) → topic.Content → Nat
  | subscriptions, groups => groups.length
  | transports, properties => properties.size

/-- How many things an update may list. -/
def most : Topic → Nat
  | subscriptions => Packet.mostGroups
  | transports => Packet.mostProperties

/-- The limit that an update goes beyond that lists more. -/
def excess : Topic → Packet.Excess
  | subscriptions => .groups
  | transports => .properties

/-- Why a node does not take in an update that lists more. -/
def refusal : Topic → Nat → Violation
  | subscriptions, n => .tooManyGroups n
  | transports, n => .tooManyProperties n

variable {topic : Topic}

lemma excess?_packet (v : topic.Version) : (topic.packet v).excess? =
    if topic.most < topic.count v.1 then some topic.excess else none := by
  cases topic with
  | subscriptions => rfl
  | transports => rfl

lemma decode_packet (v : topic.Version) : Packet.decode (topic.packet v).encode =
    if Packet.longest < (topic.packet v).encode.length then
      .error (.packetTooLong (topic.packet v).encode.length)
    else if topic.most < topic.count v.1 then .error (.excess topic.excess)
    else .ok (topic.packet v) := by
  rw [Packet.decode_encode_eq, excess?_packet]
  by_cases hcount : topic.most < topic.count v.1
  · rw [if_pos hcount, if_pos hcount]
  · rw [if_neg hcount, if_neg hcount]

/-- An update that lists too much is not taken in. -/
lemma receive_of_excess {σ : Type} [Store σ] {v : topic.Version}
    (h : topic.most < topic.count v.1) (c : ContactId) (e : Engine σ) (sink : Sink) :
    ((topic.receive c v).act.runOn e sink).1 =
      .error (.violation (topic.refusal (topic.count v.1))) := by
  cases topic with
  | subscriptions =>
    have hmany : Packet.mostGroups < v.1.length := h
    simp only [receive, Operation.act, Act.runOn, Engine.receiveSubscriptions, if_pos hmany]
    rfl
  | transports =>
    have hmany : Packet.mostProperties < v.1.size := h
    simp only [receive, Operation.act, Act.runOn, Engine.receiveTransports, if_pos hmany]
    rfl

end Topic

/-! ## What is answered and written -/

/-- The answer to writing a packet is the one that was to be given. -/
lemma Sink.ok_of_send {σ α : Type} {sink : Sink} {packet : Packet} {a a' : α} {e : Engine σ}
    {r : Except SyncError α × Turn σ}
    (hr : r = match sink.send packet with
      | (.ok (), sink) => (.ok a, ⟨e, [], sink⟩)
      | (.error x, sink) => (.error (.sink x), ⟨e, [], sink⟩))
    (h : r.1 = .ok a') : a' = a := by
  subst hr
  rcases hsend : sink.send packet with ⟨_ | _, sink'⟩
  · rw [hsend] at h
    cases h
  · rw [hsend] at h
    exact (Except.ok.inj h).symm

lemma Engine.ok_generateTransports {σ : Type} [Store σ] {c : ContactId} {known : σ → Bool}
    {transports : σ → Except StoreError (Properties × Int64)} {e : Engine σ} {sink : Sink}
    {u : TransportUpdate} (hknown : ∀ s, Store.containsContact c s = (.ok (known s), s))
    (htransports : ∀ s, Store.localTransports s = (transports s, s))
    (h : ((generateTransports c).runOn e sink).1 = .ok u) :
    transports e.store = .ok (u.properties, u.timestamp) := by
  have hrun := generateTransports_runOn hknown htransports e sink
  cases hk : known e.store with
  | false =>
    rw [hk, if_neg Bool.false_ne_true] at hrun
    rw [hrun] at h
    cases h
  | true =>
    rw [hk, if_pos rfl] at hrun
    cases htold : transports e.store with
    | error x =>
      rw [htold] at hrun
      rw [hrun] at h
      cases h
    | ok told =>
      rw [htold] at hrun
      rw [Sink.ok_of_send hrun h]

namespace Backend.Twin

variable {backend : Backend} {e : Engine backend.Data} {t : Engine Memory} {c : ContactId}
  {sink : Sink} {topic : Topic} {v : topic.Version}

lemma current_of_ok (h : backend.Twin e t)
    (hanswer : ((topic.tell c).act.runOn e sink).1 = .ok (topic.update v)) :
    topic.Current backend t.store v := by
  cases topic with
  | subscriptions =>
    have hrun : (Operation.generateSubscriptions c).act.runOn t sink = _ :=
      Engine.generateSubscriptions_apply ⟨t, [], sink⟩ c
    replace hanswer := (h.plain (.generateSubscriptions c) rfl sink).1.symm.trans hanswer
    dsimp only at hrun
    split at hrun
    · have hupdate := Sink.ok_of_send hrun hanswer
      exact ⟨congrArg Except.ok (congrArg SubscriptionUpdate.groups hupdate).symm,
        congrArg SubscriptionUpdate.timestamp hupdate⟩
    · rw [hrun] at hanswer
      cases hanswer
  | transports =>
    have htold : e.view Store.localTransports = .ok v := by
      cases backend with
      | memory => exact Engine.ok_generateTransports (fun _ => rfl) (fun _ => rfl) hanswer
      | relational => exact Engine.ok_generateTransports (fun _ => rfl) (fun _ => rfl) hanswer
    rw [h.localTransports] at htold
    cases hload : Topic.transports.load backend t.store.transports with
    | error x =>
      rw [hload] at htold
      cases htold
    | ok p =>
      rw [hload] at htold
      obtain rfl := Except.ok.inj htold
      exact ⟨hload, rfl⟩

/-- What is answered to telling a contact is what is so, and what is written is its packet. -/
lemma taken_of_ok (h : backend.Twin e t)
    (hanswer : ((topic.tell c).act.runOn e sink).1 = .ok (topic.update v)) :
    topic.Current backend t.store v ∧
      ((topic.tell c).act.runOn e sink).2.sink.taken.drop sink.taken.length =
        (topic.packet v).encode := by
  have hcurrent := h.current_of_ok hanswer
  refine ⟨hcurrent, ?_⟩
  have htold : ((topic.tell c).act.runOn e sink).2.sink.taken.drop sink.taken.length ∈
      (Step.perform (topic.tell c) sink).told e c topic := by
    have htells : (topic.tell c).tells c topic = true := by
      cases topic <;> exact decide_eq_true rfl
    have hall : Operation.wroteAll ((topic.tell c).act.runOn e sink).1 = true := by
      rw [hanswer, Operation.wroteAll]
    rw [Step.told, if_pos ⟨htells, hall⟩]
    exact List.mem_singleton.mpr rfl
  obtain ⟨w, hw, hbytes⟩ := h.of_mem_told htold
  rw [hbytes, hcurrent.eq hw]

end Backend.Twin

/-! ## What a history gives a node to tell -/

/-- The groups that a step joins, whether or not they are new. -/
def Step.joins : Step → List Group
  | .perform (.subscribe g) _ => [g]
  | _ => []

/-- The transport properties that a step sets. -/
def Step.sets : Step → List Properties
  | .perform (.setLocalTransports properties) _ => [properties]
  | _ => []

namespace Topic

/-- The contents that bound what a node tells after a history: all groups that it ever joined,
or the properties of any one time. -/
def given : (topic : Topic) → List Step → List topic.Content
  | subscriptions, history => [history.flatMap Step.joins]
  | transports, history => history.flatMap Step.sets

/-- The number of bytes that what is listed takes in a packet. -/
def weight : (topic : Topic) → topic.Content → Nat
  | subscriptions, groups => (groups.map fun g => g.encode.length).sum
  | transports, properties => (encodeProperties properties).length

/-- The most bytes of an update that are not of what it lists: the names of the form and of
the fields, the number of groups and the timestamp. -/
def frame : Nat := 51

/-- Whether an update that lists this can be read. -/
def Fits (topic : Topic) (content : topic.Content) : Prop :=
  topic.count content ≤ topic.most ∧ frame + topic.weight content ≤ Packet.longest

variable {topic : Topic}

lemma length_packet_le (v : topic.Version) :
    (topic.packet v).encode.length ≤ frame + topic.weight v.1 := by
  have hhead (n : Nat) : Cbor.headSize n ≤ 9 := by
    unfold Cbor.headSize
    split_ifs <;> omega
  have htime : (Cbor.Write.integer v.2.toInt).length ≤ 9 := by
    unfold Cbor.Write.integer
    split_ifs <;> exact (Cbor.length_head _ _).trans_le (hhead _)
  have hone : Cbor.headSize 1 = 1 := rfl
  have htwo : Cbor.headSize 2 = 1 := rfl
  have hstamp : (Cbor.Write.text "timestamp").length = 10 := by decide
  cases topic with
  | subscriptions =>
    have hform : (Cbor.Write.text "Subscriptions").length = 14 := by decide
    have hfield : (Cbor.Write.text "groups").length = 7 := by decide
    have hgroups : (Cbor.Write.array Group.encode v.1).length ≤
        9 + (v.1.map fun g => g.encode.length).sum := by
      rw [Cbor.length_array_eq]
      exact Nat.add_le_add_right (hhead _) _
    simp only [packet, Packet.encode, SubscriptionUpdate.encode, Cbor.Write.variant,
      Cbor.Write.record, List.length_append, Cbor.length_head, List.flatMap_cons,
      List.flatMap_nil, List.length_cons, List.length_nil, hform, hfield, hstamp, frame, weight,
      Nat.zero_add, Nat.reduceAdd, hone, htwo]
    omega
  | transports =>
    have hform : (Cbor.Write.text "Transports").length = 11 := by decide
    have hfield : (Cbor.Write.text "properties").length = 11 := by decide
    simp only [packet, Packet.encode, TransportUpdate.encode, Cbor.Write.variant,
      Cbor.Write.record, List.length_append, Cbor.length_head, List.flatMap_cons,
      List.flatMap_nil, List.length_cons, List.length_nil, hform, hfield, hstamp, frame, weight,
      Nat.zero_add, Nat.reduceAdd, hone, htwo]
    omega

/-- What lists little enough is read back. -/
lemma Fits.decode {v : topic.Version} (h : topic.Fits v.1) :
    Packet.decode (topic.packet v).encode = .ok (topic.packet v) := by
  have hlen := length_packet_le v
  rw [decode_packet, if_neg (by have := h.2; omega), if_neg (Nat.not_lt.mpr h.1)]

/-- What lists little enough is stored and read back. -/
lemma Fits.load {content : topic.Content} (h : topic.Fits content) (backend : Backend) :
    topic.load backend content = .ok content :=
  load_of_decode (v := (content, 0)) h.decode

/-! ### Groups that were joined -/

lemma mem_ofTable {names : Table GroupId String} {g : Group} :
    g ∈ Group.ofTable names ↔ names[g.id]? = some g.name := by
  unfold Group.ofTable
  rw [List.mem_map]
  constructor
  · rintro ⟨entry, hentry, rfl⟩
    exact (Table.mem_toList_iff _ _).mp hentry
  · intro h
    exact ⟨(g.id, g.name), (Table.mem_toList_iff _ _).mpr h, rfl⟩

lemma nodup_ofTable (names : Table GroupId String) : (Group.ofTable names).Nodup := by
  refine List.pairwise_map.mpr ((Table.ordered_toList names).imp fun {a b} hlt heq => ?_)
  rw [show a.1 = b.1 from congrArg Group.id heq, Std.ReflOrd.compare_self] at hlt
  cases hlt

/-- A node is subscribed to what it was before, and to what it joined. -/
lemma mem_ofTable_step {e : Engine Memory} {step : Step} {g : Group}
    (h : g ∈ Group.ofTable (e.step step).store.subscriptions) :
    g ∈ Group.ofTable e.store.subscriptions ∨ g ∈ step.joins := by
  cases step with
  | setClock _ | setGate _ => exact .inl h
  | perform operation sink =>
    by_cases hpart : Topic.subscriptions.part ∈ operation.parts
    · rw [mem_ofTable] at h ⊢
      rw [Engine.store_step] at h
      cases operation with
      | subscribe joined =>
        change (e.store.addSubscription joined e.now).2.subscriptions[g.id]? = _ at h
        rw [Memory.addSubscription] at h
        split at h
        · exact .inl h
        · rw [Table.getElem?_insert] at h
          split at h
          · next hid =>
            refine .inr (List.mem_singleton.mpr ?_)
            exact Group.ext hid.symm (Option.some.inj h).symm
          · exact .inl h
      | unsubscribe left =>
        change (e.store.removeSubscription left e.now).2.subscriptions[g.id]? = _ at h
        by_cases hleft : left ∈ e.store.subscriptions
        · obtain ⟨_, _, hafter⟩ := Memory.exists_removeSubscription hleft e.now
          rw [hafter, Table.getElem?_erase] at h
          split at h
          · cases h
          · exact .inl h
        · rw [Memory.removeSubscription_of_not_mem hleft] at h
          exact .inl h
      | _ => simp [Operation.parts, part] at hpart
    · have hwithout := congrArg subscriptions.own (operation.without_runOn e sink)
      rw [own_without hpart, own_without hpart] at hwithout
      rw [← show (subscriptions.own (e.step (.perform operation sink)).store).1 =
        Group.ofTable e.store.subscriptions from congrArg Prod.fst hwithout]
      exact .inl h

lemma mem_ofTable_run {e : Engine Memory} {history : List Step} {g : Group}
    (h : g ∈ Group.ofTable (e.run history).store.subscriptions) :
    g ∈ Group.ofTable e.store.subscriptions ∨ g ∈ history.flatMap Step.joins := by
  induction history generalizing e with
  | nil => exact .inl h
  | cons step rest ih =>
    rw [List.flatMap_cons, List.mem_append]
    rcases ih h with hbefore | hrest
    · exact (mem_ofTable_step hbefore).imp_right .inl
    · exact .inr (.inr hrest)

/-! ### Properties that were set -/

/-- The properties of a node are those that it had, or those that it was given. -/
lemma transports_step (e : Engine Memory) (step : Step) :
    (e.step step).store.transports = e.store.transports ∨
      (e.step step).store.transports ∈ step.sets := by
  cases step with
  | setClock _ | setGate _ => exact .inl rfl
  | perform operation sink =>
    by_cases hpart : Topic.transports.part ∈ operation.parts
    · cases operation with
      | setLocalTransports properties => exact .inr (List.mem_singleton.mpr rfl)
      | _ => simp [Operation.parts, part] at hpart
    · have hwithout := congrArg transports.own (operation.without_runOn e sink)
      rw [own_without hpart, own_without hpart] at hwithout
      exact .inl (congrArg Prod.fst hwithout)

lemma transports_run (e : Engine Memory) (history : List Step) :
    (e.run history).store.transports = e.store.transports ∨
      (e.run history).store.transports ∈ history.flatMap Step.sets := by
  induction history generalizing e with
  | nil => exact .inl rfl
  | cons step rest ih =>
    rw [List.flatMap_cons, List.mem_append]
    rcases ih (e.step step) with hsame | hset
    · rw [Engine.run_cons, hsame]
      exact (transports_step e step).imp_right .inl
    · exact .inr (.inr hset)

/-- What a node tells after a history can be read if all that bounds it can be. -/
theorem fits_run (config : SyncConfig) (now : Int64) {history : List Step}
    (h : ∀ content ∈ topic.given history, topic.Fits content) :
    topic.Fits (topic.own ((Engine.start Memory.empty config now).run history).store).1 := by
  cases topic with
  | subscriptions =>
    obtain ⟨hcount, hweight⟩ := h _ (List.mem_singleton.mpr rfl)
    -- the groups are some of those that were joined, each of them once
    let names := ((Engine.start Memory.empty config now).run history).store.subscriptions
    have hsub : (Group.ofTable names).Subperm (history.flatMap Step.joins) := by
      refine (nodup_ofTable names).subperm fun g hg => (mem_ofTable_run hg).resolve_left ?_
      intro hempty
      rw [mem_ofTable] at hempty
      simp [Engine.start, Memory.empty] at hempty
    obtain ⟨some, hperm, hsome⟩ := hsub
    refine ⟨(hperm.length_eq ▸ hsome.length_le).trans hcount, le_trans ?_ hweight⟩
    refine Nat.add_le_add_left ?_ frame
    show ((Group.ofTable names).map fun g => g.encode.length).sum ≤ List.sum _
    rw [← (hperm.map fun g => g.encode.length).sum_eq]
    exact (hsome.map fun g => g.encode.length).sum_le_sum fun _ _ => Nat.zero_le _
  | transports =>
    rcases transports_run (Engine.start Memory.empty config now) history with hnone | hset
    · have hempty : transports.Fits ∅ := ⟨by decide +kernel, by decide +kernel⟩
      rw [show (transports.own _).1 = _ from hnone]
      exact hempty
    · exact h _ hset

end Topic

/-! ## Delivery -/

namespace Backend

variable {backend backend' : Backend} {config : SyncConfig} {now : Int64} {history : List Step}
  {listener : Engine backend'.Data} {there here : ContactId} {sink : Sink} {topic : Topic}
  {v : topic.Version}

/-- What is within the bounds of an update is taken in by a node that has the contact. -/
lemma Reaches.answer_receive (h : backend'.Reaches listener)
    (hcontact : listener.view (Store.containsContact here) = .ok true)
    (hcount : topic.count v.1 ≤ topic.most) (sink : Sink) :
    ∃ applied, ((topic.receive here v).act.runOn listener sink).1 = .ok applied := by
  obtain ⟨t, htwin⟩ := Twin.of_reaches h
  obtain ⟨r, hr⟩ := (Table.mem_iff_exists _ _).mp (htwin.mem_contacts hcontact)
  have hplain : (topic.receive here v).plain := by cases topic <;> rfl
  rw [(htwin.plain _ hplain sink).1]
  refine Topic.answer_receive hr ?_ sink
  rw [Topic.excess?_packet, if_neg (Nat.not_lt.mpr hcount)]

/-- A node that tells a contact about a topic writes the packet of the update that it answers,
with what it answers of itself. The packet is read back exactly if it is not too long and does
not list too much, and is refused for this otherwise. An update that does not list too much is
taken in by any node that has the teller as a contact, and one that does is not. No more than
was joined, or given at one time, is told: if all of that would fit, the packet is read back. -/
theorem decode_told
    (hanswer : ((topic.tell there).act.runOn ((backend.start config now).run history) sink).1 =
      .ok (topic.update v))
    (hlistener : backend'.Reaches listener)
    (hcontact : listener.view (Store.containsContact here) = .ok true) (sink' : Sink) :
    let e := (backend.start config now).run history
    let code := ((topic.tell there).act.runOn e sink).2.sink.taken.drop sink.taken.length
    e.answer topic.ask = .ok v.1 ∧ code = (topic.packet v).encode ∧
      (Packet.decode code =
        if Packet.longest < code.length then .error (.packetTooLong code.length)
        else if topic.most < topic.count v.1 then .error (.excess topic.excess)
        else .ok (topic.packet v)) ∧
      (topic.count v.1 ≤ topic.most →
        ∃ applied, ((topic.receive here v).act.runOn listener sink').1 = .ok applied) ∧
      (topic.most < topic.count v.1 → ((topic.receive here v).act.runOn listener sink').1 =
        .error (.violation (topic.refusal (topic.count v.1)))) ∧
      ((∀ content ∈ topic.given history, topic.Fits content) →
        Packet.decode code = .ok (topic.packet v)) := by
  intro e code
  have htwin := (Twin.start backend config now).run history
  obtain ⟨hcurrent, hcode⟩ := htwin.taken_of_ok hanswer
  replace hcode : code = (topic.packet v).encode := hcode
  refine ⟨htwin.answer_ask hcurrent, hcode, ?_, fun hcount => ?_, fun hmany => ?_, fun hgiven => ?_⟩
  · rw [hcode]
    exact Topic.decode_packet v
  · exact hlistener.answer_receive hcontact hcount sink'
  · exact Topic.receive_of_excess hmany here listener sink'
  · -- what is told is what is so, and that fits
    have hfits := Topic.fits_run config now hgiven
    have hload : topic.load backend (topic.own _).1 = .ok v.1 := hcurrent.1
    rw [hfits.load backend] at hload
    rw [hcode]
    rw [Except.ok.inj hload] at hfits
    exact hfits.decode

open Gossip.Sample in
/-- A group that was joined is told, and read back by a contact. -/
theorem decode_told_group :
    let e := (Backend.memory.start {} 1).run [meet, join 1]
    ((Topic.subscriptions.tell contact).act.runOn e {}).1 =
        .ok (Topic.subscriptions.update one) ∧
      Packet.decode ((Topic.subscriptions.tell contact).act.runOn e {}).2.sink.taken =
        .ok (.subscriptions ⟨[group 1], 1⟩) := by
  have hanswer : ((Topic.subscriptions.tell contact).act.runOn
      ((Backend.memory.start {} 1).run [meet, join 1]) {}).1 =
        .ok (Topic.subscriptions.update one) := by
    decide +kernel
  have hlistener : Backend.relational.Reaches ((Backend.relational.start {} 1).run [meet]) :=
    ⟨{}, 1, [meet], rfl⟩
  have hcontact : ((Backend.relational.start {} 1).run [meet]).view
      (Store.containsContact contact) = .ok true := by
    decide +kernel
  obtain ⟨-, -, -, -, -, hdecode⟩ := decode_told hanswer hlistener hcontact {}
  refine ⟨hanswer, hdecode fun content hcontent => ?_⟩
  obtain rfl := List.mem_singleton.mp hcontent
  exact ⟨by decide +kernel, by decide +kernel⟩

end Backend

namespace Gossip.Sample

/-- One property more than an update may list. -/
def tooMany : Properties :=
  Table.insertAll ∅ ((List.range (Packet.mostProperties + 1)).map fun n => (toString n, ""))

end Gossip.Sample

open Gossip.Sample in
/-- What a node answers that it tells a contact need not be read back. -/
theorem Backend.not_decode_told :
    ¬ ∀ (backend : Backend) (e : Engine backend.Data) (there : ContactId) (topic : Topic)
      (v : topic.Version), backend.Reaches e → e.view (Store.containsContact there) = .ok true →
        ((topic.tell there).act.runOn e {}).1 = .ok (topic.update v) →
          Packet.decode ((topic.tell there).act.runOn e {}).2.sink.taken =
            .ok (topic.packet v) := by
  intro h
  let e := (Backend.memory.start {} 1).run [meet, .perform (.setLocalTransports tooMany) {}]
  let v : Topic.transports.Version := (tooMany, 1)
  have hanswer : ((Topic.transports.tell contact).act.runOn e {}).1 =
      .ok (Topic.transports.update v) := rfl
  have hdecode := h .memory e contact .transports v ⟨{}, 1, _, rfl⟩ rfl hanswer
  have hmany : Topic.transports.most < Topic.transports.count v.1 := by decide +kernel
  have htwin := (Twin.start .memory {} 1).run [meet, .perform (.setLocalTransports tooMany) {}]
  have hcode : ((Topic.transports.tell contact).act.runOn e {}).2.sink.taken =
      (Topic.transports.packet v).encode := (htwin.taken_of_ok hanswer).2
  rw [hcode, Topic.decode_packet] at hdecode
  split_ifs at hdecode

end MessageSync
