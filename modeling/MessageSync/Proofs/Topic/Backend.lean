import MessageSync.Proofs.Engine.Writing
import MessageSync.Proofs.Store.Reflect
import MessageSync.Proofs.Topic.Basic

/-!
# What is told and answered by either back end

Both back ends tell, and answer, what can be read back of what their twins in memory have:
all but the transport properties is there as it is, and those are read out of a column of bytes.
-/

namespace MessageSync

/-! ## What is so now -/

/-- Properties that are told in a packet that can be decoded are not too long for a column. -/
lemma Properties.fits_of_decode {u : TransportUpdate} {packet : Packet}
    (h : Packet.decode (Packet.transports u).encode = .ok packet) : u.properties.Fits := by
  unfold Packet.decode at h
  split at h
  · cases h
  · next hlen =>
    have hlongest : Packet.longest < UInt64.size := by decide
    have hle : (encodeProperties u.properties).length ≤ (Packet.transports u).encode.length := by
      simp only [Packet.encode, TransportUpdate.encode, Cbor.Write.variant, Cbor.Write.record,
        List.length_append, List.flatMap_cons]
      omega
    show _ < _
    omega

namespace Topic

/-- What can be read back of a content that was stored. -/
def load (backend : Backend) : (topic : Topic) → topic.Content → Except StoreError topic.Content
  | subscriptions, groups => .ok groups
  | transports, properties =>
    match backend with
    | .memory => .ok properties
    | .relational => Properties.ofColumn (encodeProperties properties)

/-- Whether a version is what can be read back of what is so of a node. -/
def Current (backend : Backend) (topic : Topic) (s : Memory) (v : topic.Version) : Prop :=
  topic.load backend (topic.own s).1 = .ok v.1 ∧ v.2 = (topic.own s).2

variable {backend : Backend} {topic : Topic} {s : Memory} {v w : topic.Version}

lemma Current.settled (h : topic.Current backend s v) : topic.settled v = v := by
  cases topic with
  | subscriptions =>
    have hown : v = subscriptions.own s := Prod.ext (Except.ok.inj h.1).symm h.2
    rw [hown, settled_own]
  | transports => rfl

lemma Current.eq (h : topic.Current backend s v) (h' : topic.Current backend s w) : w = v :=
  Prod.ext (Except.ok.inj (h'.1.symm.trans h.1)) (h'.2.trans h.2.symm)

/-- What is told in a packet that can be decoded can be stored and read back. -/
lemma load_of_decode {packet : Packet} (h : Packet.decode (topic.packet v).encode = .ok packet) :
    topic.load backend v.1 = .ok v.1 := by
  cases topic with
  | subscriptions => rfl
  | transports =>
    cases backend with
    | memory => rfl
    | relational =>
      have hfits : Properties.Fits v.1 := Properties.fits_of_decode h
      exact hfits.ofColumn

end Topic

/-! ## What a teller writes -/

/-- A sink that was handed all of a packet has its encoding. -/
lemma Sink.drop_taken_of_wroteAll {σ α : Type} {sink : Sink} {packet : Packet} {a : α}
    {e : Engine σ} {r : Except SyncError α × Turn σ}
    (hr : r = match sink.send packet with
      | (.ok (), sink) => (.ok a, ⟨e, [], sink⟩)
      | (.error x, sink) => (.error (.sink x), ⟨e, [], sink⟩))
    (hall : Operation.wroteAll r.1) : r.2.sink.taken.drop sink.taken.length = packet.encode := by
  have htaken : (sink.send packet).1 ≠ .error .closed →
      (sink.send packet).2.taken.drop sink.taken.length = packet.encode := by
    intro h
    rw [Sink.taken_send sink packet h, List.drop_left]
  rcases hsend : sink.send packet with ⟨x | _, sink'⟩
  · rw [hsend] at hr htaken
    subst hr
    refine htaken fun hclosed => ?_
    rw [Except.error.inj hclosed] at hall
    cases hall
  · rw [hsend] at hr htaken
    subst hr
    exact htaken fun h => by cases h

section

variable {σ : Type} [Store σ] {c : ContactId} {known : σ → Bool}
  {transports : σ → Except StoreError (Properties × Int64)} {e : Engine σ} {sink : Sink}

lemma Engine.taken_generateTransports
    (hknown : ∀ s, Store.containsContact c s = (.ok (known s), s))
    (htransports : ∀ s, Store.localTransports s = (transports s, s))
    (hall : Operation.wroteAll ((generateTransports c).runOn e sink).1) :
    ∃ told, transports e.store = .ok told ∧
      ((generateTransports c).runOn e sink).2.sink.taken.drop sink.taken.length =
        (Packet.transports ⟨told.1, told.2⟩).encode := by
  have hrun := generateTransports_runOn hknown htransports e sink
  cases hk : known e.store with
  | false =>
    rw [hk, if_neg Bool.false_ne_true] at hrun
    rw [hrun] at hall
    cases hall
  | true =>
    rw [hk, if_pos rfl] at hrun
    cases htold : transports e.store with
    | error x =>
      rw [htold] at hrun
      rw [hrun] at hall
      cases hall
    | ok told =>
      rw [htold] at hrun
      exact ⟨told, rfl, Sink.drop_taken_of_wroteAll hrun hall⟩

end

/-- Transport properties are read back of the column of the table that mirrors them. -/
lemma Relational.Mirrors.localTransports_eq {s : Relational} {t : Memory} (h : s.Mirrors t) :
    s.localTransports =
      (Properties.ofColumn (encodeProperties t.transports)).map (·, t.transportsAt) := by
  rw [Relational.localTransports, h.transports, h.transportsAt]
  cases Properties.ofColumn (encodeProperties t.transports) <;> rfl

namespace Backend.Twin

variable {backend : Backend} {e : Engine backend.Data} {t : Engine Memory} {c : ContactId}
  {sink : Sink}

/-- The transport properties of a node are those that can be read back of what was set. -/
lemma localTransports (h : backend.Twin e t) : e.view Store.localTransports =
    (Topic.transports.load backend t.store.transports).map (·, t.store.transportsAt) := by
  cases backend with
  | memory =>
    obtain ⟨rfl, -⟩ := h
    rfl
  | relational => exact (Engine.Mirrors.store h).localTransports_eq

lemma taken_generateTransports (h : backend.Twin e t)
    (hall : Operation.wroteAll ((Engine.generateTransports c).runOn e sink).1) :
    ∃ p : Properties, Topic.transports.load backend t.store.transports = .ok p ∧
      ((Engine.generateTransports c).runOn e sink).2.sink.taken.drop sink.taken.length =
        (Packet.transports ⟨p, t.store.transportsAt⟩).encode := by
  obtain ⟨told, htold, hbytes⟩ : ∃ told, e.view Store.localTransports = .ok told ∧
      ((Engine.generateTransports c).runOn e sink).2.sink.taken.drop sink.taken.length =
        (Packet.transports ⟨told.1, told.2⟩).encode := by
    cases backend with
    | memory => exact Engine.taken_generateTransports (fun _ => rfl) (fun _ => rfl) hall
    | relational => exact Engine.taken_generateTransports (fun _ => rfl) (fun _ => rfl) hall
  rw [h.localTransports] at htold
  cases hload : Topic.transports.load backend t.store.transports with
  | error x =>
    rw [hload] at htold
    cases htold
  | ok p =>
    rw [hload] at htold
    cases htold
    exact ⟨p, rfl, hbytes⟩

lemma taken_generateSubscriptions (h : backend.Twin e t)
    (hall : Operation.wroteAll ((Operation.generateSubscriptions c).act.runOn e sink).1) :
    ((Operation.generateSubscriptions c).act.runOn e sink).2.sink.taken.drop sink.taken.length =
      (Packet.subscriptions
        ⟨Group.ofTable t.store.subscriptions, t.store.subscriptionsAt⟩).encode := by
  obtain ⟨hanswer, -, hsink⟩ := h.plain (.generateSubscriptions c) rfl sink
  have hrun : (Operation.generateSubscriptions c).act.runOn t sink = _ :=
    Engine.generateSubscriptions_apply ⟨t, [], sink⟩ c
  rw [hsink]
  rw [hanswer] at hall
  dsimp only at hrun
  split at hrun
  · exact Sink.drop_taken_of_wroteAll hrun hall
  · rw [hrun] at hall
    cases hall

/-- All that is told is what can be read back of what is so. -/
theorem of_mem_told (h : backend.Twin e t) {step : Step} {topic : Topic} {bytes : Bytes}
    (hbytes : bytes ∈ step.told e c topic) :
    ∃ v, topic.Current backend t.store v ∧ bytes = (topic.packet v).encode := by
  cases step with
  | setClock _ | setGate _ => cases hbytes
  | perform operation sink =>
    rw [Step.told] at hbytes
    split at hbytes
    · next hboth =>
      obtain ⟨htells, hall⟩ := hboth
      rw [List.mem_singleton.mp hbytes]
      cases topic with
      | subscriptions =>
        cases operation with
        | generateSubscriptions c' => exact ⟨_, ⟨rfl, rfl⟩, h.taken_generateSubscriptions hall⟩
        | _ => cases htells
      | transports =>
        cases operation with
        | generateTransports c' =>
          obtain ⟨p, hload, hbytes⟩ := h.taken_generateTransports hall
          exact ⟨(p, _), ⟨hload, rfl⟩, hbytes⟩
        | _ => cases htells
    · cases hbytes

lemma changes (h : backend.Twin e t) (step : Step) (topic : Topic) :
    step.changes e topic = step.changes t topic := by
  cases step with
  | setClock _ | setGate _ => rfl
  | perform operation sink =>
    by_cases hpart : topic.part ∈ operation.parts
    · have hplain := (Operation.of_mem_parts hpart).1
      rw [Step.changes, Step.changes, (h.plain operation hplain sink).1]
    · rw [Step.changes_of_not_mem_parts hpart, Step.changes_of_not_mem_parts hpart]

end Backend.Twin

/-- A step that changes what is told about a topic tells nothing. -/
lemma Step.told_of_changes {σ : Type} [Store σ] {e : Engine σ} {topic : Topic} {step : Step}
    (h : step.changes e topic = true) (c : ContactId) (topic' : Topic) :
    step.told e c topic' = [] := by
  cases step with
  | setClock _ | setGate _ => rfl
  | perform operation sink =>
    have hpart : topic.part ∈ operation.parts := by
      by_contra hnot
      rw [changes_of_not_mem_parts hnot] at h
      cases h
    rw [told, if_neg]
    rintro ⟨htells, -⟩
    rw [(Operation.of_mem_parts hpart).2] at htells
    cases htells

/-! ## What peers answer -/

section

variable {σ α : Type} [Store σ] {e : Engine σ}

lemma Engine.answer_localTransports {told : Properties × Int64}
    (h : e.view Store.localTransports = .ok told) :
    e.answer .localTransports = .ok told.1 := by
  obtain ⟨s, hquery⟩ : ∃ s, Store.localTransports e.store = (.ok told, s) := ⟨_, Prod.ext h rfl⟩
  show (Engine.localTransports ⟨e, [], {}⟩).1 = _
  simp only [Engine.localTransports, Act.bind_apply, Act.ask, Act.transaction, Txn.query, hquery]
  rfl

/-- What a query about a contact that exists answers. -/
lemma Act.runOn_askAbout {c : ContactId} {q : Query σ α} {a : α}
    (hc : Store.containsContact c e.store = (.ok true, e.store)) (hq : e.view q = .ok a)
    (sink : Sink) : ((askAbout c q).runOn e sink).1 = .ok a := by
  obtain ⟨s, hquery⟩ : ∃ s, q e.store = (.ok a, s) := ⟨_, Prod.ext hq rfl⟩
  simp only [askAbout, Act.runOn, transaction, Txn.bind_apply, Txn.requireContact, Txn.query, hc,
    if_true, Txn.pure_apply, hquery]

end

namespace Backend.Twin

variable {backend : Backend} {e : Engine backend.Data} {t : Engine Memory} {topic : Topic}

/-- What a node answers of itself is what can be read back of what is so. -/
lemma answer_ask (h : backend.Twin e t) {v : topic.Version}
    (hcurrent : topic.Current backend t.store v) : e.answer topic.ask = .ok v.1 := by
  cases topic with
  | subscriptions =>
    rw [← Except.ok.inj hcurrent.1]
    exact (h.plain .subscriptions rfl {}).1
  | transports =>
    have hload : Topic.transports.load backend t.store.transports = .ok v.1 := hcurrent.1
    have hview : e.view Store.localTransports = .ok v := by
      rw [h.localTransports, hload]
      exact congrArg Except.ok (Prod.ext rfl hcurrent.2.symm)
    exact Engine.answer_localTransports hview

lemma contactTransports (h : backend.Twin e t) {c : ContactId} {r : ContactRecord}
    (hr : t.store.contacts[c]? = some r) :
    e.view (Store.contactTransports c) = Topic.transports.load backend r.transports := by
  cases backend with
  | memory =>
    obtain ⟨rfl, -⟩ := h
    have hknown (s : Memory) (hs : s.contacts[c]? = some r) :
        s.contactTransports c = r.transports := by
      rw [Memory.contactTransports, hs]
    exact congrArg Except.ok (hknown _ hr)
  | relational =>
    have hknown (s : Relational) (hs : s.contacts[c]? = some r.toRow) :
        s.contactTransports c = Properties.ofColumn (encodeProperties r.transports) := by
      rw [Relational.contactTransports, hs]
      rfl
    refine hknown _ (((Engine.Mirrors.store h).contact c).trans ?_)
    rw [hr]
    rfl

/-- What a node answers about a contact is what can be read back of what is known. -/
lemma answer_askAbout (h : backend.Twin e t) {c : ContactId} {r : ContactRecord}
    (hr : t.store.contacts[c]? = some r) {content : topic.Content}
    (hload : topic.load backend (topic.known r).1 = .ok content) :
    e.answer (topic.askAbout c) = .ok content := by
  have hmem : c ∈ t.store.contacts := Table.mem_of_getElem? hr
  cases topic with
  | subscriptions =>
    have hanswer := congrArg Prod.fst (Engine.contactSubscriptions_apply ⟨t, [], {}⟩ c)
    rw [if_pos hmem] at hanswer
    refine (h.plain (.contactSubscriptions c) rfl {}).1.trans (hanswer.trans ?_)
    cases hload
    refine congrArg Except.ok ?_
    show t.store.contactSubscriptions c = Group.ofTable r.groups
    rw [Memory.contactSubscriptions, hr]
  | transports =>
    have hcontains : Store.containsContact c e.store = (.ok true, e.store) := by
      refine Prod.ext ?_ (backend.containsContact_snd c e.store)
      rw [show (Store.containsContact c e.store).1 = _ from h.containsContact c,
        Std.ExtTreeMap.contains_iff_mem.mpr hmem]
    exact Act.runOn_askAbout hcontains ((h.contactTransports hr).trans hload) {}

end Backend.Twin

end MessageSync
