import MessageSync.Proofs.Engine.Parts
import MessageSync.Proofs.Engine.Writing
import MessageSync.Proofs.Packet

/-!
# What a node tells of itself

A node tells its contacts of two topics: the groups it is subscribed to, and how it can be
reached. Of each it tells a version, with the time at which that came about. A step leaves the
own version of a node as it is or gives it the time (`Topic.own_step`), and it leaves what is
known of a contact as it is unless it takes in what that contact told (`Topic.known_step`).
-/

namespace MessageSync

/-! ## What is told -/

/-- What a node tells its contacts of itself. -/
inductive Topic where
  | subscriptions
  | transports
deriving DecidableEq

namespace Topic

/-- What is said of a topic. -/
abbrev Content : Topic → Type
  | subscriptions => List Group
  | transports => Properties

/-- What is said of a topic, and when that last changed. -/
abbrev Version (topic : Topic) : Type := topic.Content × Int64

/-- The packet that tells a version. -/
def packet : (topic : Topic) → topic.Version → Packet
  | subscriptions, v => .subscriptions ⟨v.1, v.2⟩
  | transports, v => .transports ⟨v.1, v.2⟩

/-- The operation that answers what is so of a node. -/
def ask : (topic : Topic) → Operation topic.Content
  | subscriptions => .subscriptions
  | transports => .localTransports

/-- The operation that answers what a node knows of a contact. -/
def askAbout (c : ContactId) : (topic : Topic) → Operation topic.Content
  | subscriptions => .contactSubscriptions c
  | transports => .contactTransports c

/-- The operation that takes in what a contact tells. -/
def receive (c : ContactId) : (topic : Topic) → topic.Version → Operation Bool
  | subscriptions, v => .receiveSubscriptions c ⟨v.1, v.2⟩
  | transports, v => .receiveTransports c ⟨v.1, v.2⟩

end Topic

/-- Whether an operation tells a contact about a topic. -/
def Operation.tells (c : ContactId) : (topic : Topic) → {α : Type} → Operation α → Bool
  | .subscriptions, _, .generateSubscriptions c' => c' = c
  | .transports, _, .generateTransports c' => c' = c
  | _, _, _ => false

/-- Whether an operation with this answer changed what a node tells about a topic. -/
def Operation.changes : (topic : Topic) → {α : Type} → Operation α → α → Bool
  | .subscriptions, _, .subscribe _, added => added
  | .subscriptions, _, .unsubscribe _, removed => removed
  | .transports, _, .setLocalTransports _, _ => true
  | _, _, _, _ => false

/-- Whether an operation takes in from a contact only what was told. -/
def Operation.Listens (c : ContactId) (told : Topic → List Bytes) :
    {α : Type} → Operation α → Prop
  | _, .receiveSubscriptions c' update => c' = c →
    ∃ bytes ∈ told .subscriptions, Packet.decode bytes = .ok (.subscriptions update)
  | _, .receiveTransports c' update => c' = c →
    ∃ bytes ∈ told .transports, Packet.decode bytes = .ok (.transports update)
  | _, _ => True

namespace Step

variable {σ : Type} [Store σ]

/-- The updates about a topic that a step writes for a contact, as bytes. -/
def told (e : Engine σ) (c : ContactId) (topic : Topic) : Step → List Bytes
  | .perform operation sink =>
    if operation.tells c topic ∧ Operation.wroteAll (operation.act.runOn e sink).1 then
      [(operation.act.runOn e sink).2.sink.taken.drop sink.taken.length]
    else []
  | _ => []

/-- Whether a step changes what an engine tells about a topic. -/
def changes (e : Engine σ) (topic : Topic) : Step → Bool
  | .perform operation sink =>
    match (operation.act.runOn e sink).1 with
    | .ok answer => operation.changes topic answer
    | .error _ => false
  | _ => false

/-- Whether a step takes in from a contact only what was told. -/
def Listens (c : ContactId) (told : Topic → List Bytes) : Step → Prop
  | .perform operation _ => operation.Listens c told
  | _ => True

end Step

/-- What an engine answers to an operation. -/
def Engine.answer {σ α : Type} [Store σ] (e : Engine σ) (operation : Operation α) :
    Except SyncError α := (operation.act.runOn e {}).1

/-! ## Packets about a topic -/

namespace Topic

variable {topic : Topic} {v w : topic.Version}

lemma packet_inj (h : topic.packet v = topic.packet w) : v = w := by
  cases topic with
  | subscriptions =>
    have hu := Packet.subscriptions.inj h
    exact Prod.ext (congrArg SubscriptionUpdate.groups hu)
      (congrArg SubscriptionUpdate.timestamp hu)
  | transports =>
    have hu := Packet.transports.inj h
    exact Prod.ext (congrArg TransportUpdate.properties hu)
      (congrArg TransportUpdate.timestamp hu)

/-- What is decoded from the packet of a version is that version. -/
lemma eq_of_decode (h : Packet.decode (topic.packet v).encode = .ok (topic.packet w)) : w = v :=
  packet_inj (Packet.eq_of_decode h)

end Topic

/-- What is decoded is within all limits. -/
lemma Packet.excess?_of_decode {bytes : Bytes} {packet : Packet}
    (h : Packet.decode bytes = .ok packet) : packet.excess? = none := by
  unfold decode at h
  split at h
  · cases h
  · split at h
    · cases h
    · split at h
      · cases h
      · next hexcess =>
        cases h
        exact hexcess

/-! ## What is so of a store in memory -/

namespace Topic

/-- The part of a store that a topic is about. -/
def part : Topic → Memory.Part
  | subscriptions => .subscriptions
  | transports => .transports

/-- What is so of a node. -/
def own : (topic : Topic) → Memory → topic.Version
  | subscriptions, s => (Group.ofTable s.subscriptions, s.subscriptionsAt)
  | transports, s => (s.transports, s.transportsAt)

/-- What is known of a contact. -/
def known : (topic : Topic) → ContactRecord → topic.Version
  | subscriptions, r => (Group.ofTable r.groups, r.groupsAt)
  | transports, r => (r.transports, r.transportsAt)

/-- A version as a record has it: groups are in order, each once. -/
def settled : (topic : Topic) → topic.Version → topic.Version
  | subscriptions, v => (Group.ofTable (Group.toTable v.1), v.2)
  | transports, v => v

variable {topic : Topic}

lemma own_without {parts : List Memory.Part} (h : topic.part ∉ parts) (s : Memory) :
    topic.own (s.without parts) = topic.own s := by
  cases topic with
  | subscriptions => simp only [own, Memory.without, if_neg (show .subscriptions ∉ parts from h)]
  | transports => simp only [own, Memory.without, if_neg (show .transports ∉ parts from h)]

/-- Groups out of a table make the same table again. -/
lemma toTable_ofTable (names : Table GroupId String) :
    Group.toTable (Group.ofTable names) = names := by
  unfold Group.toTable Group.ofTable
  rw [List.map_map]
  have hid : ((fun g : Group => (g.id, g.name)) ∘ fun e : GroupId × String => ⟨e.1, e.2⟩) = id :=
    rfl
  rw [hid, List.map_id]
  exact Table.insertAll_toList names

/-- What is so of a node is as a record has it. -/
lemma settled_own (topic : Topic) (s : Memory) : topic.settled (topic.own s) = topic.own s := by
  cases topic with
  | subscriptions =>
    simp only [settled, own, toTable_ofTable]
  | transports => rfl

end Topic

/-! ## Steps of a teller -/

/-- An operation changes what a node tells only where it touches it. -/
lemma Operation.mem_parts_of_changes {topic : Topic} {α : Type} {operation : Operation α} {a : α}
    (h : operation.changes topic a = true) : topic.part ∈ operation.parts := by
  unfold changes at h
  split at h
  · exact List.mem_cons_self
  · exact List.mem_cons_self
  · exact List.mem_cons_self
  · cases h

/-- What touches what a node tells neither tells it nor reads encoded properties. -/
lemma Operation.of_mem_parts {topic : Topic} {α : Type} {operation : Operation α}
    (h : topic.part ∈ operation.parts) :
    operation.plain ∧ ∀ c topic', operation.tells c topic' = false := by
  cases operation with
  | subscribe _ | unsubscribe _ | setLocalTransports _ =>
    refine ⟨rfl, fun c topic' => ?_⟩
    cases topic' <;> rfl
  | _ => cases topic <;> simp [parts, Topic.part] at h

namespace Step

variable {σ : Type} [Store σ] {e : Engine σ} {topic : Topic} {α : Type} {operation : Operation α}
  {sink : Sink}

lemma changes_of_ok {a : α} (h : (operation.act.runOn e sink).1 = .ok a) :
    (perform operation sink).changes e topic = operation.changes topic a := by
  simp only [changes, h]

lemma changes_of_not_mem_parts (h : topic.part ∉ operation.parts) :
    (perform operation sink).changes e topic = false := by
  cases hanswer : (operation.act.runOn e sink).1 with
  | error refusal => simp only [changes, hanswer]
  | ok a =>
    rw [changes_of_ok hanswer]
    exact Bool.eq_false_iff.mpr fun hchanges => h (Operation.mem_parts_of_changes hchanges)

end Step

/-- A step leaves what is so of a node as it is, or changes it and gives it the time. -/
theorem Topic.own_step (topic : Topic) (e : Engine Memory) (step : Step) :
    step.changes e topic = false ∧ topic.own (e.step step).store = topic.own e.store ∨
      step.changes e topic = true ∧ (topic.own (e.step step).store).2 = e.now := by
  cases step with
  | setClock _ | setGate _ => exact .inl ⟨rfl, rfl⟩
  | perform operation sink =>
    by_cases hpart : topic.part ∈ operation.parts
    · cases operation with
      | subscribe g =>
        cases topic with
        | transports => simp [Operation.parts, part] at hpart
        | subscriptions =>
          have hrun : (Operation.subscribe g).act.runOn e sink = _ :=
            Engine.subscribe_apply ⟨e, [], sink⟩ g
          by_cases hg : g.id ∈ e.store.subscriptions
          · rw [if_pos hg] at hrun
            refine .inl ⟨Step.changes_of_ok (congrArg Prod.fst hrun), ?_⟩
            rw [Engine.step, hrun]
          · rw [if_neg hg] at hrun
            refine .inr ⟨Step.changes_of_ok (congrArg Prod.fst hrun), ?_⟩
            rw [Engine.step, hrun]
            simp [own, Turn.store_after, Memory.change, Memory.addSubscription, hg]
      | unsubscribe g =>
        cases topic with
        | transports => simp [Operation.parts, part] at hpart
        | subscriptions =>
          have hrun : (Operation.unsubscribe g).act.runOn e sink = _ :=
            Engine.unsubscribe_apply ⟨e, [], sink⟩ g
          by_cases hg : g ∈ e.store.subscriptions
          · rw [if_pos hg] at hrun
            refine .inr ⟨Step.changes_of_ok (congrArg Prod.fst hrun), ?_⟩
            rw [Engine.step, hrun]
            obtain ⟨_, _, hafter⟩ := Memory.exists_removeSubscription hg e.now
            show (e.store.removeSubscription g e.now).2.subscriptionsAt = e.now
            rw [hafter]
          · rw [if_neg hg] at hrun
            refine .inl ⟨Step.changes_of_ok (congrArg Prod.fst hrun), ?_⟩
            rw [Engine.step, hrun]
      | setLocalTransports transports =>
        cases topic with
        | subscriptions => simp [Operation.parts, part] at hpart
        | transports => exact .inr ⟨rfl, rfl⟩
      | _ =>
        cases topic with
        | subscriptions => simp [Operation.parts, part] at hpart
        | transports => simp [Operation.parts, part] at hpart
    · have hwithout := congrArg topic.own (operation.without_runOn e sink)
      rw [own_without hpart, own_without hpart] at hwithout
      exact .inl ⟨Step.changes_of_not_mem_parts hpart, hwithout⟩

/-! ## Steps of a listener -/

/-- A record after its contact told something; what is not newer is ignored. -/
def ContactRecord.hear (r : ContactRecord) : (topic : Topic) → topic.Version → ContactRecord
  | .subscriptions, v =>
    if v.2 ≤ r.groupsAt then r else { r with groups := Group.toTable v.1, groupsAt := v.2 }
  | .transports, v =>
    if v.2 ≤ r.transportsAt then r else { r with transports := v.1, transportsAt := v.2 }

namespace Topic

variable {topic : Topic}

/-- The change that comes of what a contact tells. -/
def change (c : ContactId) : (topic : Topic) → topic.Version → Change
  | subscriptions, v => .share c v.1 v.2
  | transports, v => .setTransports c v.1 v.2

lemma contacts_change (s : Memory) (c : ContactId) (v : topic.Version) :
    (s.change (topic.change c v)).contacts = s.contacts.modify c (·.hear topic v) := by
  cases topic with
  | subscriptions =>
    by_cases hold : ∀ r, s.contacts[c]? = some r → v.2 ≤ r.groupsAt
    · rw [change, Memory.change_share_of_old hold]
      exact (Table.modify_eq_self fun r hr => if_pos (hold r hr)).symm
    · push Not at hold
      obtain ⟨r, hr, hat⟩ := hold
      rw [← Table.insert_eq_modify hr]
      simp only [change, Memory.change, Memory.setSubscriptions, hr, ContactRecord.hear, if_neg hat]
      rfl
  | transports =>
    by_cases hold : ∀ r, s.contacts[c]? = some r → v.2 ≤ r.transportsAt
    · rw [change, Memory.change_setTransports_of_old hold]
      exact (Table.modify_eq_self fun r hr => if_pos (hold r hr)).symm
    · push Not at hold
      obtain ⟨r, hr, hat⟩ := hold
      rw [← Table.insert_eq_modify hr]
      simp only [change, Memory.change, Memory.setTransports, hr, ContactRecord.hear, if_neg hat]

/-- What is known of a contact that tells something is that, unless it is not newer. -/
lemma known_hear (r : ContactRecord) (v : topic.Version) : topic.known (r.hear topic v) =
    if v.2 ≤ (topic.known r).2 then topic.known r else topic.settled v := by
  cases topic with
  | subscriptions =>
    show subscriptions.known (if v.2 ≤ r.groupsAt then r else _) = if v.2 ≤ r.groupsAt then _ else _
    split <;> rfl
  | transports =>
    show transports.known (if v.2 ≤ r.transportsAt then r else _) =
      if v.2 ≤ r.transportsAt then _ else _
    split <;> rfl

/-- What a contact tells of one topic is not about another one. -/
lemma known_hear_of_ne {topic' : Topic} (r : ContactRecord) (v : topic.Version)
    (h : topic ≠ topic') : topic'.known (r.hear topic v) = topic'.known r := by
  cases topic with
  | subscriptions =>
    cases topic' with
    | subscriptions => exact absurd rfl h
    | transports =>
      show transports.known (if v.2 ≤ r.groupsAt then r else _) = _
      split <;> rfl
  | transports =>
    cases topic' with
    | subscriptions =>
      show subscriptions.known (if v.2 ≤ r.transportsAt then r else _) = _
      split <;> rfl
    | transports => exact absurd rfl h

/-- What is taken in of a topic was told. -/
lemma exists_told {told : Topic → List Bytes} {v : topic.Version} {c : ContactId}
    (h : (topic.receive c v).Listens c told) :
    ∃ bytes ∈ told topic, Packet.decode bytes = .ok (topic.packet v) := by
  cases topic with
  | subscriptions => exact h rfl
  | transports => exact h rfl

/-- What is within the limits is taken in. -/
lemma log_receive {v : topic.Version} (c : ContactId) (hlimit : (topic.packet v).excess? = none)
    (e : Engine Memory) (sink : Sink) :
    (topic.receive c v).log e sink = [topic.change c v] := by
  cases topic with
  | subscriptions =>
    have hroom : ¬ Packet.mostGroups < v.1.length := by
      simpa [packet, Packet.excess?] using hlimit
    exact if_neg hroom
  | transports =>
    have hroom : ¬ Packet.mostProperties < v.1.size := by
      simpa [packet, Packet.excess?] using hlimit
    exact if_neg hroom

/-- The answer to what a contact that exists tells within the limits is whether it is newer. -/
lemma answer_receive_eq {v : topic.Version} {e : Engine Memory} {c : ContactId}
    {r : ContactRecord} (hr : e.store.contacts[c]? = some r)
    (hlimit : (topic.packet v).excess? = none) (sink : Sink) :
    ((topic.receive c v).act.runOn e sink).1 = .ok (decide ((topic.known r).2 < v.2)) := by
  cases topic with
  | subscriptions =>
    have hroom : ¬ Packet.mostGroups < v.1.length := by
      simpa [packet, Packet.excess?] using hlimit
    have hrun := congrArg Prod.fst (Engine.receiveSubscriptions_apply ⟨e, [], sink⟩ c ⟨v.1, v.2⟩)
    simp only [if_neg hroom, hr] at hrun
    refine hrun.trans ?_
    split
    · next hold => exact congrArg Except.ok (decide_eq_false (Int64.not_lt.mpr hold)).symm
    · next hnew => exact congrArg Except.ok (decide_eq_true (Int64.not_le.mp hnew)).symm
  | transports =>
    have hroom : ¬ Packet.mostProperties < v.1.size := by
      simpa [packet, Packet.excess?] using hlimit
    have hrun := congrArg Prod.fst (Engine.receiveTransports_apply ⟨e, [], sink⟩ c ⟨v.1, v.2⟩)
    simp only [if_neg hroom, hr] at hrun
    refine hrun.trans ?_
    split
    · next hold => exact congrArg Except.ok (decide_eq_false (Int64.not_lt.mpr hold)).symm
    · next hnew => exact congrArg Except.ok (decide_eq_true (Int64.not_le.mp hnew)).symm

/-- What a contact that exists tells within the limits is answered. -/
lemma answer_receive {v : topic.Version} {e : Engine Memory} {c : ContactId} {r : ContactRecord}
    (hr : e.store.contacts[c]? = some r) (hlimit : (topic.packet v).excess? = none)
    (sink : Sink) : ∃ applied, ((topic.receive c v).act.runOn e sink).1 = .ok applied :=
  ⟨_, answer_receive_eq hr hlimit sink⟩

/-- What is known of a contact after one told something was known before, or is that. -/
lemma known_change {topic' : Topic} {s : Memory} {c c' : ContactId} {v : topic'.Version}
    {r : ContactRecord} (sink : Sink)
    (h : (s.change (topic'.change c' v)).contacts[c]? = some r) :
    (∃ r', s.contacts[c]? = some r' ∧ topic.known r' = topic.known r) ∨
      (topic.known r).2 = 0 ∨ ∃ w sink', Step.perform (topic'.receive c' v) sink =
        .perform (topic.receive c w) sink' ∧ topic.known r = topic.settled w := by
  rw [contacts_change, Table.getElem?_modify] at h
  split at h
  · next hc =>
    subst hc
    obtain ⟨r', hr', rfl⟩ := Option.map_eq_some_iff.mp h
    by_cases htopic : topic' = topic
    · subst htopic
      rw [known_hear]
      split
      · exact .inl ⟨r', hr', rfl⟩
      · exact .inr (.inr ⟨v, sink, rfl, rfl⟩)
    · exact .inl ⟨r', hr', (known_hear_of_ne r' v htopic).symm⟩
  · exact .inl ⟨r, h, rfl⟩

end Topic

/-- What is known of a contact after a step was known before, has no timestamp yet, or was just
taken in. -/
theorem Topic.known_step (topic : Topic) {e : Engine Memory} {step : Step} {c : ContactId}
    {r : ContactRecord} (h : (e.step step).store.contacts[c]? = some r) :
    (∃ r', e.store.contacts[c]? = some r' ∧ topic.known r' = topic.known r) ∨
      (topic.known r).2 = 0 ∨
      ∃ v sink, step = .perform (topic.receive c v) sink ∧ topic.known r = topic.settled v := by
  cases step with
  | setClock _ | setGate _ => exact .inl ⟨r, h, rfl⟩
  | perform operation sink =>
    rw [Engine.store_step, Step.log] at h
    by_cases hpart : .contacts ∈ operation.parts
    · cases operation with
      | addContact transports =>
        change (e.store.contacts.insert _ _)[c]? = some r at h
        rw [Table.getElem?_insert] at h
        split at h
        · refine .inr (.inl ?_)
          rw [← Option.some.inj h]
          cases topic <;> rfl
        · exact .inl ⟨r, h, rfl⟩
      | removeContact c' =>
        rw [Operation.log, Memory.about] at h
        split at h
        · change (e.store.contacts.erase c')[c]? = some r at h
          rw [Table.getElem?_erase] at h
          split at h
          · cases h
          · exact .inl ⟨r, h, rfl⟩
        · exact .inl ⟨r, h, rfl⟩
      | receiveSubscriptions c' update =>
        rw [Operation.log] at h
        split at h
        · exact .inl ⟨r, h, rfl⟩
        · exact known_change (v := ((update.groups, update.timestamp) : subscriptions.Version)) sink h
      | receiveTransports c' update =>
        rw [Operation.log] at h
        split at h
        · exact .inl ⟨r, h, rfl⟩
        · exact known_change (v := ((update.properties, update.timestamp) : transports.Version)) sink h
      | _ => simp [Operation.parts] at hpart
    · rw [Memory.contacts_changes fun x hx hmem =>
        hpart (Operation.parts_of_mem_log hx hmem)] at h
      exact .inl ⟨r, h, rfl⟩

end MessageSync
