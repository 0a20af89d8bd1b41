import MessageSync.Proofs.OutstandingBatches
import MessageSync.Proofs.Store.Arrivals
import MessageSync.Proofs.Topic.Backend

/-!
# The last writer wins

What a contact tells of itself carries the time at which it came about, and the version with the
latest time is kept. So it does not matter in which order the versions come in, and how often
each of them does: if those of one time are the same, what is known in the end is the latest
(`Topic.known_hearAll`).

Rows of messages come and go with the groups that the contact is known to have on the way. In
the end they are those of its messages, so that their order does not matter either, even if
messages arrive in between (`Backend.last_writer`).
-/

namespace MessageSync

/-! ## What comes in -/

namespace Step

/-- Whether a step takes in what a contact tells of a topic, within the limits, or messages. -/
inductive Incoming (c : ContactId) (topic : Topic) : Step → Prop
  | told (v : topic.Version) (sink : Sink) (hlimit : (topic.packet v).excess? = none) :
    Incoming c topic (.perform (topic.receive c v) sink)
  | posted (m : Message) (sink : Sink) : Incoming c topic (.perform (.addLocal m) sink)
  | sent (c' : ContactId) (batch : ReceivedBatch) (sink : Sink) :
    Incoming c topic (.perform (.receiveBatch c' batch) sink)

/-- What a contact tells of a topic in a step. -/
def heard (c : ContactId) : (topic : Topic) → Step → Option topic.Version
  | .subscriptions, .perform (.receiveSubscriptions c' update) _ =>
    if c' = c then some (update.groups, update.timestamp) else none
  | .transports, .perform (.receiveTransports c' update) _ =>
    if c' = c then some (update.properties, update.timestamp) else none
  | _, _ => none

/-- The messages that come in a step, and who sends them. -/
def arrived : Step → Option (Option ContactId × List Message)
  | .perform (.addLocal m) _ => some (none, [m])
  | .perform (.receiveBatch c batch) _ => some (some c, batch.messages)
  | _ => none

/-- What a contact tells of a topic in a history. -/
def versions (c : ContactId) (topic : Topic) (history : List Step) : List topic.Version :=
  history.filterMap (heard c topic)

/-- The messages that come in a history, and who sends them. -/
def arrivals (history : List Step) : List (Option ContactId × List Message) :=
  history.filterMap arrived

/-- Whether the same messages come in two histories, in the same order, or in any order and as
often as may be, if messages with one identifier are one message. -/
def SameArrivals (history history' : List Step) : Prop :=
  arrivals history = arrivals history' ∨
    (∀ arrival, arrival ∈ arrivals history ↔ arrival ∈ arrivals history') ∧
      ∀ m ∈ (arrivals history).flatMap Prod.snd, ∀ m' ∈ (arrivals history).flatMap Prod.snd,
        m.id = m'.id → m = m'

variable {c : ContactId} {topic : Topic} (sink : Sink)

@[simp] lemma heard_receive (v : topic.Version) :
    (perform (topic.receive c v) sink).heard c topic = some v := by
  cases topic <;> exact if_pos rfl

@[simp] lemma heard_addLocal (m : Message) : (perform (.addLocal m) sink).heard c topic = none := by
  cases topic <;> rfl

@[simp] lemma heard_receiveBatch (c' : ContactId) (batch : ReceivedBatch) :
    (perform (.receiveBatch c' batch) sink).heard c topic = none := by
  cases topic <;> rfl

@[simp] lemma arrived_receive (v : topic.Version) :
    (perform (topic.receive c v) sink).arrived = none := by
  cases topic <;> rfl

/-- What is taken in of what a contact tells is within the limits. -/
lemma Incoming.excess?_eq_none {step : Step} (h : step.Incoming c topic) {v : topic.Version}
    (hv : step.heard c topic = some v) : (topic.packet v).excess? = none := by
  cases h with
  | told w sink hlimit =>
    rw [heard_receive] at hv
    exact Option.some.inj hv ▸ hlimit
  | posted m sink =>
    rw [heard_addLocal] at hv
    cases hv
  | sent c' batch sink =>
    rw [heard_receiveBatch] at hv
    cases hv

end Step

/-! ## The latest version -/

/-- A record after its contact told one version after the other. -/
def ContactRecord.hearAll (r : ContactRecord) (topic : Topic) (versions : List topic.Version) :
    ContactRecord := versions.foldl (fun r v => r.hear topic v) r

namespace Topic

variable {topic : Topic} (r : ContactRecord)

lemma hearAll_concat (versions : List topic.Version) (v : topic.Version) :
    r.hearAll topic (versions ++ [v]) = (r.hearAll topic versions).hear topic v := by
  rw [ContactRecord.hearAll, List.foldl_append]
  rfl

lemma known_hearAll_of_ne {topic' : Topic} (versions : List topic.Version) (h : topic ≠ topic') :
    topic'.known (r.hearAll topic versions) = topic'.known r := by
  induction versions using List.reverseRecOn with
  | nil => rfl
  | append_singleton versions v ih => rw [hearAll_concat, known_hear_of_ne _ _ h, ih]

lemma snd_settled (v : topic.Version) : (topic.settled v).2 = v.2 := by
  cases topic <;> rfl

/-- What is known in the end is what was known, if nothing is newer, or one of the latest. -/
theorem known_hearAll (versions : List topic.Version) :
    (topic.known (r.hearAll topic versions) = topic.known r ∧
      ∀ v ∈ versions, v.2 ≤ (topic.known r).2) ∨
    ∃ w ∈ versions, topic.known (r.hearAll topic versions) = topic.settled w ∧
      (topic.known r).2 < w.2 ∧ ∀ v ∈ versions, v.2 ≤ w.2 := by
  induction versions using List.reverseRecOn with
  | nil => exact .inl ⟨rfl, nofun⟩
  | append_singleton versions v ih =>
    rw [hearAll_concat, known_hear]
    simp only [List.forall_mem_append, List.forall_mem_singleton]
    split
    · next hold =>
      rcases ih with ⟨hsame, hle⟩ | ⟨w, hw, hknown, hlt, hle⟩
      · rw [hsame] at hold ⊢
        exact .inl ⟨rfl, hle, hold⟩
      · rw [hknown, snd_settled] at hold
        exact .inr ⟨w, List.mem_append_left _ hw, hknown, hlt, hle, hold⟩
    · next hnew =>
      rw [Int64.not_le] at hnew
      refine .inr ⟨v, List.mem_append_right _ (List.mem_singleton_self v), rfl, ?_, ?_,
        Int64.le_refl _⟩
      · rcases ih with ⟨hsame, -⟩ | ⟨w, -, hknown, hlt, -⟩
        · rwa [hsame] at hnew
        · rw [hknown, snd_settled] at hnew
          exact Int64.lt_trans hlt hnew
      · intro u hu
        refine Int64.le_of_lt (Int64.lt_of_le_of_lt ?_ hnew)
        rcases ih with ⟨hsame, hle⟩ | ⟨w, -, hknown, -, hle⟩
        · rw [hsame]
          exact hle u hu
        · rw [hknown, snd_settled]
          exact hle u hu

/-- What is newer than all that was told is newer than what is known. -/
lemma known_hearAll_lt_iff (versions : List topic.Version) (timestamp : Int64) :
    (topic.known (r.hearAll topic versions)).2 < timestamp ↔
      (topic.known r).2 < timestamp ∧ ∀ v ∈ versions, v.2 < timestamp := by
  rcases known_hearAll r versions with ⟨hsame, hle⟩ | ⟨w, hw, hknown, hlt, hle⟩
  · rw [hsame]
    exact ⟨fun h => ⟨h, fun v hv => Int64.lt_of_le_of_lt (hle v hv) h⟩, fun h => h.1⟩
  · rw [hknown, snd_settled]
    refine ⟨fun h => ⟨Int64.lt_trans hlt h, fun v hv => Int64.lt_of_le_of_lt (hle v hv) h⟩,
      fun h => h.2 w hw⟩

/-- What is not newer changes nothing. -/
lemma known_hearAll_of_old {versions : List topic.Version}
    (hold : ∀ v ∈ versions, v.2 ≤ (topic.known r).2) :
    topic.known (r.hearAll topic versions) = topic.known r := by
  rcases known_hearAll r versions with ⟨hsame, -⟩ | ⟨w, hw, -, hlt, -⟩
  · exact hsame
  · exact absurd (hold w hw) (Int64.not_le.mpr hlt)

/-- What is latest wins, if versions of one time are the same. -/
lemma known_hearAll_of_latest {versions : List topic.Version}
    (hagree : ∀ v ∈ versions, ∀ w ∈ versions, v.2 = w.2 → topic.settled v = topic.settled w)
    {w : topic.Version} (hw : w ∈ versions) (hnew : (topic.known r).2 < w.2)
    (hlatest : ∀ v ∈ versions, v.2 ≤ w.2) :
    topic.known (r.hearAll topic versions) = topic.settled w := by
  rcases known_hearAll r versions with ⟨-, hold⟩ | ⟨w', hw', hknown, -, hle⟩
  · exact absurd (hold w hw) (Int64.not_le.mpr hnew)
  · rw [hknown]
    exact hagree w' hw' w hw (Int64.le_antisymm (hlatest w' hw') (hle w hw))

/-- The order of what is told does not matter, nor how often it is. -/
lemma known_hearAll_congr {versions versions' : List topic.Version}
    (hagree : ∀ v ∈ versions, ∀ w ∈ versions, v.2 = w.2 → topic.settled v = topic.settled w)
    (hsame : ∀ v, v ∈ versions' ↔ v ∈ versions) (topic' : Topic) :
    topic'.known (r.hearAll topic versions') = topic'.known (r.hearAll topic versions) := by
  by_cases htopic : topic = topic'
  · subst htopic
    rcases known_hearAll r versions with ⟨hknown, hold⟩ | ⟨w, hw, hknown, hnew, hlatest⟩
    · rw [hknown, known_hearAll_of_old r fun v hv => hold v ((hsame v).mp hv)]
    · rw [hknown]
      refine known_hearAll_of_latest r (fun v hv w hw => ?_) ((hsame w).mpr hw) hnew fun v hv => ?_
      · exact hagree v ((hsame v).mp hv) w ((hsame w).mp hw)
      · exact hlatest v ((hsame v).mp hv)
  · rw [known_hearAll_of_ne r _ htopic, known_hearAll_of_ne r _ htopic]

end Topic

/-! ## Histories over a store in memory -/

/-- Where messages with one identifier are one message, that is the one that is found. -/
lemma Message.find?_eq_some_iff {messages : List Message}
    (hid : ∀ m ∈ messages, ∀ m' ∈ messages, m.id = m'.id → m = m') (id : MessageId)
    (m : Message) : messages.find? (·.id = id) = some m ↔ m ∈ messages ∧ m.id = id := by
  constructor
  · intro h
    exact ⟨List.mem_of_find?_eq_some h, by simpa using List.find?_some h⟩
  · rintro ⟨hm, rfl⟩
    obtain ⟨m', hm'⟩ : ∃ m', messages.find? (·.id = m.id) = some m' :=
      Option.isSome_iff_exists.mp (List.find?_isSome.mpr ⟨m, hm, decide_eq_true rfl⟩)
    have heq : m'.id = m.id := by simpa using List.find?_some hm'
    rw [hm', hid m' (List.mem_of_find?_eq_some hm') m hm heq]

namespace Memory

variable {s : Memory}

/-- A message that arrives is stored unless one with its identifier is there. -/
lemma getElem?_messages_accept (m : Message) (sender : Option ContactId) (id : MessageId) :
    (s.accept m sender).messages[id]? =
      s.messages[id]?.or (if m.group ∈ s.subscriptions ∧ m.id = id then some m else none) := by
  rw [messages_accept]
  split
  · next hnew =>
    rw [Table.getElem?_insert]
    by_cases hid : m.id = id
    · subst hid
      rw [if_pos rfl, if_pos ⟨hnew.1, rfl⟩, (Table.not_mem_iff _ _).mp hnew.2, Option.none_or]
    · rw [if_neg hid, if_neg fun h => hid h.2, Option.or_none]
  · next hold =>
    split
    · next hnew =>
      obtain ⟨hgroup, rfl⟩ := hnew
      obtain ⟨m', hm'⟩ := (Table.mem_iff_exists _ _).mp (not_not.mp fun h => hold ⟨hgroup, h⟩)
      rw [hm', Option.some_or]
    · rw [Option.or_none]

/-- Of messages that arrive with one identifier, the first is stored. -/
lemma getElem?_messages_changes (sender : Option ContactId) (messages : List Message)
    (id : MessageId) :
    (s.changes (messages.map (.accept · sender))).messages[id]? =
      s.messages[id]?.or ((messages.filter (·.group ∈ s.subscriptions)).find? (·.id = id)) := by
  induction messages generalizing s with
  | nil => rw [List.map_nil, changes_nil, List.filter_nil, List.find?_nil, Option.or_none]
  | cons m rest ih =>
    rw [List.map_cons, changes_cons, ih, change, subscriptions_accept, getElem?_messages_accept,
      Option.or_assoc]
    refine congrArg _ ?_
    by_cases hgroup : m.group ∈ s.subscriptions
    · rw [List.filter_cons_of_pos (by simpa using hgroup), List.find?_cons]
      by_cases hid : m.id = id
      · rw [if_pos ⟨hgroup, hid⟩, decide_eq_true hid, Option.some_or]
      · rw [if_neg fun h => hid h.2, decide_eq_false hid, Option.none_or]
    · rw [List.filter_cons_of_neg (by simpa using hgroup), if_neg fun h => hgroup h.1,
        Option.none_or]

end Memory

namespace Engine

variable {e : Engine Memory} {c : ContactId} {topic : Topic} {step : Step} {history : List Step}

/-- The messages of an arrival that are taken in if they are new. -/
def welcome (e : Engine Memory) (arrival : Option ContactId × List Message) : List Message :=
  if e.gate = .opened ∧ arrival.1.all (· ∈ e.store.contacts) then
    arrival.2.filter (·.group ∈ e.store.subscriptions)
  else []

lemma mem_of_mem_welcome {m : Message} {arrival : Option ContactId × List Message}
    (h : m ∈ e.welcome arrival) : m ∈ arrival.2 := by
  unfold welcome at h
  split at h
  · exact (List.mem_filter.mp h).1
  · cases h

/-- What comes in is about other things than what this node is subscribed to. -/
lemma exists_operation (h : step.Incoming c topic) :
    ∃ (α : Type) (operation : Operation α) (sink : Sink), step = .perform operation sink ∧
      .subscriptions ∉ operation.parts := by
  cases h with
  | told v sink _ =>
    exact ⟨_, _, sink, rfl, by cases topic <;> simp [Topic.receive, Operation.parts]⟩
  | posted m sink => exact ⟨_, _, sink, rfl, by simp [Operation.parts]⟩
  | sent c' batch sink => exact ⟨_, _, sink, rfl, by simp [Operation.parts]⟩

/-- What a contact told is all that changes what is known of contacts. -/
lemma contacts_incoming (h : step.Incoming c topic) :
    (e.step step).store.contacts =
      match step.heard c topic with
      | some v => e.store.contacts.modify c (·.hear topic v)
      | none => e.store.contacts := by
  have hspared {α : Type} (operation : Operation α) (hparts : .contacts ∉ operation.parts)
      (sink : Sink) : (e.step (.perform operation sink)).store.contacts = e.store.contacts := by
    rw [store_step]
    exact Memory.contacts_changes fun x hx hpart => hparts (Operation.parts_of_mem_log hx hpart)
  cases h with
  | told v sink hlimit =>
    rw [store_step, Step.heard_receive, Step.log, Topic.log_receive c hlimit, Memory.changes_cons,
      Memory.changes_nil, Topic.contacts_change]
  | posted m sink =>
    rw [Step.heard_addLocal]
    exact hspared _ (by simp [Operation.parts]) sink
  | sent c' batch sink =>
    rw [Step.heard_receiveBatch]
    exact hspared _ (by simp [Operation.parts]) sink

/-- What comes in leaves it as it is which messages are taken in. -/
lemma welcome_step (h : step.Incoming c topic) : (e.step step).welcome = e.welcome := by
  have hcontacts (c' : ContactId) : c' ∈ (e.step step).store.contacts ↔ c' ∈ e.store.contacts := by
    rw [contacts_incoming h]
    split
    · rw [Std.ExtTreeMap.mem_modify]
    · rfl
  obtain ⟨α, operation, sink, rfl, hparts⟩ := exists_operation h
  have hgate : (e.step (.perform operation sink)).gate = e.gate :=
    (congrArg Engine.gate (operation.engine_runOn e sink)).trans rfl
  have hsubscriptions : (e.step (.perform operation sink)).store.subscriptions =
      e.store.subscriptions := by
    have hwithout := congrArg Memory.subscriptions (operation.without_runOn e sink)
    simp only [Memory.without, if_neg hparts] at hwithout
    exact hwithout
  funext arrival
  unfold welcome
  simp only [hcontacts, hsubscriptions, hgate]

/-- What comes in stores the messages that are taken in. -/
lemma messages_incoming (h : step.Incoming c topic) (id : MessageId) :
    (e.step step).store.messages[id]? = e.store.messages[id]?.or
      ((step.arrived.toList.flatMap e.welcome).find? (·.id = id)) := by
  rw [store_step]
  cases h with
  | told v sink hlimit =>
    have hmessages : (e.store.change (topic.change c v)).messages = e.store.messages :=
      Memory.messages_change (by cases topic <;> simp [Topic.change, Change.parts])
    rw [Step.arrived_receive, Step.log, Topic.log_receive c hlimit, Memory.changes_cons,
      Memory.changes_nil, hmessages]
    exact Option.or_none.symm
  | posted m sink =>
    have harrived : (Step.perform (.addLocal m) sink).arrived.toList.flatMap e.welcome =
        e.welcome (none, [m]) := List.append_nil _
    rw [harrived, welcome, Step.log, Operation.log]
    by_cases hgate : e.gate = .opened
    · rw [if_pos hgate, if_pos ⟨hgate, rfl⟩]
      exact Memory.getElem?_messages_changes none [m] id
    · rw [if_neg hgate, if_neg fun h => hgate h.1]
      exact Option.or_none.symm
  | sent c' batch sink =>
    have harrived : (Step.perform (.receiveBatch c' batch) sink).arrived.toList.flatMap e.welcome =
        e.welcome (some c', batch.messages) := List.append_nil _
    rw [harrived, welcome, Step.log, Operation.log, Memory.about]
    by_cases hgate : e.gate = .opened
    · by_cases hc : c' ∈ e.store.contacts
      · rw [if_pos hgate, if_pos hc, if_pos ⟨hgate, by simpa using hc⟩, Memory.changes_append]
        exact Memory.getElem?_messages_changes (some c') batch.messages id
      · rw [if_pos hgate, if_neg hc, if_neg fun h => hc (by simpa using h.2)]
        exact Option.or_none.symm
    · rw [if_neg hgate, if_neg fun h => hgate h.1]
      exact Option.or_none.symm

/-- What is known of the contact after a history. -/
lemma contact_run (h : ∀ step ∈ history, step.Incoming c topic) :
    (e.run history).store.contacts[c]? =
      (e.store.contacts[c]?).map (·.hearAll topic (Step.versions c topic history)) := by
  induction history generalizing e with
  | nil => exact Option.map_id'.symm
  | cons step rest ih =>
    rw [List.forall_mem_cons] at h
    rw [run_cons, ih h.2, contacts_incoming h.1, Step.versions, Step.versions,
      List.filterMap_cons]
    cases step.heard c topic with
    | none => rfl
    | some v =>
      dsimp only
      rw [Table.getElem?_modify, if_pos rfl, Option.map_map]
      rfl

/-- What is stored after a history. -/
lemma messages_run (h : ∀ step ∈ history, step.Incoming c topic) (id : MessageId) :
    (e.run history).store.messages[id]? = e.store.messages[id]?.or
      (((Step.arrivals history).flatMap e.welcome).find? (·.id = id)) := by
  induction history generalizing e with
  | nil => exact Option.or_none.symm
  | cons step rest ih =>
    rw [List.forall_mem_cons] at h
    rw [run_cons, ih h.2, messages_incoming h.1, welcome_step h.1, Option.or_assoc,
      ← List.find?_append, ← List.flatMap_append]
    refine congrArg (fun arrivals => Option.or _ (List.find? _ (List.flatMap _ arrivals))) ?_
    cases harrived : step.arrived with
    | none => exact (List.filterMap_cons_none harrived).symm
    | some arrival => exact (List.filterMap_cons_some harrived).symm

/-- The same messages are taken in if the same messages come. -/
lemma find?_welcome_congr {history' : List Step} (h : Step.SameArrivals history history')
    (id : MessageId) :
    ((Step.arrivals history).flatMap e.welcome).find? (·.id = id) =
      ((Step.arrivals history').flatMap e.welcome).find? (·.id = id) := by
  rcases h with hsame | ⟨hsame, hid⟩
  · rw [hsame]
  · have hsent (m : Message) (hm : m ∈ (Step.arrivals history).flatMap e.welcome) :
        m ∈ (Step.arrivals history).flatMap Prod.snd := by
      obtain ⟨arrival, harrival, hm⟩ := List.mem_flatMap.mp hm
      exact List.mem_flatMap.mpr ⟨arrival, harrival, mem_of_mem_welcome hm⟩
    have hsame' (m : Message) : m ∈ (Step.arrivals history').flatMap e.welcome ↔
        m ∈ (Step.arrivals history).flatMap e.welcome := by
      simp only [List.mem_flatMap, hsame]
    refine Option.ext fun m => ?_
    rw [Message.find?_eq_some_iff fun m hm m' hm' => hid m (hsent m hm) m' (hsent m' hm'),
      Message.find?_eq_some_iff fun m hm m' hm' =>
        hid m (hsent m ((hsame' m).mp hm)) m' (hsent m' ((hsame' m').mp hm')), hsame']

end Engine

/-- A contact has rows for the same messages in stores that have the same messages, and in which
it has the same groups. -/
lemma Memory.Consistent.isSome_delivery_congr {s s' : Memory} (hs : s.Consistent)
    (hs' : s'.Consistent) {c : ContactId} {r r' : ContactRecord} (hr : s.contacts[c]? = some r)
    (hr' : s'.contacts[c]? = some r') (hgroups : r.groups = r'.groups) {id : MessageId}
    (hmessages : s.messages[id]? = s'.messages[id]?) :
    (s.delivery c id).isSome ↔ (s'.delivery c id).isSome := by
  rw [hs.visible, hs'.visible, hmessages]
  simp only [Advertises, hr, hr', Option.some.injEq, exists_eq_left', hgroups]

/-! ## Either store -/

namespace Topic

/-- What stands in a store for a content: in a table, transport properties are bytes. -/
abbrev Column : Backend → Topic → Type
  | _, subscriptions => List Group
  | .memory, transports => Properties
  | .relational, transports => Bytes

/-- A content as it stands in a store. -/
def column : (backend : Backend) → (topic : Topic) → topic.Content → topic.Column backend
  | .memory, subscriptions, groups => groups
  | .relational, subscriptions, groups => groups
  | .memory, transports, properties => properties
  | .relational, transports, properties => encodeProperties properties

end Topic

namespace Backend

/-- What a store has of a contact about a topic, and its timestamp. -/
def record : (backend : Backend) → (topic : Topic) → backend.Data → ContactId →
    Option (topic.Column backend × Int64)
  | .memory, .subscriptions, s, c =>
    ((show Memory from s).contacts[c]?).map fun r => (Group.ofTable r.groups, r.groupsAt)
  | .memory, .transports, s, c =>
    ((show Memory from s).contacts[c]?).map fun r => (r.transports, r.transportsAt)
  | .relational, .subscriptions, s, c =>
    ((show Relational from s).contacts[c]?).map fun row =>
      ((show Relational from s).contactSubscriptions c, row.subscriptionsAt)
  | .relational, .transports, s, c =>
    ((show Relational from s).contacts[c]?).map fun row => (row.transports, row.transportsAt)

variable {backend : Backend} {topic : Topic} {c : ContactId}

lemma Twin.record {e : Engine backend.Data} {t : Engine Memory} (h : backend.Twin e t) :
    backend.record topic e.store c = (t.store.contacts[c]?).map fun r =>
      (topic.column backend (topic.known r).1, (topic.known r).2) := by
  cases backend with
  | memory =>
    obtain ⟨rfl, -⟩ := h
    cases topic <;> rfl
  | relational =>
    have hmirrors := Engine.Mirrors.store h
    have hcontact := hmirrors.contact c
    cases topic with
    | subscriptions =>
      show ((show Relational from e.store).contacts[c]?).map _ = _
      rw [hcontact]
      cases hr : t.store.contacts[c]? with
      | none => rfl
      | some r =>
        refine congrArg some (Prod.ext ((hmirrors.contactSubscriptions c).trans ?_) rfl)
        rw [Memory.contactSubscriptions, hr]
        rfl
    | transports =>
      show ((show Relational from e.store).contacts[c]?).map _ = _
      rw [hcontact, Option.map_map]
      rfl

/-- A history of what a contact tells and of messages that arrive leaves the latest version of
what was told, if it is newer than what was known, and else what was known. What the contact
tells is answered by whether it is newer than all before it. A history with the same versions
and the same messages, in whichever order and however often, leaves the same version and rows
for the same messages. -/
theorem last_writer {e : Engine backend.Data} (he : backend.Reaches e)
    (hc : e.view (Store.containsContact c) = .ok true) {history : List Step}
    (hincoming : ∀ step ∈ history, step.Incoming c topic)
    (hagree : ∀ v ∈ Step.versions c topic history, ∀ w ∈ Step.versions c topic history,
      v.2 = w.2 → topic.settled v = topic.settled w) :
    let versions := Step.versions c topic history
    let e' := e.run history
    ∃ content timestamp, backend.record topic e.store c = some (content, timestamp) ∧
      ((∀ v ∈ versions, v.2 ≤ timestamp) →
        backend.record topic e'.store c = some (content, timestamp)) ∧
      (∀ w ∈ versions, timestamp < w.2 → (∀ v ∈ versions, v.2 ≤ w.2) →
        backend.record topic e'.store c = some (topic.column backend (topic.settled w).1, w.2)) ∧
      (∀ before v sink after, history = before ++ .perform (topic.receive c v) sink :: after →
        ((topic.receive c v).act.runOn (e.run before) sink).1 = .ok (decide
          (timestamp < v.2 ∧ ∀ w ∈ Step.versions c topic before, w.2 < v.2))) ∧
      ∀ history', (∀ step ∈ history', step.Incoming c topic) →
        (∀ v, v ∈ Step.versions c topic history' ↔ v ∈ versions) →
        Step.SameArrivals history history' →
        backend.record topic (e.run history').store c = backend.record topic e'.store c ∧
          ∀ id, (∃ d, (e.run history').view (Store.status c id) = .ok (some d)) ↔
            ∃ d, e'.view (Store.status c id) = .ok (some d) := by
  intro versions e'
  obtain ⟨t, htwin⟩ := Twin.of_reaches he
  obtain ⟨r, hr⟩ := (Table.mem_iff_exists _ _).mp (htwin.mem_contacts hc)
  have hafter {history : List Step} (h : ∀ step ∈ history, step.Incoming c topic) :
      (t.run history).store.contacts[c]? =
        some (r.hearAll topic (Step.versions c topic history)) := by
    rw [Engine.contact_run h, hr, Option.map_some]
  have hrecord {history : List Step} (h : ∀ step ∈ history, step.Incoming c topic) :
      backend.record topic (e.run history).store c =
        let known := topic.known (r.hearAll topic (Step.versions c topic history))
        some (topic.column backend known.1, known.2) := by
    rw [(htwin.run history).record, hafter h, Option.map_some]
  refine ⟨topic.column backend (topic.known r).1, (topic.known r).2, ?_, fun hold => ?_,
    fun w hw hnew hlatest => ?_, fun before v sink after hsplit => ?_,
    fun history' hincoming' hversions harrivals => ⟨?_, fun id => ?_⟩⟩
  · rw [htwin.record, hr, Option.map_some]
  · rw [hrecord hincoming, Topic.known_hearAll_of_old r hold]
  · rw [hrecord hincoming, Topic.known_hearAll_of_latest r hagree hw hnew hlatest]
    dsimp only
    rw [Topic.snd_settled]
  · subst hsplit
    obtain ⟨hbefore, hstep⟩ := List.forall_mem_append.mp hincoming
    have hlimit := (hstep _ List.mem_cons_self).excess?_eq_none (Step.heard_receive sink v)
    have hplain : (topic.receive c v).plain := by cases topic <;> rfl
    rw [((htwin.run before).plain _ hplain sink).1,
      Topic.answer_receive_eq (hafter hbefore) hlimit sink]
    exact congrArg Except.ok (decide_eq_decide.mpr (Topic.known_hearAll_lt_iff r _ v.2))
  · rw [hrecord hincoming', hrecord hincoming, Topic.known_hearAll_congr r hagree hversions]
  · rw [(htwin.run history').status, (htwin.run history).status]
    simp only [Except.ok.injEq, ← Option.isSome_iff_exists]
    refine (htwin.run history').consistent.isSome_delivery_congr (htwin.run history).consistent
      (hafter hincoming') (hafter hincoming) ?_ ?_
    · have hknown := congrArg Prod.fst
        (Topic.known_hearAll_congr r hagree hversions .subscriptions)
      have htables := congrArg Group.toTable hknown
      simp only [Topic.known, Topic.toTable_ofTable] at htables
      exact htables
    · rw [Engine.messages_run hincoming', Engine.messages_run hincoming,
        Engine.find?_welcome_congr harrivals]

end Backend

namespace Sample

/-- A contact joins the group with a late message, and what it told before comes after. -/
def late : List Step := [share [group] 3, .perform (.addLocal message) {}, share [] 2]

/-- What the contact tells comes in order, and some of it again. -/
def orderly : List Step :=
  [share [] 2, share [group] 3, share [] 2, .perform (.addLocal message) {}]

end Sample

/-- Two orders of what a contact tells, and a message in between. -/
theorem Backend.last_writer_late :
    let e := (Backend.relational.start {} 0).run
      [.perform (.subscribe Sample.group) {}, .perform (.addContact ∅) {}]
    Backend.relational.record .subscriptions (e.run Sample.late).store Sample.contact =
        some ([Sample.group], 3) ∧
      Backend.relational.record .subscriptions (e.run Sample.orderly).store Sample.contact =
        Backend.relational.record .subscriptions (e.run Sample.late).store Sample.contact ∧
      ∃ d, (e.run Sample.orderly).view (Store.status Sample.contact Sample.message.id) =
        .ok (some d) := by
  intro e
  have hc : e.view (Store.containsContact Sample.contact) = .ok true :=
    Sample.eq_ok_of_toOption (by decide +kernel)
  have htold (groups : List Group) (timestamp : Int64)
      (hlimit : (Packet.subscriptions ⟨groups, timestamp⟩).excess? = none) :
      (Sample.share groups timestamp).Incoming Sample.contact .subscriptions :=
    @Step.Incoming.told Sample.contact .subscriptions (groups, timestamp) {} hlimit
  have hlate : ∀ step ∈ Sample.late, step.Incoming Sample.contact .subscriptions := by
    simp only [Sample.late, List.forall_mem_cons]
    exact ⟨htold _ _ (by decide), .posted _ _, htold _ _ (by decide), nofun⟩
  have horderly : ∀ step ∈ Sample.orderly, step.Incoming Sample.contact .subscriptions := by
    simp only [Sample.orderly, List.forall_mem_cons]
    exact ⟨htold _ _ (by decide), htold _ _ (by decide), htold _ _ (by decide), .posted _ _, nofun⟩
  have hversions : Step.versions Sample.contact .subscriptions Sample.late =
      [([Sample.group], 3), ([], 2)] := rfl
  have hversions' : Step.versions Sample.contact .subscriptions Sample.orderly =
      [([], 2), ([Sample.group], 3), ([], 2)] := rfl
  have hagree : ∀ v ∈ Step.versions Sample.contact .subscriptions Sample.late,
      ∀ w ∈ Step.versions Sample.contact .subscriptions Sample.late,
        v.2 = w.2 → Topic.subscriptions.settled v = Topic.subscriptions.settled w := by
    rw [hversions]
    simp
  have hsameversions (v : Topic.subscriptions.Version) :
      v ∈ Step.versions Sample.contact .subscriptions Sample.orderly ↔
        v ∈ Step.versions Sample.contact .subscriptions Sample.late := by
    rw [hversions, hversions']
    simp [or_comm]
  have hbefore : Backend.relational.record .subscriptions e.store Sample.contact =
      some ([], 0) := by decide +kernel
  have hrow : (e.run Sample.late).view (Store.status Sample.contact Sample.message.id) =
      .ok (some ⟨.new, true⟩) := Sample.eq_ok_of_toOption (by decide +kernel)
  obtain ⟨content, timestamp, hrecord, -, hlatest, -, horder⟩ :=
    @last_writer .relational .subscriptions Sample.contact e ⟨{}, 0, _, rfl⟩ hc Sample.late hlate
      hagree
  rw [hbefore] at hrecord
  obtain ⟨rfl, rfl⟩ := Prod.mk.inj (Option.some.inj hrecord)
  obtain ⟨hsame, hrows⟩ := horder Sample.orderly horderly hsameversions (.inl rfl)
  refine ⟨?_, hsame, (hrows _).mpr ⟨_, hrow⟩⟩
  refine hlatest ([Sample.group], 3) ?_ (by decide) fun v hv => ?_
  · rw [hversions]
    exact List.mem_cons_self
  · rw [hversions] at hv
    rcases List.mem_cons.mp hv with rfl | hv
    · exact Int64.le_refl _
    · rw [List.mem_singleton.mp hv]
      decide

end MessageSync
