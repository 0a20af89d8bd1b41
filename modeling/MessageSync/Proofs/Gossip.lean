import MessageSync.Proofs.Topic.Backend

/-!
# Gossip between two peers

One peer tells another what groups it is subscribed to and how it can be reached. A network
hands over the updates as often as it likes, in any order, late or never. If whatever the one
changes gets a later timestamp than all that it told before, then an update that was written
since the last change leaves the other with what is so now (`Gossip.converges`).

The timestamps order the updates (`Gossip.Sound.told`), and what the other peer knows is one
of them (`Gossip.Sound.known`). Of two updates with the same timestamp the second one is
ignored, so that a clock that does not go back is not enough (`Gossip.not_converges`).
-/

namespace MessageSync

/-! ## Two peers -/

/-- A peer that tells and a peer that listens. -/
structure Gossip (backend backend' : Backend) where
  teller : Engine backend.Data
  listener : Engine backend'.Data
  /-- The updates that the teller wrote for the listener. -/
  told : Topic → List Bytes
  /-- Those that it wrote since a topic last changed; none before it did. -/
  news : Topic → Option (List Bytes)

namespace Gossip

variable {backend backend' : Backend}

/-- Two peers with empty stores. -/
def start (config config' : SyncConfig) (now now' : Int64) : Gossip backend backend' :=
  ⟨backend.start config now, backend'.start config' now', fun _ => [], fun _ => none⟩

/-- The peers after a step of the teller, for which the listener is contact `there`. -/
def tell (x : Gossip backend backend') (there : ContactId) (step : Step) :
    Gossip backend backend' where
  teller := x.teller.step step
  listener := x.listener
  told topic := x.told topic ++ step.told x.teller there topic
  news topic :=
    if step.changes x.teller topic then some []
    else (x.news topic).map (· ++ step.told x.teller there topic)

/-- The peers after a step of the listener. -/
def hear (x : Gossip backend backend') (step : Step) : Gossip backend backend' :=
  { x with listener := x.listener.step step }

/-- What two peers come to if each step of the teller is timely. The listener is contact `there`
of the teller, which is contact `here` of the listener. -/
inductive Reachable (timely : Gossip backend backend' → Step → Prop) (there here : ContactId) :
    Gossip backend backend' → Prop
  | start (config config' : SyncConfig) (now now' : Int64) :
    Reachable timely there here (start config config' now now')
  | tell {x : Gossip backend backend'} (h : Reachable timely there here x) (step : Step)
    (hstep : timely x step) : Reachable timely there here (x.tell there step)
  | hear {x : Gossip backend backend'} (h : Reachable timely there here x) (step : Step)
    (hstep : step.Listens here x.told) : Reachable timely there here (x.hear step)

/-- Whether the clock of the teller reads a positive time, and does not go back. -/
def Forward (x : Gossip backend backend') (step : Step) : Prop :=
  0 < x.teller.now ∧ ∀ now, step = .setClock now → x.teller.now ≤ now

/-- Whether the clock of the teller, where it changes what it tells, reads a positive time that
is later than the timestamps of the updates that it told before. -/
def Ahead (x : Gossip backend backend') (step : Step) : Prop :=
  ∀ topic : Topic, step.changes x.teller topic → 0 < x.teller.now ∧
    ∀ bytes ∈ x.told topic, ∀ v, Packet.decode bytes = .ok (topic.packet v) → v.2 < x.teller.now

/-! ## What holds of two peers -/

variable {there here : ContactId} {x : Gossip backend backend'} {topic : Topic}
  {t t' : Engine Memory}

/-- What holds of two peers, one of which has the twin `t` and the other one `t'`. -/
structure Sound (here : ContactId) (topic : Topic) (x : Gossip backend backend')
    (t t' : Engine Memory) : Prop where
  teller : backend.Twin x.teller t
  listener : backend'.Twin x.listener t'
  /-- What was told is so, or has an earlier timestamp. -/
  told : ∀ bytes ∈ x.told topic, ∀ v, Packet.decode bytes = .ok (topic.packet v) →
    bytes = (topic.packet v).encode ∧ topic.settled v = v ∧
      (topic.Current backend t.store v ∨ v.2 < (topic.own t.store).2)
  /-- What was told since the last change is so. -/
  news : ∀ news, x.news topic = some news → 0 < (topic.own t.store).2 ∧ ∀ bytes ∈ news,
    bytes ∈ x.told topic ∧
      ∀ v, Packet.decode bytes = .ok (topic.packet v) → topic.Current backend t.store v
  /-- What is known was told, unless nothing is known yet. -/
  known : ∀ r, t'.store.contacts[here]? = some r → (topic.known r).2 = 0 ∨
    ∃ bytes ∈ x.told topic, Packet.decode bytes = .ok (topic.packet (topic.known r))

namespace Sound

lemma start (here : ContactId) (topic : Topic) (config config' : SyncConfig) (now now' : Int64) :
    Sound here topic (start config config' now now' : Gossip backend backend')
      (.start Memory.empty config now) (.start Memory.empty config' now') where
  teller := Backend.Twin.start backend config now
  listener := Backend.Twin.start backend' config' now'
  told := by
    intro bytes hbytes
    cases hbytes
  news := by
    intro news hnews
    cases hnews
  known := by
    intro r hr
    simp [Engine.start, Memory.empty] at hr

/-- What is told in a step is so. -/
lemma current_of_mem_told (h : Sound here topic x t t') {step : Step} {bytes : Bytes}
    (hbytes : bytes ∈ step.told x.teller there topic) {v : topic.Version}
    (hdecode : Packet.decode bytes = .ok (topic.packet v)) :
    bytes = (topic.packet v).encode ∧ topic.Current backend t.store v := by
  obtain ⟨w, hcurrent, rfl⟩ := h.teller.of_mem_told hbytes
  obtain rfl := Topic.eq_of_decode hdecode
  exact ⟨rfl, hcurrent⟩

/-- A step by which the teller does not change what it tells. -/
lemma tell_of_same (h : Sound here topic x t t') {step : Step}
    (hsame : step.changes x.teller topic = false)
    (hown : topic.own (t.step step).store = topic.own t.store) :
    Sound here topic (x.tell there step) (t.step step) t' where
  teller := h.teller.step step
  listener := h.listener
  told := by
    intro bytes hbytes v hdecode
    unfold Topic.Current
    rw [hown]
    rcases List.mem_append.mp hbytes with hold | hnew
    · exact h.told bytes hold v hdecode
    · obtain ⟨hencode, hcurrent⟩ := h.current_of_mem_told hnew hdecode
      exact ⟨hencode, hcurrent.settled, .inl hcurrent⟩
  news := by
    intro news hnews
    have hmap : (x.news topic).map (· ++ step.told x.teller there topic) = some news := by
      rw [← hnews]
      exact (if_neg (by rw [hsame]; exact Bool.false_ne_true)).symm
    obtain ⟨old, hold, rfl⟩ := Option.map_eq_some_iff.mp hmap
    obtain ⟨hpos, hbefore⟩ := h.news old hold
    unfold Topic.Current
    rw [hown]
    refine ⟨hpos, fun bytes hbytes => ?_⟩
    rcases List.mem_append.mp hbytes with hbytes | hbytes
    · obtain ⟨htold, hcurrent⟩ := hbefore bytes hbytes
      exact ⟨List.mem_append_left _ htold, hcurrent⟩
    · exact ⟨List.mem_append_right _ hbytes,
        fun v hdecode => (h.current_of_mem_told hbytes hdecode).2⟩
  known := by
    intro r hr
    refine (h.known r hr).imp_right ?_
    rintro ⟨bytes, hbytes, hdecode⟩
    exact ⟨bytes, List.mem_append_left _ hbytes, hdecode⟩

/-- A step by which the teller changes what it tells, ahead of all that it told. -/
lemma tell_of_changes (h : Sound here topic x t t') {step : Step} (hahead : x.Ahead step)
    (hchanges : step.changes x.teller topic = true)
    (hat : (topic.own (t.step step).store).2 = t.now) :
    Sound here topic (x.tell there step) (t.step step) t' := by
  have htold : (x.tell there step).told topic = x.told topic := by
    show x.told topic ++ step.told x.teller there topic = _
    rw [Step.told_of_changes hchanges, List.append_nil]
  obtain ⟨hpos, hbefore⟩ := hahead topic hchanges
  rw [h.teller.now] at hpos hbefore
  refine ⟨h.teller.step step, h.listener, ?_, ?_, ?_⟩
  · intro bytes hbytes v hdecode
    rw [htold] at hbytes
    obtain ⟨hencode, hsettled, -⟩ := h.told bytes hbytes v hdecode
    rw [hat]
    exact ⟨hencode, hsettled, .inr (hbefore bytes hbytes v hdecode)⟩
  · intro news hnews
    have hempty : some [] = some news := by
      rw [← hnews]
      exact (if_pos hchanges).symm
    cases hempty
    rw [hat]
    refine ⟨hpos, fun bytes hbytes => ?_⟩
    cases hbytes
  · intro r hr
    rw [htold]
    exact h.known r hr

/-- What holds of two peers holds after a step of the teller. -/
theorem tell (h : Sound here topic x t t') {step : Step} (hahead : x.Ahead step) :
    Sound here topic (x.tell there step) (t.step step) t' := by
  have htwin := h.teller.changes step topic
  rcases topic.own_step t step with ⟨hsame, hown⟩ | ⟨hchanges, hat⟩
  · exact h.tell_of_same (htwin.trans hsame) hown
  · exact h.tell_of_changes hahead (htwin.trans hchanges) hat

/-- What holds of two peers holds after a step of the listener. -/
theorem hear (h : Sound here topic x t t') {step : Step} (hlistens : step.Listens here x.told) :
    Sound here topic (x.hear step) t (t'.step step) where
  teller := h.teller
  listener := h.listener.step step
  told := h.told
  news := h.news
  known := by
    intro r hr
    rcases topic.known_step hr with ⟨r', hr', hsame⟩ | hzero | ⟨v, sink, rfl, hknown⟩
    · rw [← hsame]
      exact h.known r' hr'
    · exact .inl hzero
    · obtain ⟨bytes, hbytes, hdecode⟩ := Topic.exists_told hlistens
      obtain ⟨-, hsettled, -⟩ := h.told bytes hbytes v hdecode
      rw [hknown, hsettled]
      exact .inr ⟨bytes, hbytes, hdecode⟩

/-- What is known of a teller after it told what is so. -/
lemma known_hear (h : Sound here topic x t t') {news : List Bytes}
    (hnews : x.news topic = some news) {bytes : Bytes} (hbytes : bytes ∈ news)
    {v : topic.Version} (hdecode : Packet.decode bytes = .ok (topic.packet v))
    {r : ContactRecord} (hr : t'.store.contacts[here]? = some r) :
    topic.known (r.hear topic v) = v := by
  obtain ⟨hpos, hcurrent⟩ := h.news news hnews
  obtain ⟨htold, hcurrent⟩ := hcurrent bytes hbytes
  have hv := hcurrent v hdecode
  rw [Topic.known_hear]
  split
  · next hat =>
    rw [hv.2] at hat
    rcases h.known r hr with hzero | ⟨bytes', hbytes', hdecode'⟩
    · rw [hzero] at hat
      exact absurd hat (Int64.not_le.mpr hpos)
    · obtain ⟨-, -, hw | hlt⟩ := h.told bytes' hbytes' _ hdecode'
      · exact hv.eq hw
      · exact absurd hat (Int64.not_le.mpr hlt)
  · exact hv.settled

end Sound

/-- What holds of two peers holds in every state that they come to. -/
lemma Reachable.exists_sound (h : x.Reachable Ahead there here) (topic : Topic) :
    ∃ t t', Sound here topic x t t' := by
  induction h with
  | start config config' now now' => exact ⟨_, _, Sound.start here topic config config' now now'⟩
  | tell _ step hahead ih =>
    obtain ⟨t, t', hsound⟩ := ih
    exact ⟨_, _, hsound.tell hahead⟩
  | hear _ step hlistens ih =>
    obtain ⟨t, t', hsound⟩ := ih
    exact ⟨_, _, hsound.hear hlistens⟩

/-- If what a teller changes always gets a positive timestamp that is later than those of the
updates that it told before, then an update that it told since its last change is taken in by a
listener that has it as a contact, and afterwards the listener answers about it what it answers
of itself. -/
theorem converges (h : x.Reachable Ahead there here) {news : List Bytes}
    (hnews : x.news topic = some news) {bytes : Bytes} (hbytes : bytes ∈ news)
    {v : topic.Version} (hdecode : Packet.decode bytes = .ok (topic.packet v))
    (hcontact : x.listener.view (Store.containsContact here) = .ok true) (sink : Sink) :
    (∃ applied, ((topic.receive here v).act.runOn x.listener sink).1 = .ok applied) ∧
      x.teller.answer topic.ask = .ok v.1 ∧
      (x.listener.step (.perform (topic.receive here v) sink)).answer (topic.askAbout here) =
        .ok v.1 := by
  obtain ⟨t, t', hsound⟩ := h.exists_sound topic
  obtain ⟨-, hcurrent⟩ := hsound.news news hnews
  obtain ⟨htold, hcurrent⟩ := hcurrent bytes hbytes
  obtain ⟨hencode, -, -⟩ := hsound.told bytes htold v hdecode
  have hlimit := Packet.excess?_of_decode hdecode
  obtain ⟨r, hr⟩ : ∃ r, t'.store.contacts[here]? = some r := by
    rw [hsound.listener.containsContact here] at hcontact
    have hmem := Std.ExtTreeMap.contains_iff_mem.mp (Except.ok.inj hcontact)
    exact (Table.mem_iff_exists _ _).mp hmem
  have hplain : (topic.receive here v).plain := by cases topic <;> rfl
  refine ⟨?_, hsound.teller.answer_ask (hcurrent v hdecode), ?_⟩
  · rw [(hsound.listener.plain _ hplain sink).1]
    exact Topic.answer_receive hr hlimit sink
  · have hafter : (t'.step (.perform (topic.receive here v) sink)).store.contacts[here]? =
        some (r.hear topic v) := by
      rw [Engine.store_step, Step.log, Topic.log_receive here hlimit, Memory.changes_cons,
        Memory.changes_nil, Topic.contacts_change, Table.getElem?_modify, if_pos rfl, hr,
        Option.map_some]
    refine (hsound.listener.step _).answer_askAbout hafter ?_
    rw [hsound.known_hear hnews hbytes hdecode hr]
    rw [hencode] at hdecode
    exact Topic.load_of_decode hdecode

/-! ## Groups that are joined one after the other -/

lemma Reachable.mono {timely timely' : Gossip backend backend' → Step → Prop}
    (h : x.Reachable timely there here) (himp : ∀ y step, timely y step → timely' y step) :
    x.Reachable timely' there here := by
  induction h with
  | start config config' now now' => exact .start config config' now now'
  | tell _ step hstep ih => exact ih.tell step (himp _ step hstep)
  | hear _ step hstep ih => exact ih.hear step hstep

lemma ahead_of_same {step : Step} (h : step.changes x.teller .subscriptions = false)
    (h' : step.changes x.teller .transports = false) : x.Ahead step := by
  intro topic hchanges
  cases topic with
  | subscriptions => exact absurd hchanges (Bool.eq_false_iff.mp h)
  | transports => exact absurd hchanges (Bool.eq_false_iff.mp h')

namespace Sample

/-- The number of each peer at the other one. -/
def contact : ContactId := ⟨1⟩

def group (byte : UInt8) : Group := ⟨⟨List.replicate 32 byte, rfl⟩, "g"⟩

def meet : Step := .perform (.addContact ∅) {}

def join (byte : UInt8) : Step := .perform (.subscribe (group byte)) {}

def gossip : Step := .perform (.generateSubscriptions contact) {}

/-- One group, from time 1. -/
def one : Topic.subscriptions.Version := ([group 1], 1)

/-- Two groups, from some time. -/
def two (now : Int64) : Topic.subscriptions.Version := ([group 1, group 2], now)

/-- The teller joins a group and tells so, and the listener hears it. -/
def informed : Gossip .memory .relational :=
  ((((start {} {} 1 1).tell contact meet).hear meet).tell contact (join 1) |>.tell contact gossip)
    |>.hear (.perform (Topic.subscriptions.receive contact one) {})

/-- The teller joins another group at the same time and tells so. -/
def hasty : Gossip .memory .relational :=
  (informed.tell contact (join 2)).tell contact gossip

/-- The teller joins another group later and tells so. -/
def patient : Gossip .memory .relational :=
  ((informed.tell contact (.setClock 2)).tell contact (join 2)).tell contact gossip

lemma decode_one : Packet.decode (Topic.subscriptions.packet one).encode =
    .ok (Topic.subscriptions.packet one) := by
  decide +kernel

lemma told_informed :
    informed.told .subscriptions = [(Topic.subscriptions.packet one).encode] := by
  decide +kernel

lemma forward_perform {x : Gossip backend backend'} (hnow : 0 < x.teller.now) {α : Type}
    (operation : Operation α) (sink : Sink) : x.Forward (.perform operation sink) :=
  ⟨hnow, fun _ h => by cases h⟩

/-- Up to here the clock goes forward, and is ahead. -/
lemma reachable_informed :
    informed.Reachable (fun x step => x.Forward step ∧ x.Ahead step) contact contact := by
  have hstart : (start {} {} 1 1 : Gossip .memory .relational).Reachable
      (fun x step => x.Forward step ∧ x.Ahead step) contact contact := .start {} {} 1 1
  have hmeet := hstart.tell meet
    ⟨forward_perform (by decide +kernel) _ _, ahead_of_same rfl rfl⟩
  have hjoin := (hmeet.hear meet trivial).tell (join 1)
    ⟨forward_perform (by decide +kernel) _ _, fun topic _ =>
      ⟨by decide +kernel, fun bytes hbytes => by cases topic <;> cases hbytes⟩⟩
  have hgossip := hjoin.tell gossip
    ⟨forward_perform (by decide +kernel) _ _, ahead_of_same rfl rfl⟩
  refine hgossip.hear _ fun _ => ⟨(Topic.subscriptions.packet one).encode, ?_, decode_one⟩
  have htold : (Topic.subscriptions.packet one).encode ∈ informed.told .subscriptions := by
    rw [told_informed]
    exact List.mem_singleton.mpr rfl
  exact htold

/-- At the same time the clock goes forward, but is not ahead. -/
lemma reachable_hasty : hasty.Reachable Forward contact contact := by
  have hinformed := reachable_informed.mono fun _ _ h => h.1
  exact (hinformed.tell (join 2) (forward_perform (by decide +kernel) _ _)).tell gossip
    (forward_perform (by decide +kernel) _ _)

/-- At a later time the clock is ahead of what was told. -/
lemma reachable_patient : patient.Reachable Ahead contact contact := by
  have hinformed := reachable_informed.mono fun _ _ h => h.2
  have hclock := hinformed.tell (.setClock 2) (ahead_of_same rfl rfl)
  refine (hclock.tell (join 2) fun topic hchanges => ⟨by decide +kernel, ?_⟩).tell gossip
    (ahead_of_same rfl rfl)
  intro bytes hbytes v hdecode
  cases topic with
  | transports => exact absurd hchanges Bool.false_ne_true
  | subscriptions =>
    have htold : (informed.tell contact (.setClock 2)).told .subscriptions =
        [(Topic.subscriptions.packet one).encode] := by
      decide +kernel
    rw [htold, List.mem_singleton] at hbytes
    rw [hbytes] at hdecode
    rw [Topic.eq_of_decode hdecode]
    decide +kernel

end Sample

/-- A listener that hears of two groups, which the teller joined one after the other. -/
theorem converges_patient :
    Sample.patient.Reachable Ahead Sample.contact Sample.contact ∧
      Sample.patient.teller.answer .subscriptions = .ok [Sample.group 1, Sample.group 2] ∧
      (Sample.patient.listener.step
        (.perform (Topic.subscriptions.receive Sample.contact (Sample.two 2)) {})).answer
          (.contactSubscriptions Sample.contact) = .ok [Sample.group 1, Sample.group 2] := by
  have hnews : Sample.patient.news .subscriptions =
      some [(Topic.subscriptions.packet (Sample.two 2)).encode] := by
    decide +kernel
  have hdecode : Packet.decode (Topic.subscriptions.packet (Sample.two 2)).encode =
      .ok (Topic.subscriptions.packet (Sample.two 2)) := by
    decide +kernel
  obtain ⟨-, hteller, hlistener⟩ := Gossip.converges Sample.reachable_patient hnews
    (List.mem_singleton.mpr rfl) hdecode (by decide +kernel) {}
  exact ⟨Sample.reachable_patient, hteller, hlistener⟩

/-- A listener can be left behind by a teller whose clock reads positive times and does not go
back. -/
theorem not_converges :
    ¬ ∀ (backend backend' : Backend) (there here : ContactId) (x : Gossip backend backend')
      (topic : Topic) (news : List Bytes) (bytes : Bytes) (v : topic.Version) (sink : Sink),
      x.Reachable Forward there here → x.news topic = some news → bytes ∈ news →
        Packet.decode bytes = .ok (topic.packet v) →
          x.listener.view (Store.containsContact here) = .ok true →
            (x.listener.step (.perform (topic.receive here v) sink)).answer (topic.askAbout here) =
              x.teller.answer topic.ask := by
  intro h
  have hnews : Sample.hasty.news .subscriptions =
      some [(Topic.subscriptions.packet (Sample.two 1)).encode] := by
    decide +kernel
  have hsame := h .memory .relational Sample.contact Sample.contact Sample.hasty .subscriptions _ _
    (Sample.two 1) {} Sample.reachable_hasty hnews (List.mem_singleton.mpr rfl)
    (by decide +kernel) (by decide +kernel)
  have hlistener : ((Sample.hasty.listener.step
      (.perform (Topic.subscriptions.receive Sample.contact (Sample.two 1)) {})).answer
        (Topic.subscriptions.askAbout Sample.contact)).toOption = some [Sample.group 1] := by
    decide +kernel
  have hteller : (Sample.hasty.teller.answer Topic.subscriptions.ask).toOption =
      some [Sample.group 1, Sample.group 2] := by
    decide +kernel
  rw [hsame, hteller] at hlistener
  exact absurd hlistener (by decide)

end Gossip

end MessageSync
