import MessageSync.Proofs.Engine.Backend
import MessageSync.Proofs.Engine.SameFor
import MessageSync.Proofs.OutstandingBatches
import MessageSync.Proofs.Store.Agreement

/-!
# What a contact can learn

Two engines agree on a contact if their stores do, and their configurations and clocks are the
same (`Backend.Agree`). They may differ in the messages of groups that the contact does not
share, and in all that is kept about other contacts. Whatever is then asked of both on behalf of
the contact, they give the same answer, write the same bytes and agree on the contact again
(`Backend.same_for_contact`). So nothing that the contact is sent depends on such messages
(`Backend.Agree.written`).
-/

namespace MessageSync

/-- Whether stores of a kind agree on a contact. -/
def Backend.AgreeOn : (backend : Backend) → ContactId → backend.Data → backend.Data → Prop
  | .memory, c, s, t => Memory.AgreeOn c s t
  | .relational, c, s, t => Relational.AgreeOn c s t

/-- Engines that have the same configuration and clock, and agree on a contact. -/
structure Backend.Agree (backend : Backend) (c : ContactId) (e e' : Engine backend.Data) :
    Prop where
  config : e.config = e'.config
  now : e.now = e'.now
  store : backend.AgreeOn c e.store e'.store

/-! ## Twins -/

namespace Backend

variable {backend : Backend} {c : ContactId}

variable {e e' : Engine backend.Data} {t t' : Engine Memory}

/-- The twins of engines that agree on a contact are the same for it. -/
lemma Agree.sameFor (h : backend.Agree c e e') (ht : backend.Twin e t) (ht' : backend.Twin e' t')
    (hopen : t.openOffers = t'.openOffers) : Engine.SameFor c t t' where
  store := by
    cases backend with
    | memory =>
      obtain ⟨rfl, -⟩ := ht
      obtain ⟨rfl, -⟩ := ht'
      exact Memory.AgreeOn.sameFor h.store
    | relational =>
      exact Relational.AgreeOn.sameFor h.store (Engine.Mirrors.store ht) (Engine.Mirrors.store ht')
  left := ht.consistent
  right := ht'.consistent
  config := by rw [← ht.config, ← ht'.config, h.config]
  now := by rw [← ht.now, ← ht'.now, h.now]
  openOffers := hopen

end Backend

/-! ## Transport properties -/

lemma Engine.shows_generateTransports {σ : Type} [Store σ] {c : ContactId} {known : σ → Bool}
    {transports : σ → Except StoreError (Properties × Int64)}
    (hknown : ∀ s, Store.containsContact c s = (.ok (known s), s))
    (htransports : ∀ s, Store.localTransports s = (transports s, s)) {e e' : Engine σ}
    (hcontact : known e.store = known e'.store)
    (htold : transports e.store = transports e'.store) (sink : Sink) :
    Operation.Shows ((generateTransports c).runOn e sink) ((generateTransports c).runOn e' sink) := by
  rw [generateTransports_runOn hknown htransports, generateTransports_runOn hknown htransports,
    hcontact, htold]
  split
  · split
    · exact ⟨rfl, rfl, rfl⟩
    · next told _ =>
      rcases sink.send (.transports ⟨told.1, told.2⟩) with ⟨_ | _, sink'⟩ <;> exact ⟨rfl, rfl, rfl⟩
  · exact ⟨rfl, rfl, rfl⟩

/-! ## Stores after an operation -/

lemma Memory.AgreeOn.perform {c : ContactId} {e e' : Engine Memory}
    (h : Memory.AgreeOn c e.store e'.store) (hsame : Engine.SameFor c e e') {α : Type}
    {operation : Operation α} (hc : operation.talksTo = some c) (sink : Sink) :
    Memory.AgreeOn c (operation.act.runOn e sink).2.engine.store
      (operation.act.runOn e' sink).2.engine.store := by
  rw [operation.engine_runOn, operation.engine_runOn, ← Operation.log_same hsame hc]
  exact h.changes fun x hx => Operation.of_mem_log hc hx

lemma Relational.AgreeOn.perform {c : ContactId} {e e' : Engine Relational} {t t' : Engine Memory}
    (h : Relational.AgreeOn c e.store e'.store) (ht : e.Mirrors t) (ht' : e'.Mirrors t')
    (hsame : Engine.SameFor c t t') {α : Type} {operation : Operation α}
    (hc : operation.talksTo = some c) (sink : Sink) :
    Relational.AgreeOn c (operation.act.runOn e sink).2.engine.store
      (operation.act.runOn e' sink).2.engine.store := by
  have hspares : operation.sparesSecrets := by
    cases operation with
    | removeContact _ | addSecrets _ | rotateSecret _ _ _ | removeSecretsBefore _ _ _
    | nextOutgoing _ | acceptIncoming _ _ => cases hc
    | _ => rfl
  have hlog (x : Change) (hx : x ∈ operation.log t sink) : x.Of c := Operation.of_mem_log hc hx
  have hmirrors := (operation.mirrors ht sink).store
  have hmirrors' := (operation.mirrors ht' sink).store
  rw [operation.engine_runOn] at hmirrors hmirrors'
  rw [← Operation.log_same hsame hc] at hmirrors'
  exact h.of_sameFor ht.store ht'.store hmirrors hmirrors'
    (Memory.exists_changes_of hlog t.store) (Memory.exists_changes_of hlog t'.store)
    (operation.within Relational.sparing hspares ⟨e, [], sink⟩)
    (operation.within Relational.sparing hspares ⟨e', [], sink⟩) (hsame.store.changes hlog)

/-! ## Engines that agree -/

namespace Backend.Agree

variable {backend : Backend} {c : ContactId} {e e' : Engine backend.Data}

lemma shows_generateTransports (h : backend.Agree c e e') (sink : Sink) :
    Operation.Shows ((Engine.generateTransports c).runOn e sink)
      ((Engine.generateTransports c).runOn e' sink) := by
  cases backend with
  | memory =>
    have hstore : Memory.AgreeOn c e.store e'.store := h.store
    refine Engine.shows_generateTransports (fun _ => rfl) (fun _ => rfl) ?_ ?_ sink
    · rw [Std.ExtTreeMap.contains_eq_isSome_getElem?, Std.ExtTreeMap.contains_eq_isSome_getElem?,
        hstore.record]
    · exact congrArg Except.ok (Prod.ext hstore.transports hstore.transportsAt)
  | relational =>
    have hstore : Relational.AgreeOn c e.store e'.store := h.store
    refine Engine.shows_generateTransports (fun _ => rfl) (fun _ => rfl) ?_ ?_ sink
    · rw [Std.ExtTreeMap.contains_eq_isSome_getElem?, Std.ExtTreeMap.contains_eq_isSome_getElem?,
        hstore.record]
    · unfold Relational.localTransports
      rw [hstore.transports, hstore.transportsAt]

variable (h : backend.Agree c e e') (he : backend.Reaches e) (he' : backend.Reaches e')
include h he he'

/-- On behalf of the contact, both engines give the same answer, report the same events and write
the same bytes. -/
lemma shows {α : Type} {operation : Operation α} (hc : operation.talksTo = some c) (sink : Sink) :
    Operation.Shows (operation.act.runOn e sink) (operation.act.runOn e' sink) := by
  obtain ⟨t, ht, hopen⟩ := he.exists_twin
  obtain ⟨t', ht', hopen'⟩ := he'.exists_twin
  have hsame := h.sameFor ht ht' (hopen.trans hopen'.symm)
  by_cases hplain : operation.plain
  · obtain ⟨hanswer, hevents, hsink⟩ := ht.plain operation hplain sink
    obtain ⟨hanswer', hevents', hsink'⟩ := ht'.plain operation hplain sink
    have htwins := Operation.same_runOn hsame hc hplain sink
    exact ⟨(hanswer.trans htwins.1).trans hanswer'.symm,
      (hevents.trans htwins.2.1).trans hevents'.symm, (hsink.trans htwins.2.2).trans hsink'.symm⟩
  · -- the one operation of these that reads encoded properties
    cases operation with
    | generateTransports c' =>
      obtain rfl := Option.some.inj hc
      exact h.shows_generateTransports sink
    | _ => first | exact absurd rfl hplain | cases hc

/-- After an operation on behalf of the contact, the engines agree on it again. -/
lemma perform {α : Type} {operation : Operation α} (hc : operation.talksTo = some c) (sink : Sink) :
    backend.Agree c (operation.act.runOn e sink).2.engine
      (operation.act.runOn e' sink).2.engine := by
  obtain ⟨t, ht, hopen⟩ := he.exists_twin
  obtain ⟨t', ht', hopen'⟩ := he'.exists_twin
  have hsame := h.sameFor ht ht' (hopen.trans hopen'.symm)
  have hafter := ht.step (.perform operation sink)
  have hafter' := ht'.step (.perform operation sink)
  have hkept (u : Engine Memory) : (u.step (.perform operation sink)).config = u.config ∧
      (u.step (.perform operation sink)).now = u.now := by
    show (operation.act.runOn u sink).2.engine.config = _ ∧
      (operation.act.runOn u sink).2.engine.now = _
    rw [operation.engine_runOn]
    exact ⟨rfl, rfl⟩
  refine ⟨?_, ?_, ?_⟩
  · exact hafter.config.trans
      (by rw [(hkept t).1, hsame.config, ← (hkept t').1, ← hafter'.config]; rfl)
  · exact hafter.now.trans (by rw [(hkept t).2, hsame.now, ← (hkept t').2, ← hafter'.now]; rfl)
  · cases backend with
    | memory =>
      obtain ⟨rfl, -⟩ := ht
      obtain ⟨rfl, -⟩ := ht'
      exact Memory.AgreeOn.perform h.store hsame hc sink
    | relational => exact Relational.AgreeOn.perform h.store ht ht' hsame hc sink

end Backend.Agree

/-- Of engines that agree on a contact, in states that they come to, and whatever is asked of
both on behalf of the contact: they give the same answer, report the same events and write the
same bytes, and they agree on the contact again. -/
theorem Backend.same_for_contact {backend : Backend} {c : ContactId}
    {e e' : Engine backend.Data} (he : backend.Reaches e) (he' : backend.Reaches e')
    (h : backend.Agree c e e') {α : Type} (operation : Operation α)
    (hc : operation.talksTo = some c) (sink : Sink) :
    (operation.act.runOn e sink).1 = (operation.act.runOn e' sink).1 ∧
      (operation.act.runOn e sink).2.events = (operation.act.runOn e' sink).2.events ∧
      (operation.act.runOn e sink).2.sink = (operation.act.runOn e' sink).2.sink ∧
      backend.Agree c (operation.act.runOn e sink).2.engine
        (operation.act.runOn e' sink).2.engine := by
  obtain ⟨hanswer, hevents, hsink⟩ := h.shows he he' hc sink
  exact ⟨hanswer, hevents, hsink, h.perform he he' hc sink⟩

namespace Sample

/-- A group that the contact does not share. -/
def hiddenGroup : Group := ⟨⟨List.replicate 32 4, rfl⟩, "h"⟩

def hiddenMessage : Message := ⟨⟨List.replicate 32 5, rfl⟩, hiddenGroup.id, none, 0, [7]⟩

/-- The contact offers the message of that group. -/
def offerHidden : Operation Request := .receiveOffer contact [hiddenMessage.id]

/-- The engine that could hold the message. -/
def ready : Engine Memory :=
  (Engine.start Memory.empty {} 0).run (opening ++ [.perform (.subscribe hiddenGroup) {}])

/-- The engine that holds it. -/
def holding : Engine Memory := ready.step (.perform (.addLocal hiddenMessage) {})

lemma not_advertises_hidden : ¬ ready.store.Advertises contact hiddenGroup.id := by
  have hgroups : (ready.store.contacts[contact]?).all (fun r => !r.groups.contains hiddenGroup.id) := by
    decide +kernel
  rintro ⟨r, hr, hg⟩
  rw [hr, Option.all_some, Std.ExtTreeMap.contains_iff_mem.mpr hg] at hgroups
  cases hgroups

lemma agree_hidden : Backend.memory.Agree contact holding ready where
  config := rfl
  now := rfl
  store := by
    have hstore : holding.store = ready.store.accept hiddenMessage none := by
      show ((Operation.addLocal hiddenMessage).act.runOn ready {}).2.engine.store = _
      rw [Operation.engine_runOn]
      rfl
    show Memory.AgreeOn contact holding.store ready.store
    rw [hstore]
    exact Memory.AgreeOn.accept_hidden not_advertises_hidden

end Sample

/-- A contact that offers a message of a group it does not share is asked for it, whether the
message is held or not. -/
theorem Backend.same_for_contact_offer :
    Sample.holding.view (Store.containsMessage Sample.hiddenMessage.id) = .ok true ∧
      Sample.ready.view (Store.containsMessage Sample.hiddenMessage.id) = .ok false ∧
      Backend.memory.Agree Sample.contact Sample.holding Sample.ready ∧
      (Sample.offerHidden.act.runOn Sample.holding {}).1 =
        (Sample.offerHidden.act.runOn Sample.ready {}).1 ∧
      (Sample.offerHidden.act.runOn Sample.holding {}).2.sink =
        (Sample.offerHidden.act.runOn Sample.ready {}).2.sink := by
  have hready : Backend.memory.Reaches Sample.ready := ⟨{}, 0, _, rfl⟩
  have hholding : Backend.memory.Reaches Sample.holding := hready.step _
  have hheld : Sample.holding.store.messages.contains Sample.hiddenMessage.id = true := by
    decide +kernel
  have hnew : Sample.ready.store.messages.contains Sample.hiddenMessage.id = false := by
    decide +kernel
  obtain ⟨hanswer, -, hsink, -⟩ := Backend.same_for_contact hholding hready Sample.agree_hidden
    Sample.offerHidden rfl {}
  exact ⟨congrArg Except.ok hheld, congrArg Except.ok hnew, Sample.agree_hidden, hanswer, hsink⟩

/-! ## Conversations -/

/-- Whether a step is an operation that talks to a contact, or moves the clock or the gate. -/
def Step.Serves (c : ContactId) : Step → Prop
  | .perform operation _ => operation.talksTo = some c
  | .setClock _ | .setGate _ => True

/-- What is written in each operation of a history, and where. -/
def Engine.written {σ : Type} [Store σ] : Engine σ → List Step → List Sink
  | _, [] => []
  | e, .perform operation sink :: rest =>
    (operation.act.runOn e sink).2.sink :: written (e.step (.perform operation sink)) rest
  | e, step :: rest => written (e.step step) rest

namespace Backend.Agree

variable {backend : Backend} {c : ContactId} {e e' : Engine backend.Data}

lemma step (h : backend.Agree c e e') (he : backend.Reaches e) (he' : backend.Reaches e')
    {step : Step} (hstep : step.Serves c) : backend.Agree c (e.step step) (e'.step step) := by
  cases step with
  | perform operation sink => exact h.perform he he' hstep sink
  | setClock now => exact ⟨h.config, rfl, h.store⟩
  | setGate gate => exact ⟨h.config, h.now, h.store⟩

/-- In a conversation with the contact, engines that agree on it write the same from beginning
to end. -/
theorem written (h : backend.Agree c e e') (he : backend.Reaches e) (he' : backend.Reaches e')
    {history : List Step} (hhistory : ∀ step ∈ history, step.Serves c) :
    e.written history = e'.written history := by
  induction history generalizing e e' with
  | nil => rfl
  | cons first rest ih =>
    obtain ⟨hfirst, hrest⟩ := List.forall_mem_cons.mp hhistory
    have htail := ih (h.step he he' hfirst) (he.step first) (he'.step first) hrest
    cases first with
    | perform operation sink =>
      exact congrArg₂ List.cons (h.shows he he' hfirst sink).2.2 htail
    | setClock _ | setGate _ => exact htail

end Backend.Agree

end MessageSync
