import MessageSync.Proofs.Atomicity
import MessageSync.Proofs.ContactRemoval
import MessageSync.Proofs.DeliveryOrder
import MessageSync.Proofs.Engine.Parts
import MessageSync.Proofs.OutstandingRecords
import MessageSync.Proofs.Peer
import MessageSync.Proofs.Store.Concerns

/-!
# Acks that are owed

A node owes a contact an ack for each batch that it took in. It remembers the identifier until
an ack is written that has it, and however often a batch arrives in between, one ack is enough.
If the batch arrives once more after that, the ack is owed again.

So the batches that are to be acknowledged can be read off the history: those that were received
with no ack of them since (`Backend.owed_run`). An ack takes the first of them, as many as the
configuration and the writer allow, and those are gone once it is written, and not before.
-/

namespace MessageSync

namespace Step

variable {σ : Type} [Store σ]

/-- Whether a batch of a contact with this identifier is taken in by a step. -/
def Receives (c : ContactId) (b : BatchId) (e : Engine σ) : Step → Prop
  | .perform (.receiveBatch c' batch) sink => c' = c ∧ batch.id = b ∧
      ∃ stored, ((Engine.receiveBatch c' batch).runOn e sink).1 = .ok (.passed stored)
  | _ => False

/-- Whether an ack of a batch is written for a contact by a step. -/
def Settles (c : ContactId) (b : BatchId) (e : Engine σ) : Step → Prop
  | .perform (.generateAck c' writer) sink => c' = c ∧
      ∃ acked, ((Engine.generateAck c' writer).runOn e sink).1 = .ok acked ∧ b ∈ acked
  | _ => False

end Step

/-! ## Over a store in memory -/

namespace Memory

variable {s : Memory} {c c' : ContactId}

/-- What is left to be acknowledged. -/
lemma toAckOf_settle (s : Memory) (c : ContactId) (ids : List BatchId) :
    (s.removeBatchesToAck c ids).toAckOf c = (s.toAckOf c).filter (· ∉ ids) := by
  refine Table.eq_of_ordered id (ordered_toAckOf _ c) ((s.ordered_toAckOf c).filter _) fun b => ?_
  have hsettle : (⟨c, b⟩ : ContactKey BatchId) ∈ (s.removeBatchesToAck c ids).toAck ↔
      b ∉ ids ∧ (⟨c, b⟩ : ContactKey BatchId) ∈ s.toAck := mem_toAck_settle ids b
  rw [List.mem_filter, mem_toAckOf_iff, mem_toAckOf_iff, hsettle, decide_eq_true_eq, and_comm]

/-- If the first are acknowledged, those behind them are left. -/
lemma toAckOf_behind {ids : List BatchId} (h : ids <+: s.toAckOf c) :
    (s.toAckOf c).filter (· ∉ ids) = (s.toAckOf c).drop ids.length := by
  have hnodup := s.nodup_toAckOf c
  obtain ⟨rest, hrest⟩ := h
  rw [← hrest] at hnodup ⊢
  have hdisjoint := (List.nodup_append.mp hnodup).2.2
  have hnone : ids.filter (· ∉ ids) = [] := by simp
  have hall : rest.filter (· ∉ ids) = rest :=
    List.filter_eq_self.mpr fun b hb => decide_eq_true fun hmem => hdisjoint b hmem b hb rfl
  rw [List.drop_left, List.filter_append, hnone, hall, List.nil_append]

/-- What is to be acknowledged to others is left alone. -/
lemma mem_toAck_other {x : Change} (hx : x.Concerns c') (hc : c ≠ c') (b : BatchId) :
    (⟨c, b⟩ : ContactKey BatchId) ∈ (s.change x).toAck ↔
      (⟨c, b⟩ : ContactKey BatchId) ∈ s.toAck := by
  rw [Table.mem_iff_exists, Table.mem_iff_exists, toAck_change_other hx hc]

/-- An ack is owed for a batch that arrives, and for those that it was owed for before. -/
lemma mem_toAck_arrival (batch : ReceivedBatch) (b : BatchId) :
    (⟨c, b⟩ : ContactKey BatchId) ∈ (s.changes (batch.arrival c')).toAck ↔
      c' = c ∧ batch.id = b ∨ (⟨c, b⟩ : ContactKey BatchId) ∈ s.toAck := by
  have hmessages : (s.changes (batch.messages.map (.accept · (some c')))).toAck = s.toAck :=
    toAck_changes fun x hx => by
      obtain ⟨m, -, rfl⟩ := List.mem_map.mp hx
      simp [Change.parts]
  show (⟨c, b⟩ : ContactKey BatchId) ∈ (s.changes (_ ++ [_])).toAck ↔ _
  rw [changes_append]
  show (⟨c, b⟩ : ContactKey BatchId) ∈
    (s.changes (batch.messages.map (.accept · (some c')))).toAck.insert ⟨c', batch.id⟩ () ↔ _
  rw [hmessages, Std.ExtTreeMap.mem_insert, Std.LawfulEqOrd.compare_eq_iff_eq, ContactKey.mk.injEq]

end Memory

namespace Engine

variable {e : Engine Memory} {c : ContactId} {b : BatchId}

/-- A batch is taken in while the gate is open, if its contact exists. -/
lemma receiveBatch_passed_iff {batch : ReceivedBatch} {sink : Sink} :
    (∃ stored, ((receiveBatch c batch).runOn e sink).1 = .ok (.passed stored)) ↔
      e.gate = .opened ∧ c ∈ e.store.contacts := by
  rw [Act.runOn, receiveBatch, Act.throughGate_apply, storeBatch_apply]
  cases hgate : e.gate with
  | opened =>
    by_cases hc : c ∈ e.store.contacts
    · simp [hc, Except.map]
    · simp [hc, Except.map]
  | paused => simp
  | closed => simp

/-- The answer of an ack that is written is what was picked for it. -/
lemma generateAck_ok_iff {writer : IdWriter .batch} {sink : Sink} {acked : List BatchId} :
    ((generateAck c writer).runOn e sink).1 = .ok acked ↔
      c ∈ e.store.contacts ∧ (sink.send (.ack (e.pickedAcks c writer).2.ids)).1 = .ok () ∧
        acked = (e.pickedAcks c writer).1 := by
  rw [Act.runOn, generateAck_apply]
  dsimp only
  by_cases hc : c ∈ e.store.contacts
  · rw [if_pos hc, sendIds]
    dsimp only
    rw [pickedAcks]
    rcases sink.send _ with ⟨x | _, sink'⟩
    · simp
    · simp [hc, eq_comm]
  · simp [hc]

/-- What a step makes of the batches that are to be acknowledged, unless it removes the contact. -/
lemma mem_toAck_step (step : Step) (hkeeps : step.Drops c → c ∉ e.store.contacts) :
    (⟨c, b⟩ : ContactKey BatchId) ∈ (e.step step).store.toAck ↔
      step.Receives c b e ∨
        (⟨c, b⟩ : ContactKey BatchId) ∈ e.store.toAck ∧ ¬ step.Settles c b e := by
  cases step with
  | setClock _ | setGate _ => simp [Step.Receives, Step.Settles, Engine.step]
  | perform operation sink =>
    have hspared (h : .toAck ∉ operation.parts) :
        (e.store.changes (operation.log e sink)).toAck = e.store.toAck :=
      Memory.toAck_changes fun x hx hpart => h (Operation.parts_of_mem_log hx hpart)
    rw [store_step, Step.log]
    cases operation with
    | receiveBatch c' batch =>
      simp only [Step.Receives, Step.Settles, receiveBatch_passed_iff, not_false_eq_true, and_true,
        Operation.log, Memory.about]
      by_cases hgate : e.gate = .opened
      · by_cases hc : c' ∈ e.store.contacts
        · rw [if_pos hgate, if_pos hc]
          refine (Memory.mem_toAck_arrival batch b).trans ?_
          simp only [hgate, hc, and_self, and_true]
        · simp [hc]
      · simp [hgate]
    | generateAck c' writer =>
      simp only [Step.Receives, Step.Settles, generateAck_ok_iff, false_or, Operation.log,
        Memory.about, Sink.onSent]
      by_cases hc : c' ∈ e.store.contacts
      · rw [if_pos hc]
        rcases (sink.send (.ack (e.pickedAcks c' writer).2.ids)).1 with x | _
        · simp
        · dsimp only
          rw [Memory.changes_cons, Memory.changes_nil]
          by_cases hself : c' = c
          · subst hself
            rw [Memory.mem_toAck_settle]
            simp [hc, and_comm]
          · rw [Memory.mem_toAck_other (x := .settle c' _) rfl (Ne.symm hself)]
            simp [hself]
      · simp [hc]
    | removeContact c' =>
      simp only [Step.Receives, Step.Settles, false_or, not_false_eq_true, and_true, Operation.log,
        Memory.about]
      by_cases hc : c' ∈ e.store.contacts
      · have hother : c' ≠ c := fun heq => hkeeps heq (heq ▸ hc)
        rw [if_pos hc]
        show (⟨c, b⟩ : ContactKey BatchId) ∈ e.store.toAck.filter _ ↔ _
        rw [Table.mem_iff_exists, Table.mem_iff_exists, Table.getElem?_others,
          if_neg (Ne.symm hother)]
      · simp [hc]
    | _ =>
      rw [hspared (by simp [Operation.parts])]
      simp [Step.Receives, Step.Settles]

/-- A contact that is there at the end of a history was not removed on the way. -/
lemma not_drops_of_mem {step : Step} (hs : e.store.Consistent) {rest : List Step}
    (hc : c ∈ ((e.step step).run rest).store.contacts) (hdrops : step.Drops c) :
    c ∉ e.store.contacts := by
  intro hmem
  have hgone : (e.step step).store.Gone c := by
    cases step with
    | setClock _ | setGate _ => cases hdrops
    | perform operation sink =>
      cases operation with
      | removeContact c' =>
        obtain rfl : c' = c := hdrops
        rw [store_step, Step.log, Operation.log, Memory.about, if_pos hmem]
        refine ⟨?_, hs.numbered c' hmem⟩
        show c' ∉ e.store.contacts.erase c'
        simp
      | _ => cases hdrops
  have hboth := run_induction (P := fun s => s.Consistent ∧ s.Gone c) (fun _ hs => hs.1.keyed)
    (fun _ x hs hx => ⟨hs.1.change hx, hs.2.change x⟩) ⟨consistent_step hs step, hgone⟩ rest
  exact hboth.2.1 hc

/-- What is to be acknowledged to a contact that is there in the end: the batches that were taken
in and not acknowledged since, and those of the beginning that were not acknowledged at all. -/
lemma mem_toAck_run (hs : e.store.Consistent) {history : List Step}
    (hc : c ∈ (e.run history).store.contacts) :
    (⟨c, b⟩ : ContactKey BatchId) ∈ (e.run history).store.toAck ↔
      (∃ before step after, history = before ++ step :: after ∧
        step.Receives c b (e.run before) ∧
        (e.run (before ++ [step])).Always (fun e step => ¬ step.Settles c b e) after) ∨
      (⟨c, b⟩ : ContactKey BatchId) ∈ e.store.toAck ∧
        e.Always (fun e step => ¬ step.Settles c b e) history := by
  induction history generalizing e with
  | nil => simp [Engine.Always, Engine.run]
  | cons first rest ih =>
    rw [run_cons] at hc ⊢
    rw [ih (consistent_step hs first) hc, mem_toAck_step first (not_drops_of_mem hs hc)]
    constructor
    · rintro (⟨before, step, after, rfl, hreceives, halways⟩ |
        ⟨hreceives | ⟨hold, hsettles⟩, halways⟩)
      · exact .inl ⟨first :: before, step, after, rfl, hreceives, halways⟩
      · exact .inl ⟨[], first, rest, rfl, hreceives, halways⟩
      · exact .inr ⟨hold, hsettles, halways⟩
    · rintro (⟨before, step, after, hsplit, hreceives, halways⟩ | ⟨hold, hsettles, halways⟩)
      · cases before with
        | nil =>
          obtain ⟨rfl, rfl⟩ := List.cons.inj hsplit
          exact .inr ⟨.inl hreceives, halways⟩
        | cons _ before =>
          obtain ⟨rfl, rfl⟩ := List.cons.inj hsplit
          exact .inl ⟨before, step, after, rfl, hreceives, halways⟩
      · exact .inr ⟨.inr ⟨hold, hsettles⟩, halways⟩

/-- What comes of an ack that is begun anew. -/
lemma generateAck_runOn (hc : c ∈ e.store.contacts) (most : Option Nat) (sink : Sink) :
    let ids := (e.store.toAckOf c).take (min e.config.maxAckIds (AckWriter.fresh most).most)
    (generateAck c (AckWriter.fresh most)).runOn e sink =
      match sink.send (.ack ids) with
      | (.ok (), sink) =>
        (.ok ids, ⟨{ e with store := e.store.removeBatchesToAck c ids }, [], sink⟩)
      | (.error x, sink) => (.error (.sink x), ⟨e, [], sink⟩) := by
  intro ids
  let written := (AckWriter.fresh most).writeAll ((e.store.toAckOf c).take e.config.maxAckIds)
  have hpicked : written.1 = ids := by
    rw [writeAll_fst, List.take_take, Nat.min_comm]
    rfl
  have hwritten : written.2.ids = ids := (writeAll_snd _ _).trans hpicked
  rw [Act.runOn, generateAck_apply]
  dsimp only
  rw [if_pos hc]
  change sendIds _ (.ack written.2.ids) written.1 [.settle c written.1] = _
  rw [hpicked, hwritten, sendIds]
  rcases sink.send (.ack ids) with ⟨_ | _, sink'⟩
  · rfl
  · rfl

end Engine

/-! ## Either store -/

namespace Backend

variable {backend : Backend} {e : Engine backend.Data} {t : Engine Memory} {c : ContactId}

/-- The store without batches that are to be acknowledged. -/
def settled (s : backend.Data) (c : ContactId) (ids : List BatchId) : backend.Data :=
  (Store.removeBatchesToAck c ids s).2

lemma spares_settled (s : backend.Data) (c : ContactId) (ids : List BatchId) :
    backend.Spares s (settled s c ids) := by
  cases backend with
  | memory => trivial
  | relational => exact ⟨rfl, rfl⟩

namespace Twin

lemma receives_iff (h : backend.Twin e t) (step : Step) (b : BatchId) :
    step.Receives c b e ↔ step.Receives c b t := by
  cases step with
  | setClock _ | setGate _ => exact Iff.rfl
  | perform operation sink =>
    cases operation with
    | receiveBatch c' batch =>
      have hanswer := (h.plain (.receiveBatch c' batch) rfl sink).1
      simp only [Step.Receives]
      change ((Engine.receiveBatch c' batch).runOn e sink).1 = _ at hanswer
      rw [hanswer]
      rfl
    | _ => exact Iff.rfl

lemma settles_iff (h : backend.Twin e t) (step : Step) (b : BatchId) :
    step.Settles c b e ↔ step.Settles c b t := by
  cases step with
  | setClock _ | setGate _ => exact Iff.rfl
  | perform operation sink =>
    cases operation with
    | generateAck c' writer =>
      have hanswer := (h.plain (.generateAck c' writer) rfl sink).1
      simp only [Step.Settles]
      change ((Engine.generateAck c' writer).runOn e sink).1 = _ at hanswer
      rw [hanswer]
      rfl
    | _ => exact Iff.rfl

lemma always_not_settles_iff (h : backend.Twin e t) (history : List Step) (b : BatchId) :
    e.Always (fun e step => ¬ step.Settles c b e) history ↔
      t.Always (fun e step => ¬ step.Settles c b e) history :=
  always_iff (fun h step => not_congr (h.settles_iff step b)) h history

lemma settled (h : backend.Twin e t) (c : ContactId) (ids : List BatchId) :
    backend.Twin { e with store := Backend.settled e.store c ids }
      { t with store := t.store.removeBatchesToAck c ids } := by
  cases backend with
  | memory =>
    obtain ⟨rfl, hs⟩ := h
    exact ⟨rfl, hs.change (x := .settle c ids) trivial⟩
  | relational => exact { h with store := (Engine.Mirrors.store h).removeBatchesToAck c ids }

/-- What comes of an ack that is begun anew, over either store. -/
lemma generateAck (h : backend.Twin e t) (hc : c ∈ t.store.contacts) (most : Option Nat)
    (sink : Sink) :
    let ids := (t.store.toAckOf c).take (min t.config.maxAckIds (AckWriter.fresh most).most)
    let result := (Engine.generateAck c (AckWriter.fresh most)).runOn e sink
    match (sink.send (.ack ids)).1 with
    | .ok () => result = (.ok ids,
        ⟨{ e with store := Backend.settled e.store c ids }, [], (sink.send (.ack ids)).2⟩)
    | .error x => result = (.error (.sink x), ⟨e, [], (sink.send (.ack ids)).2⟩) := by
  intro ids
  have hrun := Engine.generateAck_runOn hc most sink
  let operation : Operation (List BatchId) := .generateAck c (AckWriter.fresh most)
  change operation.act.runOn t sink = match sink.send (.ack ids) with
    | (.ok (), sink) => _
    | (.error x, sink) => _ at hrun
  rcases hsend : sink.send (.ack ids) with ⟨x | _, sink'⟩
  · rw [hsend] at hrun
    exact h.runOn_eq operation rfl rfl hrun h (.refl e.store)
  · rw [hsend] at hrun
    exact h.runOn_eq operation rfl rfl hrun (h.settled c ids) (spares_settled e.store c ids)

/-- What is left to be acknowledged, over either store. -/
lemma batchesToAck_settled (h : backend.Twin e t) (c c' : ContactId) (ids : List BatchId) :
    ({ e with store := Backend.settled e.store c ids } : Engine backend.Data).view
        (Store.batchesToAck c') =
      .ok (if c' = c then (t.store.toAckOf c').filter (· ∉ ids) else t.store.toAckOf c') := by
  rw [(h.settled c ids).batchesToAck]
  refine congrArg Except.ok ?_
  dsimp only
  split
  · next hc => rw [hc, Memory.toAckOf_settle]
  · next hc =>
    refine Table.eq_of_ordered id (Memory.ordered_toAckOf _ c') (Memory.ordered_toAckOf _ c')
      fun b => ?_
    rw [Memory.mem_toAckOf_iff, Memory.mem_toAckOf_iff]
    exact Memory.mem_toAck_other (x := .settle c ids) rfl hc b

end Twin

/-- After a history, the batches that are to be acknowledged to a contact are listed in order:
those that were received from it and of which no ack was written for it since. An ack that is
begun anew takes the first of them, as many as the configuration and the writer allow. If the
sink takes its packet, the packet is received as an ack of these batches, and just they are not
to be acknowledged any more. An ack that fails changes nothing, whatever its writer. -/
theorem owed_run (backend : Backend) (config : SyncConfig) (now : Int64) (history : List Step)
    (c : ContactId) :
    let start := backend.start config now
    let e := start.run history
    e.view (Store.containsContact c) = .ok true →
    ∃ pending, e.view (Store.batchesToAck c) = .ok pending ∧
      pending.Pairwise (fun a b => compare a b = .lt) ∧
      (∀ b, b ∈ pending ↔ ∃ before step after, history = before ++ step :: after ∧
        step.Receives c b (start.run before) ∧
        (start.run (before ++ [step])).Always (fun e step => ¬ step.Settles c b e) after) ∧
      (∀ most sink,
        let ids := pending.take (min config.maxAckIds (AckWriter.fresh most).most)
        let result := (Engine.generateAck c (AckWriter.fresh most)).runOn e sink
        ((sink.send (.ack ids)).1 = .ok () → result.1 = .ok ids) ∧
        ∀ acked, result.1 = .ok acked →
          acked = ids ∧
          result.2.sink.taken = sink.taken ++ (Packet.ack ids).encode ∧
          Packet.decode (Packet.ack ids).encode = .ok (.ack ids) ∧
          result.2.engine = { e with store := settled e.store c ids } ∧
          result.2.engine.view (Store.batchesToAck c) = .ok (pending.drop ids.length) ∧
          ∀ c' ≠ c, result.2.engine.view (Store.batchesToAck c') =
            e.view (Store.batchesToAck c')) ∧
      ∀ writer sink x, ((Engine.generateAck c writer).runOn e sink).1 = .error x →
        ((Engine.generateAck c writer).runOn e sink).2.engine = e := by
  intro start e hc
  have hstart := Twin.start backend config now
  have htwin := hstart.run history
  have hcontact := htwin.mem_contacts hc
  have hconfig : ((Engine.start Memory.empty config now).run history).config = config :=
    Engine.config_run _ history
  refine ⟨_, htwin.batchesToAck c, Memory.ordered_toAckOf _ c, fun b => ?_,
    fun most sink => ⟨fun hsend => ?_, fun acked hacked => ?_⟩, fun writer sink x hx => ?_⟩
  · rw [Memory.mem_toAckOf_iff, Engine.mem_toAck_run hstart.consistent hcontact]
    -- nothing was to be acknowledged when the history began
    have hnone : (⟨c, b⟩ : ContactKey BatchId) ∉ (Backend.memory.start config now).store.toAck :=
      Std.ExtTreeMap.not_mem_empty
    rw [or_iff_left fun hold => hnone hold.1]
    refine exists_congr fun before => exists_congr fun step => exists_congr fun after =>
      and_congr_right fun _ => ?_
    rw [(hstart.run before).receives_iff, (hstart.run _).always_not_settles_iff]
  · have hrun := htwin.generateAck hcontact most sink
    simp only [hconfig, hsend] at hrun
    exact congrArg Prod.fst hrun
  · have hrun := htwin.generateAck hcontact most sink
    simp only [hconfig] at hrun
    split at hrun
    · next hsend =>
      obtain rfl : acked = _ := Except.ok.inj (hacked.symm.trans (congrArg Prod.fst hrun))
      have hengine := congrArg (·.2.engine) hrun
      dsimp only at hengine
      refine ⟨rfl, ?_, Packet.decode_ack ?_, hengine, ?_, fun c' hother => ?_⟩
      · refine (congrArg (·.2.sink.taken) hrun).trans (sink.taken_send _ ?_)
        rw [hsend]
        nofun
      · exact (List.length_take_le _ _).trans
          ((Nat.min_le_right _ _).trans (Nat.min_le_right _ _))
      · rw [hengine, htwin.batchesToAck_settled, if_pos rfl,
          Memory.toAckOf_behind (List.take_prefix _ _)]
      · rw [hengine, htwin.batchesToAck_settled, if_neg hother]
        exact (htwin.batchesToAck c').symm
    · cases hacked.symm.trans (congrArg Prod.fst hrun)
  · have hunwinds := Reaches.unwinds ⟨config, now, history, rfl⟩ (.generateAck c writer) sink hx
    exact hunwinds

end Backend

namespace Sample

/-- Of two batches of a contact, one is acknowledged, and then comes once more. -/
def owing : List Step :=
  pair ++ [.perform (.receiveBatch ⟨1⟩ crowded) {}, .perform (.generateAck ⟨1⟩ (.fresh 1)) {},
    .perform (.receiveBatch ⟨1⟩ single) {}, .perform (.receiveBatch ⟨1⟩ crowded) {}]

end Sample

/-- There is room for one of the two batches that are to be acknowledged. -/
theorem Backend.owed_run_owing :
    let e := (Backend.relational.start {} 0).run Sample.owing
    let result := (Engine.generateAck ⟨1⟩ (AckWriter.fresh (some 1))).runOn e {}
    e.view (Store.batchesToAck ⟨1⟩) = .ok [Sample.batch 2, Sample.batch 1] ∧
      result.1 = .ok [Sample.batch 2] ∧
      result.2.sink.taken = (Packet.ack [Sample.batch 2]).encode ∧
      result.2.engine.view (Store.batchesToAck ⟨1⟩) = .ok [Sample.batch 1] := by
  intro e result
  have hc : e.view (Store.containsContact ⟨1⟩) = .ok true :=
    Sample.eq_ok_of_toOption (by decide +kernel)
  have hview : e.view (Store.batchesToAck ⟨1⟩) = .ok [Sample.batch 2, Sample.batch 1] :=
    Sample.eq_ok_of_toOption (by decide +kernel)
  obtain ⟨pending, hpending, -, -, hacks, -⟩ := owed_run .relational {} 0 Sample.owing ⟨1⟩ hc
  obtain rfl := Except.ok.inj (hpending.symm.trans hview)
  have hfirst : min ({} : SyncConfig).maxAckIds (AckWriter.fresh (some 1)).most = 1 := by decide
  obtain ⟨hsucceeds, hacked⟩ := hacks (some 1) {}
  rw [hfirst, List.take_succ_cons, List.take_zero] at hsucceeds hacked
  have hanswer : result.1 = .ok [Sample.batch 2] := hsucceeds rfl
  obtain ⟨-, htaken, -, -, hleft, -⟩ := hacked _ hanswer
  rw [List.nil_append] at htaken
  unfold result e
  exact ⟨hview, hanswer, htaken, hleft⟩

end MessageSync
