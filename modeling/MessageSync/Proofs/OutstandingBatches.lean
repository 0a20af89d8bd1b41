import MessageSync.Proofs.Engine.Backend
import MessageSync.Proofs.Engine.Origin
import MessageSync.Proofs.Store.Outgoing

/-!
# Messages in two outstanding batches

A message should be in one outstanding batch of a contact at most. What keeps it out of a
second one is its row, which is not new any more once it was sent. But the row goes when the
contact gives up the group or the message is deleted, and the batch stays. If the row comes
back it is new, and the message is sent again.

Such a step `Revives` a message. In a history without one, the outstanding batches of a
contact have no message in common, and a message that was revived goes into a second batch as
soon as it is asked for (`Backend.outstanding_run`).
-/

namespace MessageSync

/-- Whether a step brings a message into sight of a contact, as new, while it is in an
outstanding batch. -/
def Step.Revives {σ : Type} [Store σ] (step : Step) (e : Engine σ) (c : ContactId) : Prop :=
  ∃ id, e.view (Store.status c id) = .ok none ∧
    (∃ d, (e.step step).view (Store.status c id) = .ok (some d) ∧ d.status = .new) ∧
    ∃ batches, (e.step step).view (Store.outstandingBatches c) = .ok batches ∧
      ∃ batch ∈ batches, id ∈ batch.messages

/-! ## Changes that bring messages into sight -/

/-- A step brings no message into sight, or it makes one change, or all it does is to take
messages in. -/
lemma Step.log_kind (step : Step) (e : Engine Memory) :
    (∀ x ∈ step.log e, ¬ x.Shows) ∨ (∃ x, step.log e = [x]) ∨
      ∀ x ∈ step.log e, ¬ x.Hides ∧ ∀ c, ¬ x.About c := by
  cases step with
  | setClock _ | setGate _ => exact .inl fun x hx => by cases hx
  | perform operation sink =>
    rw [Step.log]
    cases operation with
    | addLocal m =>
      rw [Operation.log]
      split
      · exact .inr (.inl ⟨_, rfl⟩)
      · exact .inl fun x hx => by cases hx
    | receiveSubscriptions c update =>
      rw [Operation.log]
      split
      · exact .inl fun x hx => by cases hx
      · exact .inr (.inl ⟨_, rfl⟩)
    | receiveBatch c batch =>
      refine .inr (.inr fun x hx => ?_)
      rw [Operation.log] at hx
      split at hx
      · rcases List.mem_append.mp (Memory.mem_about hx).2 with hx | hx
        · obtain ⟨m, -, rfl⟩ := List.mem_map.mp hx
          exact ⟨id, fun _ => id⟩
        · obtain rfl := List.mem_singleton.mp hx
          exact ⟨id, fun _ => id⟩
      · cases hx
    -- no other operation makes a change that shows messages
    | _ =>
      refine .inl fun x hx hshows => ?_
      have hcauses := Operation.causes_of_mem_log hx
      cases x with
      | accept m sender => exact hcauses
      | share c groups timestamp => exact hcauses
      | _ => exact hshows

namespace Memory

variable {s : Memory} {c : ContactId} {log : List Change}

/-- What messages that are taken in, one after the other, do to a status. -/
lemma status_changes_of_shows (hs : s.Consistent) (hlog : s.Allows log)
    (hkind : ∀ x ∈ log, ¬ x.Hides ∧ ∀ c, ¬ x.About c) (id : MessageId) :
    (s.changes log).status c id = s.status c id ∨ (s.changes log).status c id = some .seen ∨
      s.status c id = none := by
  induction log generalizing s with
  | nil => exact .inl rfl
  | cons x rest ih =>
    obtain ⟨hhides, habout⟩ := hkind x List.mem_cons_self
    have hrest := ih (hs.change hlog.1) hlog.2 fun y hy => hkind y (List.mem_cons_of_mem x hy)
    have heffect := effect_change hs (habout c) id
    rw [changes_cons]
    -- once the message is seen, or was not in sight, the rest cannot matter
    generalize (s.change x).status c id = next at heffect hrest
    generalize s.status c id = first at heffect ⊢
    cases heffect with
    | same => exact hrest
    | hidden _ h => exact absurd h hhides
    | shown _ => exact .inr (.inr rfl)
    | told _ _ =>
      rcases hrest with hsame | hseen | hnone
      · exact .inr (.inl hsame)
      · exact .inr (.inl hseen)
      · cases hnone

lemma sentBatch_changes (hkind : ∀ x ∈ log, ¬ x.About c) (b : BatchId) :
    (s.changes log).sentBatch c b = s.sentBatch c b :=
  changes_frame (·.sentBatch c b) (fun x hx _ => sentBatch_change (hkind x hx) b) s

namespace Apart

lemma changes_of_not_shows (h : s.Apart c) (hs : s.Consistent) (hlog : s.Allows log)
    (hkind : ∀ x ∈ log, ¬ x.Shows) : (s.changes log).Apart c := by
  induction log generalizing s with
  | nil => exact h
  | cons x rest ih =>
    refine ih (h.change hs hlog.1 fun hx => ?_) (hs.change hlog.1) hlog.2 fun y hy =>
      hkind y (List.mem_cons_of_mem x hy)
    exact absurd hx (hkind x List.mem_cons_self)

end Apart

end Memory

/-- A step that revives no message of a contact keeps its batches apart. -/
lemma Engine.apart_step {e : Engine Memory} {c : ContactId} (hs : e.store.Consistent)
    (h : e.store.Apart c) (step : Step)
    (hrevive : ∀ id, (e.step step).store.Outgoing c id → e.store.status c id = none →
      (e.step step).store.status c id ≠ some .new) : (e.step step).store.Apart c := by
  have hlog := step.allows_log hs.keyed
  rw [Engine.store_step] at hrevive ⊢
  -- a single change shows the message itself; several that take messages in leave all batches
  -- as they are, so that it is enough to know the statuses before and after them
  rcases step.log_kind e with hkind | ⟨x, hx⟩ | hkind
  · exact h.changes_of_not_shows hs hlog hkind
  · rw [hx] at hrevive hlog ⊢
    refine h.change hs hlog.1 fun hshows id hid hnone => hrevive id ?_ hnone
    have hbatch := Memory.sentBatch_change (s := e.store) (x.not_about_of_shows hshows c)
    exact (Memory.outgoing_of_eq hbatch id).mpr hid
  · have hbatch := Memory.sentBatch_changes (s := e.store) fun x hx => (hkind x hx).2 c
    refine h.of_eq hbatch fun id hid hnew => ?_
    rcases Memory.status_changes_of_shows hs hlog hkind id with hsame | hseen | hnone
    · exact h.taken id hid (hsame ▸ hnew)
    · rw [hseen] at hnew
      cases hnew
    · exact hrevive id ((Memory.outgoing_of_eq hbatch id).mpr hid) hnone hnew

/-! ## Histories -/

namespace Backend.Twin

variable {backend : Backend} {e : Engine backend.Data} {e' : Engine Memory}

/-- Batches stay apart in a history that revives no message of the contact. -/
lemma apart_run (h : backend.Twin e e') {c : ContactId} (hapart : e'.store.Apart c)
    {history : List Step} (halways : e.Always (fun e step => ¬ step.Revives e c) history) :
    (e'.run history).store.Apart c := by
  induction history generalizing e e' with
  | nil => exact hapart
  | cons step rest ih =>
    have hnext := h.step step
    refine ih hnext (Engine.apart_step h.consistent hapart step fun id hid hnone hnew => ?_)
      halways.2
    obtain ⟨d, hd, hstatus⟩ := (Memory.status_eq_some_iff _ c id .new).mp hnew
    refine halways.1 ⟨id, ?_, ⟨d, ?_, hstatus⟩, _, hnext.outstanding c, ?_⟩
    · rw [h.status, Option.map_eq_none_iff.mp hnone]
    · rw [hnext.status, hd]
    · exact (Memory.outgoing_iff _ c id).mp hid

end Backend.Twin

lemma Engine.distinct_run {e : Engine Memory} (hs : e.store.Consistent) (h : e.store.Distinct)
    (history : List Step) : (e.run history).store.Distinct := by
  refine (Engine.run_induction (P := fun s => s.Consistent ∧ s.Distinct) (fun _ h => h.1.keyed)
    (fun s x h hx => ⟨h.1.change hx, h.2.change hx⟩) ⟨hs, h⟩ history).2

/-! ## A second batch -/

/-- The one message that is asked for is picked, if it may be sent and is not too large. -/
lemma pick_single {find : MessageId → Option Bytes} {id : MessageId} {raw : Bytes}
    (hraw : find id = some raw) (hsize : raw.length ≤ Packet.longest) :
    ∃ w, pick find (.fresh raw.length none) [id].eraseDups = ([id], w) ∧ w.messages = [raw] := by
  have hdups : [id].eraseDups = [id] := by
    rw [List.eraseDups_cons]
    rfl
  -- the batch has room for just this message
  have hroom : ¬ ((BatchWriter.fresh raw.length none).isFull ∨
      (BatchWriter.fresh raw.length none).capacity < raw.length) := by
    rintro (hfull | hless)
    · cases hfull
    · have hcapacity : (BatchWriter.fresh raw.length none).capacity = raw.length := by
        show min raw.length Packet.longest - 0 = raw.length
        omega
      omega
  let w : BatchWriter := .fresh raw.length none
  refine ⟨{ w with used := w.used + raw.length, messages := w.messages ++ [raw] }, ?_, rfl⟩
  rw [hdups]
  simp only [pick, hraw, BatchWriter.write, if_neg hroom]
  rfl

/-- A message that may be sent is put into a batch, whatever batches it is in. -/
lemma Engine.sentBatch_of_request {e : Engine Memory} (hs : e.store.Consistent) {c : ContactId}
    {id : MessageId} {d : Delivery} {m : Message} (hd : e.store.delivery c id = some d)
    (hel : d.eligible) (hm : e.store.messages[id]? = some m)
    (hsize : m.raw.length ≤ Packet.longest) (nonce : Nonce) (b : BatchId) :
    (e.step (.perform (.generateBatchFrom c (.fresh m.raw.length none) nonce [id]) {})).store.sentBatch
      c b = if b = Batch.id ⟨nonce, [m.raw]⟩ then some ⟨[id], e.now⟩ else e.store.sentBatch c b := by
  have hraw : e.store.rawIfSendable c id = some m.raw := by
    have hlookup : e.store.deliveries[(⟨c, id⟩ : ContactKey MessageId)]? = some d := hd
    simp only [Memory.rawIfSendable, hlookup, hel, if_true, hm, Option.map_some]
  obtain ⟨w, hpick, hw⟩ := pick_single hraw hsize
  have hlog : Operation.log e {} (.generateBatchFrom c (.fresh m.raw.length none) nonce [id]) =
      [.send c (Batch.id ⟨nonce, [m.raw]⟩) [id] e.now] := by
    rw [Operation.log, Memory.about, if_pos (hs.mem_contacts hd), Engine.pickedFrom, hpick,
      Engine.logBatch, BatchWriter.batch, hw]
    rfl
  rw [Engine.store_step, Step.log, hlog, Memory.changes_cons, Memory.changes_nil,
    Memory.sentBatch_send]

/-! ## When batches are apart -/

/-- In every state that an engine comes to, no outstanding batch of a contact has a message
twice. If no step on the way revived a message, no two batches have one in common. If a
message in a batch is new and may be sent, for which it must have been revived, then asking
for it puts it into another batch, unless the nonce gives that the same identifier. -/
theorem Backend.outstanding_run (backend : Backend) (config : SyncConfig) (now : Int64)
    (history : List Step) (c : ContactId) :
    let e := (backend.start config now).run history
    ∃ batches, e.view (Store.outstandingBatches c) = .ok batches ∧
      (∀ batch ∈ batches, batch.messages.Nodup) ∧
      ((backend.start config now).Always (fun e step => ¬ step.Revives e c) history →
        batches.Pairwise OutstandingBatch.Apart) ∧
      ∀ batch ∈ batches, ∀ id ∈ batch.messages, ∀ d raw,
        e.view (Store.status c id) = .ok (some d) → d.eligible →
        e.view (Store.rawMessage id) = .ok (some raw) → raw.length ≤ Packet.longest →
        ∀ nonce, Batch.id ⟨nonce, [raw]⟩ ≠ batch.id →
          let request := Operation.generateBatchFrom c (.fresh raw.length none) nonce [id]
          ∃ more, (e.step (.perform request {})).view (Store.outstandingBatches c) = .ok more ∧
            ∃ x ∈ more, ∃ y ∈ more, x.id ≠ y.id ∧ id ∈ x.messages ∧ id ∈ y.messages := by
  intro e
  have htwin := (Twin.start backend config now).run history
  have hnone (c : ContactId) (b : BatchId) : Memory.empty.sentBatch c b = none := by
    simp [Memory.empty, Memory.sentBatch]
  have hdistinct : Memory.empty.Distinct := by
    intro c b r hr
    rw [hnone] at hr
    cases hr
  have hapart : Memory.empty.Apart c := by
    constructor
    · intro b b' r r' id hr
      rw [hnone] at hr
      cases hr
    · rintro id ⟨b, r, hr, -⟩
      rw [hnone] at hr
      cases hr
  refine ⟨_, htwin.outstanding c, fun batch hbatch => ?_, fun halways => ?_, ?_⟩
  · have hall := Engine.distinct_run (e := .start Memory.empty config now)
      Memory.Consistent.empty hdistinct history
    exact hall c batch.id _ ((Memory.mem_outstandingOf_iff _ c batch).mp hbatch).2
  · apply (Memory.pairwise_apart_iff _ c).mpr
    exact ((Twin.start backend config now).apart_run hapart halways).disjoint
  -- the new batch does not replace the old one, so that both have the message
  · intro batch hbatch id hid d raw hd hel hraw hsize nonce hne request
    rw [htwin.status] at hd
    rw [htwin.rawMessage] at hraw
    obtain ⟨m, hm, rfl⟩ := Option.map_eq_some_iff.mp (Except.ok.inj hraw)
    have hold := ((Memory.mem_outstandingOf_iff _ c batch).mp hbatch).2
    have hsent := Engine.sentBatch_of_request htwin.consistent (Except.ok.inj hd) hel hm hsize nonce
    refine ⟨_, (htwin.step (.perform request {})).outstanding c, ?_⟩
    refine ⟨⟨c, Batch.id ⟨nonce, [m.raw]⟩, [id], _⟩, (Memory.mem_outstandingOf_iff _ c _).mpr
      ⟨rfl, (hsent _).trans (if_pos rfl)⟩, batch, ?_, hne, List.mem_singleton.mpr rfl, hid⟩
    refine (Memory.mem_outstandingOf_iff _ c batch).mpr ⟨?_, ?_⟩
    · exact ((Memory.mem_outstandingOf_iff _ c batch).mp hbatch).1
    · exact (hsent _).trans ((if_neg (Ne.symm hne)).trans hold)

/-! ## A message that is revived -/

/-- The nonce that a step writes a batch with, if it writes one. -/
def Step.nonce : Step → Option Nonce
  | .perform (.generateBatch _ _ nonce) _ | .perform (.generateBatchFrom _ _ nonce _) _
  | .perform (.receiveRequest _ _ _ _ nonce) _ => some nonce
  | _ => none

namespace Sample

lemma length_group : (List.replicate 32 (1 : UInt8)).length = 32 := rfl

def group : Group := ⟨⟨List.replicate 32 1, length_group⟩, "g"⟩

def message : Message := ⟨⟨List.replicate 32 2, rfl⟩, group.id, none, 0, [1, 1]⟩

def contact : ContactId := ⟨1⟩

def nonce (n : UInt8) : Nonce := ⟨List.replicate 16 n, rfl⟩

/-- The identifier of the batch of the message with this nonce. -/
def batch (n : UInt8) : BatchId := Batch.id ⟨nonce n, [message.raw]⟩

/-- The contact asks for the message. -/
def ask (n : UInt8) : Step :=
  .perform (.generateBatchFrom contact (.fresh 1024 none) (nonce n) [message.id]) {}

/-- The contact shares these groups. -/
def share (groups : List Group) (timestamp : Int64) : Step :=
  .perform (.receiveSubscriptions contact ⟨groups, timestamp⟩) {}

/-- There is a contact that may see a message. -/
def opening : List Step :=
  [.perform (.subscribe group) {}, .perform (.addContact ∅) {}, share [group] 1,
    .perform (.addLocal message) {}]

/-- The contact asks for the message, gives up its group, takes it up again and asks once
more, before anything is acknowledged or lost. -/
def relapse : List Step := opening ++ [ask 1, share [] 2, share [group] 3, ask 2]

lemma eq_ok_of_toOption {ε α : Type} {r : Except ε α} {a : α} (h : r.toOption = some a) :
    r = .ok a := by
  cases r with
  | error _ => cases h
  | ok b => exact congrArg Except.ok (Option.some.inj h)

lemma sentBatch_relapse (n : UInt8) (hn : n = 1 ∨ n = 2) :
    (((Engine.start Memory.empty {} 0).run relapse).store.sentBatch contact (batch n)).map
      SentRecord.messages = some [message.id] := by
  rcases hn with rfl | rfl
  · decide +kernel
  · decide +kernel

lemma batch_ne : batch 1 ≠ batch 2 := by
  decide +kernel

end Sample

/-- Distinct nonces do not keep messages out of second batches. -/
theorem Backend.not_outstanding_apart :
    ¬ ∀ (backend : Backend) (config : SyncConfig) (now : Int64) (history : List Step)
        (c : ContactId), (history.filterMap Step.nonce).Nodup →
      ∀ batches, ((backend.start config now).run history).view (Store.outstandingBatches c) =
        .ok batches → batches.Pairwise OutstandingBatch.Apart := by
  intro h
  have hnonces : (Sample.relapse.filterMap Step.nonce).Nodup := by decide +kernel
  have hpairwise := h .memory {} 0 Sample.relapse Sample.contact hnonces _ rfl
  have hdisjoint := (Memory.pairwise_apart_iff _ Sample.contact).mp hpairwise
  obtain ⟨r, hr, hmessages⟩ :=
    Option.map_eq_some_iff.mp (Sample.sentBatch_relapse 1 (.inl rfl))
  obtain ⟨r', hr', hmessages'⟩ :=
    Option.map_eq_some_iff.mp (Sample.sentBatch_relapse 2 (.inr rfl))
  refine Sample.batch_ne (hdisjoint _ _ r r' Sample.message.id hr hr' ?_ ?_)
  · rw [hmessages]
    exact List.mem_singleton.mpr rfl
  · rw [hmessages']
    exact List.mem_singleton.mpr rfl

end MessageSync
