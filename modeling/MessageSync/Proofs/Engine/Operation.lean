import MessageSync.Proofs.Engine.Batches
import MessageSync.Proofs.Engine.Contacts
import MessageSync.Proofs.Engine.Messages
import MessageSync.Proofs.Engine.Secrets

/-!
# What operations change

`Operation.log` lists the changes that an operation makes to a store in memory: none if it
fails, with the exception of an offer whose answer cannot be written. An operation leaves
everything else of its engine as it was (`Operation.engine_runOn`), and the changes come
at moments at which they are permitted (`Operation.allows_log`). What permitted changes
preserve therefore holds in every state that a history leads to (`Engine.run_induction`).
-/

namespace MessageSync

/-! ## Changes of operations -/

/-- The changes of an operation about a contact, which does nothing if there is none. -/
def Memory.about (s : Memory) (c : ContactId) (log : List Change) : List Change :=
  if c ∈ s.contacts then log else []

/-- The changes that writing a packet brings, unless it fails. -/
def Sink.onSent (sink : Sink) (packet : Packet) (log : List Change) : List Change :=
  match (sink.send packet).1 with
  | .ok () => log
  | .error _ => []

namespace Engine

variable (e : Engine Memory) (sink : Sink)

/-- The changes of sending a batch of picked messages. -/
def logBatch (c : ContactId) (nonce : Nonce) (picked : List MessageId × BatchWriter) :
    List Change :=
  sink.onSent (.batch (picked.2.batch nonce)) <|
    sending c ⟨(picked.2.batch nonce).id, picked.1⟩ e.now

/-- The messages for a batch. -/
def picked (c : ContactId) (writer : BatchWriter) : List MessageId × BatchWriter :=
  pick (fun id => (e.store.messages[id]?).map Message.raw) writer <|
    e.store.candidates c writer.capacity

/-- The messages for a batch of what was requested. -/
def pickedFrom (c : ContactId) (writer : BatchWriter) (requested : List MessageId) :
    List MessageId × BatchWriter :=
  pick (e.store.rawIfSendable c) writer requested.eraseDups

/-- The batches for an ack. -/
def pickedAcks (c : ContactId) (writer : IdWriter .batch) : List BatchId × IdWriter .batch :=
  writer.writeAll ((e.store.toAckOf c).take e.config.maxAckIds)

/-- The changes of losing the batches that count as lost. -/
def logLost (c : ContactId) : List Change :=
  let cutoff := lossCutoff e.config e.now
  (e.store.lostOf c cutoff).map (.lose c · cutoff)

end Engine

/-- The changes that an operation makes. -/
def Operation.log (e : Engine Memory) (sink : Sink) : {α : Type} → Operation α → List Change
  | _, .addContact transports => [.addContact transports]
  | _, .removeContact c => e.store.about c [.removeContact c]
  | _, .subscribe g => [.subscribe g e.now]
  | _, .unsubscribe g => [.unsubscribe g e.now]
  | _, .setRating a r => [.rate a r]
  | _, .addLocal m => if e.gate = .opened then [.accept m none] else []
  | _, .receiveBatch c batch =>
    if e.gate = .opened then
      e.store.about c (batch.messages.map (.accept · (some c)) ++ [.owe c batch.id])
    else []
  | _, .expire wanted => (e.store.expiring wanted).map .forget
  | _, .generateBatch c writer nonce =>
    e.store.about c (e.logBatch sink c nonce (e.picked c writer))
  | _, .generateBatchFrom c writer nonce requested =>
    e.store.about c (e.logBatch sink c nonce (e.pickedFrom c writer requested))
  | _, .generateAck c writer =>
    e.store.about c <| sink.onSent (.ack (e.pickedAcks c writer).2.ids)
      [.settle c (e.pickedAcks c writer).1]
  | _, .receiveAck c batches => e.store.about c (batches.map (.ack c))
  | _, .findLost c => e.store.about c (e.logLost c)
  | _, .receiveOffer c offer =>
    if c ∈ e.openOffers then [] else e.store.about c (offer.map (.see c))
  | _, .receiveRequest c offer request writer nonce =>
    match request.requestedIds offer with
    | none => []
    | some requested => e.store.about c (e.logBatch sink c nonce (e.pickedFrom c writer requested))
  | _, .receiveSubscriptions c update =>
    if Packet.mostGroups < update.groups.length then []
    else [.share c update.groups update.timestamp]
  | _, .receiveTransports c update =>
    if Packet.mostProperties < update.properties.size then []
    else [.setTransports c update.properties update.timestamp]
  | _, .setLocalTransports transports => [.setLocalTransports transports e.now]
  | _, .addSecrets xs =>
    if (Engine.firstMissing e.store (xs.map Secret.contact)).isNone then [.addSecrets xs]
    else []
  | _, .rotateSecret key period bytes =>
    e.store.about key.contact <|
      match e.store.secrets[key]? with
      | none => []
      | some secret => [.addSecrets [secret.rotate period bytes]]
  | _, .removeSecretsBefore c t period => e.store.about c [.dropSecrets c t period]
  | _, .nextOutgoing key => e.store.about key.contact [.count key]
  | _, .acceptIncoming key n =>
    e.store.about key.contact <|
      match e.store.secrets[key]? with
      | none => []
      | some secret =>
        match secret.window.accept n with
        | .error _ => []
        | .ok window => [.setWindow key window]
  -- these only tell what is there, or write it
  | _, .contacts | _, .subscriptions | _, .rating _ | _, .storedBytes | _, .generateOffer _ _
  | _, .generateSubscriptions _ | _, .generateTransports _ | _, .contactSubscriptions _
  | _, .contactTransports _ | _, .localTransports | _, .secrets | _, .unseenConnections _ => []

/-! ## Running them -/

namespace Engine

variable (t : Turn Memory)

/-- A change that is none leaves the engine as it is. -/
lemma engine_after_same {x : Change} (h : t.engine.store.change x = t.engine.store) :
    t.engine = (t.after [x] []).engine :=
  (congrArg (fun s => { t.engine with store := s }) h).symm

/-- What an operation about a contact leaves of its engine, when it does nothing unless
the contact exists. -/
lemma engine_about {α : Type} {c : ContactId} {r r' : Except SyncError α × Turn Memory}
    {log : List Change} (h : r.2.engine = (t.after log []).engine) (h' : r'.2.engine = t.engine) :
    (if c ∈ t.engine.store.contacts then r else r').2.engine =
      (t.after (t.engine.store.about c log) []).engine := by
  unfold Memory.about
  by_cases hc : c ∈ t.engine.store.contacts
  · rw [if_pos hc, if_pos hc, h]
  · rw [if_neg hc, if_neg hc, h', Turn.after_nil]

lemma engine_sendBatch (c : ContactId) (nonce : Nonce) (picked : List MessageId × BatchWriter) :
    (t.sendBatch c nonce picked).2.engine =
      (t.after (t.engine.logBatch t.sink c nonce picked) []).engine := by
  unfold Turn.sendBatch logBatch Sink.onSent
  rcases t.sink.send _ with ⟨_ | _, sink⟩
  · simp
  · rfl

lemma engine_sendIds {kind : IdKind} (packet : Packet) (ids : List (Id kind))
    (log : List Change) :
    (sendIds t packet ids log).2.engine = (t.after (t.sink.onSent packet log) []).engine := by
  unfold sendIds Sink.onSent
  rcases t.sink.send packet with ⟨_ | _, sink⟩
  · simp
  · rfl

lemma engine_writing {α : Type} (packet : Packet) (a : α) :
    (writing t packet a).2.engine = t.engine := by
  unfold writing
  rcases t.sink.send packet with ⟨_ | _, sink⟩ <;> rfl

end Engine

/-- An operation changes the store by its changes, and nothing else of its engine. -/
theorem Operation.engine_runOn {α : Type} (operation : Operation α) (e : Engine Memory)
    (sink : Sink) :
    (operation.act.runOn e sink).2.engine =
      { e with store := e.store.changes (operation.log e sink) } := by
  let t : Turn Memory := ⟨e, [], sink⟩
  show (operation.act t).2.engine = (t.after (operation.log e sink) []).engine
  cases operation with
  | addContact transports =>
    rw [Operation.act, Engine.addContact_apply]
    rfl
  | removeContact c =>
    rw [Operation.act, Engine.removeContact_apply]
    exact Engine.engine_about t rfl rfl
  | contacts => rfl
  | subscribe g =>
    rw [Operation.act, Engine.subscribe_apply]
    split
    · next hg =>
      have hsame : t.engine.store.change (.subscribe g t.engine.now) = t.engine.store := by
        simp [Memory.change, Memory.addSubscription, hg]
      exact Engine.engine_after_same t hsame
    · rfl
  | unsubscribe g =>
    rw [Operation.act, Engine.unsubscribe_apply]
    split
    · rfl
    · next hg =>
      have hsame : t.engine.store.change (.unsubscribe g t.engine.now) = t.engine.store := by
        simp [Memory.change, Memory.removeSubscription_of_not_mem hg]
      exact Engine.engine_after_same t hsame
  | subscriptions => rfl
  | rating a => rfl
  | setRating a r =>
    rw [Operation.act, Engine.setRating_apply]
    rfl
  | addLocal m =>
    rw [Operation.act, Engine.addLocal, Act.throughGate_apply, Engine.storeLocal_apply]
    cases hgate : t.engine.gate with
    | paused => simp [Operation.log, t, show e.gate = .paused from hgate]
    | closed => simp [Operation.log, t, show e.gate = .closed from hgate]
    | opened =>
      have hopen : e.gate = .opened := hgate
      rw [Operation.log, if_pos hopen]
      by_cases hnew : m.group ∈ t.engine.store.subscriptions ∧ m.id ∉ t.engine.store.messages
      · simp only [hnew]
        rfl
      · have hsame : t.engine.store.change (.accept m none) = t.engine.store := by
          simp only [Memory.change, Memory.accept, hnew, if_false]
        simp only [hnew, if_false]
        exact Engine.engine_after_same t hsame
  | receiveBatch c batch =>
    rw [Operation.act, Engine.receiveBatch, Act.throughGate_apply, Engine.storeBatch_apply]
    cases hgate : t.engine.gate with
    | paused => simp [Operation.log, t, show e.gate = .paused from hgate]
    | closed => simp [Operation.log, t, show e.gate = .closed from hgate]
    | opened =>
      have hopen : e.gate = .opened := hgate
      rw [Operation.log, if_pos hopen]
      exact Engine.engine_about t rfl rfl
  | expire wanted =>
    rw [Operation.act, Engine.expire_apply]
    rfl
  | storedBytes => rfl
  | generateBatch c writer nonce =>
    rw [Operation.act, Engine.generateBatch_apply, Engine.sendOldest_apply]
    exact Engine.engine_about t (Engine.engine_sendBatch t c nonce _) rfl
  | generateBatchFrom c writer nonce requested =>
    rw [Operation.act, Engine.generateBatchFrom_apply]
    exact Engine.engine_about t (Engine.engine_sendBatch t c nonce _) rfl
  | generateAck c writer =>
    rw [Operation.act, Engine.generateAck_apply]
    exact Engine.engine_about t (Engine.engine_sendIds t _ _ _) rfl
  | receiveAck c batches =>
    rw [Operation.act, Engine.receiveAck_apply]
    exact Engine.engine_about t rfl rfl
  | findLost c =>
    rw [Operation.act, Engine.findLost_apply]
    exact Engine.engine_about t rfl rfl
  | generateOffer c writer =>
    rw [Operation.act, Engine.generateOffer_apply]
    split
    · rw [Engine.engine_sendIds]
      unfold Sink.onSent Operation.log
      split <;> rfl
    · rfl
  | receiveOffer c offer =>
    rw [Operation.act, Engine.receiveOffer_apply, Operation.log]
    split
    · simp [t]
    · refine Engine.engine_about t ?_ rfl
      dsimp only
      rcases t.sink.send _ with ⟨_ | _, sink⟩ <;> rfl
  | receiveRequest c offer request writer nonce =>
    rw [Operation.act, Engine.receiveRequest_apply, Operation.log]
    cases request.requestedIds offer with
    | none => simp [t]
    | some requested =>
      simp only [Engine.generateBatchFrom_apply]
      exact Engine.engine_about t
        (Engine.engine_sendBatch (t.after [] [.messagesRequested c requested.length]) c nonce _) rfl
  | generateSubscriptions c =>
    rw [Operation.act, Engine.generateSubscriptions_apply]
    dsimp only
    split
    · rw [Engine.engine_writing]
      rfl
    · rfl
  | generateTransports c =>
    rw [Operation.act, Engine.generateTransports_apply]
    dsimp only
    split
    · rw [Engine.engine_writing]
      rfl
    · rfl
  | receiveSubscriptions c update =>
    rw [Operation.act, Engine.receiveSubscriptions_apply, Operation.log]
    split
    · simp [t]
    · cases hr : t.engine.store.contacts[c]? with
      | none => exact Engine.engine_after_same t (Memory.change_share_of_old (by simp [hr]))
      | some r =>
        by_cases hat : update.timestamp ≤ r.groupsAt
        · simp only [hat, if_true]
          exact Engine.engine_after_same t (Memory.change_share_of_old (by simpa [hr] using hat))
        · simp only [hat, if_false]
          rfl
  | receiveTransports c update =>
    rw [Operation.act, Engine.receiveTransports_apply, Operation.log]
    split
    · simp [t]
    · cases hr : t.engine.store.contacts[c]? with
      | none =>
        exact Engine.engine_after_same t (Memory.change_setTransports_of_old (by simp [hr]))
      | some r =>
        by_cases hat : update.timestamp ≤ r.transportsAt
        · simp only [hat, if_true]
          exact Engine.engine_after_same t
            (Memory.change_setTransports_of_old (by simpa [hr] using hat))
        · simp only [hat, if_false]
          rfl
  | contactSubscriptions c =>
    rw [Operation.act, Engine.contactSubscriptions_apply]
    split <;> rfl
  | contactTransports c =>
    rw [Operation.act, Engine.contactTransports_apply]
    split <;> rfl
  | setLocalTransports transports =>
    rw [Operation.act, Engine.setLocalTransports_apply]
    rfl
  | localTransports => rfl
  | addSecrets xs =>
    rw [Operation.act, Engine.addSecrets_apply, Operation.log]
    show _ = (t.after (if (Engine.firstMissing t.engine.store _).isNone then _ else _) []).engine
    cases Engine.firstMissing t.engine.store (xs.map Secret.contact) with
    | none => rfl
    | some c => simp
  | secrets => rfl
  | rotateSecret key period bytes =>
    rw [Operation.act, Engine.rotateSecret_apply]
    refine Engine.engine_about t ?_ rfl
    show _ = (t.after (match t.engine.store.secrets[key]? with | none => _ | some _ => _) []).engine
    cases t.engine.store.secrets[key]? with
    | none => simp
    | some secret => rfl
  | removeSecretsBefore c transport period =>
    rw [Operation.act, Engine.removeSecretsBefore_apply]
    exact Engine.engine_about t rfl rfl
  | nextOutgoing key =>
    rw [Operation.act, Engine.nextOutgoing_apply]
    refine Engine.engine_about t ?_ rfl
    cases h : t.engine.store.secrets[key]? with
    | none =>
      have hsame : t.engine.store.change (.count key) = t.engine.store := by
        simp [Memory.change, Memory.incrementConnectionCounter, h]
      exact Engine.engine_after_same t hsame
    | some secret => rfl
  | acceptIncoming key n =>
    rw [Operation.act, Engine.acceptIncoming_apply]
    refine Engine.engine_about t ?_ rfl
    show _ = (t.after (match t.engine.store.secrets[key]? with | none => _ | some _ => _) []).engine
    cases t.engine.store.secrets[key]? with
    | none => simp
    | some secret =>
      dsimp only
      cases secret.window.accept n with
      | error refusal => simp
      | ok window => rfl
  | unseenConnections key =>
    rw [Operation.act, Engine.unseenConnections_apply]
    split
    · split <;> rfl
    · rfl

/-- The changes that a step makes. -/
def Step.log (e : Engine Memory) : Step → List Change
  | .perform operation sink => operation.log e sink
  | .setClock _ => []
  | .setGate _ => []

/-- A step changes the store by its changes. -/
theorem Engine.store_step (e : Engine Memory) (step : Step) :
    (e.step step).store = e.store.changes (step.log e) := by
  cases step with
  | perform operation sink =>
    show (operation.act.runOn e sink).2.engine.store = _
    rw [Operation.engine_runOn]
    rfl
  | setClock now => rfl
  | setGate gate => rfl

/-! ## Permission -/

namespace Engine

lemma allows_about {s : Memory} {c : ContactId} {log : List Change}
    (h : c ∈ s.contacts → s.Allows log) : s.Allows (s.about c log) := by
  unfold Memory.about
  by_cases hc : c ∈ s.contacts
  · rw [if_pos hc]
    exact h hc
  · rw [if_neg hc]
    trivial

lemma allows_onSent {s : Memory} {log : List Change} (sink : Sink) (packet : Packet)
    (h : s.Allows log) : s.Allows (sink.onSent packet log) := by
  unfold Sink.onSent
  split
  · exact h
  · trivial

/-- A batch is sent of messages that may go, each once. -/
lemma allows_logBatch {e : Engine Memory} {c : ContactId} (hc : c ∈ e.store.contacts)
    (sink : Sink) (nonce : Nonce) {picked : List MessageId × BatchWriter}
    (hnodup : picked.1.Nodup) (hmay : ∀ id ∈ picked.1, e.store.MaySend c id) :
    e.store.Allows (e.logBatch sink c nonce picked) := by
  unfold logBatch sending
  apply allows_onSent sink _
  split
  · trivial
  · exact Memory.allows_singleton ⟨hc, hnodup, hmay⟩

lemma takeWithin_sublist (room : Nat) (messages : List Message) :
    (Message.takeWithin room messages).Sublist messages := by
  induction messages generalizing room with
  | nil => exact List.Sublist.slnil
  | cons m rest ih =>
    unfold Message.takeWithin
    split
    · exact (ih _).cons_cons m
    · exact List.nil_sublist _

lemma nodup_picked {e : Engine Memory} (hs : e.store.Keyed) (c : ContactId)
    (writer : BatchWriter) : (e.picked c writer).1.Nodup := by
  have hcandidates : (e.store.candidates c writer.capacity).Nodup :=
    (Memory.nodup_eligible hs c).sublist ((takeWithin_sublist _ _).map Message.id)
  exact hcandidates.sublist (pick_sublist _ _ _)

lemma maySend_of_mem_picked {e : Engine Memory} (hs : e.store.Keyed) {c : ContactId}
    {writer : BatchWriter} {id : MessageId} (h : id ∈ (e.picked c writer).1) :
    e.store.MaySend c id := by
  have hid := (pick_sublist _ _ _).subset h
  obtain ⟨m, hm, rfl⟩ := List.mem_map.mp hid
  exact ((Memory.mem_eligible_iff hs c m).mp ((takeWithin_sublist _ _).subset hm)).2

lemma nodup_eraseDups (ids : List MessageId) : ids.eraseDups.Nodup := by
  -- what is left after a first element was taken out is no part of the list
  induction hn : ids.length using Nat.strongRecOn generalizing ids with
  | _ n ih =>
    cases ids with
    | nil => exact List.nodup_nil
    | cons id rest =>
      have hlen : (rest.filter fun b => !b == id).length < n := by
        have := List.length_filter_le (fun b => !b == id) rest
        rw [← hn, List.length_cons]
        omega
      rw [List.eraseDups_cons, List.nodup_cons]
      refine ⟨fun h => ?_, ih _ hlen _ rfl⟩
      have hid := (List.mem_filter.mp (List.mem_eraseDups.mp h)).2
      simp at hid

lemma nodup_pickedFrom (e : Engine Memory) (c : ContactId) (writer : BatchWriter)
    (requested : List MessageId) : (e.pickedFrom c writer requested).1.Nodup :=
  (nodup_eraseDups requested).sublist (pick_sublist _ _ _)

/-- What is picked was found. -/
lemma isSome_of_mem_pick {find : MessageId → Option Bytes} {ids : List MessageId}
    {writer : BatchWriter} {id : MessageId} (h : id ∈ (pick find writer ids).1) :
    (find id).isSome := by
  obtain ⟨raws, -, hmap⟩ := pick_messages find ids writer
  have hfind : find id ∈ raws.map some := by
    rw [← hmap]
    exact List.mem_map_of_mem h
  obtain ⟨raw, -, hraw⟩ := List.mem_map.mp hfind
  rw [← hraw]
  rfl

lemma maySend_of_mem_pickedFrom {e : Engine Memory} {c : ContactId} {writer : BatchWriter}
    {requested : List MessageId} {id : MessageId}
    (h : id ∈ (e.pickedFrom c writer requested).1) : e.store.MaySend c id := by
  have hraw := isSome_of_mem_pick h
  unfold Memory.rawIfSendable at hraw
  split at hraw
  · next d hd =>
    by_cases hel : d.eligible
    · exact ⟨d, hd, hel⟩
    · simp [hel] at hraw
  · cases hraw

end Engine

namespace Memory

lemma contacts_acceptAll (s : Memory) (messages : List Message) (sender : Option ContactId) :
    (s.changes (messages.map (.accept · sender))).contacts = s.contacts := by
  induction messages generalizing s with
  | nil => rfl
  | cons m rest ih =>
    have hfirst : (s.change (.accept m sender)).contacts = s.contacts :=
      (contacts_change (by simp [Change.parts])).1
    exact (ih _).trans hfirst

end Memory

/-- The changes of an operation come at moments at which they are permitted. -/
theorem Operation.allows_log {α : Type} (operation : Operation α) {e : Engine Memory}
    (hs : e.store.Keyed) (sink : Sink) : e.store.Allows (operation.log e sink) := by
  have hfree (log : List Change) (h : ∀ x ∈ log, ∀ s : Memory, s.Permits x) :
      e.store.Allows log := Memory.allows_of_forall h e.store
  have hone {x : Change} (h : e.store.Permits x) : e.store.Allows [x] := Memory.allows_singleton h
  cases operation with
  | addContact _ | subscribe _ | unsubscribe _ | setRating _ _ | setLocalTransports _ =>
    exact hone trivial
  | contacts | subscriptions | rating _ | storedBytes | generateOffer _ _
  | generateSubscriptions _ | generateTransports _ | contactSubscriptions _
  | contactTransports _ | localTransports | secrets | unseenConnections _ => trivial
  | removeContact c => exact Engine.allows_about fun _ => hone trivial
  | addLocal m =>
    rw [Operation.log]
    split
    · exact hone trivial
    · trivial
  | receiveBatch c batch =>
    rw [Operation.log]
    split
    · refine Engine.allows_about fun hc => ?_
      refine Memory.allows_append (hfree _ fun x hx s => ?_) (Memory.allows_singleton ?_)
      · obtain ⟨m, -, rfl⟩ := List.mem_map.mp hx
        trivial
      · show c ∈ (e.store.changes _).contacts
        rw [Memory.contacts_acceptAll]
        exact hc
    · trivial
  | expire wanted =>
    refine hfree _ fun x hx s => ?_
    obtain ⟨id, -, rfl⟩ := List.mem_map.mp hx
    trivial
  | generateBatch c writer nonce =>
    refine Engine.allows_about fun hc => ?_
    exact Engine.allows_logBatch hc sink nonce (Engine.nodup_picked hs c writer)
      fun id h => Engine.maySend_of_mem_picked hs h
  | generateBatchFrom c writer nonce requested =>
    refine Engine.allows_about fun hc => ?_
    exact Engine.allows_logBatch hc sink nonce (Engine.nodup_pickedFrom e c writer requested)
      fun id h => Engine.maySend_of_mem_pickedFrom h
  | generateAck c writer =>
    exact Engine.allows_about fun _ => Engine.allows_onSent sink _ (hone trivial)
  | receiveAck c batches =>
    refine Engine.allows_about fun _ => hfree _ fun x hx s => ?_
    obtain ⟨id, -, rfl⟩ := List.mem_map.mp hx
    trivial
  | findLost c =>
    refine Engine.allows_about fun _ => hfree _ fun x hx s => ?_
    obtain ⟨id, -, rfl⟩ := List.mem_map.mp hx
    trivial
  | receiveOffer c offer =>
    rw [Operation.log]
    split
    · trivial
    · refine Engine.allows_about fun _ => hfree _ fun x hx s => ?_
      obtain ⟨id, -, rfl⟩ := List.mem_map.mp hx
      trivial
  | receiveRequest c offer request writer nonce =>
    rw [Operation.log]
    split
    · trivial
    · next requested _ =>
      refine Engine.allows_about fun hc => ?_
      exact Engine.allows_logBatch hc sink nonce (Engine.nodup_pickedFrom e c writer requested)
        fun id h => Engine.maySend_of_mem_pickedFrom h
  | receiveSubscriptions c update =>
    rw [Operation.log]
    split
    · trivial
    · exact hone trivial
  | receiveTransports c update =>
    rw [Operation.log]
    split
    · trivial
    · exact hone trivial
  | addSecrets xs =>
    rw [Operation.log]
    split
    · exact hone trivial
    · trivial
  | rotateSecret key period bytes =>
    refine Engine.allows_about fun _ => ?_
    split
    · trivial
    · exact hone trivial
  | removeSecretsBefore c t period => exact Engine.allows_about fun _ => hone trivial
  | nextOutgoing key => exact Engine.allows_about fun _ => hone trivial
  | acceptIncoming key n =>
    refine Engine.allows_about fun _ => ?_
    split
    · trivial
    · split
      · trivial
      · exact hone trivial

/-- The changes of a step come at moments at which they are permitted. -/
lemma Step.allows_log (step : Step) {e : Engine Memory} (hs : e.store.Keyed) :
    e.store.Allows (step.log e) := by
  cases step with
  | perform operation sink => exact operation.allows_log hs sink
  | setClock now => trivial
  | setGate gate => trivial

/-! ## Histories -/

lemma Engine.run_nil {σ : Type} [Store σ] (e : Engine σ) : e.run [] = e := rfl

lemma Engine.run_cons {σ : Type} [Store σ] (e : Engine σ) (step : Step) (rest : List Step) :
    e.run (step :: rest) = (e.step step).run rest := rfl

lemma Engine.run_append {σ : Type} [Store σ] (e : Engine σ) (done rest : List Step) :
    e.run (done ++ rest) = (e.run done).run rest := List.foldl_append

/-- What every permitted change of a store preserves, and what keeps its messages in their
places, holds in every state that a history leads to. -/
theorem Engine.run_induction {P : Memory → Prop} (keyed : ∀ s, P s → s.Keyed)
    (step : ∀ s x, P s → s.Permits x → P (s.change x)) {e : Engine Memory} (h : P e.store)
    (history : List Step) : P (e.run history).store := by
  induction history generalizing e with
  | nil => exact h
  | cons first rest ih =>
    apply ih
    rw [Engine.store_step]
    exact Memory.changes_induction step h (first.allows_log (keyed _ h))

end MessageSync
