import MessageSync.Proofs.Atomicity
import MessageSync.Proofs.OutstandingBatches

/-!
# Events of operations that fail

Events report work that is done. Most operations report what they did after their only
transaction, so that one that fails has reported nothing. Two report earlier. What a contact
requests is reported before anything is done about it: if the batch cannot be sent, or there is
no such contact, this one event was reported all the same (`Operation.reportedFirst`,
`Backend.events_of_error`).

A search for lost batches reports each batch once its removal is committed, and then goes on to
the next. Left alone it fails in its first transaction only, before it has reported any. This is
not so if its listener acts in between.
-/

namespace MessageSync

/-- The events that an operation reports before it looks into the store. -/
def Operation.reportedFirst : {α : Type} → Operation α → List Event
  | _, .receiveRequest c offer request _ _ =>
    match request.requestedIds offer with
    | some requested => [.messagesRequested c requested.length]
    | none => []
  | _, _ => []

/-! ## Operations that report early -/

lemma Act.Restores.events {σ α : Type} {x : Act σ α} (h : Act.Restores x) {e : SyncError}
    {t : Turn σ} (he : (x t).1 = .error e) : (x t).2.events = t.events := by
  obtain ⟨sink, hsink⟩ := h t e he
  rw [hsink]

namespace Engine

variable {σ : Type} [Store σ] {e : Engine σ} {c : ContactId} {offer : List MessageId}
  {sink : Sink} {x : SyncError}

/-- Of a request that is not served, no more than the request is reported. -/
lemma events_receiveRequest {request : Request} {writer : BatchWriter} {nonce : Nonce}
    (hx : ((receiveRequest c offer request writer nonce).runOn e sink).1 = .error x) :
    ((receiveRequest c offer request writer nonce).runOn e sink).2.events =
      (Operation.receiveRequest c offer request writer nonce).reportedFirst := by
  rw [Operation.reportedFirst]
  rw [Act.runOn] at hx ⊢
  cases hrequested : request.requestedIds offer with
  | none =>
    unfold receiveRequest Request.appliedTo
    rw [hrequested]
    rfl
  | some requested =>
    let t : Turn σ := ⟨e, [.messagesRequested c requested.length], sink⟩
    have hserve : receiveRequest c offer request writer nonce ⟨e, [], sink⟩ =
        generateBatchFrom c writer nonce requested t := by
      unfold receiveRequest Request.appliedTo
      rw [hrequested]
      rfl
    rw [hserve] at hx ⊢
    exact (restores_generateBatchFrom c writer nonce requested).events hx

/-- Nothing is reported of an offer. -/
lemma events_receiveOffer (hopen : c ∉ e.openOffers) :
    ((receiveOffer c offer).runOn e sink).2.events = [] := by
  rw [receiveOffer_runOn e hopen]
  rcases takeOffer c offer (e.store, sink) with ⟨_ | flags, store, last⟩
  · rfl
  · dsimp only
    rcases last.send (.request (.ofFlags flags)) with ⟨_ | _, _⟩ <;> rfl

end Engine

namespace Backend

/-- In every state that an engine comes to, an operation that fails has reported what it
reports first, and nothing else. Only requests that match their offer are
reported first. -/
theorem events_of_error {backend : Backend} {e : Engine backend.Data} (he : backend.Reaches e)
    {α : Type} (operation : Operation α) {sink : Sink} {x : SyncError}
    (hx : (operation.act.runOn e sink).1 = .error x) :
    (operation.act.runOn e sink).2.events = operation.reportedFirst := by
  by_cases hquick : operation.single ∧ operation.reportsLast
  · have hnone : (operation.act.runOn e sink).2.events = [] :=
      (operation.restores hquick.1 hquick.2).events hx
    rw [hnone]
    cases operation with
    | receiveRequest c offer request writer nonce => cases hquick.2
    | _ => rfl
  cases operation with
  | findLost c => exact congrArg Turn.events (he.findLost_of_error hx)
  | receiveOffer c offer => exact Engine.events_receiveOffer (he.not_mem_openOffers c)
  | receiveRequest c offer request writer nonce => exact Engine.events_receiveRequest hx
  | _ => exact absurd ⟨rfl, rfl⟩ hquick

end Backend

namespace Sample

/-- A request, of a contact, for the message that was offered to it. -/
def wish : Operation SentBatch :=
  .receiveRequest contact [message.id] (.ofFlags [true]) (.fresh 1024 none) (nonce 1)

lemma wish_eq_error : (wish.act.runOn (Backend.memory.start {} 0) {}).1 =
    .error (.noSuchContact contact) := by
  rfl

lemma reportedFirst_wish : wish.reportedFirst = [.messagesRequested contact 1] := by
  decide +kernel

end Sample

namespace Backend

/-- A request of a contact that does not exist is refused, and reported. -/
theorem events_of_wish :
    (Sample.wish.act.runOn (memory.start {} 0) {}).1 = .error (.noSuchContact Sample.contact) ∧
      (Sample.wish.act.runOn (memory.start {} 0) {}).2.events =
        [.messagesRequested Sample.contact 1] := by
  have he : memory.Reaches (memory.start {} 0) := ⟨{}, 0, [], rfl⟩
  refine ⟨Sample.wish_eq_error, ?_⟩
  rw [events_of_error he Sample.wish Sample.wish_eq_error]
  exact Sample.reportedFirst_wish

/-- Operations that fail do not always report nothing. -/
theorem not_silent_of_error :
    ¬ ∀ (backend : Backend) (e : Engine backend.Data), backend.Reaches e →
      ∀ (α : Type) (operation : Operation α) (sink : Sink) (x : SyncError),
        (operation.act.runOn e sink).1 = .error x →
          (operation.act.runOn e sink).2.events = [] := by
  intro h
  have hnone := h .memory (memory.start {} 0) ⟨{}, 0, [], rfl⟩ SentBatch Sample.wish {} _
    Sample.wish_eq_error
  have hsome : (Sample.wish.act.runOn (memory.start {} 0) {}).2.events.length = 1 := by
    decide +kernel
  rw [hnone] at hsome
  cases hsome

end Backend

end MessageSync
