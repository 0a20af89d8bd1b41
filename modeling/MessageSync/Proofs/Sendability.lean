import MessageSync.Proofs.Engine.Backend
import MessageSync.Proofs.Store.Sendable

/-!
# Ratings decide what may be passed on

Whether a message may be passed on is remembered with each of its deliveries. In every state
that an engine comes to, over either store, what is remembered is what follows from the message
and from the latest rating of its author (`Backend.sendability_run`): neither earlier ratings,
nor the order in which ratings, messages and groups came, make a difference.
-/

namespace MessageSync

/-- The latest rating that some steps gave to an author. -/
def latestRating (a : AuthorId) (history : List Step) : Rating :=
  (history.filterMap (Step.rates a)).getLastD .unrated

namespace Engine

/-! ## Ratings over a history -/

/-- After a step, an author has the rating that the step gave, or the one from before. -/
lemma ratingOf_step (e : Engine Memory) (step : Step) (a : AuthorId) :
    (e.step step).store.ratingOf a = (step.rates a).getD (e.store.ratingOf a) := by
  rw [store_step]
  cases hrates : step.rates a with
  | none =>
    refine Memory.ratingOf_changes fun x hx rating heq => ?_
    subst heq
    cases step with
    | setClock _ | setGate _ => cases hx
    | perform operation sink =>
      have hsome : operation.rates a = some rating := Operation.causes_of_mem_log hx
      cases hrates.symm.trans hsome
  | some rating =>
    -- only an operation that rates the author gives a rating
    cases step with
    | setClock _ | setGate _ => cases hrates
    | perform operation sink =>
      cases operation with
      | setRating a' r =>
        obtain ⟨rfl, hr⟩ := Option.ite_none_right_eq_some.mp hrates
        obtain rfl := Option.some.inj hr
        exact (e.store.ratingOf_rate a' a' r).trans (if_pos rfl)
      | _ => cases hrates

/-- After a history, an author has the latest rating of it, or the one from before. -/
lemma ratingOf_run (e : Engine Memory) (history : List Step) (a : AuthorId) :
    (e.run history).store.ratingOf a =
      (history.filterMap (Step.rates a)).getLastD (e.store.ratingOf a) := by
  induction history generalizing e with
  | nil => rfl
  | cons step rest ih =>
    rw [run_cons, ih, ratingOf_step, List.filterMap_cons]
    cases step.rates a with
    | none => rfl
    | some rating => rw [Option.getD_some, List.getLastD_cons]

/-- The flags of deliveries are right in every state of an engine. -/
lemma judged_run {e : Engine Memory} (hs : e.store.Consistent) (h : e.store.Judged)
    (history : List Step) : (e.run history).store.Judged :=
  (run_induction (P := fun s => s.Consistent ∧ s.Judged) (fun _ h => h.1.keyed)
    (fun _ _ h hx => ⟨h.1.change hx, h.2.change h.1⟩) ⟨hs, h⟩ history).2

end Engine

/-! ## In every state -/

/-- In every state that an engine comes to from an empty store, an author has the latest rating
that the history gave, and every delivery is of a stored message and tells whether that message
may be passed on, by the latest rating of its author. -/
theorem Backend.sendability_run (backend : Backend) (config : SyncConfig) (now : Int64)
    (history : List Step) :
    let e := (backend.start config now).run history
    (∀ a : AuthorId, e.view (Store.rating a) = .ok (latestRating a history)) ∧
    ∀ (c : ContactId) (id : MessageId), ∃ row, e.view (Store.status c id) = .ok row ∧
      ∀ d : Delivery, row = some d → ∃ m, backend.message e.store id = some m ∧
        d.sendable = isSendable m.author ((m.author.map (latestRating · history)).getD .unrated) := by
  have htwin := (Twin.start backend config now).run history
  let e' := (Engine.start Memory.empty config now).run history
  have hrating (a : AuthorId) : e'.store.ratingOf a = latestRating a history :=
    Engine.ratingOf_run (.start Memory.empty config now) history a
  have hjudged : e'.store.Judged := Engine.judged_run Memory.Consistent.empty Memory.Judged.empty history
  refine ⟨fun a => ?_, fun c id => ⟨e'.store.delivery c id, htwin.status c id, fun d hd => ?_⟩⟩
  · rw [htwin.rating, hrating]
  · -- a delivery is there for a stored message only
    obtain ⟨m, hm, -⟩ := (htwin.consistent.visible c id).mp (by rw [hd]; rfl)
    refine ⟨m, by rw [htwin.message, hm], ?_⟩
    rw [hjudged c id d m hd hm, Memory.sendable, funext hrating]

end MessageSync
