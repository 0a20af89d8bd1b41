import MessageSync.Proofs.Atomicity
import MessageSync.Proofs.Engine.Race
import MessageSync.Proofs.OutstandingBatches

/-!
# Searches for lost batches that are listened to

A search for lost batches removes each batch in a transaction of its own and reports it right
after, so that a listener may act on the engine before the next one is removed. What it does is
seen by the rest of the search. If it removes the contact, the search fails, with one batch
removed and reported (`Backend.Reaches.findLostHeard_of_error`). Otherwise the search goes
through.

Such a search is a race: the steps of the listener come after the first removal
(`Backend.Reaches.race_of_findLostHeard`), so that what holds of races holds of it.
-/

namespace MessageSync

namespace Engine

variable {σ : Type} [Store σ] {c : ContactId} {cutoff : Int64}

/-- What is asked about a contact that exists, if that changes nothing. -/
lemma askAbout_of_found {α : Type} {t : Turn σ} {q : Query σ α} {a : α}
    (hc : Store.containsContact c t.engine.store = (.ok true, t.engine.store))
    (hq : q t.engine.store = (.ok a, t.engine.store)) : Act.askAbout c q t = (.ok a, t) := by
  have hrequire : Txn.requireContact c (t.engine.store, t.sink) =
      (.ok (), (t.engine.store, t.sink)) := by
    rw [Txn.requireContact, Txn.bind_apply, Txn.query_of_ok hc]
    rfl
  simp only [Act.askAbout, Act.transaction, Txn.bind_apply, hrequire, Txn.query_of_ok hq]

/-- A search that goes on without the contact fails at its next candidate. -/
lemma loseAll_of_missing {t : Turn σ} {listener : Act σ Unit} {ids : List BatchId}
    (hids : ids ≠ [])
    (h : Store.containsContact c t.engine.store = (.ok false, t.engine.store)) :
    loseAll c cutoff listener ids t = (.error (.noSuchContact c), t) := by
  obtain ⟨b, rest, rfl⟩ := List.exists_cons_of_ne_nil hids
  simp only [loseAll, loseBatch, Act.bind_apply, askAbout_of_missing _ h]

/-- A search whose first candidate is lost, and whose listener acts then. -/
lemma loseAll_react {e lost : Engine σ} {b : BatchId} {event : Event} {sink : Sink}
    (h : (loseBatch c cutoff b).runOn e sink = (.ok true, ⟨lost, [event], sink⟩))
    (steps : List Step) (rest : List BatchId) :
    loseAll c cutoff (react steps) (b :: rest) ⟨e, [], sink⟩ =
      match loseAll c cutoff (pure ()) rest
        ⟨lost.run steps, event :: lost.reported steps, sink⟩ with
      | (.ok more, last) => (.ok (b :: more), last)
      | (.error x, last) => (.error x, last) := by
  rw [Act.runOn] at h
  rw [loseAll, Act.bind_apply, h]
  simp only [if_true, Act.bind_apply, react, List.singleton_append]
  rcases loseAll c cutoff (pure ()) rest
    ⟨lost.run steps, event :: lost.reported steps, sink⟩ with ⟨_ | _, _⟩ <;> rfl

/-- Over a store in memory, each candidate of a search is lost if it is tried at once. -/
lemma loseBatch_of_lostOf {e : Engine Memory} {b : BatchId} (hc : c ∈ e.store.contacts)
    (hb : b ∈ e.store.lostOf c cutoff) (sink : Sink) :
    ∃ n, (loseBatch c cutoff b).runOn e sink =
      (.ok true, (⟨e, [], sink⟩ : Turn Memory).after [.lose c b cutoff] [.batchLost c b n]) := by
  obtain ⟨o, ho, rfl⟩ := List.mem_map.mp hb
  obtain ⟨hlisted, hdue⟩ := List.mem_filter.mp ho
  have hr := ((e.store.mem_outstandingOf_iff c o).mp hlisted).2
  refine ⟨(Memory.returnSent c o.messages e.store.deliveries).1.length, ?_⟩
  rw [Act.runOn, loseBatch_apply _ hc]
  simp only [Memory.removeLostBatch_of_le hr (of_decide_eq_true hdue)]

end Engine

namespace Race

variable {σ : Type} [Store σ] {c : ContactId} {cutoff : Int64}

/-- A race of one search whose first candidate is lost. The listener acts then, and what it did is
seen by the rest of the search. -/
lemma run_react {e lost : Engine σ} {b : BatchId} {event : Event}
    (h : (Engine.loseBatch c cutoff b).runOn e {} = (.ok true, ⟨lost, [event], {}⟩))
    (steps : List Step) (rest : List BatchId) (sink : Sink) :
    let r : Race σ := ⟨e, [⟨c, cutoff, b :: rest⟩]⟩
    let moves := .lose 0 :: (steps.map .perform ++ List.replicate rest.length (.lose 0))
    let last := (Engine.loseAll c cutoff (Engine.react steps) (b :: rest) ⟨e, [], sink⟩).2
    (r.run moves).engine = last.engine ∧ r.reports moves = last.events := by
  intro r moves last
  have hwith : (Engine.loseBatch c cutoff b).runOn e sink =
      (.ok true, ⟨lost, [event], sink⟩) := by
    rw [Act.runOn, Engine.steady_loseBatch c cutoff b, h]
    rfl
  have hdue : r.due 0 = some (⟨c, cutoff, b :: rest⟩, b) := rfl
  obtain ⟨hmove, hreported⟩ := move_lose hdue h
  obtain ⟨hsteps, hheard⟩ := (r.move (.lose 0)).run_perform steps
  have hleft : ((r.move (.lose 0)).run (steps.map .perform)).searches[0]? =
      some ⟨c, cutoff, rest⟩ := by
    rw [hsteps, hmove]
    rfl
  let after : Turn σ := ⟨lost.run steps, event :: lost.reported steps, sink⟩
  obtain ⟨hengine, hevents⟩ := run_loseAll hleft after (by rw [hsteps, hmove])
  have hlast : last = (Engine.loseAll c cutoff (pure ()) rest after).2 := by
    show (Engine.loseAll c cutoff (Engine.react steps) (b :: rest) ⟨e, [], sink⟩).2 = _
    rw [Engine.loseAll_react hwith]
    rcases Engine.loseAll c cutoff (pure ()) rest after with ⟨_ | _, _⟩ <;> rfl
  constructor
  · rw [hlast, run_cons, run_append]
    exact hengine
  · rw [hlast, ← hevents, reports, reports_append, hreported, hheard, hmove]
    rfl

end Race

/-! ## Either store -/

namespace Backend

variable {backend : Backend} {e : Engine backend.Data} {t : Engine Memory} {c : ContactId}
  {cutoff : Int64}

namespace Twin

/-- What is a contact of the twin is one here. -/
lemma found (h : backend.Twin e t) (hc : c ∈ t.store.contacts) :
    Store.containsContact c e.store = (.ok true, e.store) := by
  have hknown := h.containsContact c
  rw [Std.ExtTreeMap.contains_iff_mem.mpr hc] at hknown
  exact Prod.ext hknown (backend.containsContact_snd c e.store)

/-- The batches that count as lost. -/
lemma lostBatches (h : backend.Twin e t) :
    Store.lostBatches c cutoff e.store = (.ok (t.store.lostOf c cutoff), e.store) := by
  cases backend with
  | memory =>
    obtain ⟨rfl, -⟩ := h
    rfl
  | relational =>
    refine Prod.ext ?_ rfl
    show Except.ok (((Relational.outstandingOf e.store c).filter _).map _) =
      Except.ok (((t.store.outstandingOf c).filter _).map _)
    rw [(Engine.Mirrors.store h).outstandingOf]

/-- The first candidate of a search is lost, and reported. -/
lemma loseBatch (h : backend.Twin e t) (hc : c ∈ t.store.contacts) {b : BatchId}
    (hb : b ∈ t.store.lostOf c cutoff) (sink : Sink) :
    ∃ n lost t', (Engine.loseBatch c cutoff b).runOn e sink =
      (.ok true, ⟨lost, [.batchLost c b n], sink⟩) ∧ backend.Twin lost t' := by
  obtain ⟨n, hrun⟩ := Engine.loseBatch_of_lostOf hc hb sink
  obtain ⟨hanswer, hevents, hsink, htwin⟩ := h.act (Engine.loseBatch c cutoff b)
    (Act.alike_loseBatch c cutoff b) [] sink
  rw [Act.runOn] at hrun ⊢
  rw [hrun] at hanswer hevents hsink htwin
  rcases hlost : Engine.loseBatch c cutoff b ⟨e, [], sink⟩ with ⟨answer, lost, events, sink'⟩
  rw [hlost] at hanswer hevents hsink htwin
  obtain rfl : answer = .ok true := hanswer
  obtain rfl : events = [.batchLost c b n] := hevents
  obtain rfl : sink' = sink := hsink
  exact ⟨n, _, _, rfl, htwin (h.consistent.change (x := .lose c b cutoff) trivial)⟩

/-- The rest of a search fails only if there is no such contact any more. -/
lemma loseAll_cases (h : backend.Twin e t) (c : ContactId) (cutoff : Int64) (ids : List BatchId)
    (events : List Event) (sink : Sink) :
    (∃ more last, Engine.loseAll c cutoff (pure ()) ids ⟨e, events, sink⟩ = (.ok more, last)) ∨
      ids ≠ [] ∧ e.view (Store.containsContact c) = .ok false ∧
        Engine.loseAll c cutoff (pure ()) ids ⟨e, events, sink⟩ =
          (.error (.noSuchContact c), ⟨e, events, sink⟩) := by
  by_cases hc : c ∈ t.store.contacts
  · obtain ⟨hanswer, -⟩ := h.act (Engine.loseAll c cutoff (pure ()) ids)
      (Act.alike_loseAll c cutoff ids) events sink
    rw [Engine.loseAll_apply cutoff ids _ hc] at hanswer
    exact .inl ⟨_, _, Prod.ext hanswer rfl⟩
  by_cases hids : ids = []
  · subst hids
    exact .inl ⟨[], _, rfl⟩
  have hmissing := h.missing hc
  exact .inr ⟨hids, congrArg Prod.fst hmissing, Engine.loseAll_of_missing hids hmissing⟩

lemma search_of_missing (h : backend.Twin e t) (hc : c ∉ t.store.contacts)
    (listener : Act backend.Data Unit) (sink : Sink) :
    (Engine.findLostHeard c listener).runOn e sink =
      (.error (.noSuchContact c), ⟨e, [], sink⟩) := by
  rw [Act.runOn, Engine.findLost_of_missing listener (h.missing hc)]

/-- The candidates of a search. -/
lemma lostCandidates (h : backend.Twin e t) (hc : c ∈ t.store.contacts) (cutoff : Int64)
    (sink : Sink) :
    (Engine.lostCandidates c cutoff).runOn e sink =
      (.ok (t.store.lostOf c cutoff), ⟨e, [], sink⟩) :=
  Engine.askAbout_of_found (h.found hc) h.lostBatches

/-- A search, after its candidates are collected. -/
lemma search (h : backend.Twin e t) (hc : c ∈ t.store.contacts) (listener : Act backend.Data Unit)
    (sink : Sink) :
    let cutoff := Engine.lossCutoff e.config e.now
    (Engine.findLostHeard c listener).runOn e sink =
      Engine.loseAll c cutoff listener (t.store.lostOf c cutoff) ⟨e, [], sink⟩ := by
  intro cutoff
  have hcandidates := h.lostCandidates hc cutoff sink
  rw [Act.runOn] at hcandidates ⊢
  simp only [Engine.findLostHeard, Act.bind_apply, Act.settings_apply, Act.clock_apply]
  rw [hcandidates]

end Twin

/-- In every state that an engine comes to, a search whose listener acts when the first batch is
reported. Without the contact, and without candidates, nothing is done. Otherwise one batch is
removed and reported, and the listener acts. If candidates are left then but the contact is not,
the search fails, and in all other cases it goes through. -/
theorem Reaches.findLostHeard_cases (he : backend.Reaches e) (c : ContactId) (steps : List Step)
    (sink : Sink) :
    let cutoff := Engine.lossCutoff e.config e.now
    let search := (Engine.findLostHeard c (Engine.react steps)).runOn e sink
    (e.view (Store.containsContact c) = .ok false ∧
        search = (.error (.noSuchContact c), ⟨e, [], sink⟩)) ∨
      (e.view (Store.lostBatches c cutoff) = .ok [] ∧ search = (.ok [], ⟨e, [], sink⟩)) ∨
      ∃ b rest n lost, e.view (Store.lostBatches c cutoff) = .ok (b :: rest) ∧
        (Engine.loseBatch c cutoff b).runOn e sink =
          (.ok true, ⟨lost, [.batchLost c b n], sink⟩) ∧
        let after : Turn backend.Data :=
          ⟨lost.run steps, .batchLost c b n :: lost.reported steps, sink⟩
        (rest ≠ [] ∧ after.engine.view (Store.containsContact c) = .ok false ∧
            search = (.error (.noSuchContact c), after)) ∨
          ∃ more last, Engine.loseAll c cutoff (pure ()) rest after = (.ok more, last) ∧
            search = (.ok (b :: more), last) := by
  intro cutoff search
  obtain ⟨t, ht⟩ := Twin.of_reaches he
  by_cases hc : c ∈ t.store.contacts
  · have hsearch : search = _ := ht.search hc (Engine.react steps) sink
    have hview : e.view (Store.lostBatches c cutoff) = .ok (t.store.lostOf c cutoff) :=
      congrArg Prod.fst ht.lostBatches
    refine .inr ?_
    cases hids : t.store.lostOf c cutoff with
    | nil =>
      rw [hids] at hsearch hview
      exact .inl ⟨hview, hsearch⟩
    | cons b rest =>
      have hb : b ∈ t.store.lostOf c cutoff := hids ▸ List.mem_cons_self
      obtain ⟨n, lost, t', hlost, htwin⟩ := ht.loseBatch hc hb sink
      rw [hids] at hsearch hview
      refine .inr ⟨b, rest, n, lost, hview, hlost, ?_⟩
      intro after
      -- the listener acts after the first removal
      rw [Engine.loseAll_react hlost] at hsearch
      rcases (htwin.run steps).loseAll_cases c cutoff rest after.events sink with
        ⟨more, last, hmore⟩ | ⟨hleft, hgone, hfails⟩
      · exact .inr ⟨more, last, hmore, by rw [hsearch, hmore]⟩
      · exact .inl ⟨hleft, hgone, by rw [hsearch, hfails]⟩
  · exact .inl ⟨congrArg Prod.fst (ht.missing hc), ht.search_of_missing hc _ sink⟩

/-- A search that fails, whatever its listener does, fails for want of the contact. It did nothing
at all, or it removed and reported one batch, after which its listener did the rest. -/
theorem Reaches.findLostHeard_of_error (he : backend.Reaches e) {steps : List Step} {sink : Sink}
    {x : SyncError}
    (hx : ((Engine.findLostHeard c (Engine.react steps)).runOn e sink).1 = .error x) :
    let last := ((Engine.findLostHeard c (Engine.react steps)).runOn e sink).2
    x = .noSuchContact c ∧ last.engine.view (Store.containsContact c) = .ok false ∧
      (last = ⟨e, [], sink⟩ ∨ ∃ b n lost,
        (Engine.loseBatch c (Engine.lossCutoff e.config e.now) b).runOn e sink =
          (.ok true, ⟨lost, [.batchLost c b n], sink⟩) ∧
        last = ⟨lost.run steps, .batchLost c b n :: lost.reported steps, sink⟩) := by
  intro last
  rcases he.findLostHeard_cases c steps sink with
    ⟨hmissing, hsearch⟩ | ⟨-, hsearch⟩ | ⟨b, rest, n, lost, -, hlost, hend⟩
  · rw [hsearch] at hx
    have hlast : last = ⟨e, [], sink⟩ := congrArg Prod.snd hsearch
    rw [hlast]
    exact ⟨(Except.error.inj hx).symm, hmissing, .inl rfl⟩
  · rw [hsearch] at hx
    cases hx
  · rcases hend with ⟨-, hgone, hsearch⟩ | ⟨more, after, -, hsearch⟩
    · rw [hsearch] at hx
      have hlast : last = ⟨lost.run steps, .batchLost c b n :: lost.reported steps, sink⟩ :=
        congrArg Prod.snd hsearch
      rw [hlast]
      exact ⟨(Except.error.inj hx).symm, hgone, .inr ⟨b, n, lost, hlost, rfl⟩⟩
    · rw [hsearch] at hx
      cases hx

/-- In every state that an engine comes to, a search whose listener acts is a race in which the
steps of the listener follow the first removal. -/
theorem Reaches.race_of_findLostHeard (he : backend.Reaches e) (c : ContactId) (steps : List Step)
    (sink : Sink) :
    let search := (Engine.findLostHeard c (Engine.react steps)).runOn e sink
    let begin := Race.Move.collect c (Engine.lossCutoff e.config e.now)
    ∃ moves, (moves = [begin] ∨ ∃ n, moves =
        begin :: .lose 0 :: (steps.map .perform ++ List.replicate n (.lose 0))) ∧
      let r : Race backend.Data := ⟨e, []⟩
      (r.run moves).engine = search.2.engine ∧ r.reports moves = search.2.events := by
  intro search begin
  let cutoff := Engine.lossCutoff e.config e.now
  let r : Race backend.Data := ⟨e, []⟩
  obtain ⟨t, ht⟩ := Twin.of_reaches he
  by_cases hc : c ∈ t.store.contacts
  · have hsearch : search = _ := ht.search hc (Engine.react steps) sink
    obtain ⟨hbegun, hnone⟩ := Race.move_collect (r := r) (ht.lostCandidates hc cutoff {})
    cases hids : t.store.lostOf c cutoff with
    | nil =>
      rw [hids] at hsearch
      rw [hsearch]
      refine ⟨[begin], .inl rfl, congrArg Race.engine hbegun, ?_⟩
      exact (List.append_nil _).trans hnone
    | cons b rest =>
      have hb : b ∈ t.store.lostOf c cutoff := hids ▸ List.mem_cons_self
      obtain ⟨n, lost, t', hlost, -⟩ := ht.loseBatch hc hb {}
      rw [hids] at hsearch hbegun
      obtain ⟨hengine, hevents⟩ := Race.run_react hlost steps rest sink
      refine ⟨_, .inr ⟨rest.length, rfl⟩, ?_, ?_⟩
      · rw [hsearch, Race.run_cons, hbegun]
        exact hengine
      · rw [hsearch, Race.reports, hnone, hbegun]
        exact hevents
  · have hmissing := ht.missing hc
    have hsearch : search = _ := ht.search_of_missing hc (Engine.react steps) sink
    have hnone : (Engine.lostCandidates c cutoff).runOn e {} =
        (.error (.noSuchContact c), ⟨e, [], {}⟩) := Engine.askAbout_of_missing _ hmissing
    obtain ⟨hbegun, hnone⟩ := Race.move_collect (r := r) hnone
    rw [hsearch]
    exact ⟨[begin], .inl rfl, congrArg Race.engine hbegun, (List.append_nil _).trans hnone⟩

end Backend

/-- Two batches count as lost a minute later. -/
lemma Sample.lostOf_relapse :
    let e := (Backend.memory.start {} 0).run (relapse ++ [.setClock 60000])
    Memory.lostOf e.store contact (Engine.lossCutoff e.config e.now) = [batch 2, batch 1] := by
  intro e
  let sent (n : UInt8) : OutstandingBatch := ⟨contact, batch n, [message.id], 0⟩
  have hrows : ((show Memory from e.store).outstanding.toList.filterMap fun x =>
      if x.1.contact = contact then
        some (⟨contact, x.1.item, x.2.messages, x.2.sentAt⟩ : OutstandingBatch)
      else none) = [sent 2, sent 1] := by decide +kernel
  -- both were sent at the same time, and their rows are in the order of their identifiers
  have hsorted : [sent 2, sent 1].Pairwise (OutstandingBatch.earlier · ·) := by decide +kernel
  show ((List.mergeSort _ OutstandingBatch.earlier).filter _).map _ = _
  rw [hrows, List.mergeSort_of_pairwise hsorted]
  decide +kernel

-- the contact is removed when the first of two lost batches is reported
example :
    let e := (Backend.memory.start {} 0).run (Sample.relapse ++ [.setClock 60000])
    let search := (Engine.findLostHeard Sample.contact
      (Engine.react [.perform (.removeContact Sample.contact) {}])).runOn e {}
    search.1 = .error (.noSuchContact Sample.contact) ∧ search.2.events =
      [.batchLost Sample.contact (Sample.batch 2) 1, .contactRemoved Sample.contact] := by
  intro e search
  have htwin : Backend.memory.Twin e e := (Backend.Twin.start .memory {} 0).run _
  have hsearch : search = _ := htwin.search (by decide +kernel) _ {}
  rw [Sample.lostOf_relapse] at hsearch
  rw [hsearch]
  decide +kernel

end MessageSync
