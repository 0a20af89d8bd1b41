import MessageSync.Proofs.Engine.Reports

/-!
# Races with searches for lost batches

A search for lost batches collects its candidates in one transaction, and removes each of them
in a transaction of its own. Between these transactions the engine may do anything, other
searches included. A `Race` is an engine with the searches that are under way in it; its moves
are whole steps of the engine and single transactions of the searches.

Over a store in memory each move is a run of changes (`Race.store_move`), so that batches are
accounted for in races as they are in histories (`Race.accounts_run`).
-/

namespace MessageSync

/-- A search for the lost batches of a contact, between two of its transactions. -/
structure Search where
  contact : ContactId
  /-- Batches that were sent later do not count as lost. -/
  cutoff : Int64
  /-- The candidates that were not tried yet. -/
  left : List BatchId

/-- A search after a candidate. If the transaction failed, so has the search, and there are no
more candidates to try. -/
def Search.next (search : Search) : Except SyncError Bool → Search
  | .ok _ => { search with left := search.left.tail }
  | .error _ => { search with left := [] }

/-- An engine, and the searches in it. -/
structure Race (σ : Type) where
  engine : Engine σ
  /-- Every search that was begun, in order. -/
  searches : List Search

/-- What may happen next in a race. -/
inductive Race.Move where
  /-- A step of the engine as a whole. -/
  | perform (step : Step)
  /-- A search begins, and collects its candidates. -/
  | collect (c : ContactId) (cutoff : Int64)
  /-- A search tries the next one of its candidates. -/
  | lose (i : Nat)

namespace Race

section

variable {σ : Type}

/-- A search that has candidates left, and the first of these. -/
def due (r : Race σ) (i : Nat) : Option (Search × BatchId) :=
  (r.searches[i]?).bind fun search => search.left.head?.map (search, ·)

variable [Store σ]

/-- The race after a move. -/
def move (r : Race σ) : Move → Race σ
  | .perform step => { r with engine := r.engine.step step }
  | .collect c cutoff =>
    let (answer, t) := (Engine.lostCandidates c cutoff).runOn r.engine {}
    ⟨t.engine, r.searches ++ [⟨c, cutoff, answer.toOption.getD []⟩]⟩
  | .lose i =>
    match r.due i with
    | none => r
    | some (search, b) =>
      let (answer, t) := (Engine.loseBatch search.contact search.cutoff b).runOn r.engine {}
      ⟨t.engine, r.searches.set i (search.next answer)⟩

/-- The race after moves in turn. -/
def run (r : Race σ) (moves : List Move) : Race σ := moves.foldl move r

/-- The events that a move reports. -/
def reported (r : Race σ) : Move → List Event
  | .perform step => step.reported r.engine
  | .collect c cutoff => ((Engine.lostCandidates c cutoff).runOn r.engine {}).2.events
  | .lose i =>
    match r.due i with
    | none => []
    | some (search, b) =>
      ((Engine.loseBatch search.contact search.cutoff b).runOn r.engine {}).2.events

/-- The events that are reported in moves in turn. -/
def reports (r : Race σ) : List Move → List Event
  | [] => []
  | m :: rest => r.reported m ++ (r.move m).reports rest

/-- The batch that a move sends, and the contact that it goes to. -/
def sent (r : Race σ) : Move → Option (ContactId × SentBatch)
  | .perform step => step.sent r.engine
  | _ => none

/-- The identifiers of the batches that are sent to a contact in moves in turn. -/
def batchesTo (r : Race σ) (c : ContactId) : List Move → List BatchId
  | [] => []
  | m :: rest =>
    ((r.sent m).toList.filter fun s => s.1 = c).map (fun s => s.2.id) ++
      (r.move m).batchesTo c rest

@[simp] lemma run_nil (r : Race σ) : r.run [] = r := rfl

@[simp] lemma run_cons (r : Race σ) (m : Move) (rest : List Move) :
    r.run (m :: rest) = (r.move m).run rest := rfl

lemma run_append (r : Race σ) (done rest : List Move) :
    r.run (done ++ rest) = (r.run done).run rest := List.foldl_append

/-- Steps of the engine alone are its history. -/
lemma run_perform (r : Race σ) (steps : List Step) :
    r.run (steps.map .perform) = { r with engine := r.engine.run steps } ∧
      r.reports (steps.map .perform) = r.engine.reported steps := by
  induction steps generalizing r with
  | nil => exact ⟨rfl, rfl⟩
  | cons step rest ih =>
    obtain ⟨hrun, hreports⟩ := ih (r.move (.perform step))
    exact ⟨hrun, congrArg (step.reported r.engine ++ ·) hreports⟩

lemma reports_append (r : Race σ) (done rest : List Move) :
    r.reports (done ++ rest) = r.reports done ++ (r.run done).reports rest := by
  induction done generalizing r with
  | nil => rfl
  | cons m more ih => rw [List.cons_append, reports, reports, ih, run_cons, List.append_assoc]

/-- A search without candidates does nothing. -/
lemma run_replicate_of_due {r : Race σ} {i : Nat} (h : r.due i = none) (n : Nat) :
    r.run (List.replicate n (.lose i)) = r ∧ r.reports (List.replicate n (.lose i)) = [] := by
  have hmove : r.move (.lose i) = r := by rw [move, h]
  induction n with
  | zero => exact ⟨rfl, rfl⟩
  | succ n ih =>
    rw [List.replicate_succ, run_cons, reports, hmove, reported, h]
    exact ih

end

end Race

/-! ## Searches without interruption -/

namespace Act

variable {σ α β : Type}

/-- Whether an operation writes nothing, and reports the same whatever was reported before. -/
def Steady (x : Act σ α) : Prop :=
  ∀ t, x t = ((x.runOn t.engine {}).1,
    ⟨(x.runOn t.engine {}).2.engine, t.events ++ (x.runOn t.engine {}).2.events, t.sink⟩)

lemma steady_pure (a : α) : Steady (pure a : Act σ α) := fun t => by
  simp [runOn]

lemma steady_emit (event : Event) : Steady (emit event : Act σ Unit) := fun _ => rfl

lemma steady_askAbout [Store σ] (c : ContactId) (q : Query σ α) : Steady (askAbout c q) := by
  intro t
  simp only [runOn, askAbout, transaction, Txn.bind_apply, Txn.requireContact, Txn.query]
  rcases Store.containsContact c t.engine.store with ⟨_ | found, s⟩
  · simp
  · cases found with
    | false => simp
    | true =>
      rcases hq : q s with ⟨_ | a, s'⟩ <;> simp [hq]

lemma steady_bind {x : Act σ α} {f : α → Act σ β} (h : Steady x) (hf : ∀ a, Steady (f a)) :
    Steady (x >>= f) := by
  intro t
  rw [runOn, bind_apply, bind_apply, h t, runOn]
  rcases x ⟨t.engine, [], {}⟩ with ⟨_ | a, u⟩
  · rfl
  · dsimp only
    rw [hf a, hf a u, List.append_assoc]

end Act

namespace Engine

variable {σ : Type} [Store σ]

lemma steady_loseBatch (c : ContactId) (cutoff : Int64) (b : BatchId) :
    Act.Steady (loseBatch c cutoff b : Act σ Bool) := by
  refine Act.steady_bind (Act.steady_askAbout c _) fun lost => ?_
  cases lost with
  | none => exact Act.steady_pure false
  | some messages => exact Act.steady_bind (Act.steady_emit _) fun _ => Act.steady_pure true

end Engine

namespace Race

variable {σ : Type} [Store σ]

/-- A search begins with the candidates that it finds. -/
lemma move_collect {r : Race σ} {c : ContactId} {cutoff : Int64}
    {answer : Except SyncError (List BatchId)} {t : Turn σ}
    (ht : (Engine.lostCandidates c cutoff).runOn r.engine {} = (answer, t)) :
    r.move (.collect c cutoff) =
        ⟨t.engine, r.searches ++ [⟨c, cutoff, answer.toOption.getD []⟩]⟩ ∧
      r.reported (.collect c cutoff) = t.events := by
  simp only [move, reported, ht, and_self]

/-- A candidate is tried as it is when the search is not interrupted. -/
lemma move_lose {r : Race σ} {i : Nat} {search : Search} {b : BatchId}
    (h : r.due i = some (search, b)) {answer : Except SyncError Bool} {t : Turn σ}
    (ht : (Engine.loseBatch search.contact search.cutoff b).runOn r.engine {} = (answer, t)) :
    r.move (.lose i) = ⟨t.engine, r.searches.set i (search.next answer)⟩ ∧
      r.reported (.lose i) = t.events := by
  simp only [move, reported, h, ht, and_self]

/-- The moves of a search that removes its candidates without interruption do what the loop of
the engine does. -/
lemma run_loseAll {r : Race σ} {i : Nat} {c : ContactId} {cutoff : Int64} {ids : List BatchId}
    (hsearch : r.searches[i]? = some ⟨c, cutoff, ids⟩) (t : Turn σ) (ht : r.engine = t.engine) :
    let moves := List.replicate ids.length (Move.lose i)
    let after := (Engine.loseAll c cutoff (pure ()) ids t).2
    (r.run moves).engine = after.engine ∧ t.events ++ r.reports moves = after.events := by
  induction ids generalizing r t with
  | nil => exact ⟨ht, List.append_nil _⟩
  | cons b rest ih =>
    -- the loop carries the events so far along, which the moves do not
    have hdue : r.due i = some (⟨c, cutoff, b :: rest⟩, b) := by simp [due, hsearch]
    obtain ⟨hi, -⟩ := List.getElem?_eq_some_iff.mp hsearch
    intro moves after
    have hafter : after = (Engine.loseAll c cutoff (pure ()) (b :: rest) t).2 := rfl
    rw [Engine.loseAll, Act.bind_apply, Engine.steady_loseBatch c cutoff b t] at hafter
    rw [hafter, show moves = .lose i :: List.replicate rest.length (.lose i) from rfl, run_cons,
      reports]
    rcases hrun : (Engine.loseBatch c cutoff b).runOn t.engine {} with ⟨x | lost, u⟩
    -- the loop stops at an error, and the moves that are left find no candidate
    · obtain ⟨hmove, hreported⟩ := move_lose hdue (ht ▸ hrun)
      have hend : (r.move (.lose i)).due i = none := by
        rw [hmove]
        simp [due, Search.next, hi]
      obtain ⟨hsame, hnone⟩ := run_replicate_of_due hend rest.length
      dsimp only
      rw [hsame, hnone, hmove, hreported, List.append_nil]
      exact ⟨rfl, rfl⟩
    · obtain ⟨hmove, hreported⟩ := move_lose hdue (ht ▸ hrun)
      have hleft : (r.move (.lose i)).searches[i]? = some ⟨c, cutoff, rest⟩ := by
        rw [hmove]
        simp [Search.next, hi]
      have hrest := ih hleft ⟨u.engine, t.events ++ u.events, t.sink⟩ (by rw [hmove])
      rw [hreported, ← List.append_assoc]
      cases lost with
      | false => exact hrest
      | true =>
        simp only [if_true, Act.bind_apply, Act.pure_apply]
        rcases hloop : Engine.loseAll c cutoff (pure ()) rest
          ⟨u.engine, t.events ++ u.events, t.sink⟩ with ⟨_ | more, v⟩
        · rw [hloop] at hrest
          exact hrest
        · rw [hloop] at hrest
          exact hrest

/-- A search that nothing interrupts is the search that the engine makes as one operation. -/
theorem run_search (r : Race σ) (c : ContactId) (sink : Sink) :
    ∃ n, let cutoff := Engine.lossCutoff r.engine.config r.engine.now
      let moves := Move.collect c cutoff :: List.replicate n (.lose r.searches.length)
      let search := Step.perform (.findLost c) sink
      (r.run moves).engine = r.engine.step search ∧ r.reports moves = search.reported r.engine := by
  let cutoff := Engine.lossCutoff r.engine.config r.engine.now
  let search := Step.perform (.findLost c) sink
  have hcollect := Act.steady_askAbout c (Store.lostBatches (σ := σ) c cutoff) ⟨r.engine, [], sink⟩
  have hfind : (Engine.findLost c).runOn r.engine sink =
      (Engine.lostCandidates c cutoff >>= Engine.loseAll c cutoff (pure ()))
        ⟨r.engine, [], sink⟩ := rfl
  rw [Act.bind_apply, Engine.lostCandidates, hcollect] at hfind
  rcases hrun : (Act.askAbout c (Store.lostBatches (σ := σ) c cutoff)).runOn r.engine {} with
    ⟨x | ids, u⟩
  -- there is no such contact: the search is over with its first transaction
  · rw [hrun] at hfind
    obtain ⟨hmove, hreported⟩ := move_collect hrun
    refine ⟨0, ?_, ?_⟩
    · rw [List.replicate_zero, run_cons, hmove]
      exact (congrArg (·.2.engine) hfind).symm
    · rw [List.replicate_zero, reports, reports, hreported, List.append_nil]
      exact (congrArg (·.2.events) hfind).symm
  · rw [hrun] at hfind
    obtain ⟨hmove, hreported⟩ := move_collect hrun
    have hbegun : (r.move (.collect c cutoff)).searches[r.searches.length]? =
        some ⟨c, cutoff, ids⟩ := by
      rw [hmove]
      exact List.getElem?_concat_length
    obtain ⟨hengine, hevents⟩ := run_loseAll hbegun ⟨u.engine, u.events, sink⟩ (by rw [hmove])
    refine ⟨ids.length, hengine.trans (congrArg (·.2.engine) hfind).symm, ?_⟩
    rw [reports, hreported]
    exact hevents.trans (congrArg (·.2.events) hfind).symm

end Race

/-! ## Moves over a store in memory -/

namespace Engine

/-- What is removed and reported when one candidate is tried. -/
lemma loseBatch_runOn (e : Engine Memory) (c : ContactId) (cutoff : Int64) (b : BatchId) :
    let t := ((loseBatch c cutoff b).runOn e {}).2
    let log := e.store.about c [.lose c b cutoff]
    t.engine = { e with store := e.store.changes log } ∧
      t.events.filterMap (Event.milestone c) =
        (e.store.milestones c log).filter Milestone.reported := by
  intro t log
  -- it is what a loop over this one candidate does
  have hloop : t = (loseAll c cutoff (pure ()) [b] ⟨e, [], {}⟩).2 := by
    rw [loseAll, Act.bind_apply]
    show (loseBatch c cutoff b ⟨e, [], {}⟩).2 = _
    rcases loseBatch c cutoff b ⟨e, [], {}⟩ with ⟨_ | lost, u⟩
    · rfl
    · cases lost <;> rfl
  by_cases hc : c ∈ e.store.contacts
  · have hlog : log = [b].map (.lose c · cutoff) := if_pos hc
    rw [hloop, loseAll_apply cutoff [b] ⟨e, [], {}⟩ hc, hlog]
    refine ⟨rfl, ?_⟩
    rw [Memory.filter_milestones_loses, Turn.events_after, List.nil_append, List.filterMap_map,
      ← List.filterMap_eq_map]
    exact congrArg (List.filterMap · _) (funext fun e => if_pos rfl)
  · have hlog : log = [] := if_neg hc
    have ht : t = ⟨e, [], {}⟩ := by
      show (loseBatch c cutoff b ⟨e, [], {}⟩).2 = _
      rw [loseBatch, Act.bind_apply, Act.askAbout_apply, if_neg hc]
    rw [ht, hlog]
    exact ⟨rfl, rfl⟩

/-- Candidates are only looked up. -/
lemma lostCandidates_runOn (e : Engine Memory) (c : ContactId) (cutoff : Int64) :
    ((lostCandidates c cutoff).runOn e {}).2 = ⟨e, [], {}⟩ := by
  rw [lostCandidates, Act.runOn, Act.askAbout_apply]
  split <;> rfl

end Engine

namespace Race

/-- The changes that a move makes. -/
def log (r : Race Memory) : Move → List Change
  | .perform step => step.log r.engine
  | .collect _ _ => []
  | .lose i =>
    match r.due i with
    | none => []
    | some (search, b) =>
      r.engine.store.about search.contact [.lose search.contact b search.cutoff]

/-- What moves in turn open and close of the batches for a contact. -/
def milestones (r : Race Memory) (c : ContactId) : List Move → List Milestone
  | [] => []
  | m :: rest => r.engine.store.milestones c (r.log m) ++ (r.move m).milestones c rest

variable {r : Race Memory} {c : ContactId}

lemma milestones_append (r : Race Memory) (c : ContactId) (done rest : List Move) :
    r.milestones c (done ++ rest) = r.milestones c done ++ (r.run done).milestones c rest := by
  induction done generalizing r with
  | nil => rfl
  | cons m steps ih =>
    rw [List.cons_append, milestones, milestones, ih, List.append_assoc, run_cons]

/-- A search loses a batch, or does nothing. -/
lemma log_lose (r : Race Memory) (i : Nat) :
    r.log (.lose i) = [] ∨ ∃ c b cutoff, r.log (.lose i) = [.lose c b cutoff] := by
  rw [log]
  cases r.due i with
  | none => exact .inl rfl
  | some due =>
    dsimp only [Memory.about]
    split
    · exact .inr ⟨_, _, _, rfl⟩
    · exact .inl rfl

/-- A move changes the store by its changes. -/
theorem store_move (r : Race Memory) (m : Move) :
    (r.move m).engine.store = r.engine.store.changes (r.log m) := by
  cases m with
  | perform step => exact r.engine.store_step step
  | collect c cutoff =>
    show ((Engine.lostCandidates c cutoff).runOn r.engine {}).2.engine.store = _
    rw [Engine.lostCandidates_runOn]
    rfl
  | lose i =>
    rw [move, log]
    cases r.due i with
    | none => rfl
    | some due =>
      obtain ⟨search, b⟩ := due
      show ((Engine.loseBatch search.contact search.cutoff b).runOn r.engine {}).2.engine.store = _
      rw [(Engine.loseBatch_runOn r.engine search.contact search.cutoff b).1]

lemma allows_log (hs : r.engine.store.Keyed) (m : Move) : r.engine.store.Allows (r.log m) := by
  cases m with
  | perform step => exact step.allows_log hs
  | collect c cutoff => trivial
  | lose i =>
    rcases r.log_lose i with hlog | ⟨c, b, cutoff, hlog⟩
    · rw [hlog]
      trivial
    · rw [hlog]
      exact Memory.allows_singleton trivial

lemma consistent_move (hs : r.engine.store.Consistent) (m : Move) :
    (r.move m).engine.store.Consistent := by
  rw [store_move]
  exact Memory.changes_induction (fun _ _ hs hx => hs.change hx) hs (allows_log hs.keyed m)

/-- What is said of the batches for a contact in the reports of a move is read off its changes. -/
lemma announced_eq (r : Race Memory) (c : ContactId) (m : Move) :
    (r.reported m).filterMap (Event.milestone c) =
      (r.engine.store.milestones c (r.log m)).filter Milestone.reported := by
  cases m with
  | perform step => exact step.announced_eq r.engine c
  | collect c' cutoff =>
    show ((Engine.lostCandidates c' cutoff).runOn r.engine {}).2.events.filterMap _ = _
    rw [Engine.lostCandidates_runOn]
    rfl
  | lose i =>
    rw [reported, log]
    cases r.due i with
    | none => rfl
    | some due =>
      obtain ⟨search, b⟩ := due
      by_cases hc : search.contact = c
      · subst hc
        exact (Engine.loseBatch_runOn r.engine search.contact search.cutoff b).2
      -- nothing is said of the batches of another contact
      · have hquiet : ∀ x ∈ r.engine.store.about search.contact
            [.lose search.contact b search.cutoff], ¬ x.About c := by
          intro x hx habout
          obtain rfl := List.mem_singleton.mp (Memory.mem_about hx).2
          exact hc habout
        obtain ⟨events, hevents, hlost⟩ :=
          Engine.reports_loseBatch search.contact search.cutoff b ⟨r.engine, [], {}⟩
        dsimp only
        rw [Memory.milestones_eq_nil fun x hx s => Memory.milestone_eq_none (hquiet x hx),
          Act.runOn, hevents]
        refine List.filterMap_eq_nil_iff.mpr fun event hmem => ?_
        obtain ⟨_, _, rfl⟩ := hlost event hmem
        exact if_neg hc

lemma filterMap_reports (r : Race Memory) (c : ContactId) (moves : List Move) :
    (r.reports moves).filterMap (Event.milestone c) =
      (r.milestones c moves).filter Milestone.reported := by
  induction moves generalizing r with
  | nil => rfl
  | cons m rest ih =>
    rw [reports, milestones, List.filterMap_append, List.filter_append, announced_eq, ih]

/-- The batches that a move sends to a contact are in its log. -/
lemma sentTo_log (r : Race Memory) (c : ContactId) (m : Move) :
    (r.log m).filterMap (Change.sentTo c) =
      ((r.sent m).toList.filter fun s => s.1 = c).map fun s => s.2.id := by
  cases m with
  | perform step => exact step.sentTo_log r.engine c
  | collect _ _ => rfl
  | lose i =>
    rcases r.log_lose i with hlog | ⟨c', b, cutoff, hlog⟩
    · rw [hlog]
      rfl
    · rw [hlog]
      rfl

/-- The batches of a contact are balanced in races in which no identifier is used twice. -/
theorem accounts_run (hs : r.engine.store.Consistent) {past : List Milestone}
    (hpast : r.engine.store.Accounts c past) {moves : List Move}
    (hids : (past.filterMap Milestone.opened ++ r.batchesTo c moves).Nodup) :
    (r.run moves).engine.store.Accounts c (past ++ r.milestones c moves) := by
  induction moves generalizing r past with
  | nil => exact (List.append_nil past).symm ▸ hpast
  | cons m rest ih =>
    rw [batchesTo, ← sentTo_log] at hids
    obtain ⟨hmove, hrest⟩ := hpast.extend hs (allows_log hs.keyed m) hids
    rw [← store_move] at hmove
    rw [run_cons, milestones, ← List.append_assoc]
    exact ih (consistent_move hs m) hmove hrest

end Race

/-! ## Either store -/

namespace Backend

/-- Races of twins, with the same searches. -/
structure RaceTwin (backend : Backend) (r : Race backend.Data) (r' : Race Memory) : Prop where
  engine : backend.Twin r.engine r'.engine
  searches : r.searches = r'.searches

namespace RaceTwin

variable {backend : Backend} {r : Race backend.Data} {r' : Race Memory}

lemma due (h : backend.RaceTwin r r') (i : Nat) : r.due i = r'.due i := by
  rw [Race.due, Race.due, h.searches]

/-- A move is the same for twins: both stay twins, and the same is said of batches. -/
lemma move (h : backend.RaceTwin r r') (m : Race.Move) :
    backend.RaceTwin (r.move m) (r'.move m) ∧ ∀ c,
      (r.reported m).filterMap (Event.milestone c) =
        (r'.reported m).filterMap (Event.milestone c) := by
  have hconsistent := Race.consistent_move h.engine.consistent m
  cases m with
  | perform step => exact ⟨⟨h.engine.step step, h.searches⟩, h.engine.announced_eq step⟩
  | collect c cutoff =>
    obtain ⟨hanswer, hevents, -, htwin⟩ := h.engine.act (Engine.lostCandidates c cutoff)
      (Act.alike_lostCandidates c cutoff) [] {}
    refine ⟨⟨htwin hconsistent, ?_⟩, fun c' => congrArg (List.filterMap _) hevents⟩
    simp only [Race.move, Act.runOn, hanswer, h.searches]
  | lose i =>
    cases hdue : r'.due i with
    | none =>
      simpa only [Race.move, Race.reported, h.due, hdue, implies_true, and_true] using h
    | some due =>
      obtain ⟨search, b⟩ := due
      simp only [Race.move, hdue] at hconsistent
      obtain ⟨hanswer, hevents, -, htwin⟩ :=
        h.engine.act (Engine.loseBatch search.contact search.cutoff b)
          (Act.alike_loseBatch search.contact search.cutoff b) [] {}
      simp only [Race.move, Race.reported, h.due, hdue]
      refine ⟨⟨htwin hconsistent, ?_⟩, fun c' => congrArg (List.filterMap _) hevents⟩
      simp only [Act.runOn, hanswer, h.searches]

lemma run (h : backend.RaceTwin r r') (moves : List Race.Move) :
    backend.RaceTwin (r.run moves) (r'.run moves) := by
  induction moves generalizing r r' with
  | nil => exact h
  | cons m rest ih => exact ih (h.move m).1

lemma sent (h : backend.RaceTwin r r') (m : Race.Move) : r.sent m = r'.sent m := by
  cases m with
  | perform step => exact h.engine.sent step
  | collect _ _ | lose _ => rfl

lemma batchesTo (h : backend.RaceTwin r r') (c : ContactId) (moves : List Race.Move) :
    r.batchesTo c moves = r'.batchesTo c moves := by
  induction moves generalizing r r' with
  | nil => rfl
  | cons m rest ih => rw [Race.batchesTo, Race.batchesTo, h.sent, ih (h.move m).1]

/-- In races of twins the same is said of batches. -/
lemma filterMap_reports (h : backend.RaceTwin r r') (c : ContactId) (moves : List Race.Move) :
    (r.reports moves).filterMap (Event.milestone c) =
      (r'.milestones c moves).filter Milestone.reported := by
  rw [← r'.filterMap_reports]
  induction moves generalizing r r' with
  | nil => rfl
  | cons m rest ih =>
    rw [Race.reports, Race.reports, List.filterMap_append, List.filterMap_append,
      (h.move m).2 c, ih (h.move m).1]

end RaceTwin

end Backend

end MessageSync
