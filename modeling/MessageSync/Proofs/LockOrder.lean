import Mathlib.Algebra.Order.BigOperators.Group.List
import Mathlib.Algebra.Ring.Nat
import Mathlib.Tactic.Lemma
import MessageSync.Locks

/-!
# Threads that lock domains do not block each other

Threads run guarded operations one after another. An operation takes the locks of its set
one at a time, in the order of the domains, and gives them back one at a time, the last one
first. A thread that wants a lock that is held, by another thread or by itself, waits. The
threads take their steps in any order (`Locks.State.run`).

The locks that a thread holds are all of lower rank than those it still wants
(`Locks.Thread.Ordered`). A thread that waits for a lock therefore waits for one that can
take a step, or that itself waits for a lock of higher rank, and there are only so many ranks
(`Locks.State.no_deadlock`). As every step does a part of the work there is, every run can be
brought to its end (`Locks.State.exists_run_finished`).
-/

namespace MessageSync

namespace Domain

lemma pairwise_all : all.Pairwise fun d e => d.rank < e.rank := by decide

lemma rank_lt (d : Domain) : d.rank < all.length := by
  cases d <;> decide

end Domain

/-- The domains of a set are in the order of their ranks. -/
lemma LockSet.pairwise_inOrder (s : LockSet) : s.inOrder.Pairwise fun d e => d.rank < e.rank :=
  Domain.pairwise_all.filter _

namespace Locks

/-- Gives back one lock. -/
def giveBack (l : Locks) (d : Domain) : Locks := ⟨fun e => if e = d then none else l.holder e⟩

/-- A thread between two of its steps. -/
structure Thread where
  /-- The locks it holds, the one taken last first. -/
  held : List Domain
  /-- The locks it still takes for the operation that it is in. -/
  wanted : List Domain
  /-- The sets of the operations that come after it. -/
  later : List LockSet

namespace Thread

/-- A thread that has these operations before it. -/
def start (sets : List LockSet) : Thread := ⟨[], [], sets⟩

/-- Whether a thread has run all of its operations and gave back all of its locks. -/
def Finished (t : Thread) : Prop := t.held = [] ∧ t.wanted = [] ∧ t.later = []

/-- The next step of a thread, with the locks after it. A thread that waits has none. -/
def step? (l : Locks) (owner : Nat) : Thread → Option (Locks × Thread)
  | ⟨held, d :: wanted, later⟩ =>
    (l.take owner d).map fun l' => (l', ⟨d :: held, wanted, later⟩)
  | ⟨d :: held, [], later⟩ => some (l.giveBack d, ⟨held, [], later⟩)
  | ⟨[], [], s :: later⟩ => some (l, ⟨[], s.inOrder, later⟩)
  | ⟨[], [], []⟩ => none

/-- The number of steps that a thread has before it. -/
def work (t : Thread) : Nat :=
  t.held.length + 2 * t.wanted.length + (t.later.map fun s => 1 + 2 * s.inOrder.length).sum

/-- The locks of a thread were taken in the order of the domains, and those it still wants
come after them. -/
def Ordered (t : Thread) : Prop :=
  (t.held.reverse ++ t.wanted).Pairwise fun d e => d.rank < e.rank

end Thread

/-- All locks, and the threads that use them. The number of a thread is its place. -/
structure State where
  locks : Locks
  threads : List Thread

namespace State

/-- No lock is held, and each thread has its operations before it. -/
def start (jobs : List (List LockSet)) : State := ⟨free, jobs.map Thread.start⟩

/-- The step of one thread. -/
def step? (s : State) (i : Nat) : Option State :=
  s.threads[i]?.bind fun t =>
    (t.step? s.locks i).map fun next => ⟨next.1, s.threads.set i next.2⟩

/-- The steps of the threads with these numbers, in turn. -/
def run (s : State) (schedule : List Nat) : Option State := schedule.foldlM step? s

/-- Whether a thread holds the lock of a domain. -/
def Holds (s : State) (i : Nat) (d : Domain) : Prop :=
  ∃ t, s.threads[i]? = some t ∧ d ∈ t.held

/-- Whether all threads are finished. -/
def Finished (s : State) : Prop := ∀ t ∈ s.threads, t.Finished

/-- The number of steps that the threads have before them. -/
def work (s : State) : Nat := (s.threads.map Thread.work).sum

end State

/-! ## One thread -/

namespace Thread

variable {l l' : Locks} {i : Nat} {t t' : Thread} {d : Domain}

lemma take_eq_some (h : l.take i d = some l') :
    l.holder d = none ∧ l' = ⟨fun e => if e = d then some i else l.holder e⟩ := by
  unfold take at h
  split at h
  · cases h
  · next hfree => exact ⟨hfree, (Option.some.inj h).symm⟩

/-- A thread takes a lock that is free, gives one back, or begins an operation. -/
lemma step?_cases (h : t.step? l i = some (l', t')) :
    (∃ d, l.holder d = none ∧ t.wanted = d :: t'.wanted ∧ t'.held = d :: t.held ∧
      t'.later = t.later ∧ l' = ⟨fun e => if e = d then some i else l.holder e⟩) ∨
    (∃ d, t.wanted = [] ∧ t'.wanted = [] ∧ t.held = d :: t'.held ∧
      t'.later = t.later ∧ l' = l.giveBack d) ∨
    (∃ s, t.wanted = [] ∧ t.held = [] ∧ t'.held = [] ∧ t'.wanted = s.inOrder ∧
      t.later = s :: t'.later ∧ l' = l) := by
  obtain ⟨held, wanted, later⟩ := t
  rcases wanted with _ | ⟨d, wanted⟩
  · rcases held with _ | ⟨d, held⟩
    · rcases later with _ | ⟨s, later⟩
      · cases h
      · cases h
        exact .inr (.inr ⟨s, rfl, rfl, rfl, rfl, rfl, rfl⟩)
    · cases h
      exact .inr (.inl ⟨d, rfl, rfl, rfl, rfl, rfl⟩)
  · obtain ⟨l₁, htake, heq⟩ := Option.map_eq_some_iff.mp h
    cases heq
    obtain ⟨hfree, hlocks⟩ := take_eq_some htake
    exact .inl ⟨d, hfree, rfl, rfl, rfl, hlocks⟩

lemma ordered_start (sets : List LockSet) : (start sets).Ordered := List.Pairwise.nil

lemma Ordered.step (ht : t.Ordered) (h : t.step? l i = some (l', t')) : t'.Ordered := by
  unfold Ordered at ht ⊢
  rcases step?_cases h with ⟨d, -, hwanted, hheld, -⟩ | ⟨d, -, hwanted, hheld, -⟩ |
    ⟨s, -, -, hheld, hwanted, -⟩
  · rw [hwanted] at ht
    rw [hheld, List.reverse_cons, List.append_assoc]
    exact ht
  · rw [hheld, List.reverse_cons, List.append_assoc] at ht
    rw [hwanted, List.append_nil]
    exact (List.pairwise_append.mp ht).1
  · rw [hheld, hwanted]
    exact s.pairwise_inOrder

/-- A thread holds no lock twice. -/
lemma Ordered.nodup (ht : t.Ordered) : t.held.Nodup := by
  have hheld : t.held.reverse.Pairwise fun d e => d.rank < e.rank :=
    (List.pairwise_append.mp ht).1
  exact (List.pairwise_reverse.mp hheld).imp fun hlt heq => by
    rw [heq] at hlt
    exact Nat.lt_irrefl _ hlt

/-- What a thread holds is of lower rank than what it wants. -/
lemma Ordered.rank_lt (ht : t.Ordered) {e : Domain} (hd : d ∈ t.held) (he : e ∈ t.wanted) :
    d.rank < e.rank :=
  (List.pairwise_append.mp ht).2.2 d (List.mem_reverse.mpr hd) e he

/-- After its step, a thread again holds the locks that name it. -/
lemma holder_step (ht : t.Ordered) (hown : ∀ d, d ∈ t.held ↔ l.holder d = some i)
    (h : t.step? l i = some (l', t')) (d : Domain) : d ∈ t'.held ↔ l'.holder d = some i := by
  rcases step?_cases h with ⟨e, -, -, hheld, -, rfl⟩ | ⟨e, -, -, hheld, -, rfl⟩ |
    ⟨s, -, hheld, hheld', -, -, rfl⟩
  · rw [hheld, List.mem_cons, hown]
    by_cases hd : d = e
    · simp [hd]
    · simp [hd]
  · have hnodup := ht.nodup
    rw [hheld, List.nodup_cons] at hnodup
    have hown := hown d
    rw [hheld, List.mem_cons] at hown
    unfold giveBack
    by_cases hd : d = e
    · subst hd
      simp [hnodup.1]
    · simp [← hown, hd]
  · rw [hheld', ← hheld]
    exact hown d

/-- The step of a thread leaves the locks of all others alone. -/
lemma holder_step_other (hown : ∀ d, d ∈ t.held ↔ l.holder d = some i)
    (h : t.step? l i = some (l', t')) {j : Nat} (hj : j ≠ i) (d : Domain) :
    l'.holder d = some j ↔ l.holder d = some j := by
  have hne : i ≠ j := fun heq => hj heq.symm
  rcases step?_cases h with ⟨e, hfree, -, -, -, rfl⟩ | ⟨e, -, -, hheld, -, rfl⟩ |
    ⟨s, -, -, -, -, -, rfl⟩
  · by_cases hd : d = e
    · simp [hd, hfree, hne]
    · simp [hd]
  · have hholder : l.holder e = some i := by
      rw [← hown, hheld]
      exact List.mem_cons_self
    unfold giveBack
    by_cases hd : d = e
    · simp [hd, hholder, hne]
    · simp [hd]
  · exact Iff.rfl

/-- Every step is one less to do. -/
lemma work_step (h : t.step? l i = some (l', t')) : t.work = t'.work + 1 := by
  unfold work
  rcases step?_cases h with ⟨d, -, hwanted, hheld, hlater, -⟩ |
    ⟨d, hwanted, hwanted', hheld, hlater, -⟩ | ⟨s, hwanted, hheld, hheld', hwanted', hlater, -⟩
  · rw [hwanted, hheld, hlater, List.length_cons, List.length_cons]
    omega
  · rw [hwanted, hwanted', hheld, hlater, List.length_cons]
    omega
  · rw [hwanted, hwanted', hheld, hheld', hlater, List.map_cons, List.sum_cons, List.length_nil]
    omega

/-- A thread that is not finished can take a step, or wants a lock that is held. -/
lemma exists_step_or_waits (h : ¬ t.Finished) (l : Locks) (i : Nat) :
    (t.step? l i).isSome ∨ ∃ d j, d ∈ t.wanted ∧ l.holder d = some j := by
  obtain ⟨held, wanted, later⟩ := t
  rcases wanted with _ | ⟨d, wanted⟩
  · rcases held with _ | ⟨d, held⟩
    · rcases later with _ | ⟨s, later⟩
      · exact absurd ⟨rfl, rfl, rfl⟩ h
      · exact .inl rfl
    · exact .inl rfl
  · rcases hholder : l.holder d with _ | j
    · refine .inl ?_
      have htake : l.take i d = some ⟨fun e => if e = d then some i else l.holder e⟩ := by
        unfold take
        rw [hholder]
      unfold step?
      dsimp only
      rw [htake]
      rfl
    · exact .inr ⟨d, j, List.mem_cons_self, hholder⟩

end Thread

/-! ## All threads -/

namespace State

variable {jobs : List (List LockSet)} {schedule : List Nat} {s s' : State} {i j : Nat} {d : Domain}

/-- A thread holds the locks that name it, and takes locks in the order of the domains. -/
structure Sound (s : State) : Prop where
  holds_iff : ∀ d i, s.Holds i d ↔ s.locks.holder d = some i
  ordered : ∀ t ∈ s.threads, t.Ordered

lemma step?_eq {t : Thread} (ht : s.threads[i]? = some t) :
    s.step? i = (t.step? s.locks i).map fun next => ⟨next.1, s.threads.set i next.2⟩ := by
  unfold step?
  rw [ht]
  rfl

lemma step?_eq_some (h : s.step? i = some s') :
    ∃ t t', s.threads[i]? = some t ∧ t.step? s.locks i = some (s'.locks, t') ∧
      s'.threads = s.threads.set i t' := by
  obtain ⟨t, ht, h⟩ := Option.bind_eq_some_iff.mp h
  obtain ⟨⟨locks, t'⟩, hstep, h⟩ := Option.map_eq_some_iff.mp h
  cases h
  exact ⟨t, t', ht, hstep, rfl⟩

lemma sound_start (jobs : List (List LockSet)) : (start jobs).Sound := by
  have hthread : ∀ t ∈ (start jobs).threads, ∃ sets, t = Thread.start sets := by
    intro t ht
    obtain ⟨sets, -, rfl⟩ := List.mem_map.mp ht
    exact ⟨sets, rfl⟩
  constructor
  · intro d i
    constructor
    · rintro ⟨t, ht, hheld⟩
      obtain ⟨sets, rfl⟩ := hthread t (List.mem_of_getElem? ht)
      cases hheld
    · intro hholder
      cases hholder
  · intro t ht
    obtain ⟨sets, rfl⟩ := hthread t ht
    exact Thread.ordered_start sets

/-- A step of a thread takes a free lock, gives back a lock of its own, or leaves the locks
alone. -/
lemma Sound.step (hs : s.Sound) (h : s.step? i = some s') : s'.Sound := by
  obtain ⟨t, t', ht, hstep, hthreads⟩ := step?_eq_some h
  have hmem : t ∈ s.threads := List.mem_of_getElem? ht
  have hown : ∀ d, d ∈ t.held ↔ s.locks.holder d = some i := by
    intro d
    rw [← hs.holds_iff]
    unfold Holds
    simp [ht]
  constructor
  · intro d j
    unfold Holds
    rw [hthreads, List.getElem?_set]
    by_cases hj : i = j
    · subst hj
      obtain ⟨hi, -⟩ := List.getElem?_eq_some_iff.mp ht
      rw [← Thread.holder_step (hs.ordered t hmem) hown hstep d]
      simp [hi]
    · rw [if_neg hj, Thread.holder_step_other hown hstep (fun heq => hj heq.symm) d]
      exact hs.holds_iff d j
  · intro u hu
    rw [hthreads] at hu
    rcases List.mem_or_eq_of_mem_set hu with hold | rfl
    · exact hs.ordered u hold
    · exact (hs.ordered t hmem).step hstep

lemma Sound.run (hs : s.Sound) (h : s.run schedule = some s') : s'.Sound := by
  induction schedule generalizing s with
  | nil =>
    cases h
    exact hs
  | cons i schedule ih =>
    obtain ⟨s₁, hstep, hrun⟩ := Option.bind_eq_some_iff.mp h
    exact ih (hs.step hstep) hrun

/-! ## Progress -/

lemma exists_step {t : Thread} (ht : s.threads[i]? = some t) (h : (t.step? s.locks i).isSome) :
    ∃ j s', s.step? j = some s' := by
  obtain ⟨⟨locks, t'⟩, hstep⟩ := Option.isSome_iff_exists.mp h
  refine ⟨i, ⟨locks, s.threads.set i t'⟩, ?_⟩
  rw [step?_eq ht, hstep]
  rfl

/-- If a thread holds a lock, some thread can take a step: the thread itself, or one further
up among those that wait for each other, of which each holds a lock of higher rank. -/
lemma Sound.exists_step_of_holds (hs : s.Sound) {i : Nat} {d : Domain} (h : s.Holds i d) :
    ∃ j s', s.step? j = some s' := by
  obtain ⟨t, ht, hheld⟩ := h
  have hunfinished : ¬ t.Finished := by
    intro hfinished
    rw [hfinished.1] at hheld
    cases hheld
  rcases Thread.exists_step_or_waits hunfinished s.locks i with hstep | ⟨e, j, hwanted, hholder⟩
  · exact exists_step ht hstep
  · have hlt : d.rank < e.rank := (hs.ordered t (List.mem_of_getElem? ht)).rank_lt hheld hwanted
    have hbound := e.rank_lt
    exact hs.exists_step_of_holds ((hs.holds_iff e j).mpr hholder)
termination_by Domain.all.length - d.rank

lemma Sound.exists_step (hs : s.Sound) {t : Thread} (ht : t ∈ s.threads) (h : ¬ t.Finished) :
    ∃ j s', s.step? j = some s' := by
  obtain ⟨i, hi⟩ := List.getElem?_of_mem ht
  rcases Thread.exists_step_or_waits h s.locks i with hstep | ⟨e, j, -, hholder⟩
  · exact State.exists_step hi hstep
  · exact hs.exists_step_of_holds ((hs.holds_iff e j).mpr hholder)

/-- Whatever operations the threads run and in whatever order they take their steps, no two
threads hold the same lock, and some thread can take a step until all are finished. -/
theorem no_deadlock (h : (start jobs).run schedule = some s) :
    (∀ d i j, s.Holds i d → s.Holds j d → i = j) ∧
      ((∃ t ∈ s.threads, ¬ t.Finished) → ∃ i s', s.step? i = some s') := by
  have hs : s.Sound := (sound_start jobs).run h
  constructor
  · intro d i j hi hj
    have hholder : some i = some j :=
      ((hs.holds_iff d i).mp hi).symm.trans ((hs.holds_iff d j).mp hj)
    exact Option.some.inj hholder
  · rintro ⟨t, ht, hunfinished⟩
    exact hs.exists_step ht hunfinished

/-- Two threads lock the same two domains, and one waits for the other. -/
theorem no_deadlock_two :
    ∃ s, (start [[.ofList [.contact, .transport]], [.ofList [.transport, .contact]]]).run
        [0, 1, 0] = some s ∧ s.step? 1 = none ∧
      (∀ d i j, s.Holds i d → s.Holds j d → i = j) ∧
      ((∃ t ∈ s.threads, ¬ t.Finished) → ∃ i s', s.step? i = some s') :=
  ⟨_, rfl, rfl, @no_deadlock
    [[.ofList [.contact, .transport]], [.ofList [.transport, .contact]]] [0, 1, 0] _ rfl⟩

/-! ## The end of a run -/

/-- Each step of a run is one less to do. -/
lemma work_step (h : s.step? i = some s') : s.work = s'.work + 1 := by
  obtain ⟨t, t', ht, hstep, hthreads⟩ := step?_eq_some h
  have hwork := Thread.work_step hstep
  obtain ⟨hi, hget⟩ := List.getElem?_eq_some_iff.mp ht
  have hsame : s.threads = s.threads.set i t := by
    rw [← hget, List.set_getElem_self]
  unfold work
  rw [hthreads, hsame, List.set_set, List.map_set, List.map_set, List.sum_set, List.sum_set]
  simp only [List.length_map, hi, if_true]
  omega

theorem length_add_work (h : s.run schedule = some s') : schedule.length + s'.work = s.work := by
  induction schedule generalizing s with
  | nil =>
    cases h
    exact Nat.zero_add _
  | cons i schedule ih =>
    obtain ⟨s₁, hstep, hrun⟩ := Option.bind_eq_some_iff.mp h
    have hwork := work_step hstep
    have hrest := ih hrun
    rw [List.length_cons]
    omega

lemma Sound.locks_eq_free (hs : s.Sound) (h : s.Finished) : s.locks = free := by
  have hfree : s.locks.holder = fun _ => none := by
    funext d
    refine Option.eq_none_iff_forall_ne_some.mpr fun i hholder => ?_
    obtain ⟨t, ht, hheld⟩ := (hs.holds_iff d i).mpr hholder
    rw [(h t (List.mem_of_getElem? ht)).1] at hheld
    cases hheld
  exact congrArg Locks.mk hfree

lemma Sound.exists_run (hs : s.Sound) : ∃ rest s', s.run rest = some s' ∧ s'.Finished := by
  induction hwork : s.work generalizing s with
  | zero =>
    refine ⟨[], s, rfl, fun t ht => ?_⟩
    by_contra hunfinished
    obtain ⟨i, s', hstep⟩ := hs.exists_step ht hunfinished
    have hless := work_step hstep
    omega
  | succ n ih =>
    by_cases hfinished : s.Finished
    · exact ⟨[], s, rfl, hfinished⟩
    · unfold Finished at hfinished
      push Not at hfinished
      obtain ⟨t, ht, hunfinished⟩ := hfinished
      obtain ⟨i, s₁, hstep⟩ := hs.exists_step ht hunfinished
      have hless := work_step hstep
      obtain ⟨rest, s', hrun, hend⟩ := ih (hs.step hstep) (by omega)
      refine ⟨i :: rest, s', ?_, hend⟩
      show (s.step? i).bind _ = some s'
      rw [hstep]
      exact hrun

/-- Every run can be brought to its end, at which no lock is held. -/
theorem exists_run_finished (h : (start jobs).run schedule = some s) :
    ∃ rest s', s.run rest = some s' ∧ s'.Finished ∧ s'.locks = free := by
  have hs : s.Sound := (sound_start jobs).run h
  obtain ⟨rest, s', hrun, hend⟩ := hs.exists_run
  exact ⟨rest, s', hrun, hend, (hs.run hrun).locks_eq_free hend⟩

/-! ## A thread that runs by itself -/

lemma run_cons (s : State) (i : Nat) (schedule : List Nat) :
    s.run (i :: schedule) = (s.step? i).bind fun s' => s'.run schedule := rfl

lemma set_same {t : Thread} (ht : s.threads[i]? = some t) : s.threads.set i t = s.threads := by
  obtain ⟨hi, rfl⟩ := List.getElem?_eq_some_iff.mp ht
  exact List.set_getElem_self hi

lemma run_wanted {held wanted : List Domain} {later : List LockSet}
    (ht : s.threads[i]? = some ⟨held, wanted, later⟩) :
    s.run (List.replicate wanted.length i) =
      (wanted.foldlM (fun (l : Locks) d => l.take i d) s.locks).map fun l =>
        ⟨l, s.threads.set i ⟨wanted.reverse ++ held, [], later⟩⟩ := by
  induction wanted generalizing s held with
  | nil =>
    show some s = some _
    rw [List.reverse_nil, List.nil_append, set_same ht]
  | cons d wanted ih =>
    obtain ⟨hi, -⟩ := List.getElem?_eq_some_iff.mp ht
    rw [List.length_cons, List.replicate_succ, run_cons, step?_eq ht, List.foldlM_cons]
    show (((s.locks.take i d).map _).map _).bind _ = ((s.locks.take i d).bind _).map _
    rcases s.locks.take i d with _ | l
    · rfl
    · show run ⟨l, s.threads.set i ⟨d :: held, wanted, later⟩⟩ _ = _
      rw [ih (List.getElem?_set_self hi), List.set_set, List.reverse_cons, List.append_assoc]
      rfl

/-- A thread that no other comes between takes the locks of its operation, and waits for
them, as if it took them at once. -/
theorem run_acquire {set : LockSet} {later : List LockSet}
    (ht : s.threads[i]? = some ⟨[], [], set :: later⟩) :
    s.run (List.replicate (set.inOrder.length + 1) i) =
      (s.locks.acquire i set).map fun l =>
        ⟨l, s.threads.set i ⟨set.inOrder.reverse, [], later⟩⟩ := by
  obtain ⟨hi, -⟩ := List.getElem?_eq_some_iff.mp ht
  rw [List.replicate_succ, run_cons, step?_eq ht]
  show run ⟨s.locks, s.threads.set i ⟨[], set.inOrder, later⟩⟩ _ = _
  rw [run_wanted (List.getElem?_set_self hi), List.set_set, List.append_nil]
  rfl

lemma release_giveBack {l : Locks} (h : l.holder d = some i) :
    (l.giveBack d).release i = l.release i := by
  unfold release giveBack
  refine congrArg Locks.mk (funext fun e => ?_)
  by_cases he : e = d
  · simp [he, h]
  · simp [he]

/-- A thread that no other comes between gives back all of its locks. -/
theorem Sound.run_release (hs : s.Sound) {held : List Domain} {later : List LockSet}
    (ht : s.threads[i]? = some ⟨held, [], later⟩) :
    s.run (List.replicate held.length i) =
      some ⟨s.locks.release i, s.threads.set i ⟨[], [], later⟩⟩ := by
  induction held generalizing s with
  | nil =>
    have hnone : ∀ d, s.locks.holder d ≠ some i := by
      intro d hholder
      obtain ⟨t, ht', hheld⟩ := (hs.holds_iff d i).mpr hholder
      cases ht.symm.trans ht'
      cases hheld
    have hrelease : s.locks.release i = s.locks := by
      refine congrArg Locks.mk (funext fun d => ?_)
      rw [if_neg (hnone d)]
    show some s = some _
    rw [hrelease, set_same ht]
  | cons d held ih =>
    obtain ⟨hi, -⟩ := List.getElem?_eq_some_iff.mp ht
    have hholder : s.locks.holder d = some i :=
      (hs.holds_iff d i).mp ⟨_, ht, List.mem_cons_self⟩
    have hstep : s.step? i = some ⟨s.locks.giveBack d, s.threads.set i ⟨held, [], later⟩⟩ :=
      step?_eq ht
    rw [List.length_cons, List.replicate_succ, run_cons, hstep]
    show State.run ⟨s.locks.giveBack d, s.threads.set i ⟨held, [], later⟩⟩ _ = _
    rw [ih (hs.step hstep) (List.getElem?_set_self hi), List.set_set, release_giveBack hholder]

end State

end Locks

end MessageSync
