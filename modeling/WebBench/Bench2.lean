import Mathlib.Algebra.BigOperators.Group.List.Basic
import Mathlib.Algebra.BigOperators.Pi
import Mathlib.Algebra.BigOperators.Intervals
import Mathlib.Algebra.Order.BigOperators.Group.Finset
import Mathlib.Tactic.Abel
import WebBench.Arguments
import WebBench.Lib.ForkJoin

/-!
# `bench2.c`: the threaded drivers

Each thread calls `communicate` until its time is up and counts the results.
`bench` has the threads add their counts to shared totals under a mutex;
`bench_with_no_racing` gives each thread an entry of its own and adds the
entries up after the joins. The result of every `communicate` is an input.
-/

namespace WebBench.Bench2
set_option autoImplicit false
open CLib Relation

/-- The counters of `BenchData` and `BenchDataNoRace`, in the order the workers add to them. -/
inductive Counter where
  | speed | failed | bytes
  deriving DecidableEq, Repr

/-- One value for each counter. The `int`s of the code are exact integers here. -/
abbrev Stats := Counter → Int

/-- `counter += n`. -/
def Stats.plus (stats : Stats) (counter : Counter) (n : Int) : Stats :=
  Function.update stats counter (stats counter + n)

/-! ## The workers -/

/-- What `bench_worker` counts for a result of `communicate`. -/
def countResult (locals : Stats) (ret : Int) : Stats :=
  if 0 ≤ ret then (locals.plus .bytes ret).plus .speed 1
  else if ret < 0 then locals.plus .failed 1
  else locals

/-- What `bench_worker_no_racing` counts for it. -/
def countResultNoRacing (locals : Stats) (ret : Int) : Stats :=
  if 0 < ret then (locals.plus .bytes ret).plus .speed 1 else locals.plus .failed 1

/-- Where `bench_worker` is: in its loop with results still to come, holding the
mutex with counters still to add to, one of them loaded, or returned. -/
inductive Worker where
  | working (left : List Int) (locals : Stats)
  | adding (locals : Stats) (rest : List Counter)
  | storing (locals : Stats) (counter : Counter) (loaded : Int) (rest : List Counter)
  | returned

/-- `total_speed`, `total_failed`, `total_bytes` and the holder of `stats_mutex`. -/
structure Shared where
  totals : Stats
  mutex : Option Nat

/-- One step of the i-th `bench_worker`. Adding to a total is a load and a store. -/
inductive WorkerStep (i : Nat) : Worker → Shared → Worker → Shared → Prop
  | communicate (ret : Int) (left : List Int) (locals : Stats) (shared : Shared) :
      WorkerStep i (.working (ret :: left) locals) shared (.working left (countResult locals ret)) shared
  | lock (locals totals : Stats) :
      WorkerStep i (.working [] locals) ⟨totals, none⟩ (.adding locals [.speed, .failed, .bytes]) ⟨totals, some i⟩
  | load (locals : Stats) (counter : Counter) (rest : List Counter) (shared : Shared) :
      WorkerStep i (.adding locals (counter :: rest)) shared
        (.storing locals counter (shared.totals counter) rest) shared
  | store (locals : Stats) (counter : Counter) (loaded : Int) (rest : List Counter) (shared : Shared) :
      WorkerStep i (.storing locals counter loaded rest) shared (.adding locals rest)
        { shared with totals := Function.update shared.totals counter (loaded + locals counter) }
  | unlock (locals : Stats) (shared : Shared) :
      WorkerStep i (.adding locals []) shared .returned { shared with mutex := none }

/-- Where `bench_worker_no_racing` is; its entry of the array is its own. -/
inductive NoRacingWorker where
  | working (left : List Int) (locals own : Stats)
  | returned (own : Stats)

/-- One step of `bench_worker_no_racing`. -/
inductive NoRacingStep : NoRacingWorker → NoRacingWorker → Prop
  | communicate (ret : Int) (left : List Int) (locals own : Stats) :
      NoRacingStep (.working (ret :: left) locals own) (.working left (countResultNoRacing locals ret) own)
  | add (locals own : Stats) :
      NoRacingStep (.working [] locals own)
        (.returned (((own.plus .speed (locals .speed)).plus .failed (locals .failed)).plus .bytes (locals .bytes)))

/-! ## The drivers -/

/-- The threads of `bench`, given the results of every thread's calls. -/
def benchWorkers (results : Nat → List Int) : Workers Worker Shared where
  start i := .working (results i) 0
  step := WorkerStep
  returned w := w = .returned

/-- The runs of `bench`. -/
abbrev Bench (args : Arguments) (results : Nat → List Int) : ForkJoin Worker Shared → Prop :=
  (benchWorkers results).Run args.clients.toNat ⟨0, none⟩

/-- The threads of `bench_with_no_racing`. -/
def noRacingWorkers (results : Nat → List Int) : Workers NoRacingWorker Unit where
  start i := .working (results i) 0 0
  step _ w _ w' _ := NoRacingStep w w'
  returned w := ∃ own, w = .returned own

/-- The runs of `bench_with_no_racing`. -/
abbrev BenchWithNoRacing (args : Arguments) (results : Nat → List Int) : ForkJoin NoRacingWorker Unit → Prop :=
  (noRacingWorkers results).Run args.clients.toNat ()

/-- The thread's entry of the array. -/
def NoRacingWorker.own : NoRacingWorker → Stats
  | .working _ _ own | .returned own => own

/-- The summary loop of `bench_with_no_racing`. -/
def summary (workers : List NoRacingWorker) : Stats :=
  workers.foldl
    (fun totals w =>
      ((totals.plus .bytes (w.own .bytes)).plus .failed (w.own .failed)).plus .speed (w.own .speed)) 0

/-! ## What is still owed -/

/-- A value for one counter. -/
abbrev only (counter : Counter) (n : Int) : Stats := Pi.single counter n

/-- Adding to one counter is adding a value for it. -/
theorem Stats.plus_eq (stats : Stats) (counter : Counter) (n : Int) : stats.plus counter n = stats + only counter n := by
  funext c
  by_cases same : c = counter
  · subst same
    simp [Stats.plus]
  · simp [Stats.plus, same]

/-- The three counters make up the whole. -/
theorem only_sum (stats : Stats) :
    only .speed (stats .speed) + only .failed (stats .failed) + only .bytes (stats .bytes) = stats := by
  funext c
  cases c <;> simp [only]

/-- What `bench_worker` counts for a list of results. -/
def counted (results : List Int) : Stats := (results.map (countResult 0)).sum

/-- What `bench_worker_no_racing` counts for it. -/
def countedNoRacing (results : List Int) : Stats := (results.map (countResultNoRacing 0)).sum

/-- What is counted for a result does not depend on what was counted before. -/
theorem countResult_eq (locals : Stats) (ret : Int) : countResult locals ret = locals + countResult 0 ret := by
  unfold countResult
  split
  · simp only [Stats.plus_eq, zero_add, add_assoc]
  · split
    · simp only [Stats.plus_eq, zero_add]
    · exact (add_zero locals).symm

/-- Nor does it without racing. -/
theorem countResultNoRacing_eq (locals : Stats) (ret : Int) :
    countResultNoRacing locals ret = locals + countResultNoRacing 0 ret := by
  unfold countResultNoRacing
  split
  · simp only [Stats.plus_eq, zero_add, add_assoc]
  · simp only [Stats.plus_eq, zero_add]

namespace Worker

/-- What a worker has still to add to the totals. -/
def owed : Worker → Stats
  | working left locals => locals + counted left
  | adding locals rest => (rest.map fun counter => only counter (locals counter)).sum
  | storing locals counter _ rest =>
    only counter (locals counter) + (rest.map fun counter => only counter (locals counter)).sum
  | returned => 0

/-- The worker holds the mutex. -/
def inside : Worker → Prop
  | working _ _ | returned => False
  | adding _ _ | storing _ _ _ _ => True

end Worker

/-- What a step of the i-th worker does to the whole. -/
structure Moves (i : Nat) (w : Worker) (shared : Shared) (w' : Worker) (shared' : Shared) : Prop where
  balance : shared'.totals + w'.owed = shared.totals + w.owed
  held : w'.inside ↔ shared'.mutex = some i
  others : ∀ j, j ≠ i → (shared'.mutex = some j ↔ shared.mutex = some j)
  loaded : ∀ locals counter loaded rest, w' = .storing locals counter loaded rest → loaded = shared'.totals counter
  /-- Only the holder of the mutex writes the totals. -/
  frame : shared'.totals = shared.totals ∨ shared.mutex = some i

/-- What a worker's step does to the whole, given that it has the mutex where it needs it and what
it has loaded is up to date. -/
theorem WorkerStep.moves {i : Nat} {w w' : Worker} {shared shared' : Shared} (step : WorkerStep i w shared w' shared')
    (held : w.inside ↔ shared.mutex = some i)
    (upToDate : ∀ locals counter loaded rest, w = .storing locals counter loaded rest → loaded = shared.totals counter) :
    Moves i w shared w' shared' := by
  cases step with
  | communicate ret left locals shared =>
    refine ⟨?_, held, fun _ _ => Iff.rfl, fun _ _ _ _ now => Worker.noConfusion now, .inl rfl⟩
    simp only [Worker.owed, counted, List.map_cons, List.sum_cons]
    rw [countResult_eq, add_assoc]
  | lock locals totals =>
    refine ⟨?_, iff_of_true trivial rfl, fun j other => ?_, fun _ _ _ _ now => Worker.noConfusion now, .inl rfl⟩
    · have whole := only_sum locals
      rw [add_assoc] at whole
      simp [Worker.owed, counted, whole]
    · exact iff_of_false (fun same => other (Option.some.inj same).symm) nofun
  | load locals counter rest shared =>
    refine ⟨rfl, iff_of_true trivial (held.mp trivial), fun _ _ => Iff.rfl, ?_, .inl rfl⟩
    rintro _ _ _ _ ⟨⟩
    rfl
  | store locals counter loaded rest shared =>
    obtain rfl := upToDate _ _ _ _ rfl
    refine ⟨?_, iff_of_true trivial (held.mp trivial), fun _ _ => Iff.rfl, fun _ _ _ _ now => Worker.noConfusion now,
      .inr (held.mp trivial)⟩
    have added := shared.totals.plus_eq counter (locals counter)
    rw [Stats.plus] at added
    simp only [Worker.owed, added, add_assoc]
  | unlock locals shared =>
    have mine := held.mp trivial
    refine ⟨rfl, iff_of_false id nofun, fun j other => ?_, fun _ _ _ _ now => Worker.noConfusion now, .inl rfl⟩
    rw [mine]
    exact iff_of_false nofun fun same => other (Option.some.inj same).symm

/-- **The invariant of `bench`**, for workers of which the i-th has `due i` to add. Totals and debts add up to what is
due, one worker at most holds the mutex, and what it has loaded is up to date. -/
structure Owing (due : Nat → Stats) (workers : List Worker) (shared : Shared) : Prop where
  balance : shared.totals + (workers.map Worker.owed).sum = ∑ i ∈ Finset.range workers.length, due i
  held : ∀ (i : Nat) (w : Worker), workers[i]? = some w → (w.inside ↔ shared.mutex = some i)
  holder : ∀ i, shared.mutex = some i → i < workers.length
  loaded : ∀ locals counter loaded rest, .storing locals counter loaded rest ∈ workers → loaded = shared.totals counter

namespace Owing

variable {due : Nat → Stats} {workers : List Worker} {shared shared' : Shared}

/-- Before any worker is started nothing is owed. -/
theorem start (due : Nat → Stats) : Owing due [] ⟨0, none⟩ :=
  ⟨by simp, fun i w here => by simp at here, nofun, fun _ _ _ _ member => absurd member List.not_mem_nil⟩

/-- A new worker owes what it will count. -/
theorem create (owing : Owing due workers shared) {left : List Int} {locals : Stats}
    (begins : locals + counted left = due workers.length) : Owing due (workers ++ [.working left locals]) shared where
  balance := by
    have before := owing.balance
    simp only [List.map_append, List.map_singleton, List.sum_append, List.sum_singleton, List.length_append,
      List.length_singleton, Finset.sum_range_succ]
    rw [← before, ← add_assoc, ← begins, Worker.owed]
  held := by
    intro i w here
    rw [List.getElem?_append] at here
    by_cases old : i < workers.length
    · rw [if_pos old] at here
      exact owing.held i w here
    · rw [if_neg old, List.getElem?_singleton] at here
      split at here
      · obtain rfl := Option.some.inj here
        exact iff_of_false id fun holds => old (owing.holder i holds)
      · cases here
  holder := by
    intro i holds
    rw [List.length_append]
    exact Nat.lt_add_right _ (owing.holder i holds)
  loaded := by
    intro locals counter loaded rest member
    rcases List.mem_append.mp member with old | new
    · exact owing.loaded locals counter loaded rest old
    · exact Worker.noConfusion (List.mem_singleton.mp new)

/-- **One worker moves.** -/
theorem work {i : Nat} {w w' : Worker} (owing : Owing due workers shared) (here : workers[i]? = some w)
    (step : WorkerStep i w shared w' shared') : Owing due (workers.set i w') shared' := by
  have moves := step.moves (owing.held i w here) fun locals counter loaded rest now =>
    owing.loaded locals counter loaded rest (now ▸ List.mem_of_getElem? here)
  obtain ⟨bound, rfl⟩ := List.getElem?_eq_some_iff.mp here
  have length : (workers.set i w').length = workers.length := List.length_set
  constructor
  · rw [length, ← owing.balance, List.map_set, List.sum_set', dif_pos (by simpa using bound), List.getElem_map]
    have same := moves.balance
    rw [← sub_eq_iff_eq_add] at same
    rw [← same]
    abel
  · intro j other there
    by_cases mine : j = i
    · subst mine
      rw [List.getElem?_set_self bound] at there
      obtain rfl := Option.some.inj there
      exact moves.held
    · rw [List.getElem?_set_ne (Ne.symm mine)] at there
      rw [moves.others j mine]
      exact owing.held j other there
  · intro j holds
    rw [length]
    by_cases mine : j = i
    · exact mine ▸ bound
    · exact owing.holder j ((moves.others j mine).mp holds)
  · intro locals counter loaded rest member
    obtain ⟨j, there⟩ := List.mem_iff_getElem?.mp member
    by_cases mine : j = i
    · subst mine
      rw [List.getElem?_set_self bound] at there
      exact moves.loaded locals counter loaded rest (Option.some.inj there)
    · rw [List.getElem?_set_ne (Ne.symm mine)] at there
      have before := owing.loaded locals counter loaded rest (List.mem_of_getElem? there)
      rcases moves.frame with same | holds
      · rw [same]
        exact before
      · have busy := (owing.held j _ there).mp trivial
        exact absurd (Option.some.inj (busy.symm.trans holds)) mine

/-- Two workers inside are one. -/
theorem exclusive (owing : Owing due workers shared) {i j : Nat} {v w : Worker} (here : workers[i]? = some v)
    (there : workers[j]? = some w) (inside : v.inside) (inside' : w.inside) : i = j :=
  Option.some.inj (((owing.held i v here).mp inside).symm.trans ((owing.held j w there).mp inside'))

/-- **Nothing is owed** by workers that have returned. -/
theorem totals_eq (owing : Owing due workers shared) (returned : ∀ w ∈ workers, w = .returned) :
    shared.totals = ∑ i ∈ Finset.range workers.length, due i := by
  have paid : (workers.map Worker.owed).sum = 0 := by
    apply List.sum_eq_zero
    intro owed member
    obtain ⟨w, among, rfl⟩ := List.mem_map.mp member
    rw [returned w among]
    rfl
  have balance := owing.balance
  rwa [paid, add_zero] at balance

end Owing

variable {args : Arguments} {results : Nat → List Int}

/-- The threads of `bench` owe what they will count. -/
theorem owing_of_run {s : ForkJoin Worker Shared} (run : Bench args results s) :
    Owing (fun i => counted (results i)) s.workers s.shared := by
  refine Workers.Run.invariant (motive := Owing fun i => counted (results i)) run (.start _) ?_ ?_
  · exact fun workers shared owing => owing.create (zero_add _)
  · exact fun workers shared i w w' shared' owing here step => owing.work here step

/-- A worker that has returned takes no step. -/
theorem benchWorkers_stay (results : Nat → List Int) : ∀ i w shared w' shared', (benchWorkers results).returned w →
    ¬ (benchWorkers results).step i w shared w' shared' := by
  rintro i _ shared w' shared' rfl step
  cases step

/-- **No update is lost.** When `bench` reports, its totals are what the threads have counted. -/
theorem totals_of_finished {s : ForkJoin Worker Shared} (run : Bench args results s) (finished : s.main = .finished) :
    s.shared.totals = ∑ i ∈ Finset.range args.clients.toNat, counted (results i) := by
  obtain ⟨length, returned⟩ := Workers.all_returned (benchWorkers_stay results) run finished
  rw [(owing_of_run run).totals_eq returned, length]

/-! ## Without racing -/

/-- What a thread has counted and will count. -/
def NoRacingWorker.credit : NoRacingWorker → Stats
  | .working left locals own => own + locals + countedNoRacing left
  | .returned own => own

/-- A step of a thread changes nothing about that. -/
theorem NoRacingStep.credit {w w' : NoRacingWorker} (step : NoRacingStep w w') : w'.credit = w.credit := by
  cases step with
  | communicate ret left locals own =>
    simp only [NoRacingWorker.credit, countedNoRacing, List.map_cons, List.sum_cons]
    rw [countResultNoRacing_eq]
    abel
  | add locals own =>
    have whole := only_sum locals
    simp only [NoRacingWorker.credit, Stats.plus_eq, countedNoRacing, List.map_nil, List.sum_nil, add_zero]
    rw [add_assoc, add_assoc, ← add_assoc (only .speed _), whole]

/-- In every run, what the threads have counted and will count is what their results amount to. -/
theorem credit_of_run {s : ForkJoin NoRacingWorker Unit} (run : BenchWithNoRacing args results s) :
    (s.workers.map NoRacingWorker.credit).sum = ∑ i ∈ Finset.range s.workers.length, countedNoRacing (results i) := by
  refine Workers.Run.invariant (motive := fun workers _ => (workers.map NoRacingWorker.credit).sum =
    ∑ i ∈ Finset.range workers.length, countedNoRacing (results i)) run rfl ?_ ?_
  · intro workers _ before
    have first : ((noRacingWorkers results).start workers.length).credit = countedNoRacing (results workers.length) := by
      simp [noRacingWorkers, NoRacingWorker.credit]
    simp only [List.map_append, List.map_singleton, List.sum_append, List.sum_singleton, List.length_append,
      List.length_singleton, Finset.sum_range_succ]
    rw [before, first]
  · intro workers _ i w w' _ before here step
    obtain ⟨bound, rfl⟩ := List.getElem?_eq_some_iff.mp here
    have same : (workers.map NoRacingWorker.credit).set i w'.credit = workers.map NoRacingWorker.credit := by
      rw [NoRacingStep.credit step, ← List.getElem_map NoRacingWorker.credit (h := by simpa using bound),
        List.set_getElem_self]
    rw [List.length_set, List.map_set, same]
    exact before

/-- The summary loop adds the entries up. -/
theorem summary_eq (workers : List NoRacingWorker) : summary workers = (workers.map NoRacingWorker.own).sum := by
  have step : ∀ (totals : Stats) (w : NoRacingWorker),
      ((totals.plus .bytes (w.own .bytes)).plus .failed (w.own .failed)).plus .speed (w.own .speed) = totals + w.own := by
    intro totals w
    have whole := only_sum w.own
    simp only [Stats.plus_eq]
    conv_rhs => rw [← whole]
    abel
  unfold summary
  simp only [step]
  rw [← List.foldl_map (f := NoRacingWorker.own) (g := (· + ·)), List.sum_eq_foldl]

/-- A thread that has returned takes no step. -/
theorem noRacingWorkers_stay (results : Nat → List Int) : ∀ i w shared w' shared', (noRacingWorkers results).returned w →
    ¬ (noRacingWorkers results).step i w shared w' shared' := by
  rintro i _ shared w' shared' ⟨own, rfl⟩ step
  cases step

/-- So once all have returned the summary is the sum over all results. -/
theorem summary_of_finished {s : ForkJoin NoRacingWorker Unit} (run : BenchWithNoRacing args results s)
    (finished : s.main = .finished) :
    summary s.workers = ∑ i ∈ Finset.range args.clients.toNat, countedNoRacing (results i) := by
  obtain ⟨length, returned⟩ := Workers.all_returned (noRacingWorkers_stay results) run finished
  have credit := credit_of_run run
  have own : s.workers.map NoRacingWorker.own = s.workers.map NoRacingWorker.credit := by
    apply List.map_congr_left
    intro w member
    obtain ⟨own, rfl⟩ := returned w member
    rfl
  rw [summary_eq, own, credit, length]

/-! ## Runs that report -/

/-- A worker left alone returns, whatever its results and local counts. -/
theorem WorkerStep.returns (results : Nat → List Int) (i : Nat) (left : List Int) (locals totals : Stats) :
    ∃ totals', ReflTransGen ((benchWorkers results).Alone i) (.working left locals, ⟨totals, none⟩)
      (.returned, ⟨totals', none⟩) := by
  have alone : ∀ {w w' shared shared'}, WorkerStep i w shared w' shared' →
      (benchWorkers results).Alone i (w, shared) (w', shared') := id
  have looped : ∀ left locals, ∃ locals', ReflTransGen ((benchWorkers results).Alone i)
      (.working left locals, ⟨totals, none⟩) (.working [] locals', ⟨totals, none⟩) := by
    intro left
    induction left with
    | nil => exact fun locals => ⟨locals, .refl⟩
    | cons ret left ih =>
      intro locals
      obtain ⟨locals', rest⟩ := ih (countResult locals ret)
      exact ⟨locals', .head (alone (.communicate ret left locals _)) rest⟩
  have adds : ∀ (locals : Stats) (rest : List Counter) (totals : Stats), ∃ totals',
      ReflTransGen ((benchWorkers results).Alone i) (.adding locals rest, ⟨totals, some i⟩)
        (.adding locals [], ⟨totals', some i⟩) := by
    intro locals rest
    induction rest with
    | nil => exact fun totals => ⟨totals, .refl⟩
    | cons counter rest ih =>
      intro totals
      obtain ⟨totals', later⟩ := ih (Function.update totals counter (totals counter + locals counter))
      exact ⟨totals', .head (alone (.load locals counter rest _)) (.head (alone (.store locals counter _ rest _)) later)⟩
  obtain ⟨locals', loop⟩ := looped left locals
  obtain ⟨totals', added⟩ := adds locals' [.speed, .failed, .bytes] totals
  exact ⟨totals', loop.trans (.head (alone (.lock locals' totals)) (.tail added (alone (.unlock locals' _))))⟩

/-- Some run of `bench` ends. -/
theorem Bench.exists_finished (args : Arguments) (results : Nat → List Int) :
    ∃ s, Bench args results s ∧ s.main = .finished := by
  apply Workers.exists_finished (fun shared => shared.mutex = none) rfl
  rintro i ⟨totals, mutex⟩ rfl
  obtain ⟨totals', steps⟩ := WorkerStep.returns results i (results i) 0 totals
  exact ⟨(.returned, ⟨totals', none⟩), rfl, rfl, steps⟩

/-- Some run of `bench_with_no_racing` ends. -/
theorem BenchWithNoRacing.exists_finished (args : Arguments) (results : Nat → List Int) :
    ∃ s, BenchWithNoRacing args results s ∧ s.main = .finished := by
  apply Workers.exists_finished (fun _ => True) trivial
  intro i _ _
  have alone : ∀ {w w'}, NoRacingStep w w' → (noRacingWorkers results).Alone i (w, ()) (w', ()) := id
  have looped : ∀ left locals own, ∃ locals', ReflTransGen ((noRacingWorkers results).Alone i)
      (.working left locals own, ()) (.working [] locals' own, ()) := by
    intro left
    induction left with
    | nil => exact fun locals own => ⟨locals, .refl⟩
    | cons ret left ih =>
      intro locals own
      obtain ⟨locals', rest⟩ := ih (countResultNoRacing locals ret) own
      exact ⟨locals', .head (alone (.communicate ret left locals own)) rest⟩
  obtain ⟨locals, loop⟩ := looped (results i) 0 0
  exact ⟨(.returned _, ()), trivial, ⟨_, rfl⟩, .tail loop (alone (.add locals 0))⟩

/-! ## The two drivers -/

/-- The workers differ in the results that are zero: a success to one, a failure to the other. -/
theorem counted_eq (results : List Int) :
    counted results + only .failed (results.count 0) = countedNoRacing results + only .speed (results.count 0) := by
  induction results with
  | nil => simp [counted, countedNoRacing]
  | cons ret rest ih =>
    have one : countResult 0 ret + only .failed (if ret = 0 then 1 else 0) =
        countResultNoRacing 0 ret + only .speed (if ret = 0 then 1 else 0) := by
      unfold countResult countResultNoRacing
      rcases lt_trichotomy ret 0 with negative | rfl | positive
      · rw [if_neg (by omega), if_pos negative, if_neg (by omega), if_neg (by omega)]
        simp
      · funext counter
        cases counter <;> simp [Stats.plus]
      · rw [if_pos positive.le, if_pos positive, if_neg (by omega)]
        simp
    have split : ∀ counter : Counter, only counter (((ret :: rest).count 0 : Nat) : Int) =
        only counter (rest.count 0 : Int) + only counter (if ret = 0 then 1 else 0) := by
      intro counter
      rw [← Pi.single_add]
      congr 1
      rw [List.count_cons]
      split <;> simp_all
    have whole : counted (ret :: rest) = countResult 0 ret + counted rest := List.sum_cons
    have whole' : countedNoRacing (ret :: rest) = countResultNoRacing 0 ret + countedNoRacing rest := List.sum_cons
    rw [whole, whole', split, split]
    calc countResult 0 ret + counted rest + (only .failed (rest.count 0 : Int) + only .failed (if ret = 0 then 1 else 0))
        = (countResult 0 ret + only .failed (if ret = 0 then 1 else 0)) + (counted rest + only .failed (rest.count 0 : Int)) := by
          abel
      _ = (countResultNoRacing 0 ret + only .speed (if ret = 0 then 1 else 0)) +
            (countedNoRacing rest + only .speed (rest.count 0 : Int)) := by rw [one, ih]
      _ = _ := by abel

/-- **When the threaded drivers agree.** Whatever the number of clients, the
results of the calls and the order of the steps, `bench` and
`bench_with_no_racing` report the same totals if and only if no `communicate`
has returned zero. -/
theorem totals_eq_summary_iff (args : Arguments) (results : Nat → List Int) :
    ∀ s, Bench args results s → s.main = .finished → ∀ s', BenchWithNoRacing args results s' → s'.main = .finished →
      (s.shared.totals = summary s'.workers ↔ ∀ i < args.clients.toNat, 0 ∉ results i) := by
  intro s run finished s' run' finished'
  rw [totals_of_finished run finished, summary_of_finished run' finished']
  constructor
  · intro same i less
    have failed := congrFun same .failed
    simp only [Finset.sum_apply] at failed
    have each : ∀ i, countedNoRacing (results i) .failed = counted (results i) .failed + (results i).count 0 := by
      intro i
      have both := congrFun (counted_eq (results i)) .failed
      simpa using both.symm
    simp only [each, Finset.sum_add_distrib, left_eq_add] at failed
    have none := (Finset.sum_eq_zero_iff_of_nonneg fun i _ => Int.natCast_nonneg _).mp failed i (Finset.mem_range.mpr less)
    exact List.count_eq_zero.mp (Int.natCast_eq_zero.mp none)
  · intro none
    apply Finset.sum_congr rfl
    intro i member
    have both := counted_eq (results i)
    rw [List.count_eq_zero_of_not_mem (none i (Finset.mem_range.mp member))] at both
    simpa using both

/-- One thread with a response of five bytes and a failure. -/
theorem totals_eq_summary_iff_one : ∃ s s',
    Bench createDefaultArguments (fun _ => [5, -1]) s ∧ s.main = .finished ∧
      BenchWithNoRacing createDefaultArguments (fun _ => [5, -1]) s' ∧ s'.main = .finished ∧
      s.shared.totals = summary s'.workers := by
  obtain ⟨s, run, finished⟩ := Bench.exists_finished createDefaultArguments fun _ => [5, -1]
  obtain ⟨s', run', finished'⟩ := BenchWithNoRacing.exists_finished createDefaultArguments fun _ => [5, -1]
  exact ⟨s, s', run, finished, run', finished',
    (totals_eq_summary_iff createDefaultArguments _ s run finished s' run' finished').mpr (by decide)⟩

/-- One thread whose only call returns zero, as in force mode: a success to one driver and a failure to the other. -/
theorem zero_counted_apart : ∃ s s',
    Bench createDefaultArguments (fun _ => [0]) s ∧ s.main = .finished ∧
      BenchWithNoRacing createDefaultArguments (fun _ => [0]) s' ∧ s'.main = .finished ∧
      s.shared.totals = only .speed 1 ∧ summary s'.workers = only .failed 1 := by
  obtain ⟨s, run, finished⟩ := Bench.exists_finished createDefaultArguments fun _ => [0]
  obtain ⟨s', run', finished'⟩ := BenchWithNoRacing.exists_finished createDefaultArguments fun _ => [0]
  have clients : createDefaultArguments.clients.toNat = 1 := rfl
  refine ⟨s, s', run, finished, run', finished', ?_, ?_⟩
  · rw [totals_of_finished run finished, clients, Finset.sum_range_one]
    funext counter
    cases counter <;> rfl
  · rw [summary_of_finished run' finished', clients, Finset.sum_range_one]
    funext counter
    cases counter <;> rfl

end WebBench.Bench2
