import WebBench.Bench2

/-!
# The threads of `bench2.c`: who is left, and what they add

The drivers return as soon as a `pthread_create` fails, whatever threads are
already running. Under the mutex, on the other hand, no addition to the totals
is lost.
-/

namespace WebBench.Bench2
set_option autoImplicit false
open CLib Relation

/-! ## Failing creations -/

/-- The runs of `bench` whose i-th `pthread_create` fails as `fails` says, and the threads joined so far. -/
abbrev BenchJoins (args : Arguments) (results : Nat → List Int) (fails : Nat → Bool) :
    ForkJoin Worker Shared → List Nat → Prop :=
  (benchWorkers results).Tracked args.clients.toNat fails ⟨0, none⟩

/-- The runs of `bench_with_no_racing`, likewise. -/
abbrev BenchWithNoRacingJoins (args : Arguments) (results : Nat → List Int) (fails : Nat → Bool) :
    ForkJoin NoRacingWorker Unit → List Nat → Prop :=
  (noRacingWorkers results).Tracked args.clients.toNat fails ()

/-- **When a driver leaves no thread behind.** Whatever the threads do and in
whatever order, both drivers have joined every thread they created by the time
they return, if and only if no `pthread_create` fails or the very first one does. -/
theorem noneLeft_iff_created (args : Arguments) (results : Nat → List Int) (fails : Nat → Bool) :
    ((∀ s joined, BenchJoins args results fails s joined → (benchWorkers results).NoneLeft s joined) ↔
      (∀ i < args.clients.toNat, fails i = false) ∨ fails 0 = true) ∧
    ((∀ s joined, BenchWithNoRacingJoins args results fails s joined → (noRacingWorkers results).NoneLeft s joined) ↔
      (∀ i < args.clients.toNat, fails i = false) ∨ fails 0 = true) :=
  ⟨Workers.noneLeft_iff (benchWorkers_stay results), Workers.noneLeft_iff (noRacingWorkers_stay results)⟩

/-- Two clients of which the second cannot be created: `bench` returns, and the
first thread then adds to the totals of a stack frame that is gone. -/
theorem thread_left_behind : ∃ s s' : ForkJoin Worker Shared,
    BenchJoins { createDefaultArguments with clients := 2 } (fun _ => [5]) (· == 1) s [] ∧
      s.main = .gaveUp ∧ ¬ (benchWorkers fun _ => [5]).NoneLeft s [] ∧
      BenchJoins { createDefaultArguments with clients := 2 } (fun _ => [5]) (· == 1) s' [] ∧
      s'.main = .gaveUp ∧ s'.shared.totals .speed = s.shared.totals .speed + 1 := by
  have gone : BenchJoins { createDefaultArguments with clients := 2 } (fun _ => [5]) (· == 1)
      ⟨.gaveUp, [.working [5] 0], ⟨0, none⟩⟩ [] :=
    .refused (.create .start (by decide) rfl) (by decide) rfl
  have looped := gone.work (i := 0) rfl (.communicate 5 [] 0 _)
  have locked := looped.work (i := 0) rfl (.lock _ 0)
  have loaded := locked.work (i := 0) rfl (.load _ _ _ _)
  have stored := loaded.work (i := 0) rfl (.store _ _ _ _ _)
  refine ⟨_, _, gone, rfl, fun none => ?_, stored, rfl, by decide⟩
  exact List.not_mem_nil (none (.inl rfl) 0 _ rfl).1

/-! ## The final phase -/

/-- Threads that have left their loops, the i-th with the counts `locals i`. -/
def finalPhase (locals : Nat → Stats) : Workers Worker Shared where
  start i := .working [] (locals i)
  step := WorkerStep
  returned w := w = .returned

variable {locals : Nat → Stats} {n : Nat} {s : ForkJoin Worker Shared}

theorem owing_of_finalPhase (run : (finalPhase locals).Run n ⟨0, none⟩ s) : Owing locals s.workers s.shared := by
  refine Workers.Run.invariant (motive := Owing locals) run (.start locals) ?_ ?_
  · intro workers shared owing
    exact owing.create (by simp [counted])
  · exact fun workers shared i w w' shared' owing here step => owing.work here step

/-- **No lost update.** However many threads, whatever their counts and however
their steps interleave, one thread at most is between `pthread_mutex_lock` and
`pthread_mutex_unlock`, and when all have unlocked the totals are the sums of
their counts. -/
theorem finalPhase_totals (locals : Nat → Stats) (n : Nat) :
    ∀ s, (finalPhase locals).Run n ⟨0, none⟩ s →
      (∀ (i j : Nat) (v w : Worker), s.workers[i]? = some v → s.workers[j]? = some w → v.inside → w.inside → i = j) ∧
      (s.workers.length = n → (∀ w ∈ s.workers, w = .returned) →
        s.shared.totals = ∑ i ∈ Finset.range n, locals i) := by
  intro s run
  have owing := owing_of_finalPhase run
  refine ⟨fun i j v w here there inside inside' => owing.exclusive here there inside inside', fun all returned => ?_⟩
  rw [owing.totals_eq returned, all]

theorem finalPhase_exists_finished (locals : Nat → Stats) (n : Nat) :
    ∃ s, (finalPhase locals).Run n ⟨0, none⟩ s ∧ s.main = .finished := by
  apply Workers.exists_finished (fun shared => shared.mutex = none) rfl
  rintro i ⟨totals, mutex⟩ rfl
  obtain ⟨totals', steps⟩ := WorkerStep.returns (fun _ => []) i [] (locals i) totals
  exact ⟨(.returned, ⟨totals', none⟩), rfl, rfl, steps⟩

/-- Three threads with one success of ten bytes each, all of which have unlocked. -/
theorem finalPhase_totals_three : ∃ s, (finalPhase fun _ => countResult 0 10).Run 3 ⟨0, none⟩ s ∧
    s.shared.totals .speed = 3 ∧ s.shared.totals .failed = 0 ∧ s.shared.totals .bytes = 30 := by
  obtain ⟨s, run, finished⟩ := finalPhase_exists_finished (fun _ => countResult 0 10) 3
  obtain ⟨length, returned⟩ := Workers.all_returned (p := finalPhase fun _ => countResult 0 10)
    (benchWorkers_stay fun _ => []) run finished
  have totals := (finalPhase_totals (fun _ => countResult 0 10) 3 s run).2 length returned
  refine ⟨s, run, ?_, ?_, ?_⟩ <;> rw [totals] <;> decide

end WebBench.Bench2
