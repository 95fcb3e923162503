import Mathlib.Data.Nat.Find
import WebBench.Lib.Reach

/-!
# A main thread and its workers

The main thread creates its workers one by one and then joins them in order, or
gives up when one cannot be created. Workers run in any interleaving as soon as
they are there. An invariant of the workers and the state they share holds
whatever the main thread does.
-/

namespace CLib
set_option autoImplicit false
open Relation

variable {ω μ : Type}

/-- How the i-th worker begins, what it does to the shared state, and when it has returned. -/
structure Workers (ω μ : Type) where
  start : Nat → ω
  step : Nat → ω → μ → ω → μ → Prop
  returned : ω → Prop

/-- Where the main thread is. -/
inductive Main where
  | creating
  | joining (joined : Nat)
  | gaveUp
  | finished
  deriving DecidableEq, Repr

/-- The main thread, the workers created so far and the state they share. -/
structure ForkJoin (ω μ : Type) where
  main : Main
  workers : List ω
  shared : μ

namespace Workers

/-- One step of the main thread, which wants `n` workers, or of a worker. -/
inductive Step (p : Workers ω μ) (n : Nat) : ForkJoin ω μ → ForkJoin ω μ → Prop
  | create (workers : List ω) (shared : μ) (more : workers.length < n) :
      Step p n ⟨.creating, workers, shared⟩ ⟨.creating, workers ++ [p.start workers.length], shared⟩
  | refused (workers : List ω) (shared : μ) (more : workers.length < n) :
      Step p n ⟨.creating, workers, shared⟩ ⟨.gaveUp, workers, shared⟩
  | created (workers : List ω) (shared : μ) (all : n ≤ workers.length) :
      Step p n ⟨.creating, workers, shared⟩ ⟨.joining 0, workers, shared⟩
  | join (workers : List ω) (shared : μ) (k : Nat) (w : ω) (here : workers[k]? = some w) (returned : p.returned w) :
      Step p n ⟨.joining k, workers, shared⟩ ⟨.joining (k + 1), workers, shared⟩
  | finish (workers : List ω) (shared : μ) (k : Nat) (all : n ≤ k) :
      Step p n ⟨.joining k, workers, shared⟩ ⟨.finished, workers, shared⟩
  | work (main : Main) (workers : List ω) (shared shared' : μ) (i : Nat) (w w' : ω) (here : workers[i]? = some w)
      (step : p.step i w shared w' shared') :
      Step p n ⟨main, workers, shared⟩ ⟨main, workers.set i w', shared'⟩

/-- The states of the runs that begin with the shared state `shared`. -/
abbrev Run (p : Workers ω μ) (n : Nat) (shared : μ) : ForkJoin ω μ → Prop :=
  Reachable (· = ⟨.creating, [], shared⟩) (p.Step n)

variable {p : Workers ω μ} {n : Nat} {shared : μ} {s : ForkJoin ω μ}

/-- **The invariant rule for workers.** Creating one and every step of one must keep it. -/
theorem Run.invariant {motive : List ω → μ → Prop} (run : p.Run n shared s) (start : motive [] shared)
    (create : ∀ workers shared, motive workers shared → motive (workers ++ [p.start workers.length]) shared)
    (work : ∀ workers shared i w w' shared', motive workers shared → workers[i]? = some w →
      p.step i w shared w' shared' → motive (workers.set i w') shared') : motive s.workers s.shared := by
  refine Reachable.invariant (motive := fun s => motive s.workers s.shared) run ?_ ?_
  · rintro _ rfl
    exact start
  · intro _ _ before step
    cases step with
    | create workers shared more => exact create workers shared before
    | work main workers shared shared' i w w' here step => exact work workers shared i w w' shared' before here step
    | _ => exact before

/-- How many workers there are, and which of them the main thread has seen return. -/
structure Joined (p : Workers ω μ) (n : Nat) (s : ForkJoin ω μ) : Prop where
  most : s.workers.length ≤ n
  joining : ∀ k, s.main = .joining k → s.workers.length = n ∧ ∀ i : Nat, i < k → ∃ w, s.workers[i]? = some w ∧ p.returned w
  finished : s.main = .finished → s.workers.length = n ∧ ∀ i : Nat, i < n → ∃ w, s.workers[i]? = some w ∧ p.returned w

theorem joined_of_run (stays : ∀ i w shared w' shared', p.returned w → ¬ p.step i w shared w' shared')
    (run : p.Run n shared s) : Joined p n s := by
  refine Reachable.invariant (motive := Joined p n) run ?_ ?_
  · rintro _ rfl
    exact ⟨Nat.zero_le n, fun _ main => Main.noConfusion main, fun main => Main.noConfusion main⟩
  · intro _ _ before step
    cases step with
    | create workers shared more =>
      refine ⟨?_, fun _ main => Main.noConfusion main, fun main => Main.noConfusion main⟩
      rw [List.length_append, List.length_singleton]
      exact more
    | refused workers shared more =>
      exact ⟨before.most, fun _ main => Main.noConfusion main, fun main => Main.noConfusion main⟩
    | created workers shared all =>
      refine ⟨before.most, fun k main => ?_, fun main => Main.noConfusion main⟩
      cases main
      exact ⟨Nat.le_antisymm before.most all, fun i none => absurd none (Nat.not_lt_zero i)⟩
    | join workers shared k w here returned =>
      obtain ⟨length, seen⟩ := before.joining k rfl
      refine ⟨before.most, fun k' main => ?_, fun main => Main.noConfusion main⟩
      cases main
      refine ⟨length, fun i less => ?_⟩
      rcases Nat.lt_succ_iff_lt_or_eq.mp less with earlier | rfl
      · exact seen i earlier
      · exact ⟨w, here, returned⟩
    | finish workers shared k all =>
      obtain ⟨length, seen⟩ := before.joining k rfl
      exact ⟨before.most, fun _ main => Main.noConfusion main, fun _ => ⟨length, fun i less => seen i (by omega)⟩⟩
    | work main workers shared shared' i w w' here step =>
      have length : (workers.set i w').length = workers.length := List.length_set
      -- a worker that has returned is not the one that moves
      have kept : ∀ j : Nat, (∃ v, workers[j]? = some v ∧ p.returned v) →
          ∃ v, (workers.set i w')[j]? = some v ∧ p.returned v := by
        rintro j ⟨v, there, returned⟩
        have other : i ≠ j := by
          rintro rfl
          obtain rfl : w = v := Option.some.inj (here.symm.trans there)
          exact stays i w shared w' shared' returned step
        exact ⟨v, by rw [List.getElem?_set_ne other]; exact there, returned⟩
      refine ⟨length ▸ before.most, fun k main => ?_, fun main => ?_⟩
      · obtain ⟨full, seen⟩ := before.joining k main
        exact ⟨length.trans full, fun j less => kept j (seen j less)⟩
      · obtain ⟨full, seen⟩ := before.finished main
        exact ⟨length.trans full, fun j less => kept j (seen j less)⟩

/-- **Everyone has returned** when the main thread finishes. -/
theorem all_returned (stays : ∀ i w shared w' shared', p.returned w → ¬ p.step i w shared w' shared')
    (run : p.Run n shared s) (finished : s.main = .finished) :
    s.workers.length = n ∧ ∀ w ∈ s.workers, p.returned w := by
  obtain ⟨length, seen⟩ := (joined_of_run stays run).finished finished
  refine ⟨length, fun w member => ?_⟩
  obtain ⟨i, bound, rfl⟩ := List.mem_iff_getElem.mp member
  obtain ⟨v, here, returned⟩ := seen i (length ▸ bound)
  rw [List.getElem?_eq_getElem bound] at here
  obtain rfl := Option.some.inj here
  exact returned

/-! ## What the main thread has joined -/

/-- The runs in which the i-th creation fails as `fails` says, and the workers joined so far. -/
inductive Tracked (p : Workers ω μ) (n : Nat) (fails : Nat → Bool) (shared : μ) : ForkJoin ω μ → List Nat → Prop
  | start : Tracked p n fails shared ⟨.creating, [], shared⟩ []
  | create {workers : List ω} {current : μ} {joined : List Nat}
      (run : Tracked p n fails shared ⟨.creating, workers, current⟩ joined)
      (more : workers.length < n) (made : fails workers.length = false) :
      Tracked p n fails shared ⟨.creating, workers ++ [p.start workers.length], current⟩ joined
  | refused {workers : List ω} {current : μ} {joined : List Nat}
      (run : Tracked p n fails shared ⟨.creating, workers, current⟩ joined)
      (more : workers.length < n) (failed : fails workers.length = true) :
      Tracked p n fails shared ⟨.gaveUp, workers, current⟩ joined
  | created {workers : List ω} {current : μ} {joined : List Nat}
      (run : Tracked p n fails shared ⟨.creating, workers, current⟩ joined)
      (all : n ≤ workers.length) : Tracked p n fails shared ⟨.joining 0, workers, current⟩ joined
  | join {workers : List ω} {current : μ} {joined : List Nat} {k : Nat} {w : ω}
      (run : Tracked p n fails shared ⟨.joining k, workers, current⟩ joined) (here : workers[k]? = some w)
      (returned : p.returned w) : Tracked p n fails shared ⟨.joining (k + 1), workers, current⟩ (joined ++ [k])
  | finish {workers : List ω} {current : μ} {joined : List Nat} {k : Nat}
      (run : Tracked p n fails shared ⟨.joining k, workers, current⟩ joined) (all : n ≤ k) :
      Tracked p n fails shared ⟨.finished, workers, current⟩ joined
  | work {main : Main} {workers : List ω} {current current' : μ} {joined : List Nat} {i : Nat} {w w' : ω}
      (run : Tracked p n fails shared ⟨main, workers, current⟩ joined) (here : workers[i]? = some w)
      (step : p.step i w current w' current') : Tracked p n fails shared ⟨main, workers.set i w', current'⟩ joined

variable {fails : Nat → Bool} {joined : List Nat}

theorem Tracked.run (tracked : p.Tracked n fails shared s joined) : p.Run n shared s := by
  induction tracked with
  | start => exact .start rfl
  | create _ more _ ih => exact .next ih (.create _ _ more)
  | refused _ more _ ih => exact .next ih (.refused _ _ more)
  | created _ all ih => exact .next ih (.created _ _ all)
  | join _ here returned ih => exact .next ih (.join _ _ _ _ here returned)
  | finish _ all ih => exact .next ih (.finish _ _ _ all)
  | work _ here step ih => exact .next ih (.work _ _ _ _ _ _ _ here step)

/-- The workers joined are those the main thread has gone past. -/
theorem Tracked.joined_eq (tracked : p.Tracked n fails shared s joined) :
    (s.main = .creating → joined = []) ∧ (∀ k, s.main = .joining k → joined = List.range k) ∧
      (s.main = .finished → ∀ i < n, i ∈ joined) := by
  induction tracked with
  | start => exact ⟨fun _ => rfl, nofun, nofun⟩
  | create run more made ih => exact ⟨fun _ => ih.1 rfl, nofun, nofun⟩
  | refused => exact ⟨nofun, nofun, nofun⟩
  | created run all ih =>
    refine ⟨nofun, fun k main => ?_, nofun⟩
    cases main
    rw [ih.1 rfl, List.range_zero]
  | @join workers current joined k w run here returned ih =>
    refine ⟨nofun, fun _ main => ?_, nofun⟩
    cases main
    rw [ih.2.1 k rfl, List.range_succ]
  | @finish workers current joined k run all ih =>
    refine ⟨nofun, nofun, fun _ i less => ?_⟩
    rw [ih.2.1 k rfl]
    exact List.mem_range.mpr (Nat.lt_of_lt_of_le less all)
  | work run here step ih => exact ih

/-- How far the creations went before the main thread gave up. -/
theorem Tracked.gaveUp (tracked : p.Tracked n fails shared s joined) (gaveUp : s.main = .gaveUp) :
    s.workers.length < n ∧ fails s.workers.length = true := by
  induction tracked with
  | refused run more failed ih => exact ⟨more, failed⟩
  | work run here step ih =>
    rw [List.length_set]
    exact ih gaveUp
  | _ => cases gaveUp

theorem Tracked.made (tracked : p.Tracked n fails shared s joined) : ∀ i < s.workers.length, fails i = false := by
  induction tracked with
  | start => exact fun i none => absurd none (Nat.not_lt_zero i)
  | create run more made ih =>
    intro i less
    rw [List.length_append, List.length_singleton] at less
    rcases Nat.lt_succ_iff_lt_or_eq.mp less with earlier | rfl
    · exact ih i earlier
    · exact made
  | work run here step ih =>
    rw [List.length_set]
    exact ih
  | refused run more failed ih => exact ih
  | created run all ih => exact ih
  | join run here returned ih => exact ih
  | finish run all ih => exact ih

/-- The main thread has returned. -/
def Over (s : ForkJoin ω μ) : Prop := s.main = .gaveUp ∨ s.main = .finished

/-- A main thread that has returned has joined every worker it created, and the worker has returned. -/
def NoneLeft (p : Workers ω μ) (s : ForkJoin ω μ) (joined : List Nat) : Prop :=
  Over s → ∀ (i : Nat) (w : ω), s.workers[i]? = some w → i ∈ joined ∧ p.returned w

/-- The creations before the first failure. -/
theorem exists_created (p : Workers ω μ) (shared : μ) {k : Nat} (bound : k ≤ n) (made : ∀ i < k, fails i = false) :
    ∃ workers, workers.length = k ∧ p.Tracked n fails shared ⟨.creating, workers, shared⟩ [] := by
  induction k with
  | zero => exact ⟨[], rfl, .start⟩
  | succ k ih =>
    obtain ⟨workers, rfl, run⟩ := ih (by omega) fun i less => made i (by omega)
    exact ⟨workers ++ [p.start workers.length], by simp, run.create bound (made _ (Nat.lt_succ_self _))⟩

/-- **When no worker is left behind**: every creation succeeds, or the very first one fails. -/
theorem noneLeft_iff (stays : ∀ i w shared w' shared', p.returned w → ¬ p.step i w shared w' shared') :
    (∀ s joined, p.Tracked n fails shared s joined → p.NoneLeft s joined) ↔
      (∀ i < n, fails i = false) ∨ fails 0 = true := by
  classical
  constructor
  · intro all
    by_contra neither
    obtain ⟨failing, first⟩ := not_or.mp neither
    push Not at failing
    -- the first creation to fail has a worker before it, which is never joined
    obtain ⟨more, failed⟩ := Nat.find_spec failing
    rw [ne_eq, Bool.not_eq_false] at failed
    have made : ∀ i < Nat.find failing, fails i = false := by
      intro i less
      by_contra failed
      exact Nat.find_min failing less ⟨Nat.lt_trans less more, failed⟩
    have positive : 0 < Nat.find failing := Nat.pos_of_ne_zero fun zero => first (zero ▸ failed)
    obtain ⟨workers, length, run⟩ := exists_created p shared (Nat.le_of_lt more) made
    rw [← length] at more failed positive
    have left := all _ _ (run.refused more failed) (.inl rfl) 0 _ (List.getElem?_eq_getElem positive)
    exact List.not_mem_nil left.1
  · intro condition s joined tracked ended i w here
    rcases ended with gaveUp | finished
    · obtain ⟨more, failed⟩ := tracked.gaveUp gaveUp
      have present := (List.getElem?_eq_some_iff.mp here).1
      rcases condition with none | first
      · rw [none _ more] at failed
        cases failed
      · rw [tracked.made 0 (Nat.zero_lt_of_lt present)] at first
        cases first
    · obtain ⟨length, returned⟩ := all_returned stays tracked.run finished
      have present := (List.getElem?_eq_some_iff.mp here).1
      exact ⟨tracked.joined_eq.2.2 finished i (length ▸ present), returned w (List.mem_of_getElem? here)⟩

/-! ## A run that finishes -/

/-- A step of the i-th worker alone. -/
def Alone (p : Workers ω μ) (i : Nat) (before after : ω × μ) : Prop := p.step i before.1 before.2 after.1 after.2

theorem Run.alone {main : Main} {workers : List ω} {current : μ} {i : Nat}
    (run : p.Run n shared ⟨main, workers, current⟩) (bound : i < workers.length) {before after : ω × μ}
    (start : (workers[i], current) = before) (steps : ReflTransGen (p.Alone i) before after) :
    p.Run n shared ⟨main, workers.set i after.1, after.2⟩ := by
  induction steps with
  | refl =>
    subst start
    rwa [List.set_getElem_self]
  | @tail mid last before step ih =>
    have here : (workers.set i mid.1)[i]? = some mid.1 := List.getElem?_set_self bound
    have next : p.Step n _ ⟨main, (workers.set i mid.1).set i last.1, last.2⟩ :=
      .work main _ mid.2 last.2 i mid.1 last.1 here step
    rw [List.set_set] at next
    exact .next ih next

/-- **The main thread can finish** when every worker, left alone, returns. -/
theorem exists_finished (quiet : μ → Prop) (begins : quiet shared)
    (returns : ∀ i current, quiet current → ∃ after, quiet after.2 ∧ p.returned after.1 ∧
      ReflTransGen (p.Alone i) (p.start i, current) after) :
    ∃ s, p.Run n shared s ∧ s.main = .finished := by
  -- each worker runs to its end as soon as it is there
  have created : ∀ k ≤ n, ∃ workers current, quiet current ∧ workers.length = k ∧ (∀ w ∈ workers, p.returned w) ∧
      p.Run n shared ⟨.creating, workers, current⟩ := by
    intro k
    induction k with
    | zero => exact fun _ => ⟨[], shared, begins, rfl, fun _ member => absurd member List.not_mem_nil, .start rfl⟩
    | succ k ih =>
      intro less
      obtain ⟨workers, current, calm, rfl, returned, run⟩ := ih (Nat.le_of_succ_le less)
      obtain ⟨after, calm', ends, steps⟩ := returns workers.length current calm
      have alone := Run.alone (i := workers.length) (.next run (.create workers current less)) (by simp) (by simp) steps
      rw [List.set_append_right _ _ (Nat.le_refl _), Nat.sub_self, List.set_cons_zero] at alone
      refine ⟨workers ++ [after.1], after.2, calm', by simp, fun w member => ?_, alone⟩
      rcases List.mem_append.mp member with old | new
      · exact returned w old
      · exact (List.mem_singleton.mp new) ▸ ends
  obtain ⟨workers, current, -, rfl, returned, run⟩ := created n (Nat.le_refl n)
  have joined : ∀ k ≤ workers.length, p.Run workers.length shared ⟨.joining k, workers, current⟩ := by
    intro k
    induction k with
    | zero => exact fun _ => .next run (.created workers current (Nat.le_refl _))
    | succ k ih =>
      exact fun less => .next (ih (Nat.le_of_succ_le less))
        (.join workers current k workers[k] (List.getElem?_eq_getElem less) (returned _ (List.getElem_mem less)))
  exact ⟨_, .next (joined _ (Nat.le_refl _)) (.finish workers current _ (Nat.le_refl _)), rfl⟩

end Workers

end CLib
