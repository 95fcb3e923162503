import Mathlib.Logic.Relation
import Mathlib.Data.List.Forall2

/-!
# Reachable states and invariants

`Reachable init step` holds of the states a transition system can be in. An
invariant holds in every reachable state, and a system whose state holds a table
of components that move independently has only reachable components in it.
-/

namespace CLib
set_option autoImplicit false
open Relation

variable {σ τ : Type}

/-- The states reached from `init` by any number of steps. -/
inductive Reachable (init : σ → Prop) (step : σ → σ → Prop) : σ → Prop
  | start {s : σ} : init s → Reachable init step s
  | next {s s' : σ} : Reachable init step s → step s s' → Reachable init step s'

namespace Reachable

variable {init : σ → Prop} {step : σ → σ → Prop} {s : σ}

/-- **The invariant rule.** -/
theorem invariant {motive : σ → Prop} (reached : Reachable init step s) (start : ∀ s, init s → motive s)
    (preserved : ∀ s s', motive s → step s s' → motive s') : motive s := by
  induction reached with
  | start initial => exact start _ initial
  | next _ move ih => exact preserved _ _ ih move

/-- **The budget rule.** Work that every step pays for never exceeds the credit a
run has earned, where `holds s credit` says how much a state accounts for. -/
theorem budget (holds : σ → Nat → Prop) (work : σ → Nat) (reached : Reachable init step s)
    (start : ∀ s, init s → ∃ credit, holds s credit ∧ work s ≤ credit)
    (pays : ∀ s s' credit, holds s credit → step s s' →
      ∃ credit', holds s' credit' ∧ work s' + credit ≤ work s + credit') :
    ∃ credit, holds s credit ∧ work s ≤ credit := by
  refine reached.invariant (motive := fun s => ∃ credit, holds s credit ∧ work s ≤ credit) start ?_
  rintro s s' ⟨credit, held, covered⟩ move
  obtain ⟨credit', held', paid⟩ := pays s s' credit held move
  exact ⟨credit', held', by omega⟩

theorem steps {s' : σ} (reached : Reachable init step s) (run : ReflTransGen step s s') :
    Reachable init step s' := by
  induction run with
  | refl => exact reached
  | tail _ move ih => exact .next ih move

/-- **Components.** When every step of the whole moves each entry of its table
by steps of the component system, every entry ever found in the table is a
reachable component. -/
theorem components (table : σ → List τ) {initial : τ → Prop} {move : τ → τ → Prop}
    (reached : Reachable init step s) (start : ∀ s, init s → ∀ t ∈ table s, Reachable initial move t)
    (local' : ∀ s s', Reachable init step s → step s s' →
      List.Forall₂ (ReflTransGen move) (table s) (table s')) :
    ∀ t ∈ table s, Reachable initial move t := by
  induction reached with
  | start first => exact start _ first
  | next before taken ih =>
    intro t member
    obtain ⟨i, bound, rfl⟩ := List.mem_iff_getElem.mp member
    have moved := local' _ _ before taken
    have same := moved.length_eq
    exact (ih _ (List.getElem_mem (same ▸ bound))).steps (List.forall₂_iff_get.mp moved |>.2 i (same ▸ bound) bound)

/-- **A component that cannot move stays.** -/
theorem component_stuck (table : σ → List τ) {move : τ → τ → Prop} {s' : σ} (reached : Reachable init step s)
    (run : ReflTransGen step s s')
    (local' : ∀ s s', Reachable init step s → step s s' →
      List.Forall₂ (ReflTransGen move) (table s) (table s'))
    {i : Nat} {t : τ} (here : (table s)[i]? = some t) (stuck : ∀ t', ¬ move t t') : (table s')[i]? = some t := by
  induction run with
  | refl => exact here
  | tail before taken ih =>
    obtain ⟨bound, value⟩ := List.getElem?_eq_some_iff.mp ih
    have moved := local' _ _ (reached.steps before) taken
    have bound' := moved.length_eq ▸ bound
    have kept := List.forall₂_iff_get.mp moved |>.2 i bound bound'
    simp only [List.get_eq_getElem, value] at kept
    rw [List.getElem?_eq_getElem bound', (reflTransGen_iff_eq stuck).mp kept]

end Reachable

end CLib
