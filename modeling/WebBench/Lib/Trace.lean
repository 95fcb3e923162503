import Mathlib.Data.List.Basic

/-!
# Traces of a labelled transition system

A system moves silently or by an observable event. `Trace` collects the events
between two states; an invariant may speak of the events seen so far, and every
event of a trace is taken in a state that the events before it lead to.
-/

namespace CLib
set_option autoImplicit false

variable {σ ε : Type}

/-- The events seen on the way from one state to another. -/
inductive Trace (silent : σ → σ → Prop) (act : σ → ε → σ → Prop) : σ → List ε → σ → Prop
  | refl (s : σ) : Trace silent act s [] s
  | silent {s t u : σ} {events : List ε} : Trace silent act s events t → silent t u → Trace silent act s events u
  | act {s t u : σ} {events : List ε} {e : ε} :
      Trace silent act s events t → act t e u → Trace silent act s (events ++ [e]) u

namespace Trace

variable {silent : σ → σ → Prop} {act : σ → ε → σ → Prop} {s t u : σ} {events later : List ε} {e : ε}

theorem single (move : act s e t) : Trace silent act s [e] t := by
  simpa using (Trace.refl s).act move

theorem trans (first : Trace silent act s events t) (second : Trace silent act t later u) :
    Trace silent act s (events ++ later) u := by
  induction second with
  | refl => simpa using first
  | silent _ move ih => exact ih.silent move
  | act _ move ih => simpa only [List.append_assoc] using ih.act move

/-- **The invariant rule for traces.** -/
theorem invariant {motive : List ε → σ → Prop} (trace : Trace silent act s events t) (start : motive [] s)
    (keptSilent : ∀ events t u, motive events t → silent t u → motive events u)
    (keptAct : ∀ events t e u, motive events t → act t e u → motive (events ++ [e]) u) : motive events t := by
  induction trace with
  | refl => exact start
  | silent _ move ih => exact keptSilent _ _ _ ih move
  | act _ move ih => exact keptAct _ _ _ _ ih move

/-- **Where an event was taken.** -/
theorem taken {before after : List ε} (trace : Trace silent act s (before ++ e :: after) u) :
    ∃ t t', Trace silent act s before t ∧ act t e t' ∧ Trace silent act t' after u := by
  generalize whole : before ++ e :: after = events at trace
  induction trace generalizing after with
  | refl => simp at whole
  | silent _ move ih =>
    obtain ⟨t, t', reach, step, rest⟩ := ih whole
    exact ⟨t, t', reach, step, rest.silent move⟩
  | act earlier move ih =>
    rcases List.eq_nil_or_concat after with rfl | ⟨init, last, rfl⟩
    · obtain ⟨rfl, same⟩ := List.append_inj' whole rfl
      cases same
      exact ⟨_, _, earlier, move, .refl _⟩
    · rw [List.concat_eq_append, ← List.cons_append, ← List.append_assoc] at whole
      obtain ⟨front, same⟩ := List.append_inj' whole rfl
      cases same
      obtain ⟨t, t', reach, step, rest⟩ := ih front
      exact ⟨t, t', reach, step, by simpa only [List.concat_eq_append] using rest.act move⟩

end Trace

end CLib
