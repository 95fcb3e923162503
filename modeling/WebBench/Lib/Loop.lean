import Mathlib.Data.List.Basic

/-!
# Loops fed from outside

A loop whose every iteration reads one input (a clock, what a wait reports), and
goes on with a new state or leaves with a result. It has no result while the
inputs run out first.
-/

namespace CLib
set_option autoImplicit false

variable {σ ι ε : Type}

/-- Where an iteration goes. -/
inductive LoopStep (σ ε : Type) where
  | again (s : σ)
  | leave (e : ε)

/-- The loop from a state on. -/
def loop (body : σ → ι → LoopStep σ ε) : σ → List ι → Option ε
  | _, [] => none
  | s, input :: inputs =>
    match body s input with
    | .again s => loop body s inputs
    | .leave e => some e

variable {body : σ → ι → LoopStep σ ε} {s : σ} {inputs : List ι} {e : ε}

/-- **The rule of the loop.** What every iteration that goes on keeps, and from
which every iteration that leaves gives the postcondition. -/
theorem loop_post (inv : σ → Prop) (post : ε → Prop) (start : inv s)
    (again : ∀ input ∈ inputs, ∀ s s', inv s → body s input = .again s' → inv s')
    (leave : ∀ input ∈ inputs, ∀ s e, inv s → body s input = .leave e → post e) (left : loop body s inputs = some e) :
    post e := by
  induction inputs generalizing s with
  | nil => cases left
  | cons input inputs ih =>
    have here : input ∈ input :: inputs := List.mem_cons_self
    unfold loop at left
    cases next : body s input with
    | again s' =>
      rw [next] at left
      exact ih (again input here s s' start next) (fun other member => again other (List.mem_cons_of_mem _ member))
        (fun other member => leave other (List.mem_cons_of_mem _ member)) left
    | leave e' =>
      rw [next] at left
      cases left
      exact leave input here s e start next

/-- The loop has left by an input with which any iteration leaves. -/
theorem loop_leaves {last : ι} (member : last ∈ inputs) (leaves : ∀ s, ∃ e, body s last = .leave e) :
    loop body s inputs ≠ none := by
  induction inputs generalizing s with
  | nil => exact absurd member List.not_mem_nil
  | cons input inputs ih =>
    unfold loop
    cases next : body s input with
    | again s' =>
      rcases List.mem_cons.mp member with rfl | later
      · obtain ⟨e, left⟩ := leaves s
        cases next.symm.trans left
      · exact ih later
    | leave e => exact Option.some_ne_none e

end CLib
