import Mathlib.Algebra.Order.BigOperators.Group.List
import WebBench.Lib.SizeT

/-!
# Counters and totals of type `int`

A loop adds up a column of `int` counters into an `int` total. When the counters
are the remainders of what they count, nothing has wrapped if and only if the sum
of all counts is an `int`.
-/

namespace CLib
set_option autoImplicit false

theorem int32_int32 (i : Int) : int32 (int32 i) = int32 i := Int.bmod_bmod

theorem int32_add_int32 (i j : Int) : int32 (i + int32 j) = int32 (i + j) := Int.add_bmod_bmod

theorem int32_zero : int32 0 = 0 := by decide

/-- Equal remainders stay equal when the same is added. -/
theorem int32_add_congr {i j : Int} (same : int32 i = int32 j) (k : Int) : int32 (i + k) = int32 (j + k) := by
  rw [Int.add_comm i, Int.add_comm j, ← int32_add_int32, same, int32_add_int32]

/-- `int total = 0; for (…) total += term;` -/
def int32Sum (terms : List Int) : Int := terms.foldl (fun total term => int32 (total + term)) 0

/-- Wrapping at every addition leaves the remainder of the sum. -/
theorem int32Sum_eq (terms : List Int) : int32Sum terms = int32 terms.sum := by
  have loop : ∀ (terms : List Int) (total : Int), int32 total = total →
      terms.foldl (fun total term => int32 (total + term)) total = int32 (total + terms.sum) := by
    intro terms
    induction terms with
    | nil =>
      intro total held
      rw [List.foldl_nil, List.sum_nil, Int.add_zero, held]
    | cons term rest ih =>
      intro total _
      rw [List.foldl_cons, ih _ (int32_int32 _), List.sum_cons, ← Int.add_assoc]
      exact int32_add_congr (int32_int32 _) _
  rw [int32Sum, loop terms 0 int32_zero, Int.zero_add]

/-- A column of `int` counters and its total, at every step of the loop, are natural numbers that fit, and the
total is the sum of what was counted. -/
structure ExactSum (fields counts : List Int) : Prop where
  each : ∀ field ∈ fields, 0 ≤ field ∧ field ≤ intMax
  totals : ∀ k, 0 ≤ int32Sum (fields.take k) ∧ int32Sum (fields.take k) ≤ intMax
  sum : int32Sum fields = counts.sum

/-- **No overflow**, if and only if the sum of all counts is an `int`. -/
theorem exactSum_iff {fields counts : List Int} (held : fields = counts.map int32)
    (nonneg : ∀ count ∈ counts, 0 ≤ count) : ExactSum fields counts ↔ counts.sum ≤ intMax := by
  constructor
  · intro exact
    rw [← exact.sum, int32Sum_eq]
    exact (int32_bounds _).2
  · intro fits
    have small : ∀ count ∈ counts, count ≤ intMax := fun count member =>
      (List.single_le_sum nonneg count member).trans fits
    have same : fields = counts := by
      rw [held]
      refine (List.map_congr_left fun count member => ?_).trans (List.map_id counts)
      exact (int32_eq_iff (nonneg count member)).mpr (small count member)
    have total : ∀ k, 0 ≤ (counts.take k).sum ∧ (counts.take k).sum ≤ intMax := fun k =>
      ⟨List.sum_nonneg fun count member => nonneg count (List.mem_of_mem_take member),
        ((List.take_sublist k counts).sum_le_sum nonneg).trans fits⟩
    have exact (k : Nat) : int32Sum (counts.take k) = (counts.take k).sum := by
      rw [int32Sum_eq]
      exact (int32_eq_iff (total k).1).mpr (total k).2
    subst same
    refine ⟨fun field member => ⟨nonneg field member, small field member⟩, fun k => ?_, ?_⟩
    · rw [exact k]
      exact total k
    · have whole := exact fields.length
      rwa [List.take_length] at whole

end CLib
