import Mathlib.Data.List.Nodup
import Mathlib.Data.List.Perm.Subperm
import Mathlib.Order.Bounds.Basic

/-!
# The lowest free number

Numbers are handed out from `first` on, the lowest free one each time, and may
be given back in any order.
-/

namespace CLib
set_option autoImplicit false

/-- The lowest number from `first` on that is not in use. -/
def LowestFree (first : Int) (used : List Int) (n : Int) : Prop := IsLeast {m | first ≤ m ∧ m ∉ used} n

namespace LowestFree

variable {first n : Int} {used : List Int}

theorem fresh (lowest : LowestFree first used n) : n ∉ used := lowest.1.2

theorem first_le (lowest : LowestFree first used n) : first ≤ n := lowest.1.1

/-- All numbers before the lowest free one are in use. -/
theorem used_of_lt (lowest : LowestFree first used n) {m : Int} (lower : first ≤ m) (upper : m < n) : m ∈ used := by
  by_contra free
  have least := lowest.2 ⟨lower, free⟩
  omega

/-- **Pigeonholes.** With `k` numbers in use the lowest free one is at most the `k`-th after the first. -/
theorem le_length (lowest : LowestFree first used n) : n ≤ first + used.length := by
  have start := lowest.first_le
  let below := (List.range (n - first).toNat).map fun i : Nat => first + (i : Int)
  have distinct : below.Nodup := by
    refine List.Nodup.map ?_ List.nodup_range
    intro i j same
    have same : first + (i : Int) = first + (j : Int) := same
    omega
  have taken : below ⊆ used := by
    intro m member
    obtain ⟨i, bound, rfl⟩ := List.mem_map.mp member
    rw [List.mem_range] at bound
    exact lowest.used_of_lt (by omega) (by omega)
  have count := (distinct.subperm taken).length_le
  rw [List.length_map, List.length_range] at count
  omega

/-- When all numbers up to `n` are in use and no others are, `n` comes next. -/
theorem of_used (start : first ≤ n) (exact' : ∀ m, m ∈ used ↔ first ≤ m ∧ m < n) : LowestFree first used n := by
  refine ⟨⟨start, fun taken => ?_⟩, fun m free => ?_⟩
  · have bounds := (exact' n).mp taken
    omega
  · by_contra lower
    exact free.2 ((exact' m).mpr ⟨free.1, by omega⟩)

end LowestFree

end CLib
