import Mathlib.Algebra.Order.Ring.Int

/-!
# `size_t` and `int` on a 64-bit target

`size_t` values are natural numbers below `2 ^ 64` and its operations wrap; a
signed value converted to `size_t` is taken modulo `2 ^ 64`, and a `size_t`
stored in an `int` is reduced to 32 bits. The lemmas say when nothing wraps.
-/

namespace CLib
set_option autoImplicit false

/-- `a + b` on `size_t`. -/
def sizeAdd (a b : Nat) : Nat := (a + b) % 2 ^ 64

/-- `a - b` on `size_t`. -/
def sizeSub (a b : Nat) : Nat := (a + (2 ^ 64 - b % 2 ^ 64)) % 2 ^ 64

/-- A signed value converted to `size_t`. -/
def sizeOfInt (i : Int) : Nat := (i % 2 ^ 64).toNat

/-- A `size_t` value stored in an `int`. -/
def intOfSize (n : Nat) : Int := Int.bmod n (2 ^ 32)

theorem sizeAdd_of_lt {a b : Nat} (fits : a + b < 2 ^ 64) : sizeAdd a b = a + b :=
  Nat.mod_eq_of_lt fits

theorem sizeSub_of_le {a b : Nat} (le : b ≤ a) (fits : a < 2 ^ 64) : sizeSub a b = a - b := by
  unfold sizeSub
  omega

theorem sizeOfInt_natCast {n : Nat} (fits : n < 2 ^ 64) : sizeOfInt n = n := by
  unfold sizeOfInt
  omega

theorem sizeOfInt_of_nonneg {i : Int} (nonneg : 0 ≤ i) (fits : i < 2 ^ 64) : sizeOfInt i = i.toNat := by
  unfold sizeOfInt
  omega

/-- The failure value of a system call becomes the largest `size_t`. -/
theorem sizeOfInt_neg_one : sizeOfInt (-1) = 2 ^ 64 - 1 := by decide

/-- Adding a failure value to a positive count takes one off. -/
theorem sizeAdd_neg_one {a : Nat} (positive : 0 < a) (fits : a < 2 ^ 64) :
    sizeAdd a (sizeOfInt (-1)) = a - 1 := by
  rw [sizeOfInt_neg_one, sizeAdd]
  omega

/-- Adding a failure value to zero gives the largest `size_t`. -/
theorem sizeAdd_zero_neg_one : sizeAdd 0 (sizeOfInt (-1)) = 2 ^ 64 - 1 := by decide

theorem intOfSize_of_lt {n : Nat} (fits : n < 2 ^ 31) : intOfSize n = n := by
  unfold intOfSize
  rw [Int.bmod_def]
  omega

/-- `INT_MAX`. -/
def intMax : Int := 2 ^ 31 - 1

/-- A value converted to `int`, and what arithmetic on `int` leaves when it wraps. -/
def int32 (i : Int) : Int := Int.bmod i (2 ^ 32)

theorem int32_of_fits {i : Int} (low : -2 ^ 31 ≤ i) (high : i ≤ intMax) : int32 i = i := by
  unfold int32
  unfold intMax at high
  rw [Int.bmod_def]
  omega

theorem int32_bounds (i : Int) : -2 ^ 31 ≤ int32 i ∧ int32 i ≤ intMax := by
  unfold int32 intMax
  rw [Int.bmod_def]
  omega

/-- A natural number survives the conversion if and only if it is no larger than `INT_MAX`. -/
theorem int32_eq_iff {i : Int} (nonneg : 0 ≤ i) : int32 i = i ↔ i ≤ intMax := by
  constructor
  · intro same
    exact same ▸ (int32_bounds i).2
  · exact fun high => int32_of_fits (by omega) high

end CLib
