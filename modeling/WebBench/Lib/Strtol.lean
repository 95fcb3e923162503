import WebBench.Lib.CString

/-!
# `strtol` in base 10

`strtol` skips spaces, takes a sign and reads the longest row of digits that
follows. The number it reads is an integer without bounds (`numeral`); the value
returned is that number where it fits a 64-bit `long`, and the nearest end of the
range with `errno` set where it does not.
-/

namespace CLib
set_option autoImplicit false

/-- `isspace` in the C locale. -/
def isspace (b : Byte) : Bool := b == 32 || (9 ≤ b && b ≤ 13)

/-- `isdigit`. -/
def isdigit (b : Byte) : Bool := 48 ≤ b && b ≤ 57

/-- The number a row of decimal digits stands for. -/
def digitsValue (digits : List Byte) : Nat := digits.foldl (fun n d => 10 * n + (d.toNat - 48)) 0

/-- The sign of a numeral: whether it is a minus, and what follows it. -/
def signed : List Byte → Bool × List Byte
  | [] => (false, [])
  | b :: rest => if b = 45 then (true, rest) else if b = 43 then (false, rest) else (false, b :: rest)

/-- The number at the start of a string and where it ends; nothing when there are no digits. -/
def numeral (s : List Byte) : Option (Int × Nat) :=
  let rest := (signed (s.dropWhile isspace)).2
  let digits := rest.takeWhile isdigit
  let value : Int := digitsValue digits
  if digits = [] then none
  else some (if (signed (s.dropWhile isspace)).1 then -value else value, s.length - rest.length + digits.length)

/-- `LONG_MAX`. -/
def longMax : Int := 2 ^ 63 - 1

/-- `LONG_MIN`. -/
def longMin : Int := -2 ^ 63

/-- What `strtol` returns, the offset it stores in `*endptr`, and whether it sets `errno` to `ERANGE`. -/
structure Strtol where
  value : Int
  endptr : Nat
  erange : Bool
  deriving DecidableEq, Repr

/-- `strtol(s, &endptr, 10)`. -/
def strtol (s : List Byte) : Strtol :=
  match numeral s with
  | none => ⟨0, 0, false⟩
  | some (value, used) => ⟨max longMin (min value longMax), used, decide (value < longMin ∨ longMax < value)⟩

/-! ## Rows of digits -/

variable {digits rest s : List Byte}

/-- One digit more: ten times the value, and the digit. -/
theorem digitsValue_append (digits : List Byte) (d : Byte) :
    digitsValue (digits ++ [d]) = 10 * digitsValue digits + (d.toNat - 48) := by
  simp [digitsValue, List.foldl_append]

/-- A digit is no space to be skipped. -/
theorem not_isspace_of_isdigit {d : Byte} (digit : isdigit d) : ¬ isspace d := by
  revert d
  decide

/-- Nor is it a sign. -/
theorem no_sign_of_isdigit {d : Byte} (digit : isdigit d) : d ≠ 45 ∧ d ≠ 43 := by
  revert d
  decide

/-- A string that begins with a digit has neither spaces nor a sign before its number. -/
theorem numeral_digits (some' : digits ≠ []) (all : ∀ d ∈ digits, isdigit d)
    (ends : ∀ b ∈ rest.head?, ¬ isdigit b) :
    numeral (digits ++ rest) = some ((digitsValue digits : Int), digits.length) := by
  obtain ⟨d, more, rfl⟩ := List.exists_cons_of_ne_nil some'
  have first := all d List.mem_cons_self
  have plain : (d :: more ++ rest).dropWhile isspace = d :: more ++ rest := by
    rw [List.cons_append, List.dropWhile_cons_of_neg (not_isspace_of_isdigit first)]
  have unsigned : signed (d :: more ++ rest) = (false, d :: more ++ rest) := by
    obtain ⟨minus, plus⟩ := no_sign_of_isdigit first
    rw [List.cons_append, signed, if_neg minus, if_neg plus]
  have read : (d :: more ++ rest).takeWhile isdigit = d :: more := by
    rw [List.takeWhile_append_of_pos all]
    cases rest with
    | nil => simp
    | cons b rest => rw [List.takeWhile_cons_of_neg (ends b rfl), List.append_nil]
  simp only [numeral, plain, unsigned, read]
  simp

/-- What is read ends behind at least one byte. -/
theorem numeral_used {value : Int} {used : Nat} (read : numeral s = some (value, used)) : 0 < used := by
  unfold numeral at read
  dsimp only at read
  split at read
  · cases read
  · rename_i nonempty
    have positive := List.length_pos_iff.mpr nonempty
    simp only [Option.some.injEq, Prod.mk.injEq] at read
    omega

/-! ## Decimal numerals -/

theorem decimal_natCast (n : Nat) : decimal n = (Nat.toDigits 10 n).map fun c => BitVec.ofNat 8 c.toNat := by
  simp [decimal]

theorem digitChar_byte {d : Nat} (digit : d < 10) : BitVec.ofNat 8 (Nat.digitChar d).toNat = BitVec.ofNat 8 (48 + d) := by
  revert d
  decide

theorem decimal_of_lt {n : Nat} (small : n < 10) : decimal n = [BitVec.ofNat 8 (48 + n)] := by
  rw [decimal_natCast, Nat.toDigits_of_lt_base small, List.map_singleton, digitChar_byte small]

/-- The last digit of a longer numeral, and what is before it. -/
theorem decimal_of_le {n : Nat} (large : 10 ≤ n) :
    decimal n = decimal ((n / 10 : Nat) : Int) ++ [BitVec.ofNat 8 (48 + n % 10)] := by
  rw [decimal_natCast, decimal_natCast, Nat.toDigits_of_base_le (by decide) large, List.map_append, List.map_singleton,
    digitChar_byte (Nat.mod_lt _ (by decide))]

theorem digit_byte_toNat {d : Nat} (digit : d < 10) : (BitVec.ofNat 8 (48 + d)).toNat = 48 + d := by
  rw [BitVec.toNat_ofNat]
  omega

theorem isdigit_digit {d : Nat} (digit : d < 10) : isdigit (BitVec.ofNat 8 (48 + d)) := by
  revert d
  decide

/-- A number is printed in digits. -/
theorem isdigit_of_mem_decimal (n : Nat) : ∀ d ∈ decimal n, isdigit d := by
  induction n using Nat.strong_induction_on with
  | _ n ih =>
    intro d member
    by_cases small : n < 10
    · rw [decimal_of_lt small, List.mem_singleton] at member
      exact member ▸ isdigit_digit small
    · rw [decimal_of_le (by omega)] at member
      rcases List.mem_append.mp member with before | last
      · exact ih (n / 10) (by omega) d before
      · exact List.mem_singleton.mp last ▸ isdigit_digit (Nat.mod_lt _ (by decide))

theorem decimal_noNul (i : Int) : ∀ b ∈ decimal i, b ≠ 0 := by
  refine append_noNul ?_ ?_
  · split <;> decide
  · intro b member
    rw [← decimal_natCast] at member
    rintro rfl
    exact absurd (isdigit_of_mem_decimal _ 0 member) (by decide)

/-- What is printed is read back. -/
theorem digitsValue_decimal (n : Nat) : digitsValue (decimal n) = n := by
  induction n using Nat.strong_induction_on with
  | _ n ih =>
    by_cases small : n < 10
    · rw [decimal_of_lt small, ← List.nil_append [_], digitsValue_append, digit_byte_toNat small]
      simp [digitsValue]
    · rw [decimal_of_le (by omega), digitsValue_append, ih (n / 10) (by omega), digit_byte_toNat (Nat.mod_lt _ (by decide))]
      omega

theorem decimal_ne_nil (n : Nat) : decimal n ≠ [] := by
  rw [decimal_natCast, Ne, List.map_eq_nil_iff]
  exact Nat.toDigits_ne_nil

/-- **Reading back** what `%d` prints. -/
theorem numeral_decimal {n : Nat} (ends : ∀ b ∈ rest.head?, ¬ isdigit b) :
    numeral (decimal n ++ rest) = some ((n : Int), (decimal n).length) := by
  rw [numeral_digits (decimal_ne_nil n) (isdigit_of_mem_decimal n) ends, digitsValue_decimal]

/-- What a numeral is cut down to is the numeral of a smaller number. -/
theorem decimal_take {n k : Nat} (some' : 0 < k) (short : k < (decimal n).length) :
    ∃ m : Nat, (decimal n).take k = decimal m ∧ 0 < m ∧ m < n := by
  induction n using Nat.strong_induction_on with
  | _ n ih =>
    by_cases small : n < 10
    · rw [decimal_of_lt small, List.length_singleton] at short
      omega
    have shape := decimal_of_le (n := n) (by omega)
    rw [shape, List.length_append, List.length_singleton] at short
    rw [shape, List.take_append_of_le_length (by omega)]
    rcases Nat.lt_or_ge k (decimal ((n / 10 : Nat) : Int)).length with shorter | whole
    · obtain ⟨m, cut, positive, less⟩ := ih (n / 10) (by omega) shorter
      exact ⟨m, cut, positive, by omega⟩
    · exact ⟨n / 10, List.take_of_length_le whole, by omega, by omega⟩

end CLib
