import WebBench.Lib.CString

/-!
# `string.h`: searching, comparing and bounded copies

A string of any length is a `CText`. A pointer into a string is an offset, and
the null pointer is `none`. Searching is described by the parts a string falls
into around the byte that is found.
-/

namespace CLib
set_option autoImplicit false

/-- A NUL-terminated string of any length. -/
structure CText where
  bytes : List Byte
  noNul : ∀ b ∈ bytes, b ≠ 0

/-- A string literal. -/
def CText.literal (s : String) : CText := ⟨cstr (text s), cstr_noNul _⟩

/-- `strchr`. -/
def strchr (s : List Byte) (c : Byte) : Option Nat := s.findIdx? (· == c)

/-- `strrchr`. -/
def strrchr (s : List Byte) (c : Byte) : Option Nat := (strchr s.reverse c).map (s.length - 1 - ·)

/-- `strstr`. -/
def strstrAt : List Byte → List Byte → Option Nat
  | [], needle => if needle = [] then some 0 else none
  | b :: rest, needle => if needle <+: b :: rest then some 0 else (strstrAt rest needle).map (· + 1)

/-- `tolower` in the C locale. -/
def tolower (b : Byte) : Byte := if 65 ≤ b ∧ b ≤ 90 then b + 32 else b

/-- `strncasecmp(a, b, n) == 0`. -/
def strncasecmpEq (a b : List Byte) (n : Nat) : Prop := (a.take n).map tolower = (b.take n).map tolower

instance (a b : List Byte) (n : Nat) : Decidable (strncasecmpEq a b n) := decEq _ _

/-- A string begins with a given word in any letter case. -/
theorem strncasecmpEq_iff (word s : List Byte) (lower : word.map tolower = word) :
    strncasecmpEq word s word.length ↔ ∃ front rest, s = front ++ rest ∧ front.map tolower = word := by
  rw [strncasecmpEq, List.take_length, lower]
  constructor
  · intro same
    exact ⟨s.take word.length, s.drop word.length, (List.take_append_drop _ _).symm, same.symm⟩
  · rintro ⟨front, rest, rfl, same⟩
    have length := congrArg List.length same
    rw [List.length_map] at length
    rw [List.take_left' length, same]

/-! ## What searching finds -/

variable {s : List Byte} {c : Byte}

theorem strchr_eq_none : strchr s c = none ↔ c ∉ s := by
  simp only [strchr, List.findIdx?_eq_none_iff, beq_eq_false_iff_ne]
  exact ⟨fun other member => other c member rfl, fun absent b member same => absent (same ▸ member)⟩

/-- The byte found is the first of its kind. -/
theorem strchr_append {before after : List Byte} (first : c ∉ before) :
    strchr (before ++ c :: after) c = some before.length := by
  have skipped : before.findIdx? (· == c) = none := strchr_eq_none.mpr first
  simp [strchr, List.findIdx?_append, skipped, List.findIdx?_cons]

theorem strrchr_eq_none : strrchr s c = none ↔ c ∉ s := by
  rw [strrchr, Option.map_eq_none_iff, strchr_eq_none, List.mem_reverse]

/-- The byte found is the last of its kind. -/
theorem strrchr_append (before : List Byte) {after : List Byte} (last : c ∉ after) :
    strrchr (before ++ c :: after) c = some before.length := by
  have reversed : (before ++ c :: after).reverse = after.reverse ++ c :: before.reverse := by simp
  rw [strrchr, reversed, strchr_append (by rwa [List.mem_reverse])]
  simp only [Option.map_some, List.length_append, List.length_cons, List.length_reverse]
  congr 1
  omega

/-- A string falls apart at the last byte of a kind in one way only. -/
theorem last_unique {before before' after after' : List Byte} (last : c ∉ after) (last' : c ∉ after')
    (same : before ++ c :: after = before' ++ c :: after') : before = before' ∧ after = after' := by
  have place := strrchr_append before last
  rw [same, strrchr_append before' last'] at place
  obtain ⟨front, back⟩ := List.append_inj same (Option.some.inj place).symm
  exact ⟨front, (List.cons.inj back).2⟩

/-- A string that has the byte falls apart at the last of its kind. -/
theorem exists_last (has : c ∈ s) : ∃ before after, s = before ++ c :: after ∧ c ∉ after := by
  obtain ⟨after, before, reversed, last⟩ := List.eq_append_cons_of_mem (List.mem_reverse.mpr has)
  refine ⟨before.reverse, after.reverse, ?_, by rwa [List.mem_reverse]⟩
  have turned := congrArg List.reverse reversed
  simpa using turned

/-- Past a mark is what follows it. -/
theorem drop_mark {α : Type} {mark : α} (x y : List α) : (x ++ mark :: y).drop (x.length + 1) = y := by
  rw [List.drop_length_add_append, List.drop_succ_cons, List.drop_zero]

theorem drop_past {α : Type} {mark : α} {l x y : List α} {k : Nat} (behind : l.drop k = x ++ mark :: y) :
    l.drop (k + x.length + 1) = y := by
  rw [Nat.add_assoc k, ← List.drop_drop, behind, drop_mark]

/-- Two ways to cut a list at a mark, one of them at the first: they are the same, or the other is behind it. -/
theorem cut_at_first {α : Type} {mark : α} {x y x' y' : List α} (first : mark ∉ x')
    (same : x ++ mark :: y = x' ++ mark :: y') :
    (x = x' ∧ y = y') ∨ ∃ z, x = x' ++ mark :: z ∧ z ++ mark :: y = y' := by
  rcases List.append_eq_append_iff.mp same with ⟨between, longer, rest⟩ | ⟨between, longer, rest⟩
  · cases between with
    | nil => exact .inl ⟨by rw [longer, List.append_nil], (List.cons.inj rest).2⟩
    | cons b between =>
      obtain rfl := (List.cons.inj rest).1
      exact absurd (longer ▸ List.mem_append_right x List.mem_cons_self) first
  · cases between with
    | nil => exact .inl ⟨by rw [longer, List.append_nil], (List.cons.inj rest).2.symm⟩
    | cons b between =>
      obtain rfl := (List.cons.inj rest).1
      exact .inr ⟨between, longer, (List.cons.inj rest).2.symm⟩

/-- Nothing earlier is found than the first place where the needle stands. -/
theorem strstrAt_append {needle before after : List Byte}
    (first : ∀ i < before.length, ¬ needle <+: (before ++ needle ++ after).drop i) :
    strstrAt (before ++ needle ++ after) needle = some before.length := by
  induction before with
  | nil =>
    rw [List.nil_append]
    cases whole : needle ++ after with
    | nil => simp [strstrAt, List.append_eq_nil_iff.mp whole]
    | cons b rest => simp [strstrAt, ← whole]
  | cons b before ih =>
    have here := first 0 (by simp)
    have later := ih fun i less => by simpa using first (i + 1) (by simpa using less)
    simp only [List.cons_append, List.drop_zero] at here
    simp only [List.cons_append, strstrAt, if_neg here, later, Option.map_some, List.length_cons]

/-! ## Bounded copies -/

namespace CString

variable {cap : Nat}

/-- The string at `s + i`. -/
def behind (s : CString cap) (i : Nat) : CText := ⟨s.bytes.drop i, fun b member => s.noNul b (List.mem_of_mem_drop member)⟩

/-- `s[i] = '\0'`. -/
def setNul (s : CString cap) (i : Nat) : CString cap where
  bytes := s.bytes.take i
  noNul b member := s.noNul b (List.mem_of_mem_take member)
  fits := Nat.lt_of_le_of_lt (List.length_take_le' i s.bytes) s.fits

/-- `strncpy(s, source, n)`, when there is room for `n` bytes and a terminator.
The array is taken to hold zeros behind its string. -/
def strncpy (s : CString cap) (source : CText) (n : Nat) : Option (CString cap) :=
  if room : n < cap then
    some {
      bytes := if source.bytes.length < n then source.bytes else source.bytes.take n ++ s.bytes.drop n
      noNul := by
        intro b member
        split at member
        · exact source.noNul b member
        · rcases List.mem_append.mp member with copied | kept
          · exact source.noNul b (List.mem_of_mem_take copied)
          · exact s.noNul b (List.mem_of_mem_drop kept)
      fits := by
        have fits := s.fits
        split
        · omega
        · rw [List.length_append, List.length_take, List.length_drop]
          omega }
  else none

theorem strncpy_of_le {s : CString cap} {source : CText} {n : Nat} (short : cap ≤ n) : s.strncpy source n = none :=
  dif_neg (Nat.not_lt.mpr short)

/-- The bytes copied are all there is in an array that was empty. -/
theorem strncpy_of_lt {s : CString cap} (source : CText) {n : Nat} (empty : s.bytes = []) (room : n < cap)
    (enough : n ≤ source.bytes.length) : ∃ t, s.strncpy source n = some t ∧ t.bytes = source.bytes.take n := by
  refine ⟨_, dif_pos room, ?_⟩
  show (if source.bytes.length < n then source.bytes else source.bytes.take n ++ s.bytes.drop n) = _
  rw [if_neg (Nat.not_lt.mpr enough), empty, List.drop_nil, List.append_nil]

end CString

end CLib
