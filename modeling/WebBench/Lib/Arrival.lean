import Mathlib.Order.Bounds.Basic
import Mathlib.Data.List.Infix
import WebBench.Lib.CString

/-!
# What has arrived of a stream

A receiver that looks at everything it has got so far decides by a property of
prefixes. Such a property holds from one position of the stream on, and which
position that is does not depend on the pieces in which the stream arrives.
-/

namespace CLib
set_option autoImplicit false

section Prefixes

variable {α : Type} {P : List α → Prop} {got later stream : List α} {h : Nat}

/-- The property has held of something that came on the way. -/
def Arrived (P : List α → Prop) (got : List α) : Prop := ∃ front, front <+: got ∧ P front

/-- What has arrived stays so. -/
theorem Arrived.mono (arrived : Arrived P got) (more : got <+: later) : Arrived P later := by
  obtain ⟨front, before, holds⟩ := arrived
  exact ⟨front, before.trans more, holds⟩

/-- **Positions do not depend on pieces.** Of a part of a stream the property has held if and only if the part
reaches the least position at which it holds. -/
theorem arrived_iff_le (least : IsLeast {m | P (stream.take m)} h) (part : got <+: stream) :
    Arrived P got ↔ h ≤ got.length := by
  constructor
  · rintro ⟨front, before, holds⟩
    rw [List.prefix_iff_eq_take.mp (before.trans part)] at holds
    exact (least.2 holds).trans before.length_le
  · intro reached
    refine ⟨stream.take h, ?_, least.1⟩
    rw [List.prefix_iff_eq_take.mp part]
    exact List.take_prefix_take_left reached

/-- Without a position the property has not held of any part. -/
theorem not_arrived (never : ∀ m, P (stream.take m) → got.length < m) (part : got <+: stream) : ¬ Arrived P got := by
  rintro ⟨front, before, holds⟩
  rw [List.prefix_iff_eq_take.mp (before.trans part)] at holds
  exact absurd (never front.length holds) (Nat.not_lt.mpr before.length_le)

end Prefixes

/-! ## A phrase in a C string -/

/-- No byte is NUL, and the phrase has just come. -/
def EndsWith (phrase front : List Byte) : Prop := (∀ b ∈ front, b ≠ 0) ∧ phrase <:+ front

theorem cstr_isPrefix (cells : List Byte) : cstr cells <+: cells := List.takeWhile_prefix _

theorem prefix_cstr {front cells : List Byte} (before : front <+: cells) (noNul : ∀ b ∈ front, b ≠ 0) :
    front <+: cstr cells := by
  obtain ⟨rest, rfl⟩ := before
  rw [cstr, List.takeWhile_append_of_pos fun b member => by simpa using noNul b member]
  exact List.prefix_append _ _

/-- `strstr` finds the phrase once it has come before any NUL. -/
theorem strstr_cstr_iff {phrase cells : List Byte} : strstr (cstr cells) phrase ↔ Arrived (EndsWith phrase) cells := by
  constructor
  · rintro ⟨before, after, whole⟩
    have front : before ++ phrase <+: cstr cells := ⟨after, whole⟩
    exact ⟨before ++ phrase, front.trans (cstr_isPrefix cells),
      fun b member => cstr_noNul cells b (front.subset member), List.suffix_append _ _⟩
  · rintro ⟨front, before, noNul, ends⟩
    exact ends.isInfix.trans (prefix_cstr before noNul).isInfix

/-! ## Gathering into a buffer -/

/-- What a read finds. -/
inductive Found where
  | data (waiting : List Byte)
  | later
  | closed
  deriving DecidableEq

/-- The room left for a C string that begins with `got`, in an array of `size` cells. -/
def roomFor (size : Nat) (got : List Byte) : Nat := size - 1 - got.length

/-- What has been gathered after reads that each take what is waiting, up to the room left. -/
def gathered (size : Nat) : List Byte → List Found → List Byte
  | got, [] => got
  | got, .data waiting :: rest => gathered size (got ++ waiting.take (roomFor size got)) rest
  | got, .later :: rest | got, .closed :: rest => gathered size got rest

section Gathered

variable {size : Nat} {got : List Byte} {reads : List Found}

theorem gathered_isPrefix (size : Nat) (got : List Byte) (reads : List Found) : got <+: gathered size got reads := by
  induction reads generalizing got with
  | nil => exact List.prefix_rfl
  | cons read rest ih =>
    cases read with
    | data waiting => exact (List.prefix_append _ _).trans (ih _)
    | later | closed => exact ih _

theorem gathered_full (full : roomFor size got = 0) : gathered size got reads = got := by
  induction reads with
  | nil => rfl
  | cons read rest ih =>
    cases read with
    | data waiting =>
      rw [gathered, full, List.take_zero, List.append_nil]
      exact ih
    | later | closed => exact ih

theorem length_take_roomFor (short : got.length ≤ size - 1) (waiting : List Byte) :
    (got ++ waiting.take (roomFor size got)).length ≤ size - 1 := by
  have taken := List.length_take_le (roomFor size got) waiting
  rw [List.length_append]
  unfold roomFor at taken ⊢
  omega

theorem gathered_length (short : got.length ≤ size - 1) : (gathered size got reads).length ≤ size - 1 := by
  induction reads generalizing got with
  | nil => exact short
  | cons read rest ih =>
    cases read with
    | data waiting => exact ih (length_take_roomFor short waiting)
    | later | closed => exact ih short

theorem gathered_append (size : Nat) (got : List Byte) (reads more : List Found) :
    gathered size got (reads ++ more) = gathered size (gathered size got reads) more := by
  induction reads generalizing got with
  | nil => rfl
  | cons read rest ih =>
    cases read with
    | data waiting | later | closed => exact ih _

end Gathered

end CLib
