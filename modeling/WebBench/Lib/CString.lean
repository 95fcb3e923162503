import Mathlib.Data.Nat.Digits.Defs
import Mathlib.Data.List.Infix
import Mathlib.Data.List.TakeWhile
import Mathlib.Data.Vector.Basic

/-!
# C strings and `char` arrays

A string held in an array of `cap` bytes (`CString`) carries its own
well-formedness: no NUL inside and room for the terminator. A `char` array is a
vector of cells; `cstr` is the string a C function reads at its start, and
`padded` is an array that holds some data followed by zero cells only.
-/

namespace CLib
set_option autoImplicit false

abbrev Byte := BitVec 8

/-- The bytes of an ASCII literal. -/
def text (s : String) : List Byte := s.toList.map fun c => BitVec.ofNat 8 c.toNat

/-- A NUL-terminated string that fits an array of `cap` bytes. -/
structure CString (cap : Nat) where
  bytes : List Byte
  noNul : ∀ b ∈ bytes, b ≠ 0
  fits : bytes.length < cap
  deriving DecidableEq

/-- The empty string fits every array. -/
def CString.empty (cap : Nat) (room : 0 < cap) : CString cap := ⟨[], by simp, room⟩

/-- The C string at the start of an array: the cells before the first NUL. -/
def cstr (cells : List Byte) : List Byte := cells.takeWhile (· != 0)

/-- The string ends at its first zero byte. -/
theorem cstr_cons_nul (cells : List Byte) : cstr (0 :: cells) = [] := by simp [cstr]

/-- Any other byte belongs to it. -/
theorem cstr_cons {b : Byte} (data : b ≠ 0) (cells : List Byte) : cstr (b :: cells) = b :: cstr cells := by
  simpa [cstr, List.takeWhile_cons] using data

/-- Bytes without a zero are all of the string. -/
theorem cstr_of_noNul {data : List Byte} (noNul : ∀ b ∈ data, b ≠ 0) : cstr data = data :=
  List.takeWhile_eq_self_iff.mpr fun b member => by simpa using noNul b member

/-- A string holds no zero byte. -/
theorem cstr_noNul (cells : List Byte) : ∀ b ∈ cstr cells, b ≠ 0 :=
  fun _ member => by simpa using List.mem_takeWhile_imp member

theorem append_noNul {front back : List Byte} (noNul : ∀ b ∈ front, b ≠ 0) (noNul' : ∀ b ∈ back, b ≠ 0) :
    ∀ b ∈ front ++ back, b ≠ 0 := fun b member => (List.mem_append.mp member).elim (noNul b) (noNul' b)

theorem replicate_noNul (n : Nat) {b : Byte} (data : b ≠ 0) : ∀ c ∈ List.replicate n b, c ≠ 0 := by
  intro c member
  rwa [List.eq_of_mem_replicate member]

/-- `strstr(hay, needle) != NULL`. -/
abbrev strstr (hay needle : List Byte) : Prop := needle <:+: hay

/-- `%d`. -/
def decimal (i : Int) : List Byte :=
  (if i < 0 then text "-" else []) ++ (Nat.toDigits 10 i.natAbs).map fun c => BitVec.ofNat 8 c.toNat

/-- What `snprintf` leaves in an array of `size` bytes. -/
def snprintf (size : Nat) (output : List Byte) : List Byte := output.take (size - 1)

/-- What fits is printed whole. -/
theorem snprintf_of_lt {size : Nat} {output : List Byte} (fits : output.length < size) :
    snprintf size output = output :=
  List.take_of_length_le (by omega)

namespace CString

variable {cap : Nat} {s : CString cap} {source : List Byte}

/-- `snprintf(s, sizeof s, …)`, which prints `output`. -/
def print (room : 0 < cap) (output : List Byte) : CString cap where
  bytes := snprintf cap (cstr output)
  noNul := fun b member => cstr_noNul output b (List.mem_of_mem_take member)
  fits := by
    have short := List.length_take_le (cap - 1) (cstr output)
    unfold snprintf
    omega

/-- `strncat(s, source, sizeof s - strlen(s) - 1)`. -/
def strncat (s : CString cap) (source : List Byte) : CString cap where
  bytes := s.bytes ++ (cstr source).take (cap - s.bytes.length - 1)
  noNul := fun b member => (List.mem_append.mp member).elim (s.noNul b) fun added =>
    cstr_noNul source b (List.mem_of_mem_take added)
  fits := by
    have short := List.length_take_le (cap - s.bytes.length - 1) (cstr source)
    have fits := s.fits
    rw [List.length_append]
    omega

/-- A text that fits is the string that is printed. -/
theorem print_of_fits {room : 0 < cap} (noNul : ∀ b ∈ source, b ≠ 0) (fits : source.length < cap) :
    (print room source).bytes = source := by
  show snprintf cap (cstr source) = source
  rw [cstr_of_noNul noNul, snprintf_of_lt fits]

/-- Appending never touches what is there. -/
theorem strncat_prefix (s : CString cap) (source : List Byte) : s.bytes <+: (s.strncat source).bytes :=
  List.prefix_append _ _

/-- A text that fits is appended whole. -/
theorem strncat_of_fits (noNul : ∀ b ∈ source, b ≠ 0) (fits : s.bytes.length + source.length < cap) :
    (s.strncat source).bytes = s.bytes ++ source := by
  show s.bytes ++ (cstr source).take _ = _
  rw [cstr_of_noNul noNul, List.take_of_length_le (by omega)]

theorem strncat_nil (s : CString cap) : s.strncat [] = s := by
  cases s
  simp [strncat, cstr]

/-- Pieces appended one after the other, when there is room for all of them. -/
theorem foldl_strncat {pieces : List (List Byte)} (noNul : ∀ piece ∈ pieces, ∀ b ∈ piece, b ≠ 0)
    (fits : s.bytes.length + pieces.flatten.length < cap) :
    (pieces.foldl strncat s).bytes = s.bytes ++ pieces.flatten := by
  induction pieces generalizing s with
  | nil => simp
  | cons piece pieces ih =>
    rw [List.flatten_cons, List.length_append] at fits
    have first : (s.strncat piece).bytes = s.bytes ++ piece :=
      strncat_of_fits (noNul piece List.mem_cons_self) (by omega)
    have rest := ih (s := s.strncat piece) (fun p member => noNul p (List.mem_cons_of_mem _ member)) (by
      rw [first, List.length_append]
      omega)
    rw [List.foldl_cons, rest, first, List.flatten_cons, List.append_assoc]

end CString

/-- A port number has at most five digits. -/
theorem decimal_length_le {i : Int} (positive : 0 < i) (bound : i ≤ 65535) : (decimal i).length ≤ 5 := by
  have digits : (Nat.toDigits 10 i.natAbs).length ≤ 5 := Nat.toDigits_length 10 _ 5 (by decide) (by omega)
  simpa [decimal, not_lt.mpr positive.le] using digits

/-- An array of `n` cells. -/
abbrev CharArray (n : Nat) := List.Vector Byte n

namespace CharArray

/-- `memset(a, 0, sizeof a)`. -/
def zeros (n : Nat) : CharArray n := List.Vector.replicate n 0

/-- The first `n` cells of `data` followed by zeros. -/
def padded (n : Nat) (data : List Byte) : List Byte := data ++ List.replicate (n - data.length) 0

/-- A call writes `chunk` at offset `off`; cells past the end of the array do not exist. -/
def store {n : Nat} (a : CharArray n) (off : Nat) (chunk : List Byte) : CharArray n :=
  ⟨(a.toList.take off ++ chunk ++ a.toList.drop (off + chunk.length)).take n, by
    simp only [List.length_take, List.length_append, List.length_drop, List.Vector.toList_length]
    omega⟩

/-- `a[i] = '\0'`. -/
def setNul {n : Nat} (a : CharArray n) (i : Nat) : CharArray n :=
  ⟨a.toList.set i 0, by simp⟩

@[simp] theorem zeros_toList (n : Nat) : (zeros n).toList = padded n [] := rfl

@[simp] theorem setNul_toList {n : Nat} (a : CharArray n) (i : Nat) :
    (a.setNul i).toList = a.toList.set i 0 := rfl

/-- Received data is appended to the data already held. -/
theorem store_padded {n : Nat} {a : CharArray n} {data chunk : List Byte} (holds : a.toList = padded n data)
    (fits : data.length + chunk.length ≤ n) :
    (a.store data.length chunk).toList = padded n (data ++ chunk) := by
  have cells : (a.store data.length chunk).toList =
      (a.toList.take data.length ++ chunk ++ a.toList.drop (data.length + chunk.length)).take n := rfl
  have front : (padded n data).take data.length = data := by simp [padded]
  have back : (padded n data).drop (data.length + chunk.length) =
      List.replicate (n - (data.length + chunk.length)) 0 := by
    rw [padded, List.drop_append, List.drop_eq_nil_of_le (by omega), List.drop_replicate]
    simp only [List.nil_append]
    congr 1
    omega
  rw [cells, holds, front, back, List.take_of_length_le]
  · simp [padded]
  · simp only [List.length_append, List.length_replicate]
    omega

/-- The terminator after the data changes nothing when the rest is zero already. -/
theorem setNul_padded {n i : Nat} {a : CharArray n} {data : List Byte} (holds : a.toList = padded n data)
    (last : i = data.length) : (a.setNul i).toList = padded n data := by
  subst last
  rw [setNul_toList, holds, padded, List.set_append_right _ _ (Nat.le_refl _), Nat.sub_self]
  cases n - data.length with
  | zero => rfl
  | succ k => simp [List.replicate_succ]

/-- The cell after the data is the terminator. -/
theorem padded_terminator {n : Nat} {data : List Byte} (room : data.length < n) :
    (padded n data)[data.length]? = some 0 := by
  simp [padded, room]

/-- Zero bytes behind a text are not of its string. -/
theorem cstr_append_zeros (data : List Byte) (k : Nat) : cstr (data ++ List.replicate k 0) = cstr data := by
  induction data with
  | nil =>
    cases k with
    | zero => rfl
    | succ k => exact cstr_cons_nul _
  | cons b data ih =>
    by_cases nul : b = 0
    · subst nul
      rw [List.cons_append, cstr_cons_nul, cstr_cons_nul]
    · rw [List.cons_append, cstr_cons nul, cstr_cons nul, ih]

/-- A C function reads the data up to its first NUL. -/
theorem cstr_padded (n : Nat) (data : List Byte) : cstr (padded n data) = cstr data :=
  cstr_append_zeros data _

/-- A terminator after the data ends the string, whatever comes behind it. -/
theorem cstr_append_nul (data rest : List Byte) : cstr (data ++ 0 :: rest) = cstr data := by
  induction data with
  | nil => exact cstr_cons_nul _
  | cons b data ih =>
    by_cases nul : b = 0
    · subst nul
      rw [List.cons_append, cstr_cons_nul, cstr_cons_nul]
    · rw [List.cons_append, cstr_cons nul, cstr_cons nul, ih]

section Front

variable {n : Nat} {a : CharArray n} {data chunk : List Byte}

/-- Received data is appended to the data at the front of the array. -/
theorem prefix_store (front : data <+: a.toList) (fits : data.length + chunk.length ≤ n) :
    data ++ chunk <+: (a.store data.length chunk).toList := by
  have cells : (a.store data.length chunk).toList =
      (a.toList.take data.length ++ chunk ++ a.toList.drop (data.length + chunk.length)).take n := rfl
  rw [cells, ← List.prefix_iff_eq_take.mp front, List.prefix_take_iff, List.length_append]
  exact ⟨List.prefix_append _ _, fits⟩

/-- A terminator right behind the data leaves the data. -/
theorem setNul_front (front : data <+: a.toList) (room : data.length < n) :
    ∃ rest, (a.setNul data.length).toList = data ++ 0 :: rest := by
  obtain ⟨behind, whole⟩ := front
  have count : data.length + behind.length = n := by
    rw [← List.length_append, whole, List.Vector.toList_length]
  rw [setNul_toList, ← whole, List.set_append_right _ _ (Nat.le_refl _), Nat.sub_self]
  cases behind with
  | nil => simp at count; omega
  | cons b behind => exact ⟨behind, rfl⟩

/-- So they are still in front. -/
theorem prefix_setNul (front : data <+: a.toList) (room : data.length < n) :
    data <+: (a.setNul data.length).toList := by
  obtain ⟨rest, cells⟩ := setNul_front front room
  rw [cells]
  exact List.prefix_append _ _

/-- And the string is the one of the data. -/
theorem cstr_setNul (front : data <+: a.toList) (room : data.length < n) :
    cstr (a.setNul data.length).toList = cstr data := by
  obtain ⟨rest, cells⟩ := setNul_front front room
  rw [cells, cstr_append_nul]

/-- The cells behind what a call writes stay as they are. -/
theorem drop_store {k off : Nat} (within : off + chunk.length ≤ k) (bound : k ≤ n) :
    (a.store off chunk).toList.drop k = a.toList.drop k := by
  have cells : (a.store off chunk).toList =
      (a.toList.take off ++ chunk ++ a.toList.drop (off + chunk.length)).take n := rfl
  have length : a.toList.length = n := a.toList_length
  have before : (a.toList.take off).length = off := by
    rw [List.length_take]
    omega
  rw [cells, List.take_of_length_le (by simp only [List.length_append, List.length_drop, before]; omega), List.drop_append,
    List.drop_eq_nil_of_le (by rw [List.length_append, before]; exact within), List.nil_append, List.drop_drop]
  congr 1
  rw [List.length_append, before]
  omega

/-- What is behind the terminator stays. -/
theorem drop_setNul {k i : Nat} (within : i < k) : (a.setNul i).toList.drop k = a.toList.drop k := by
  rw [setNul_toList, List.drop_set_of_lt within]

end Front

end CharArray

end CLib
