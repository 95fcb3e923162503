import WebBench.Lib.SizeT
import WebBench.Lib.CString

/-!
# `bitmap.c`

Positions are packed eight to a `char`, the highest bit first. Whether `char` is
signed is the compiler's choice, so the promotion to `int` takes the signedness
as an argument; `hasBit` reads the array as a set of positions, and both
functions are proved against it for either signedness.
-/

namespace WebBench
set_option autoImplicit false
open CLib

/-- A `char` promoted to `int`. -/
def promote (signed : Bool) (c : Byte) : BitVec 32 := if signed then c.signExtend 32 else c.setWidth 32

/-- `char mask = 0x80 >> offset;` -/
def bitMask (offset : Nat) : Byte := (0x80#32 >>> offset).setWidth 8

/-- The bound both functions test positions against, computed in `size_t`. -/
def bitmapBits (bitmapSize : Int) : Nat := sizeOfInt bitmapSize * 8 % 2 ^ 64

/-- `set_bitmap`. -/
def setBitmap (signed : Bool) (position : Nat) (bitmap : List Byte) (bitmapSize : Int) : Int × List Byte :=
  if bitmapBits bitmapSize ≤ position then (-1, bitmap)
  else
    let arrayIndex := position / 8
    let mask := bitMask (position % 8)
    (position, bitmap.modify arrayIndex fun c => (promote signed c ||| promote signed mask).setWidth 8)

/-- `get_bitmap`. -/
def getBitmap (signed : Bool) (position : Nat) (bitmap : List Byte) (bitmapSize : Int) : Int :=
  if bitmapBits bitmapSize ≤ position then -1
  else
    let arrayIndex := position / 8
    let mask := bitMask (position % 8)
    if promote signed (bitmap.getD arrayIndex 0) &&& promote signed mask = 0 then 0 else 1

/-- Position `q` belongs to the bitmap. -/
def hasBit (bitmap : List Byte) (q : Nat) : Bool := (bitmap.getD (q / 8) 0).getLsbD (7 - q % 8)

theorem bitmapBits_of_small {n : Nat} (small : n < 2 ^ 60) : bitmapBits n = n * 8 := by
  rw [bitmapBits, sizeOfInt_natCast (by omega)]
  omega

theorem getLsbD_promote (signed : Bool) (c : Byte) {i : Nat} (low : i < 8) :
    (promote signed c).getLsbD i = c.getLsbD i := by
  cases signed <;> simp [promote, BitVec.getLsbD_signExtend, low] <;> omega

theorem getLsbD_promote_high (signed : Bool) (c : Byte) {i : Nat} (high : 8 ≤ i) (word : i < 32) :
    (promote signed c).getLsbD i = (signed && c.getLsbD 7) := by
  cases signed with
  | false => simp [promote, high]
  | true =>
    have msb : c.msb = c.getLsbD 7 := BitVec.msb_eq_getLsbD_last c
    simp only [promote, if_true, BitVec.getLsbD_signExtend, word, decide_true, Bool.true_and, msb]
    exact if_neg (by omega)

/-- Promotion and truncation cancel. -/
theorem truncate_promote_or (signed : Bool) (a b : Byte) :
    (promote signed a ||| promote signed b).setWidth 8 = a ||| b := by
  apply BitVec.eq_of_getLsbD_eq
  intro i low
  simp [getLsbD_promote signed _ low, low]

theorem getLsbD_bitMask {offset i : Nat} (bound : offset < 8) (low : i < 8) :
    (bitMask offset).getLsbD i = decide (i = 7 - offset) := by
  have table : ∀ o < 8, ∀ j < 8, (bitMask o).getLsbD j = decide (j = 7 - o) := by decide
  exact table offset bound i low

/-- The mask of a position selects its bit, also after promotion. -/
theorem promote_and_bitMask (signed : Bool) (c : Byte) {offset : Nat} (bound : offset < 8) :
    promote signed c &&& promote signed (bitMask offset) = 0 ↔ c.getLsbD (7 - offset) = false := by
  have low : 7 - offset < 8 := by omega
  constructor
  · intro zero
    have bit : (promote signed c &&& promote signed (bitMask offset)).getLsbD (7 - offset) = false := by
      rw [zero]
      exact BitVec.getLsbD_zero
    simpa [getLsbD_promote signed _ low, getLsbD_bitMask bound low] using bit
  · intro clear
    apply BitVec.eq_of_getLsbD_eq
    intro i word
    rw [BitVec.getLsbD_and, show BitVec.getLsbD (0 : BitVec 32) i = false from BitVec.getLsbD_zero]
    by_cases small : i < 8
    · rw [getLsbD_promote signed _ small, getLsbD_promote signed _ small, getLsbD_bitMask bound small]
      by_cases same : i = 7 - offset
      · simp [same, clear]
      · simp [same]
    · -- the copies of the sign bit meet only when both have it
      rw [getLsbD_promote_high signed _ (by omega) word, getLsbD_promote_high signed _ (by omega) word,
        getLsbD_bitMask bound (by decide)]
      by_cases top : offset = 0
      · subst top
        rw [show BitVec.getLsbD c 7 = false from clear]
        simp
      · rw [decide_eq_false (show ¬7 = 7 - offset by omega)]
        simp

/-- **`get_bitmap` reads membership.** -/
theorem getBitmap_eq (signed : Bool) {position : Nat} {bitmap : List Byte} {bitmapSize : Int}
    (inside : position < bitmapBits bitmapSize) :
    getBitmap signed position bitmap bitmapSize = if hasBit bitmap position then 1 else 0 := by
  have selected := promote_and_bitMask signed (bitmap.getD (position / 8) 0) (Nat.mod_lt position (by decide : 0 < 8))
  rw [getBitmap, if_neg (by omega)]
  have member : hasBit bitmap position = (bitmap.getD (position / 8) 0).getLsbD (7 - position % 8) := rfl
  cases bit : hasBit bitmap position with
  | true => exact if_neg fun zero => Bool.noConfusion ((member.symm.trans bit).symm.trans (selected.mp zero))
  | false => exact if_pos (selected.mpr (member.symm.trans bit))

theorem setBitmap_ret (signed : Bool) (position : Nat) (bitmap : List Byte) (bitmapSize : Int) :
    (setBitmap signed position bitmap bitmapSize).1 =
      if bitmapBits bitmapSize ≤ position then -1 else (position : Int) := by
  unfold setBitmap
  split <;> rfl

theorem setBitmap_length (signed : Bool) (position : Nat) (bitmap : List Byte) (bitmapSize : Int) :
    (setBitmap signed position bitmap bitmapSize).2.length = bitmap.length := by
  unfold setBitmap
  split <;> simp

/-- **`set_bitmap` adds its position** and keeps every other one. -/
theorem hasBit_setBitmap (signed : Bool) {position : Nat} {bitmap : List Byte} {bitmapSize : Int}
    (inside : position < bitmapBits bitmapSize) (stored : position / 8 < bitmap.length) (q : Nat) :
    hasBit (setBitmap signed position bitmap bitmapSize).2 q = (hasBit bitmap q || decide (q = position)) := by
  rw [setBitmap, if_neg (by omega)]
  simp only [hasBit, truncate_promote_or, List.getD_eq_getElem?_getD]
  by_cases byte : position / 8 = q / 8
  · have present : q / 8 < bitmap.length := byte ▸ stored
    rw [byte, List.getElem?_modify_eq, List.getElem?_eq_getElem present]
    simp only [Option.map_eq_map, Option.map_some, Option.getD_some, BitVec.getLsbD_or]
    rw [getLsbD_bitMask (Nat.mod_lt _ (by decide)) (by omega)]
    congr 1
    apply decide_eq_decide.mpr
    omega
  · have other : q ≠ position := fun same => byte (same ▸ rfl)
    rw [List.getElem?_modify_ne _ _ byte, decide_eq_false other, Bool.or_false]

/-! ## The bitmap as a set -/

/-- The positions a bitmap holds. -/
def members (bitmap : List Byte) : Set Nat := {q | hasBit bitmap q = true}

/-- One `set_bitmap` after the other. -/
def setAll (signed : Bool) (bitmapSize : Int) (positions : List (BitVec 16)) (bitmap : List Byte) : List Byte :=
  positions.foldl (fun bitmap position => (setBitmap signed position.toNat bitmap bitmapSize).2) bitmap

section Members

variable {signed : Bool} {bitmap : List Byte} {bitmapSize : Int} {position q : Nat}

/-- A call outside the array fails and changes nothing. -/
theorem setBitmap_outside (signed : Bool) (bitmap : List Byte) (outside : bitmapBits bitmapSize ≤ position) :
    setBitmap signed position bitmap bitmapSize = (-1, bitmap) := if_pos outside

/-- **A call inside inserts.** -/
theorem members_setBitmap (inside : position < bitmapBits bitmapSize) (stored : position / 8 < bitmap.length) :
    members (setBitmap signed position bitmap bitmapSize).2 = insert position (members bitmap) := by
  ext q
  simp only [members, Set.mem_ofPred_eq, Set.mem_insert_iff, hasBit_setBitmap signed inside stored, Bool.or_eq_true,
    decide_eq_true_eq]
  exact or_comm

theorem setAll_length (signed : Bool) (bitmapSize : Int) (positions : List (BitVec 16)) (bitmap : List Byte) :
    (setAll signed bitmapSize positions bitmap).length = bitmap.length := by
  unfold setAll
  induction positions generalizing bitmap with
  | nil => rfl
  | cons position positions ih =>
    rw [List.foldl_cons, ih]
    exact setBitmap_length signed position.toNat bitmap bitmapSize

/-- **A run of calls** inserts the positions that are inside. -/
theorem mem_members_setAll {n : Nat} (bits : bitmapBits bitmapSize = 8 * n) (size : bitmap.length = n)
    (positions : List (BitVec 16)) :
    q ∈ members (setAll signed bitmapSize positions bitmap) ↔
      q ∈ members bitmap ∨ q < 8 * n ∧ ∃ position ∈ positions, position.toNat = q := by
  unfold setAll
  induction positions generalizing bitmap with
  | nil => simp
  | cons position positions ih =>
    rw [List.foldl_cons]
    by_cases inside : position.toNat < bitmapBits bitmapSize
    · have same := setBitmap_length signed position.toNat bitmap bitmapSize
      rw [ih (same.trans size), members_setBitmap inside (by omega), Set.mem_insert_iff, List.exists_mem_cons_iff]
      constructor
      · rintro ((rfl | before) | ⟨low, later⟩)
        · exact .inr ⟨bits ▸ inside, .inl rfl⟩
        · exact .inl before
        · exact .inr ⟨low, .inr later⟩
      · rintro (before | ⟨low, rfl | later⟩)
        · exact .inl (.inr before)
        · exact .inl (.inl rfl)
        · exact .inr ⟨low, later⟩
    · rw [setBitmap_outside signed bitmap (Nat.not_lt.mp inside), ih size, List.exists_mem_cons_iff]
      refine or_congr_right (and_congr_right fun low => (or_iff_right fun same => ?_).symm)
      omega

end Members

/-- A zeroed array is the empty set. -/
theorem hasBit_zeros (n q : Nat) : hasBit (List.replicate n 0) q = false := by
  simp only [hasBit, List.getD_eq_getElem?_getD, List.getElem?_replicate]
  split <;> simp

/-- The array after a run of `set_bitmap` calls is the set of what was in it and what has been set. -/
structure IsSet (signed : Bool) (bitmap : List Byte) (positions : List (BitVec 16)) : Prop where
  get : ∀ q : BitVec 16, q.toNat < 8 * bitmap.length →
    getBitmap signed q.toNat (setAll signed bitmap.length positions bitmap) bitmap.length =
      if hasBit bitmap q.toNat ∨ q ∈ positions then 1 else 0
  getOutside : ∀ q : BitVec 16, 8 * bitmap.length ≤ q.toNat →
    getBitmap signed q.toNat (setAll signed bitmap.length positions bitmap) bitmap.length = -1
  set : ∀ position : BitVec 16, position.toNat < 8 * bitmap.length →
    ∃ bitmap', setBitmap signed position.toNat (setAll signed bitmap.length positions bitmap) bitmap.length =
        ((position.toNat : Int), bitmap') ∧
      ∀ q, q ≠ position.toNat → hasBit bitmap' q = hasBit (setAll signed bitmap.length positions bitmap) q
  setOutside : ∀ position : BitVec 16, 8 * bitmap.length ≤ position.toNat →
    setBitmap signed position.toNat (setAll signed bitmap.length positions bitmap) bitmap.length =
      (-1, setAll signed bitmap.length positions bitmap)

/-- **The bitmap is a set of positions**, with `char` signed or not. For every
content whose size is an `int`, and every run of calls. -/
theorem setAll_isSet (signed : Bool) (bitmap : List Byte) (size : bitmap.length ≤ intMax) (positions : List (BitVec 16)) :
    IsSet signed bitmap positions := by
  have limit : intMax = 2147483647 := rfl
  have bits : bitmapBits bitmap.length = 8 * bitmap.length := by
    rw [bitmapBits_of_small (by omega), Nat.mul_comm]
  have length := setAll_length signed bitmap.length positions bitmap
  constructor
  · intro q inside
    rw [getBitmap_eq signed (by omega)]
    refine if_congr ?_ rfl rfl
    have held : q.toNat ∈ members (setAll signed bitmap.length positions bitmap) ↔ _ := mem_members_setAll bits rfl positions
    refine held.trans (or_congr_right ?_)
    constructor
    · rintro ⟨-, position, member, same⟩
      exact BitVec.eq_of_toNat_eq same ▸ member
    · exact fun member => ⟨inside, q, member, rfl⟩
  · intro q outside
    exact if_pos (by omega)
  · intro position inside
    have ret := setBitmap_ret signed position.toNat (setAll signed bitmap.length positions bitmap) bitmap.length
    rw [if_neg (by omega)] at ret
    refine ⟨_, Prod.ext ret rfl, fun q other => ?_⟩
    rw [hasBit_setBitmap signed (by omega) (by omega), decide_eq_false other, Bool.or_false]
  · intro position outside
    exact setBitmap_outside signed _ (by omega)

/-- Two bytes, the position 8 in them, and three calls of which the last is outside. -/
theorem setAll_isSet_two : IsSet true [0#8, 128#8] [3#16, 15#16, 16#16] ∧
    getBitmap true 8 (setAll true 2 [3#16, 15#16, 16#16] [0#8, 128#8]) 2 = 1 :=
  ⟨setAll_isSet true [0#8, 128#8] (by decide) [3#16, 15#16, 16#16], by decide⟩

end WebBench
