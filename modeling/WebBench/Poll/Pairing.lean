import WebBench.Poll.Engine

/-!
# The set-up pass and the dispatch loop walk in step

The pass either stops at a slot whose index is beyond the size it hands to
`set_bitmap`, or registers exactly the pollable slots, in order
(`setupLoop_done`). The dispatch loop then gives the j-th registered slot the
j-th entry (`dispatch_handled`), so no slot is handled with another's entry.
-/

namespace WebBench.Poll
set_option autoImplicit false
open CLib

/-- The events a state waits for. -/
def pollEvents : ConnState → BitVec 16
  | .connecting | .sending | .proxyConnect => pollout
  | .receiving | .proxyResponse => pollin
  | .tlsHandshake => pollin ||| pollout
  | .error | .completed | .idle => 0

/-- The slot's own entry. -/
def pollFdOf (slot : Slot Nat) : PollFd := ⟨slot.conn.sockfd, pollEvents slot.conn.state, 0⟩

/-- The pass recycles a slot whose cycle is over and leaves every other one alone. -/
def Visited (args : Arguments) (slot slot' : Slot Nat) : Prop :=
  (slot' = slot ∧ slot.conn.state ≠ .completed ∧ slot.conn.state ≠ .error) ∨
    ((slot.conn.state = .completed ∨ slot.conn.state = .error) ∧
      ∃ sys addresses, slot' = (driver.recycle args sys addresses slot).1)

/-- Every index the pass marks is below the size it hands to `set_bitmap`. -/
def InBounds (bitmapSize : Int) (i : Nat) (slots : List (Slot Nat)) : Prop :=
  ∀ p ∈ slots.zipIdx i, ∀ events size, registration bitmapSize p.1.conn.state = some (events, size) →
    p.2 < bitmapBits size

theorem registration_pollable {bitmapSize : Int} {state : ConnState} {events : BitVec 16} {size : Int}
    (registered : registration bitmapSize state = some (events, size)) :
    state.pollable = true ∧ events = pollEvents state := by
  cases state <;> simp_all [registration, ConnState.pollable, pollEvents]

theorem registration_none {bitmapSize : Int} {state : ConnState} (free : registration bitmapSize state = none) :
    state.pollable = false := by
  cases state <;> simp_all [registration, ConnState.pollable]

/-- What a pass that reaches the end of the table has done. -/
structure SetupDone (args : Arguments) (i : Nat) (slots : List (Slot Nat)) (num : Int) (fds : List PollFd)
    (bitmap : List Byte) (r : Setup) : Prop where
  ret : r.ret = num + (slots.filter (·.conn.state.pollable)).length
  pollfds : r.pollfds = fds ++ (slots.filter (·.conn.state.pollable)).map pollFdOf
  bits : ∀ q, hasBit r.bitmap q = (hasBit bitmap q ||
    (slots.zipIdx i).any fun p => p.1.conn.state.pollable && decide (q = p.2))
  visited : List.Forall₂ (Visited args) slots r.slots

theorem SetupDone.skip {args : Arguments} {i : Nat} {slot slot' : Slot Nat} {rest : List (Slot Nat)} {num : Int}
    {fds : List PollFd} {bitmap : List Byte} {r : Setup} (done : SetupDone args (i + 1) rest num fds bitmap r)
    (free : slot.conn.state.pollable = false) (visit : Visited args slot slot') :
    SetupDone args i (slot :: rest) num fds bitmap (r.after slot') where
  ret := by simpa [Setup.after, free] using done.ret
  pollfds := by simpa [Setup.after, free] using done.pollfds
  bits := by
    intro q
    simpa [Setup.after, free, List.zipIdx_cons] using done.bits q
  visited := .cons visit done.visited

theorem SetupDone.mark {args : Arguments} {i : Nat} {slot : Slot Nat} {rest : List (Slot Nat)} {num : Int}
    {fds : List PollFd} {bitmap marked : List Byte} {r : Setup}
    (done : SetupDone args (i + 1) rest (num + 1) (fds ++ [pollFdOf slot]) marked r)
    (waits : slot.conn.state.pollable = true) (bit : ∀ q, hasBit marked q = (hasBit bitmap q || decide (q = i))) :
    SetupDone args i (slot :: rest) num fds bitmap (r.after slot) where
  ret := by
    have counted := done.ret
    simp only [Setup.after, waits, List.filter_cons_of_pos, List.length_cons]
    omega
  pollfds := by simpa [Setup.after, waits] using done.pollfds
  bits := by
    intro q
    rw [Setup.after, done.bits q, bit q]
    simp [List.zipIdx_cons, waits, Bool.or_assoc]
  visited := by
    refine .cons (.inl ⟨rfl, ?_, ?_⟩) done.visited <;> intro finished <;> simp [finished, ConnState.pollable] at waits

/-- **The set-up loop.** It runs to the end of the table when every marked index
is in bounds, and returns -1 otherwise. -/
theorem setupLoop_cases (args : Arguments) (addresses : Nat → Option (List Address)) (bitmapSize : Int) :
    ∀ (slots : List (Slot Nat)) (i : Nat) (sys : Sys) (num : Int) (fds : List PollFd) (bitmap : List Byte),
      i + slots.length ≤ 2 ^ 16 → i + slots.length ≤ 8 * bitmap.length →
      let r := setupLoop args addresses bitmapSize i slots sys num fds bitmap
      (InBounds bitmapSize i slots ∧ SetupDone args i slots num fds bitmap r) ∨
        (¬ InBounds bitmapSize i slots ∧ r.ret = -1) := by
  intro slots
  induction slots with
  | nil =>
    intro i sys num fds bitmap _ _
    exact .inl ⟨by simp [InBounds], ⟨by simp [setupLoop], by simp [setupLoop], by simp [setupLoop], .nil⟩⟩
  | cons slot rest ih =>
    intro i sys num fds bitmap short stored
    simp only [List.length_cons] at short stored
    have index : ushort i = i := Nat.mod_eq_of_lt (by omega)
    have split : InBounds bitmapSize i (slot :: rest) ↔
        (∀ events size, registration bitmapSize slot.conn.state = some (events, size) → i < bitmapBits size) ∧
          InBounds bitmapSize (i + 1) rest := by
      simp [InBounds, List.zipIdx_cons]
    cases registered : registration bitmapSize slot.conn.state with
    | some entry =>
      obtain ⟨events, size⟩ := entry
      obtain ⟨waits, rfl⟩ := registration_pollable registered
      have ret := setBitmap_ret charSigned i bitmap size
      by_cases bound : i < bitmapBits size
      · have marked := hasBit_setBitmap charSigned bound (show i / 8 < bitmap.length by omega)
        have length := setBitmap_length charSigned i bitmap size
        have positive : ¬ (setBitmap charSigned i bitmap size).1 < 0 := by rw [ret]; split <;> omega
        have next := ih (i + 1) sys (num + 1) (fds ++ [pollFdOf slot]) (setBitmap charSigned i bitmap size).2
          (by omega) (by omega)
        simp only [setupLoop, registered, index, if_neg positive]
        rcases next with ⟨inside, done⟩ | ⟨outside, failed⟩
        · refine .inl ⟨split.mpr ⟨?_, inside⟩, done.mark waits marked⟩
          intro events' size' same
          rw [registered] at same
          cases same
          exact bound
        · exact .inr ⟨fun inside => outside (split.mp inside).2, failed⟩
      · have negative : (setBitmap charSigned i bitmap size).1 < 0 := by rw [ret]; split <;> omega
        simp only [setupLoop, registered, index, if_pos negative]
        exact .inr ⟨fun inside => bound ((split.mp inside).1 _ _ registered), trivial⟩
    | none =>
      have free := registration_none registered
      have same : InBounds bitmapSize i (slot :: rest) ↔ InBounds bitmapSize (i + 1) rest := by
        simp [split, registered]
      rw [same]
      by_cases idle : slot.conn.state = .idle
      · simp only [setupLoop, registered, if_pos idle]
        rcases ih (i + 1) sys num fds bitmap (by omega) (by omega) with ⟨inside, done⟩ | ⟨outside, failed⟩
        · exact .inl ⟨inside, done.skip free (.inl ⟨rfl, by simp [idle], by simp [idle]⟩)⟩
        · exact .inr ⟨outside, failed⟩
      · have finished := ConnState.finished_of_free free idle
        simp only [setupLoop, registered, if_neg idle]
        rcases ih (i + 1) (driver.recycle args sys (addresses i) slot).2 num fds bitmap (by omega) (by omega) with
          ⟨inside, done⟩ | ⟨outside, failed⟩
        · exact .inl ⟨inside, done.skip free (.inr ⟨finished, _, _, rfl⟩)⟩
        · exact .inr ⟨outside, failed⟩

/-- The indices the bitmap marks, in order, each with its slot. -/
def marked (bitmap : List Byte) (bitmapSize : Int) (i : Nat) (slots : List (Slot Nat)) : List (Slot Nat × Nat) :=
  (slots.zipIdx i).filter fun p => getBitmap charSigned (ushort p.2) bitmap bitmapSize ≠ 0

/-- What the dispatch loop does to the slot at one index. -/
def Handled (args : Arguments) (answers : Nat → Answers) (bitmap : List Byte) (bitmapSize : Int)
    (handled : List (Nat × PollFd)) (p : Slot Nat × Nat) (slot' : Slot Nat) : Prop :=
  (getBitmap charSigned (ushort p.2) bitmap bitmapSize = 0 ∧ slot' = p.1) ∨
    (getBitmap charSigned (ushort p.2) bitmap bitmapSize ≠ 0 ∧ ∃ fd sys, (p.2, fd) ∈ handled ∧
      slot' = (driver.ready args sys (answers p.2).errno fd.revents (answers p.2).io p.1).1)

/-- **The dispatch loop.** With one entry for every marked index, the j-th
marked slot is handled with the j-th entry and no other slot is touched. -/
theorem dispatch_handled (args : Arguments) (answers : Nat → Answers) (bitmap : List Byte) (bitmapSize : Int) :
    ∀ (slots : List (Slot Nat)) (i : Nat) (fds : List PollFd) (sys : Sys),
      fds.length = (marked bitmap bitmapSize i slots).length →
      let d := dispatch args answers bitmap bitmapSize i slots fds sys
      d.handled = ((marked bitmap bitmapSize i slots).map (·.2)).zip fds ∧
        List.Forall₂ (Handled args answers bitmap bitmapSize d.handled) (slots.zipIdx i) d.slots := by
  intro slots
  induction slots with
  | nil =>
    intro i fds sys _
    exact ⟨by simp [dispatch, marked], .nil⟩
  | cons slot rest ih =>
    intro i fds sys paired
    by_cases set : getBitmap charSigned (ushort i) bitmap bitmapSize = 0
    · have same : marked bitmap bitmapSize i (slot :: rest) = marked bitmap bitmapSize (i + 1) rest := by
        simp [marked, List.zipIdx_cons, set]
      rw [same] at paired ⊢
      obtain ⟨calls, moved⟩ := ih (i + 1) fds sys paired
      simp only [dispatch, set, ne_eq, not_true_eq_false, if_false, List.zipIdx_cons]
      exact ⟨calls, .cons (.inl ⟨set, rfl⟩) moved⟩
    · have next : marked bitmap bitmapSize i (slot :: rest) =
          (slot, i) :: marked bitmap bitmapSize (i + 1) rest := by
        simp [marked, List.zipIdx_cons, set]
      rw [next] at paired ⊢
      cases fds with
      | nil => simp at paired
      | cons fd fds =>
        simp only [List.length_cons, Nat.add_right_cancel_iff] at paired
        obtain ⟨calls, moved⟩ := ih (i + 1) fds
          (driver.ready args sys (answers i).errno fd.revents (answers i).io slot).2 paired
        simp only [dispatch, set, ne_eq, not_false_eq_true, if_true, List.zipIdx_cons, List.map_cons, List.zip_cons_cons]
        refine ⟨by rw [calls], .cons (.inr ⟨set, fd, sys, List.mem_cons_self, rfl⟩) (moved.imp ?_)⟩
        rintro p slot' (untouched | ⟨bit, fd', sys', member, result⟩)
        · exact .inl untouched
        · exact .inr ⟨bit, fd', sys', List.mem_cons_of_mem _ member, result⟩

/-- The handler leaves the record alone when nothing its state waits for is reported. -/
theorem handle_unready (args : Arguments) (sys : Sys) (errno : Int) (conn : Connection) (revents : BitVec 16)
    (io : Io) (quiet : anyBit revents (pollerr ||| pollhup ||| pollnval ||| pollEvents conn.state) = false) :
    (handleReadyConnection args sys errno conn revents io).conn = conn := by
  rw [anyBit_or, Bool.or_eq_false_iff] at quiet
  obtain ⟨healthy, unready⟩ := quiet
  unfold handleReadyConnection
  rw [healthy]
  cases state : conn.state <;> simp only [state, pollEvents] at unready <;>
    simp [whenConnecting, whenProxyConnect, whenProxyResponse, whenSending, whenReceiving, unready]
  unfold whenTlsHandshake
  split <;> simp [unready]

/-- The pass hands the pollable slots on unchanged, so the bitmap marks the same slots after it. -/
theorem marked_visited {args : Arguments} {bitmap : List Byte} {bitmapSize : Int} {slots slots' : List (Slot Nat)}
    (visited : List.Forall₂ (Visited args) slots slots') :
    ∀ i, (∀ p ∈ slots.zipIdx i, getBitmap charSigned (ushort p.2) bitmap bitmapSize ≠ 0 →
      p.1.conn.state.pollable = true) → marked bitmap bitmapSize i slots' = marked bitmap bitmapSize i slots := by
  induction visited with
  | nil => intro _ _; rfl
  | @cons slot slot' rest rest' visit _ ih =>
    intro i pollable
    have tail := ih (i + 1) fun p member => pollable p (by simp [List.zipIdx_cons, member])
    simp only [marked, List.zipIdx_cons, List.filter_cons] at tail ⊢
    rw [tail]
    by_cases set : getBitmap charSigned (ushort i) bitmap bitmapSize = 0
    · simp [set]
    · have waits := pollable (slot, i) (by simp [List.zipIdx_cons]) set
      rcases visit with ⟨rfl, _⟩ | ⟨finished | finished, _⟩
      · rfl
      · simp [finished, ConnState.pollable] at waits
      · simp [finished, ConnState.pollable] at waits

theorem bitmapSizeOf_eq (n : Nat) : bitmapSizeOf n = (n + 7) / 8 := by
  unfold bitmapSizeOf
  split <;> omega

/-- The index of a slot in the table. -/
theorem mem_zipIdx_lt {slots : List (Slot Nat)} {p : Slot Nat × Nat} (member : p ∈ slots.zipIdx) :
    p.2 < slots.length := by
  have := List.snd_lt_of_mem_zipIdx member
  omega

/-- Every registration is in bounds when no slot past the first 64 is in its handshake. -/
theorem inBounds_iff (slots : List (Slot Nat)) {size : Nat} (room : slots.length ≤ size * 8) (small : size ≤ 125) :
    InBounds size 0 slots ↔ ∀ p ∈ slots.zipIdx, 64 ≤ p.2 → p.1.conn.state ≠ .tlsHandshake := by
  have pointer : bitmapBits sizeofPointer = 64 := by decide
  have table : bitmapBits (size : Int) = size * 8 := bitmapBits_of_small (by omega)
  constructor
  · intro inside p member far handshake
    have := inside p member (pollin ||| pollout) sizeofPointer (by rw [handshake]; rfl)
    omega
  · intro near p member events bound registered
    have index := mem_zipIdx_lt member
    have far := near p member
    cases state : p.1.conn.state <;> simp [state, registration] at registered far <;>
      obtain ⟨-, rfl⟩ := registered <;> omega

/-- The pass as `bench_poll` calls it, on a table whose first slot has a descriptor. -/
theorem setup_cases (args : Arguments) (addresses : Nat → Option (List Address)) (slots : List (Slot Nat))
    (sys : Sys) (size : Nat) (nonempty : 1 ≤ slots.length) (room : slots.length ≤ size * 8) (small : size ≤ 125) :
    let r := setupConnectionFdsets args addresses slots sys (List.replicate size 0) size
    (InBounds size 0 slots ∧ SetupDone args 0 slots 0 [] (List.replicate size 0) r) ∨ r.ret = -1 := by
  intro r
  by_cases first : (slots.head?.map (·.conn.sockfd)).getD (-1) < 0
  · exact .inr (by simp [r, setupConnectionFdsets, first])
  · have positive : ¬ (size : Int) ≤ 0 := by omega
    have run : r = setupLoop args addresses size 0 slots sys 0 [] (List.replicate size 0) := by
      simp only [r, setupConnectionFdsets, if_neg first, if_neg positive]
    rw [run]
    rcases setupLoop_cases args addresses size slots 0 sys 0 [] (List.replicate size 0) (by omega)
      (by rw [List.length_replicate]; omega) with done | ⟨_, failed⟩
    · exact .inl done
    · exact .inr failed

/-- After a complete pass the bitmap is the set of pollable slots. -/
theorem SetupDone.getBitmap_eq {args : Arguments} {slots : List (Slot Nat)} {size : Nat} {r : Setup}
    (done : SetupDone args 0 slots 0 [] (List.replicate size 0) r) (room : slots.length ≤ size * 8)
    (small : size ≤ 125) {p : Slot Nat × Nat} (member : p ∈ slots.zipIdx) :
    getBitmap charSigned (ushort p.2) r.bitmap size = if p.1.conn.state.pollable then 1 else 0 := by
  have index := mem_zipIdx_lt member
  have narrow : ushort p.2 = p.2 := Nat.mod_eq_of_lt (by omega)
  rw [narrow, WebBench.getBitmap_eq charSigned (by rw [bitmapBits_of_small (by omega)]; omega), done.bits,
    hasBit_zeros, Bool.false_or]
  have single : (slots.zipIdx.any fun q => q.1.conn.state.pollable && decide (p.2 = q.2)) =
      p.1.conn.state.pollable := by
    rw [Bool.eq_iff_iff, List.any_eq_true]
    constructor
    · rintro ⟨q, other, both⟩
      simp only [Bool.and_eq_true, decide_eq_true_eq] at both
      have here := (List.mem_zipIdx_iff_getElem?.mp member).symm
      rw [both.2, List.mem_zipIdx_iff_getElem?.mp other] at here
      rw [Option.some.inj here]
      exact both.1
    · intro waits
      exact ⟨p, member, by simp [waits]⟩
  rw [single]

/-- A filter on the slots does not look at their indices. -/
theorem filter_zipIdx_map {α : Type} (keep : Slot Nat → Bool) (f : Slot Nat → α) :
    ∀ (slots : List (Slot Nat)) (i : Nat),
      ((slots.zipIdx i).filter fun p => keep p.1).map (fun p => f p.1) = (slots.filter keep).map f := by
  intro slots
  induction slots with
  | nil => intro _; rfl
  | cons slot rest ih =>
    intro i
    rw [List.zipIdx_cons, List.filter_cons, List.filter_cons]
    cases keep slot <;> simp [ih]

/-- The entry `poll` hands back to the j-th marked slot. -/
theorem zip_written {ready : List (Slot Nat × Nat)} (revents : Nat → BitVec 16) :
    (ready.map (·.2)).zip (written revents (ready.map fun p => pollFdOf p.1)) =
      ready.mapIdx fun j p => (p.2, { pollFdOf p.1 with revents := revents j }) := by
  apply List.ext_getElem
  · simp [written]
  · intro j _ _
    simp [written]

/-- Read a relation between an indexed table and another table at one index. -/
theorem forall₂_zipIdx {related : Slot Nat × Nat → Slot Nat → Prop} {slots slots' : List (Slot Nat)}
    (all : List.Forall₂ related slots.zipIdx slots') {i : Nat} {slot : Slot Nat} (here : slots[i]? = some slot) :
    ∃ slot', slots'[i]? = some slot' ∧ related (slot, i) slot' := by
  obtain ⟨bound, rfl⟩ := List.getElem?_eq_some_iff.mp here
  have length := all.length_eq
  rw [List.length_zipIdx] at length
  refine ⟨slots'[i], List.getElem?_eq_getElem (length ▸ bound), ?_⟩
  simpa using List.forall₂_iff_get.mp all |>.2 i (by simpa using bound) (length ▸ bound)

/-- The slots that wait for their descriptor, with their indices. -/
def pollableSlots (slots : List (Slot Nat)) : List (Slot Nat × Nat) :=
  slots.zipIdx.filter (·.1.conn.state.pollable)

section Complete

variable {args : Arguments} {slots : List (Slot Nat)} {size : Nat} {r : Setup}
  (done : SetupDone args 0 slots 0 [] (List.replicate size 0) r) (room : slots.length ≤ size * 8) (small : size ≤ 125)

include done room small

theorem SetupDone.ready_eq :
    (slots.zipIdx.filter fun p => getBitmap charSigned (ushort p.2) r.bitmap size = 1) = pollableSlots slots := by
  apply List.filter_congr
  intro p member
  rw [done.getBitmap_eq room small member]
  cases p.1.conn.state.pollable <;> rfl

theorem SetupDone.marked_eq : marked r.bitmap size 0 r.slots = pollableSlots slots := by
  have waits : ∀ p ∈ slots.zipIdx, getBitmap charSigned (ushort p.2) r.bitmap size ≠ 0 →
      p.1.conn.state.pollable = true := by
    intro p member set
    rw [done.getBitmap_eq room small member] at set
    simpa using set
  rw [marked_visited done.visited 0 waits]
  apply List.filter_congr
  intro p member
  rw [done.getBitmap_eq room small member]
  cases p.1.conn.state.pollable <;> rfl

/-- The dispatch loop after a complete pass. -/
theorem SetupDone.dispatched (answers : Nat → Answers) (revents : Nat → BitVec 16) :
    let d := dispatch args answers r.bitmap size 0 r.slots (written revents r.pollfds) r.sys
    d.handled = (pollableSlots slots).mapIdx (fun j p => (p.2, { pollFdOf p.1 with revents := revents j })) ∧
      List.Forall₂ (Handled args answers r.bitmap size d.handled) r.slots.zipIdx d.slots := by
  intro d
  have entries : r.pollfds = (pollableSlots slots).map fun p => pollFdOf p.1 := by
    rw [done.pollfds, List.nil_append]
    exact (filter_zipIdx_map (·.conn.state.pollable) pollFdOf slots 0).symm
  have same := done.marked_eq room small
  have paired : (written revents r.pollfds).length = (marked r.bitmap size 0 r.slots).length := by
    rw [same, written, List.length_mapIdx, entries, List.length_map]
  obtain ⟨handled, moved⟩ := dispatch_handled args answers r.bitmap size r.slots 0 _ r.sys paired
  refine ⟨handled.trans ?_, moved⟩
  rw [same, entries, zip_written]

/-- A slot that is not pollable keeps its place in the table. -/
theorem SetupDone.untouched (answers : Nat → Answers) (revents : Nat → BitVec 16) {i : Nat}
    (outside : i ∉ (pollableSlots slots).map (·.2)) :
    (dispatch args answers r.bitmap size 0 r.slots (written revents r.pollfds) r.sys).slots[i]? = r.slots[i]? := by
  obtain ⟨-, moved⟩ := done.dispatched room small answers revents
  have length := done.visited.length_eq
  have kept := moved.length_eq
  rw [List.length_zipIdx] at kept
  cases here : r.slots[i]? with
  | none =>
    rw [List.getElem?_eq_none_iff] at here ⊢
    exact kept ▸ here
  | some slot' =>
    obtain ⟨bound, -⟩ := List.getElem?_eq_some_iff.mp here
    have member : (slots[i], i) ∈ slots.zipIdx := List.mem_zipIdx_iff_getElem?.mpr (by simp [length, bound])
    obtain ⟨after, result, ⟨-, rfl⟩ | ⟨set, -⟩⟩ := forall₂_zipIdx moved here
    · exact result
    · rw [done.getBitmap_eq room small member] at set
      exact absurd (List.mem_map.mpr ⟨_, List.mem_filter.mpr ⟨member, by simpa using set⟩, rfl⟩) outside

/-- A record with nothing reported that its state waits for is not changed. -/
theorem SetupDone.unready (answers : Nat → Answers) (revents : Nat → BitVec 16) {j : Nat} {p : Slot Nat × Nat}
    (entry : (pollableSlots slots)[j]? = some p)
    (quiet : anyBit (revents j) (pollerr ||| pollhup ||| pollnval ||| pollEvents p.1.conn.state) = false) :
    ((dispatch args answers r.bitmap size 0 r.slots (written revents r.pollfds) r.sys).slots[p.2]?).map (·.conn) =
      some p.1.conn := by
  obtain ⟨handled, moved⟩ := done.dispatched room small answers revents
  obtain ⟨member, waits⟩ := List.mem_filter.mp (List.mem_of_getElem? entry)
  have before := List.mem_zipIdx_iff_getElem?.mp member
  -- the pass has not touched this slot
  have here : r.slots[p.2]? = some p.1 := by
    obtain ⟨bound, value⟩ := List.getElem?_eq_some_iff.mp before
    have bound' := done.visited.length_eq ▸ bound
    have visit := List.forall₂_iff_get.mp done.visited |>.2 p.2 bound bound'
    simp only [List.get_eq_getElem, value] at visit
    rw [List.getElem?_eq_getElem bound']
    rcases visit with ⟨same, -⟩ | ⟨finished | finished, -⟩
    · rw [same]
    · simp [finished, ConnState.pollable] at waits
    · simp [finished, ConnState.pollable] at waits
  obtain ⟨after, result, ⟨-, rfl⟩ | ⟨-, fd, sys, called, rfl⟩⟩ := forall₂_zipIdx moved here
  · rw [result]
    rfl
  · -- indices occur once among the calls, so this is the j-th entry
    rw [handled, List.mem_mapIdx] at called
    obtain ⟨k, bound, same⟩ := called
    have unique : k = j := by
      have indices : (slots.zipIdx.map Prod.snd).Nodup := by
        rw [List.zipIdx_map_snd]
        exact List.nodup_range'
      have distinct : ((pollableSlots slots).map Prod.snd).Nodup :=
        indices.sublist (List.filter_sublist.map _)
      obtain ⟨bound', value⟩ := List.getElem?_eq_some_iff.mp entry
      have first : k < ((pollableSlots slots).map Prod.snd).length := by simpa using bound
      have second : j < ((pollableSlots slots).map Prod.snd).length := by simpa using bound'
      have index : ((pollableSlots slots).map Prod.snd)[k] = ((pollableSlots slots).map Prod.snd)[j] := by
        simp only [List.getElem_map, value]
        exact congrArg Prod.fst same
      exact distinct.getElem_inj_iff.mp index
    subst unique
    have value := (List.getElem?_eq_some_iff.mp entry).2
    rw [value] at same
    cases same
    rw [result]
    exact congrArg some (handle_unready args sys _ _ _ _ quiet)

end Complete

/-- **Pairing.** A pass that returns a positive count has registered exactly the
pollable slots, each with its own entry; whatever `poll` then reports, the
dispatch loop handles each of them once, with its own entry, touches no other
slot, and changes no record that has nothing reported it waits for. -/
theorem setup_dispatch_pairing (args : Arguments) (addresses : Nat → Option (List Address))
    (slots : List (Slot Nat)) (sys : Sys) (nonempty : 1 ≤ slots.length) (bound : slots.length ≤ 1000) :
    let size := (slots.length + 7) / 8
    let r := setupConnectionFdsets args addresses slots sys (List.replicate size 0) size
    let ready := slots.zipIdx.filter fun p => getBitmap charSigned (ushort p.2) r.bitmap size = 1
    0 < r.ret →
      r.ret = (slots.filter (·.conn.state.pollable)).length ∧
      ready = slots.zipIdx.filter (·.1.conn.state.pollable) ∧
      r.pollfds = ready.map (fun p => pollFdOf p.1) ∧
      ∀ (answers : Nat → Answers) (revents : Nat → BitVec 16),
        let d := dispatch args answers r.bitmap size 0 r.slots (written revents r.pollfds) r.sys
        d.handled = ready.mapIdx (fun j p => (p.2, { pollFdOf p.1 with revents := revents j })) ∧
        (∀ i, i ∉ ready.map (·.2) → d.slots[i]? = r.slots[i]?) ∧
        ∀ j p, ready[j]? = some p →
          anyBit (revents j) (pollerr ||| pollhup ||| pollnval ||| pollEvents p.1.conn.state) = false →
          (d.slots[p.2]?).map (·.conn) = some p.1.conn := by
  intro size r ready counted
  have room : slots.length ≤ size * 8 := by omega
  have small : size ≤ 125 := by omega
  rcases setup_cases args addresses slots sys size nonempty room small with ⟨-, done⟩ | failed
  · have exact' : ready = pollableSlots slots := done.ready_eq room small
    rw [exact']
    refine ⟨done.ret.trans (Int.zero_add _), rfl, ?_, fun answers revents => ⟨?_, ?_, ?_⟩⟩
    · exact (done.pollfds.trans (List.nil_append _)).trans
        (filter_zipIdx_map (·.conn.state.pollable) pollFdOf slots 0).symm
    · exact (done.dispatched room small answers revents).1
    · exact fun i outside => done.untouched room small answers revents outside
    · exact fun j p entry quiet => done.unready room small answers revents entry quiet
  · exact absurd counted (by rw [failed]; decide)

/-- A table of `n` slots on descriptors 3, 4, ... in the given states. -/
def tableOf (states : List ConnState) : List (Slot Nat) :=
  states.zipIdx.map fun p => ⟨{ ConnectionOf.zero 0 with state := p.1, sockfd := 3 + p.2 }, [], []⟩

/-- The pairing on a table of two slots. -/
theorem setup_dispatch_pairing_two :
    let r := setupConnectionFdsets createDefaultArguments (fun _ => none) (tableOf [.connecting, .receiving])
      .initial [0] 1
    0 < r.ret ∧ r.pollfds = [⟨3, pollout, 0⟩, ⟨4, pollin, 0⟩] := by
  have counted : 0 < (setupConnectionFdsets createDefaultArguments (fun _ => none)
      (tableOf [.connecting, .receiving]) .initial [0] 1).ret := by decide
  exact ⟨counted, (setup_dispatch_pairing createDefaultArguments (fun _ => none)
    (tableOf [.connecting, .receiving]) .initial (by decide) (by decide) counted).2.2.1⟩

/-- **When the pass is complete.** On a table whose first slot has a descriptor
the pass visits every slot, marks the pollable ones and returns their number
exactly when no slot past the first 64 is in its handshake: there `sizeof` of a
pointer stands for the size of the bitmap. -/
theorem setup_complete_iff (args : Arguments) (addresses : Nat → Option (List Address)) (slots : List (Slot Nat))
    (sys : Sys) (nonempty : 1 ≤ slots.length) (bound : slots.length ≤ 1000)
    (first : ∃ slot, slots.head? = some slot ∧ 0 ≤ slot.conn.sockfd) :
    let size := (slots.length + 7) / 8
    let r := setupConnectionFdsets args addresses slots sys (List.replicate size 0) size
    (r.ret ≠ -1 ∧ List.Forall₂ (Visited args) slots r.slots ∧
      (∀ p ∈ slots.zipIdx, p.1.conn.state.pollable = true → getBitmap charSigned (ushort p.2) r.bitmap size = 1) ∧
      r.ret = (slots.filter (·.conn.state.pollable)).length) ↔
    ∀ p ∈ slots.zipIdx, 64 ≤ p.2 → p.1.conn.state ≠ .tlsHandshake := by
  intro size r
  have room : slots.length ≤ size * 8 := by omega
  have small : size ≤ 125 := by omega
  rw [← inBounds_iff slots room small]
  obtain ⟨slot, head, open'⟩ := first
  have run : r = setupLoop args addresses size 0 slots sys 0 [] (List.replicate size 0) := by
    have ready : ¬ (slots.head?.map (·.conn.sockfd)).getD (-1) < 0 := by
      simp only [head, Option.map_some, Option.getD_some]
      omega
    have positive : ¬ (size : Int) ≤ 0 := by omega
    simp only [r, setupConnectionFdsets, if_neg ready, if_neg positive]
  have cases' := setupLoop_cases args addresses size slots 0 sys 0 [] (List.replicate size 0) (by omega)
    (by rw [List.length_replicate]; omega)
  rw [← run] at cases'
  rcases cases' with ⟨inside, done⟩ | ⟨outside, failed⟩
  · have ret : r.ret = (slots.filter (·.conn.state.pollable)).length := done.ret.trans (Int.zero_add _)
    refine iff_of_true ⟨by omega, done.visited, ?_, ret⟩ inside
    intro p member waits
    rw [done.getBitmap_eq room small member, if_pos waits]
  · exact iff_of_false (fun complete => complete.1 failed) outside

/-- The pass completes on a table of two slots, one of them in its handshake. -/
theorem setup_complete_two :
    (setupConnectionFdsets createDefaultArguments (fun _ => none) (tableOf [.connecting, .tlsHandshake])
      .initial [0] 1).ret ≠ -1 :=
  ((setup_complete_iff createDefaultArguments (fun _ => none) (tableOf [.connecting, .tlsHandshake]) .initial
    (by decide) (by decide) ⟨_, rfl, by decide⟩).mpr (by decide)).1

/-- Sixty-four connecting slots and one more in its handshake: the pass returns
-1 on a table whose first slot has a descriptor. -/
theorem setup_rejects_handshake :
    let slots := tableOf (List.replicate 64 .connecting ++ [.tlsHandshake])
    slots.length = 65 ∧ slots.head?.map (·.conn.sockfd) = some 3 ∧
      (setupConnectionFdsets createDefaultArguments (fun _ => none) slots .initial (List.replicate 9 0) 9).ret =
        -1 := by
  decide +kernel

end WebBench.Poll
