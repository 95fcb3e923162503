import WebBench.Poll.Pairing
import WebBench.Poll.Refine

/-!
# Runs of `bench_poll`

Every slot found in the table during a run of `bench_poll` has got there by the
steps of one slot, so what holds of reachable slots holds in every run.
-/

namespace WebBench.Poll
set_option autoImplicit false
open CLib Relation

variable {args : Arguments} {request : HTTPRequest}

/-- The loop that opens the table makes as many slots as it is asked for. -/
theorem openAll_length (addresses : Nat → Option (List Address)) (raw : Nat → Connection) :
    ∀ (k i : Nat) (sys : Sys), (openAll args request addresses raw i k sys).slots.length = k := by
  intro k
  induction k with
  | zero => intro _ _; rfl
  | succ k ih =>
    intro i sys
    simp only [openAll, List.length_cons, ih]

/-- Each of them is a slot at its start. -/
theorem openAll_init (addresses : Nat → Option (List Address)) (raw : Nat → Connection) :
    ∀ (k i : Nat) (sys : Sys), ∀ slot ∈ (openAll args request addresses raw i k sys).slots,
      driver.SlotInit args request slot := by
  intro k
  induction k with
  | zero => intro _ _ slot member; exact absurd member List.not_mem_nil
  | succ k ih =>
    intro i sys slot member
    simp only [openAll, List.mem_cons] at member
    rcases member with rfl | later
    · exact .fresh sys (addresses i) (raw i) trivial
    · exact ih _ _ slot later

/-- A pass moves every slot by steps of its own, also when it gives up. -/
theorem setupLoop_steps (addresses : Nat → Option (List Address)) (bitmapSize : Int) :
    ∀ (slots : List (Slot Nat)) (i : Nat) (sys : Sys) (num : Int) (fds : List PollFd) (bitmap : List Byte),
      List.Forall₂ (ReflTransGen (driver.SlotStep args)) slots
        (setupLoop args addresses bitmapSize i slots sys num fds bitmap).slots := by
  have alone : ∀ slots : List (Slot Nat), List.Forall₂ (ReflTransGen (driver.SlotStep args)) slots slots :=
    fun slots => List.forall₂_same.mpr fun _ _ => .refl
  intro slots
  induction slots with
  | nil => intro _ _ _ _ _; exact .nil
  | cons slot rest ih =>
    intro i sys num fds bitmap
    unfold setupLoop
    split
    · dsimp only
      split
      · exact alone _
      · exact .cons .refl (ih ..)
    · rename_i free
      have free := registration_none free
      split
      · exact .cons .refl (ih ..)
      · rename_i busy
        have finished := ConnState.finished_of_free free busy
        exact .cons (.single (.recycle slot finished sys (addresses i))) (ih ..)

/-- The set-up pass takes each slot through steps of its own. -/
theorem setupPass_steps (addresses : Nat → Option (List Address)) (w : World) :
    List.Forall₂ (ReflTransGen (driver.SlotStep args)) w.slots (setupPass args addresses w).slots := by
  have alone : List.Forall₂ (ReflTransGen (driver.SlotStep args)) w.slots w.slots :=
    List.forall₂_same.mpr fun _ _ => .refl
  unfold setupPass setupConnectionFdsets
  dsimp only
  split
  · exact alone
  · split
    · exact alone
    · exact setupLoop_steps ..

/-- There are 1000 connections at most. -/
theorem numConnections_le (args : Arguments) : numConnections args ≤ 1000 := by
  unfold numConnections maxConnections
  omega

/-- The bitmap is only set for slots that wait for their descriptor. -/
theorem SetupDone.set_waits {slots : List (Slot Nat)} {size : Nat} {r : Setup}
    (done : SetupDone args 0 slots 0 [] (List.replicate size 0) r) (room : slots.length ≤ size * 8)
    (small : size ≤ 125) {i : Nat} {slot : Slot Nat} (here : r.slots[i]? = some slot)
    (set : getBitmap charSigned (ushort i) r.bitmap size ≠ 0) : slot.conn.state.pollable = true := by
  obtain ⟨bound, rfl⟩ := List.getElem?_eq_some_iff.mp here
  have before : i < slots.length := done.visited.length_eq ▸ bound
  have member : (slots[i], i) ∈ slots.zipIdx := List.mem_zipIdx_iff_getElem?.mpr (by simp [before])
  have waits : slots[i].conn.state.pollable = true := by
    rw [done.getBitmap_eq room small member] at set
    simpa using set
  rcases List.forall₂_iff_get.mp done.visited |>.2 i before bound with ⟨same, -⟩ | ⟨finished | finished, -⟩
  · simp only [List.get_eq_getElem] at same
    rw [same]
    exact waits
  · simp only [List.get_eq_getElem] at finished
    simp [finished, ConnState.pollable] at waits
  · simp only [List.get_eq_getElem] at finished
    simp [finished, ConnState.pollable] at waits

/-- The dispatch loop moves every slot by steps of its own: it only handles slots that wait for their descriptor. -/
theorem SetupDone.dispatch_steps {slots : List (Slot Nat)} {size : Nat} {r : Setup}
    (done : SetupDone args 0 slots 0 [] (List.replicate size 0) r) (room : slots.length ≤ size * 8)
    (small : size ≤ 125) (answers : Nat → Answers) (revents : Nat → BitVec 16) :
    List.Forall₂ (ReflTransGen (driver.SlotStep args)) r.slots
      (dispatch args answers r.bitmap size 0 r.slots (written revents r.pollfds) r.sys).slots := by
  obtain ⟨-, moved⟩ := done.dispatched room small answers revents
  have length := moved.length_eq
  rw [List.length_zipIdx] at length
  refine List.forall₂_iff_get.mpr ⟨length, fun i here there => ?_⟩
  obtain ⟨slot', result, handled⟩ := forall₂_zipIdx moved (List.getElem?_eq_getElem here)
  obtain ⟨_, rfl⟩ := List.getElem?_eq_some_iff.mp result
  rcases handled with ⟨-, same⟩ | ⟨set, fd, sys, -, same⟩
  · show ReflTransGen _ r.slots[i] (dispatch args answers r.bitmap size 0 r.slots _ r.sys).slots[i]
    rw [same]
  · have waits := done.set_waits room small (List.getElem?_eq_getElem here) set
    have step : driver.SlotStep args r.slots[i]
        (driver.ready args sys (answers i).errno fd.revents (answers i).io r.slots[i]).1 :=
      .ready _ waits sys (answers i).errno fd.revents (answers i).io
    rw [← same] at step
    exact .single step

theorem forall₂_trans {slots mid slots' : List (Slot Nat)}
    (first : List.Forall₂ (ReflTransGen (driver.SlotStep args)) slots mid)
    (second : List.Forall₂ (ReflTransGen (driver.SlotStep args)) mid slots') :
    List.Forall₂ (ReflTransGen (driver.SlotStep args)) slots slots' := by
  induction first generalizing slots' with
  | nil => exact second
  | cons head _ ih =>
    cases second with
    | cons next rest => exact .cons (head.trans next) (ih rest)

/-- A pass that registers something is complete. -/
theorem setupPass_done (addresses : Nat → Option (List Address)) (w : World) (short : w.slots.length ≤ 1000)
    (counted : 0 < (setupPass args addresses w).ret) :
    SetupDone args 0 w.slots 0 [] (List.replicate (bitmapSizeOf w.slots.length) 0) (setupPass args addresses w) ∧
      w.slots.length ≤ bitmapSizeOf w.slots.length * 8 ∧ bitmapSizeOf w.slots.length ≤ 125 := by
  have nonempty : 1 ≤ w.slots.length := by
    by_contra empty
    have none : w.slots = [] := List.eq_nil_of_length_eq_zero (by omega)
    simp [setupPass, setupConnectionFdsets, none] at counted
  have size := bitmapSizeOf_eq w.slots.length
  rcases setup_cases args addresses w.slots w.sys (bitmapSizeOf w.slots.length) nonempty (by omega) (by omega) with
    ⟨-, done⟩ | failed
  · exact ⟨done, by omega, by omega⟩
  · exact absurd counted (by unfold setupPass; rw [failed]; decide)

/-- The dispatch after such a pass takes each slot through steps of its own. -/
theorem dispatchPass_steps (addresses : Nat → Option (List Address)) (answers : Nat → Answers)
    (revents : Nat → BitVec 16) (w : World) (short : w.slots.length ≤ 1000)
    (counted : 0 < (setupPass args addresses w).ret) :
    List.Forall₂ (ReflTransGen (driver.SlotStep args)) w.slots
      (dispatchPass args answers revents (setupPass args addresses w)).slots := by
  have visited : List.Forall₂ _ w.slots (setupPass args addresses w).slots := setupPass_steps addresses w
  obtain ⟨done, room, small⟩ := setupPass_done addresses w short counted
  apply forall₂_trans visited
  unfold dispatchPass
  rw [← visited.length_eq]
  exact done.dispatch_steps room small answers revents

/-- A step on a table no larger than the cap moves every slot by steps of its own. -/
theorem step_moves {w w' : World} (short : w.slots.length ≤ 1000) (step : Step args w w') :
    List.Forall₂ (ReflTransGen (driver.SlotStep args)) w.slots w'.slots := by
  cases step with
  | quiet addresses => exact setupPass_steps addresses w
  | ready addresses answers revents counted => exact dispatchPass_steps addresses answers revents w short counted

/-- The table has 1000 slots at most at the start. -/
theorem init_length {w : World} (first : Init args request w) : w.slots.length ≤ 1000 := by
  obtain ⟨addresses, raw⟩ := first
  rw [openAll_length]
  exact numConnections_le args

/-- And so it has in every state of a run. -/
theorem run_length {w : World} (run : Run args request w) : w.slots.length ≤ 1000 :=
  run.invariant (motive := fun w => w.slots.length ≤ 1000) (fun _ => init_length) fun _ _ short step =>
    (step_moves short step).length_eq ▸ short

theorem run_moves {w w' : World} (run : Run args request w) (step : Step args w w') :
    List.Forall₂ (ReflTransGen (driver.SlotStep args)) w.slots w'.slots := step_moves (run_length run) step

/-- **Slots of a run.** Every slot of the table in any run of `bench_poll` is reachable. -/
theorem run_slot {w : World} (run : Run args request w) :
    ∀ slot ∈ w.slots, driver.SlotReachable args request slot := by
  refine run.components World.slots ?_ fun _ _ => run_moves
  rintro _ ⟨addresses, raw⟩ slot member
  exact .start (openAll_init addresses raw _ _ _ slot member)

/-- The table of clients that all connect at once, the first on descriptor 3. -/
def opened (args : Arguments) (request : HTTPRequest) : World :=
  openAll args request (fun i => some [⟨3 + i, 0, 0⟩]) (fun _ => .zero 0) 0 (numConnections args) .initial

/-- This table is one of a run. -/
theorem opened_run (args : Arguments) (request : HTTPRequest) : Run args request (opened args request) :=
  .start (.openAll _ _)

/-- An iteration in which every entry reports `revents` and every call is answered by `io`. -/
def World.woken (args : Arguments) (revents : BitVec 16) (io : Io) (w : World) : World :=
  let d := dispatchPass args (fun _ => ⟨0, io⟩) (fun _ => revents) (setupPass args (fun _ => none) w)
  ⟨d.slots, d.sys⟩

/-- After such an iteration the table is one of a run, when the pass has counted something. -/
theorem World.woken_run {w : World} {revents : BitVec 16} {io : Io} (run : Run args request w)
    (counted : 0 < (setupPass args (fun _ => none) w).ret) : Run args request (w.woken args revents io) :=
  run.next (.ready w _ _ _ counted)

/-- The iteration, if the pass returns a count. -/
def World.turn (args : Arguments) (revents : BitVec 16) (io : Io) (w : World) : World :=
  if 0 < (setupPass args (fun _ => none) w).ret then w.woken args revents io else w

/-- Iterations one after the other, each with what its entries report and what its calls are answered. -/
def World.turns (args : Arguments) (steps : List (BitVec 16 × Io)) (w : World) : World :=
  steps.foldl (fun w step => w.turn args step.1 step.2) w

/-- An iteration goes on with a run. -/
theorem World.turn_run {w : World} (revents : BitVec 16) (io : Io) (run : Run args request w) :
    Run args request (w.turn args revents io) := by
  unfold World.turn
  split
  · rename_i counted
    exact World.woken_run run counted
  · exact run

/-- So do any number of them. -/
theorem World.turns_run (steps : List (BitVec 16 × Io)) {w : World} (run : Run args request w) :
    Run args request (w.turns args steps) := by
  induction steps generalizing w with
  | nil => exact run
  | cons step rest ih => exact ih (World.turn_run step.1 step.2 run)

end WebBench.Poll
