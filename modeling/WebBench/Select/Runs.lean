import WebBench.Select.Refine

/-!
# Runs of `bench_select`

A slot that gets no socket ends the process, so between two steps no slot is
idle, and after a set-up pass every slot waits for its descriptor. The handler
is then called on slots that wait, as it is in the other engines.
-/

namespace WebBench.Select
set_option autoImplicit false
open CLib

variable {args : Arguments} {request : HTTPRequest}

/-- A reachable slot in a state the engine leaves it in. -/
structure Kept (args : Arguments) (request : HTTPRequest) (allowed : ConnState → Prop) (slot : Slot Int) : Prop where
  reachable : driver.SlotReachable args request slot
  state : allowed slot.conn.state

/-- The slots found between two steps. -/
abbrev Begun (args : Arguments) (request : HTTPRequest) : Slot Int → Prop := Kept args request (· ≠ .idle)

/-- The slots found after a set-up pass. -/
abbrev Waiting (args : Arguments) (request : HTTPRequest) : Slot Int → Prop := Kept args request (·.pollable = true)

theorem Waiting.begun {slot : Slot Int} (waits : Waiting args request slot) : Begun args request slot :=
  ⟨waits.reachable, fun idle => by have pollable := waits.state; rw [idle] at pollable; exact Bool.noConfusion pollable⟩

/-- A slot that has its socket is connecting. -/
theorem allocateSocket_connecting (sys : Sys) (addresses : Option (List Address)) (conn : Connection)
    (socket : ¬ (allocateSocket args sys addresses conn).conn.sockfd < 0) :
    (allocateSocket args sys addresses conn).conn.state = .connecting := by
  unfold allocateSocket at socket ⊢
  generalize (if needConnectProxy args then _ else _ : Int × Sys × List Call) = opened at socket ⊢
  obtain ⟨sockfd, sys', calls⟩ := opened
  dsimp only at socket ⊢
  by_cases closed : sockfd < 0
  · rw [if_pos closed] at socket
    exact absurd closed socket
  · rw [if_neg closed]

theorem openAll_waiting (addresses : Nat → Option (List Address)) (raw : Nat → Connection) :
    ∀ (k i : Nat) (sys : Sys) (slots : List (Slot Int)) (sys' : Sys),
      openAll args request addresses raw i k sys = some (slots, sys') → ∀ slot ∈ slots, Waiting args request slot := by
  intro k
  induction k with
  | zero =>
    intro _ _ _ _ opened slot member
    cases opened
    exact absurd member List.not_mem_nil
  | succ k ih =>
    intro i sys slots sys' opened slot member
    unfold openAll at opened
    dsimp only at opened
    by_cases closed : (driver.fresh args request sys (addresses i) (raw i)).1.conn.sockfd < 0
    · rw [if_pos closed] at opened
      cases opened
    · rw [if_neg closed] at opened
      obtain ⟨⟨rest, last⟩, later, made⟩ := Option.map_eq_some_iff.mp opened
      cases made
      rcases List.mem_cons.mp member with rfl | tail
      · exact ⟨.start (.fresh sys (addresses i) (raw i) trivial),
          congrArg ConnState.pollable (allocateSocket_connecting _ _ _ closed)⟩
      · exact ih _ _ _ _ later slot tail

/-- A pass recycles every slot whose cycle is over, so the others wait already. -/
theorem setupLoop_waiting (addresses : Nat → Option (List Address)) :
    ∀ (slots : List (Slot Int)) (i : Nat) (sys : Sys) (fds : FdSets) (maxFd : Int) (r : Setup),
      setupLoop args addresses i slots sys fds maxFd = some r → (∀ slot ∈ slots, Begun args request slot) →
        ∀ slot ∈ r.slots, Waiting args request slot := by
  intro slots
  induction slots with
  | nil =>
    intro _ _ _ _ _ passed _ slot member
    cases passed
    exact absurd member List.not_mem_nil
  | cons first rest ih =>
    intro i sys fds maxFd r passed begun slot member
    have here := begun first List.mem_cons_self
    have others := fun slot later => begun slot (List.mem_cons_of_mem first later)
    unfold setupLoop at passed
    by_cases finished : first.conn.state = .completed ∨ first.conn.state = .error
    · rw [if_pos finished] at passed
      dsimp only at passed
      by_cases closed : (driver.recycle args sys (addresses i) first).1.conn.sockfd < 0
      · rw [if_pos closed] at passed
        cases passed
      · rw [if_neg closed] at passed
        obtain ⟨tail, later, rfl⟩ := Option.map_eq_some_iff.mp passed
        rcases List.mem_cons.mp member with rfl | found
        · exact ⟨here.reachable.next (.recycle first finished sys (addresses i)),
            congrArg ConnState.pollable (allocateSocket_connecting _ _ _ closed)⟩
        · exact ih _ _ _ _ _ later others slot found
    · rw [if_neg finished] at passed
      obtain ⟨tail, later, rfl⟩ := Option.map_eq_some_iff.mp passed
      rcases List.mem_cons.mp member with rfl | found
      · refine ⟨here.reachable, ?_⟩
        have begun := here.state
        revert finished begun
        cases slot.conn.state <;> simp [ConnState.pollable]
      · exact ih _ _ _ _ _ later others slot found

theorem Waiting.ready {slot : Slot Int} (waits : Waiting args request slot) (sys : Sys) (errno : Int) (ready : FdSets)
    (io : Io) : Begun args request (driver.ready args sys errno ready io slot).1 := by
  refine ⟨waits.reachable.next (.ready slot waits.state sys errno ready io), ?_⟩
  obtain ⟨p, -, stands⟩ := (follows args request).tracks waits.reachable
  have names := (follows args request).state _ _ stands
  have active : p.active := (congrArg ConnState.pollable names).symm.trans waits.state
  obtain ⟨q, trace, next⟩ := (follows args request).handle sys errno _ ready io p stands active
  have begun : p.state ≠ .idle := fun idle => by rw [Phase.active, idle] at active; exact Bool.noConfusion active
  exact fun idle => Job.begun_of_trace trace begun (((follows args request).state _ _ next).symm.trans idle)

theorem dispatch_begun (answers : Nat → Answers) (ready : FdSets) :
    ∀ (slots : List (Slot Int)) (i : Nat) (sys : Sys), (∀ slot ∈ slots, Waiting args request slot) →
      ∀ slot ∈ (dispatch args answers ready i slots sys).1, Begun args request slot := by
  intro slots
  induction slots with
  | nil => intro _ _ _ slot member; exact absurd member List.not_mem_nil
  | cons first rest ih =>
    intro i sys waits slot member
    simp only [dispatch, List.mem_cons] at member
    rcases member with rfl | later
    · exact (waits first List.mem_cons_self).ready sys (answers i).errno ready (answers i).io
    · exact ih _ _ (fun slot found => waits slot (List.mem_cons_of_mem first found)) slot later

/-- **Slots of a run.** Every slot of the table in any run of `bench_select` is reachable, and none is idle. -/
theorem run_begun {w : World} (run : Run args request w) : ∀ slot ∈ w.slots, Begun args request slot := by
  refine run.invariant (motive := fun w => ∀ slot ∈ w.slots, Begun args request slot) ?_ ?_
  · rintro _ ⟨addresses, raw, opened⟩ slot member
    exact (openAll_waiting addresses raw _ _ _ _ _ opened slot member).begun
  · rintro w _ begun (⟨addresses, pass⟩ | ⟨addresses, pass, -, answers, fds, -⟩) slot member
    · exact (setupLoop_waiting addresses _ _ _ _ _ _ pass begun slot member).begun
    · exact dispatch_begun answers fds _ _ _ (setupLoop_waiting addresses _ _ _ _ _ _ pass begun) slot member

theorem run_slot {w : World} (run : Run args request w) :
    ∀ slot ∈ w.slots, driver.SlotReachable args request slot :=
  fun slot member => (run_begun run slot member).reachable

/-- A client that connects at once, on descriptor 3. -/
def opened (args : Arguments) (request : HTTPRequest) : Option World :=
  (openAll args request (fun i => some [⟨3 + i, 0, 0⟩]) (fun _ => .zero 0) 0 (numConnections args) .initial).map
    fun (slots, sys) => ⟨slots, sys, 0⟩

theorem opened_run {w : World} (opens : opened args request = some w) : Run args request w := by
  obtain ⟨⟨slots, sys⟩, table, rfl⟩ := Option.map_eq_some_iff.mp opens
  exact .start (.openAll _ _ table)

/-- An iteration in which every descriptor of the sets is ready and every call is answered by `io`. -/
def World.woken (args : Arguments) (io : Io) (w : World) : World :=
  match setupPass args (fun _ => none) w with
  | some r =>
    let (slots, sys) := dispatch args (fun _ => ⟨0, io⟩) r.fds 0 r.slots r.sys
    ⟨slots, sys, r.maxFd⟩
  | none => w

theorem World.woken_run {w : World} (io : Io) (run : Run args request w) (watched : 0 < (w.woken args io).maxFd) :
    Run args request (w.woken args io) := by
  unfold World.woken at watched ⊢
  cases pass : setupPass args (fun _ => none) w with
  | none => exact run
  | some r =>
    rw [pass] at watched
    exact run.next (.ready w _ pass watched _ r.fds ⟨List.Subset.refl _, List.Subset.refl _⟩)

/-- The iteration, if there is a descriptor to wait for. -/
def World.turn (args : Arguments) (io : Io) (w : World) : World :=
  if 0 < (w.woken args io).maxFd then w.woken args io else w

/-- Iterations one after the other, each with what its calls are answered. -/
def World.turns (args : Arguments) (steps : List Io) (w : World) : World := steps.foldl (fun w io => w.turn args io) w

theorem World.turn_run {w : World} (io : Io) (run : Run args request w) : Run args request (w.turn args io) := by
  unfold World.turn
  split
  · rename_i watched
    exact World.woken_run io run watched
  · exact run

theorem World.turns_run (steps : List Io) {w : World} (run : Run args request w) :
    Run args request (w.turns args steps) := by
  induction steps generalizing w with
  | nil => exact run
  | cons io rest ih => exact ih (World.turn_run io run)

end WebBench.Select
