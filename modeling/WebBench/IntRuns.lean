import WebBench.Lib.IntSum
import WebBench.Totals

/-!
# Runs on counters of type `int`

The steps of the engines add to counters that are numbers; in the code they are
`int`s. An `IntRun` takes the engine's steps and cuts the fields to 32 bits after
each of them: no step adds twice to a field of one slot. Its fields are the
remainders of what the slots' histories count.
-/

namespace WebBench
set_option autoImplicit false
open CLib Relation

variable {κ ρ : Type}

/-! ## One slot -/

/-- The counters as `int` fields hold them. -/
def ConnectionOf.wrapped (conn : ConnectionOf κ) : ConnectionOf κ :=
  { conn with speed := int32 conn.speed, failed := int32 conn.failed, bytes := int32 conn.bytes }

/-- The slot whose record has `int` fields. -/
def Slot.wrapped (slot : Slot κ) : Slot κ := { slot with conn := slot.conn.wrapped }

/-- What happens to one slot when its fields are `int`s. -/
inductive Driver.IntSlotStep (d : Driver κ ρ) (args : Arguments) : Slot κ → Slot κ → Prop
  | step {slot slot' : Slot κ} (step : d.SlotStep args slot slot') : d.IntSlotStep args slot slot'
  | wrap (slot : Slot κ) : d.IntSlotStep args slot slot.wrapped

/-- The counters and what the history counts have the same remainders. -/
structure Slot.CountsMod (size : κ → Int) (slot : Slot κ) : Prop where
  failed : int32 slot.conn.failed = int32 (failures slot.moves)
  speed : int32 slot.conn.speed = int32 (responses slot.moves)
  bytes : int32 slot.conn.bytes = int32 (responseSizes size slot.moves)

namespace Slot.CountsMod

variable {size : κ → Int} {slot : Slot κ}

/-- A step that counts nothing keeps the remainders. -/
theorem of_counters {slot' : Slot κ} (counts : slot.CountsMod size) (same : slot'.conn.counters = slot.conn.counters)
    (moves : slot'.moves = slot.moves) : slot'.CountsMod size := by
  simp only [ConnectionOf.counters, Prod.mk.injEq] at same
  obtain ⟨failed, speed, bytes⟩ := same
  constructor
  · rw [failed, moves]
    exact counts.failed
  · rw [speed, moves]
    exact counts.speed
  · rw [bytes, moves]
    exact counts.bytes

/-- So does storing the counters in `int` fields. -/
theorem wrap (counts : slot.CountsMod size) : slot.wrapped.CountsMod size where
  failed := (int32_int32 _).trans counts.failed
  speed := (int32_int32 _).trans counts.speed
  bytes := (int32_int32 _).trans counts.bytes

end Slot.CountsMod

namespace Driver.Counts

variable {d : Driver κ ρ} {args : Arguments} {request : HTTPRequest} {size : κ → Int}

/-- A handler call adds the same to a field and to what it stands for. -/
theorem countsMod_ready (law : d.Counts args size) {slot : Slot κ} (counts : slot.CountsMod size)
    (waits : slot.conn.state.pollable = true) (sys : Sys) (errno : Int) (mask : ρ) (io : Io) :
    (d.ready args sys errno mask io slot).1.CountsMod size := by
  have step : Accounted size ⟨slot.conn, (d.ready args sys errno mask io slot).1.conn⟩ :=
    law.handle sys errno slot.conn mask io waits
  have moves : (d.ready args sys errno mask io slot).1.moves =
      slot.moves ++ [⟨slot.conn, (d.ready args sys errno mask io slot).1.conn⟩] := rfl
  constructor
  · rw [step.failed, moves, failures_concat]
    exact int32_add_congr counts.failed _
  · rw [step.speed, moves, responses_concat]
    exact int32_add_congr counts.speed _
  · rw [step.bytes, moves, responseSizes_concat]
    exact int32_add_congr counts.bytes _

/-- At the start nothing is counted. -/
theorem countsMod_fresh (law : d.Counts args size) {slot : Slot κ} (first : d.SlotInit args request slot) :
    slot.CountsMod size := by
  obtain ⟨sys, addresses, raw, allowed⟩ := first
  have zero := law.kept.fresh request sys addresses allowed
  simp only [ConnectionOf.counters, Prod.mk.injEq] at zero
  obtain ⟨failed, speed, bytes⟩ := zero
  exact ⟨congrArg int32 failed, congrArg int32 speed, congrArg int32 bytes⟩

/-- **The fields are remainders** of what the histories count. -/
theorem countsMod (law : d.Counts args size) {slot : Slot κ}
    (reached : Reachable (d.SlotInit args request) (d.IntSlotStep args) slot) : slot.CountsMod size := by
  refine reached.invariant (motive := Slot.CountsMod size) (fun _ => law.countsMod_fresh) ?_
  rintro slot _ counts (⟨step⟩ | _)
  · cases step with
    | recycle finished sys addresses => exact counts.of_counters (law.recycle sys addresses slot) rfl
    | ready waits sys errno mask io => exact law.countsMod_ready counts waits sys errno mask io
  · exact counts.wrap

/-- A table whose slots have moved, with its fields cut. -/
theorem wrapped_steps {slots slots' : List (Slot κ)}
    (moved : List.Forall₂ (ReflTransGen (d.SlotStep args)) slots slots') :
    List.Forall₂ (ReflTransGen (d.IntSlotStep args)) slots (slots'.map Slot.wrapped) := by
  rw [List.forall₂_map_right_iff]
  refine moved.imp fun slot slot' steps => ?_
  have taken : ReflTransGen (d.IntSlotStep args) slot slot' := steps.lift id fun _ _ step => .step step
  exact taken.tail (.wrap slot')

end Driver.Counts

/-! ## Tables of `int` fields -/

/-- The fields hold what `int`s can hold, the remainders of what the history counts. -/
structure Slot.IntCounted (slot : Slot Nat) : Prop where
  counts : slot.CountsMod sizeOfCount
  held : slot.wrapped = slot

namespace Slot.IntCounted

variable {slot : Slot Nat}

theorem failed (counted : slot.IntCounted) : slot.conn.failed = int32 (failures slot.moves) :=
  (congrArg (·.conn.failed) counted.held).symm.trans counted.counts.failed

theorem speed (counted : slot.IntCounted) : slot.conn.speed = int32 (responses slot.moves) :=
  (congrArg (·.conn.speed) counted.held).symm.trans counted.counts.speed

theorem bytes (counted : slot.IntCounted) : slot.conn.bytes = int32 (responseSizes sizeOfCount slot.moves) :=
  (congrArg (·.conn.bytes) counted.held).symm.trans counted.counts.bytes

end Slot.IntCounted

/-- A field that holds an `int` is stored as it is. -/
theorem Slot.wrapped_wrapped (slot : Slot κ) : slot.wrapped.wrapped = slot.wrapped := by
  simp [Slot.wrapped, ConnectionOf.wrapped, int32_int32]

/-- Fields that start at zero need no cut. -/
theorem Slot.wrapped_of_zero {slot : Slot κ} (zero : slot.conn.counters = (0, 0, 0)) : slot.wrapped = slot := by
  simp only [ConnectionOf.counters, Prod.mk.injEq] at zero
  obtain ⟨failed, speed, bytes⟩ := zero
  obtain ⟨conn, cycle, moves⟩ := slot
  obtain ⟨state, sockfd, ctx, ssl, https, request, buffer, len, force, sent, received, _, _, _⟩ := conn
  subst failed speed bytes
  rfl

/-- At the start the fields hold `int`s. -/
theorem Driver.Counts.held_fresh {d : Driver κ ρ} {args : Arguments} {request : HTTPRequest} {size : κ → Int}
    {slot : Slot κ} (law : d.Counts args size) (first : d.SlotInit args request slot) : slot.wrapped = slot := by
  obtain ⟨sys, addresses, raw, allowed⟩ := first
  exact Slot.wrapped_of_zero (law.kept.fresh request sys addresses allowed)

/-- What a reachable table of cut fields is. -/
theorem Driver.Counts.intCounted {d : Driver Nat ρ} {args : Arguments} {slot : Slot Nat}
    (law : d.Counts args sizeOfCount) (request : HTTPRequest)
    (reached : Reachable (d.SlotInit args request) (d.IntSlotStep args) slot) (held : slot.wrapped = slot) :
    slot.IntCounted := ⟨law.countsMod reached, held⟩

/-! ## `bench_poll` -/

namespace Poll

variable {args : Arguments} {request : HTTPRequest} {w : World}

def World.wrapped (w : World) : World := { w with slots := w.slots.map Slot.wrapped }

/-- One iteration of the main loop, with `int` fields. -/
inductive IntStep (args : Arguments) : World → World → Prop
  | wrap {w w' : World} (step : Step args w w') : IntStep args w w'.wrapped

/-- The worlds of any run of `bench_poll`, with `int` fields. -/
abbrev IntRun (args : Arguments) (request : HTTPRequest) : World → Prop :=
  Reachable (Init args request) (IntStep args)

/-- An iteration takes each slot through steps of its own. -/
theorem intStep_moves {w' : World} (short : w.slots.length ≤ 1000) (step : IntStep args w w') :
    List.Forall₂ (ReflTransGen (driver.IntSlotStep args)) w.slots w'.slots := by
  obtain ⟨step⟩ := step
  exact Driver.Counts.wrapped_steps (step_moves short step)

theorem intRun_length (run : IntRun args request w) : w.slots.length ≤ 1000 :=
  run.invariant (motive := fun w => w.slots.length ≤ 1000) (fun _ => init_length) fun _ _ short step =>
    (intStep_moves short step).length_eq ▸ short

/-- In every run of `bench_poll` the fields hold `int`s. -/
theorem intRun_held (run : IntRun args request w) : ∀ slot ∈ w.slots, slot.wrapped = slot := by
  cases run with
  | start first =>
    obtain ⟨addresses, raw⟩ := first
    exact fun slot member => (counts args).held_fresh (openAll_init addresses raw _ _ _ slot member)
  | next _ step =>
    obtain ⟨step⟩ := step
    exact List.forall_mem_map.mpr fun slot _ => slot.wrapped_wrapped

/-- **Fields of a run.** Every field of the table is the remainder of what the slot's history counts. -/
theorem intRun_counted (run : IntRun args request w) : ∀ slot ∈ w.slots, slot.IntCounted := by
  intro slot member
  refine (counts args).intCounted request ?_ (intRun_held run slot member)
  refine run.components World.slots ?_ (fun _ _ before => intStep_moves (intRun_length before)) slot member
  rintro _ ⟨addresses, raw⟩ slot member
  exact .start (openAll_init addresses raw _ _ _ slot member)

end Poll

/-! ## `bench_epoll` -/

namespace Epoll

variable {args : Arguments} {request : HTTPRequest} {w : World}

def World.wrapped (w : World) : World := { w with slots := w.slots.map Slot.wrapped }

/-- One step of the main loop, with `int` fields. -/
inductive IntStep (args : Arguments) : World → World → Prop
  | wrap {w w' : World} (step : Step args w w') : IntStep args w w'.wrapped

/-- The worlds of any run of `bench_epoll`, with `int` fields. -/
abbrev IntRun (args : Arguments) (request : HTTPRequest) : World → Prop :=
  Reachable (Init args request) (IntStep args)

/-- The invariant of the epoll instance does not look at the counters. -/
theorem Registered.wrapped {pending : List Nat} {slots : List (Slot Nat)} {sys : Sys}
    (inv : Registered pending slots sys) : Registered pending (slots.map Slot.wrapped) sys := by
  have found : ∀ {i : Nat} {slot : Slot Nat}, (slots.map Slot.wrapped)[i]? = some slot →
      ∃ old, slots[i]? = some old ∧ old.wrapped = slot := by
    intro i slot here
    rwa [List.getElem?_map, Option.map_eq_some_iff] at here
  have kept : ∀ {i : Nat} {slot : Slot Nat}, slots[i]? = some slot →
      (slots.map Slot.wrapped)[i]? = some slot.wrapped := by
    intro i slot here
    rw [List.getElem?_map, here]
    rfl
  constructor
  · intro fd entry present
    obtain ⟨slot, here, rest⟩ := inv.owned fd entry present
    exact ⟨slot.wrapped, kept here, rest⟩
  · intro i slot here positive
    obtain ⟨old, there, rfl⟩ := found here
    exact inv.opened i old there positive
  · intro i j a b first second positive same
    obtain ⟨olda, here, rfl⟩ := found first
    obtain ⟨oldb, there, rfl⟩ := found second
    exact inv.distinct i j olda oldb here there positive same
  · intro i slot here waits
    obtain ⟨old, there, rfl⟩ := found here
    exact inv.socket i old there waits
  · exact inv.once
  · intro j member
    obtain ⟨slot, entry, here, rest⟩ := inv.pending j member
    exact ⟨slot.wrapped, entry, kept here, rest⟩

/-- The registrations of `bench_epoll` are as with exact counters. -/
theorem intRun_registered (run : IntRun args request w) : Registered (pendingOf w.loop) w.slots w.sys := by
  refine run.invariant (motive := fun w => Registered (pendingOf w.loop) w.slots w.sys) (fun _ => init_registered) ?_
  rintro w _ inv ⟨step⟩
  exact (step_registered inv step).wrapped

/-- In every run of `bench_epoll` the fields hold `int`s. -/
theorem intRun_held (run : IntRun args request w) : ∀ slot ∈ w.slots, slot.wrapped = slot := by
  cases run with
  | start first =>
    obtain ⟨addresses⟩ := first
    exact fun slot member => (counts args).held_fresh (openAll_init addresses _ _ _ slot member)
  | next _ step =>
    obtain ⟨step⟩ := step
    exact List.forall_mem_map.mpr fun slot _ => slot.wrapped_wrapped

/-- **Fields of a run.** Every field of the table is the remainder of what the slot's history counts. -/
theorem intRun_counted (run : IntRun args request w) : ∀ slot ∈ w.slots, slot.IntCounted := by
  intro slot member
  refine (counts args).intCounted request ?_ (intRun_held run slot member)
  refine run.components World.slots ?_ ?_ slot member
  · rintro _ ⟨addresses⟩ slot member
    exact .start (openAll_init addresses _ _ _ slot member)
  · rintro _ _ before ⟨step⟩
    exact Driver.Counts.wrapped_steps ((intRun_registered before).moves step)

end Epoll

end WebBench
