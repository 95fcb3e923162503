import WebBench.Lib.Reach
import WebBench.Connection

/-!
# Slots and their runs

A slot is a connection record together with two logs that the code does not
keep: the calls made since the slot's last `allocate_socket`, and the record
before and after every `handle_ready_connection`. An engine's functions on one
record form its `Driver`; `SlotStep` is what the engine's loops do to one slot.
-/

namespace WebBench
set_option autoImplicit false
open CLib

variable {κ ρ : Type}

/-- One `handle_ready_connection`. -/
structure Move (κ : Type) where
  before : ConnectionOf κ
  after : ConnectionOf κ

/-- A connection record and its history. -/
structure Slot (κ : Type) where
  conn : ConnectionOf κ
  cycle : List Call
  moves : List (Move κ)

/-- The inputs of one handler call: `errno` before it and the answers it gets. -/
structure Answers where
  errno : Int
  io : Io

/-- The functions of one engine on one record; `ρ` is what it learns about readiness. -/
structure Driver (κ ρ : Type) where
  initConnection : Arguments → HTTPRequest → ConnectionOf κ → ConnectionOf κ
  allocateSocket : Arguments → Sys → Option (List Address) → ConnectionOf κ → Outcome κ
  cleanupConnection : ConnectionOf κ → Sys → ConnectionOf κ × Sys
  handleReadyConnection : Arguments → Sys → Int → ConnectionOf κ → ρ → Io → Outcome κ
  /-- The records the freshly allocated array can hold. -/
  raw : ConnectionOf κ → Prop

namespace Driver

variable (d : Driver κ ρ) (args : Arguments)

/-- `init_connection` and the first `allocate_socket`. -/
def fresh (request : HTTPRequest) (sys : Sys) (addresses : Option (List Address)) (raw : ConnectionOf κ) :
    Slot κ × Sys :=
  let opened := d.allocateSocket args sys addresses (d.initConnection args request raw)
  (⟨opened.conn, opened.calls, []⟩, opened.sys)

/-- `cleanup_connection` and the next `allocate_socket`. -/
def recycle (sys : Sys) (addresses : Option (List Address)) (slot : Slot κ) : Slot κ × Sys :=
  let (conn, sys) := d.cleanupConnection slot.conn sys
  let opened := d.allocateSocket args sys addresses conn
  (⟨opened.conn, opened.calls, slot.moves⟩, opened.sys)

/-- One `handle_ready_connection`. -/
def ready (sys : Sys) (errno : Int) (mask : ρ) (io : Io) (slot : Slot κ) : Slot κ × Sys :=
  let o := d.handleReadyConnection args sys errno slot.conn mask io
  (⟨o.conn, slot.cycle ++ o.calls, slot.moves ++ [⟨slot.conn, o.conn⟩]⟩, o.sys)

/-- The slots `init_connection` and `allocate_socket` can produce. -/
inductive SlotInit (request : HTTPRequest) : Slot κ → Prop
  | fresh (sys : Sys) (addresses : Option (List Address)) (raw : ConnectionOf κ) (allowed : d.raw raw) :
      SlotInit request (d.fresh args request sys addresses raw).1

/-- What happens to one slot: the set-up pass recycles it once its cycle is
over, and the handler runs on it while it waits for its descriptor. -/
inductive SlotStep : Slot κ → Slot κ → Prop
  | recycle (slot : Slot κ) (finished : slot.conn.state = .completed ∨ slot.conn.state = .error) (sys : Sys)
      (addresses : Option (List Address)) : SlotStep slot (d.recycle args sys addresses slot).1
  | ready (slot : Slot κ) (pollable : slot.conn.state.pollable = true) (sys : Sys) (errno : Int) (mask : ρ)
      (io : Io) : SlotStep slot (d.ready args sys errno mask io slot).1

/-- The slots of any run. -/
abbrev SlotReachable (request : HTTPRequest) : Slot κ → Prop :=
  Reachable (d.SlotInit args request) (d.SlotStep args)

/-! ## Runs whose handler calls meet a condition -/

/-- The steps of one slot, with a condition on the inputs of the handler. -/
inductive SlotStepWhere (good : Sys → Int → ConnectionOf κ → ρ → Io → Prop) : Slot κ → Slot κ → Prop
  | recycle (slot : Slot κ) (finished : slot.conn.state = .completed ∨ slot.conn.state = .error) (sys : Sys)
      (addresses : Option (List Address)) : SlotStepWhere good slot (d.recycle args sys addresses slot).1
  | ready (slot : Slot κ) (pollable : slot.conn.state.pollable = true) (sys : Sys) (errno : Int) (mask : ρ)
      (io : Io) (meets : good sys errno slot.conn mask io) :
      SlotStepWhere good slot (d.ready args sys errno mask io slot).1

/-- The slots of the runs whose handler calls all meet the condition. -/
abbrev SlotReachableWhere (request : HTTPRequest) (good : Sys → Int → ConnectionOf κ → ρ → Io → Prop) :
    Slot κ → Prop :=
  Reachable (d.SlotInit args request) (d.SlotStepWhere args good)

variable {d args} {request : HTTPRequest} {good : Sys → Int → ConnectionOf κ → ρ → Io → Prop} {slot : Slot κ}

theorem SlotReachableWhere.reachable (reached : d.SlotReachableWhere args request good slot) :
    d.SlotReachable args request slot := by
  induction reached with
  | start first => exact .start first
  | next _ step ih =>
    cases step with
    | recycle finished sys addresses => exact ih.next (.recycle _ finished sys addresses)
    | ready pollable sys errno mask io meets => exact ih.next (.ready _ pollable sys errno mask io)

/-- What every handler call guarantees holds of a slot's whole history. -/
theorem SlotReachable.each_move {kept : Move κ → Prop} (reached : d.SlotReachable args request slot)
    (step : ∀ slot, d.SlotReachable args request slot → slot.conn.state.pollable = true → ∀ sys errno mask io,
      kept ⟨slot.conn, (d.handleReadyConnection args sys errno slot.conn mask io).conn⟩) :
    ∀ move ∈ slot.moves, kept move := by
  induction reached with
  | start first =>
    obtain ⟨sys, addresses, raw, allowed⟩ := first
    exact fun move none => absurd none List.not_mem_nil
  | next before taken ih =>
    cases taken with
    | recycle finished sys addresses => exact ih
    | ready pollable sys errno mask io =>
      intro move member
      rcases List.mem_append.mp member with old | new
      · exact ih move old
      · exact (List.mem_singleton.mp new) ▸ step _ before pollable sys errno mask io

/-- **Histories and inputs.** If a handler call does what it should exactly when
its inputs meet a condition, the calls of a history all did exactly when the
slot has got there by calls that meet it. -/
theorem SlotReachable.each_move_iff {kept : Move κ → Prop} (reached : d.SlotReachable args request slot)
    (step : ∀ slot, d.SlotReachable args request slot → slot.conn.state.pollable = true → ∀ sys errno mask io,
      kept ⟨slot.conn, (d.handleReadyConnection args sys errno slot.conn mask io).conn⟩ ↔
        good sys errno slot.conn mask io) :
    (∀ move ∈ slot.moves, kept move) ↔ d.SlotReachableWhere args request good slot := by
  constructor
  · intro each
    induction reached with
    | start first => exact .start first
    | next before taken ih =>
      cases taken with
      | recycle finished sys addresses => exact .next (ih each) (.recycle _ finished sys addresses)
      | ready pollable sys errno mask io =>
        have last := each _ (List.mem_append_right _ List.mem_cons_self)
        exact .next (ih fun move old => each move (List.mem_append_left _ old))
          (.ready _ pollable sys errno mask io ((step _ before pollable sys errno mask io).mp last))
  · intro reached
    induction reached with
    | start first =>
      obtain ⟨sys, addresses, raw, allowed⟩ := first
      exact fun move none => absurd none List.not_mem_nil
    | next before taken ih =>
      have earlier := SlotReachableWhere.reachable before
      cases taken with
      | recycle finished sys addresses => exact ih earlier
      | ready pollable sys errno mask io meets =>
        intro move member
        rcases List.mem_append.mp member with old | new
        · exact ih earlier move old
        · exact (List.mem_singleton.mp new) ▸ (step _ earlier pollable sys errno mask io).mpr meets

end Driver

end WebBench
