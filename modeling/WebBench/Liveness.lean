import WebBench.Progress

/-!
# Liveness

A handler call leaves a slot as it is only when the descriptor is not ready for
what the slot waits for, when the call it makes is to be made again, or when a
slot in the handshake has no SSL object. So a slot whose calls are never held up
in one of these ways ends its cycles within a bounded number of handler calls.
-/

namespace WebBench
set_option autoImplicit false
open CLib

variable {κ ρ : Type}

/-- `send` or `SSL_write` takes nothing. -/
def Taken.Refused : Taken → Prop
  | .bytes n => n = 0
  | .failed => True

/-- It is to be tried again, by the `errno` the test sees. -/
def Taken.Again (stale fresh : Int) : Taken → Prop
  | .bytes n => n = 0 ∧ tryAgain stale = true
  | .failed => tryAgain fresh = true

/-- `recv`, `read` or `SSL_read` delivers nothing. -/
def Given.Refused : Given → Prop
  | .bytes data => data = []
  | .failed => True

/-- It is to be tried again, by the `errno` the test sees. -/
def Given.Again (stale fresh : Int) : Given → Prop
  | .bytes data => data = [] ∧ tryAgain stale = true
  | .failed => tryAgain fresh = true

/-- The call a slot waits to make is to be made again, or a handshake has no SSL object to make it on. -/
def HeldUp (errno : Int) (conn : ConnectionOf κ) (io : Io) : Prop :=
  match conn.state with
  | .proxyConnect => io.send.Again errno io.errno
  | .proxyResponse => io.recv.Again errno io.errno
  | .tlsHandshake => conn.ssl = none ∨ io.sslConnect ≠ 1 ∧ io.sslGetError.wants = true
  | .sending =>
    if conn.isHttps then io.sslWrite.Refused ∧ io.sslGetError.wants = true
    else io.send = .failed ∧ tryAgain io.errno = true
  | .receiving =>
    if conn.isHttps then io.sslRead.Refused ∧ io.sslGetError.wants = true
    else io.read = .failed ∧ tryAgain io.errno = true
  | .idle | .connecting | .completed | .error => False

/-- The mask has nothing a slot waits for, or the slot is held up. -/
def Stalls (mask : BitVec 16) (errno : Int) (conn : ConnectionOf κ) (io : Io) : Prop :=
  anyBit mask (Poll.pollEvents conn.state) = false ∨ HeldUp errno conn io

namespace Taken

variable {len : Nat} {taken : Taken}

end Taken

namespace Given

variable {room : Nat} {given : Given}

end Given

/-! ## The cases of `bench_poll.c` -/

namespace Poll

variable {conn : Connection} {args : Arguments} {sys : Sys} {errno : Int} {revents : BitVec 16} {io : Io}

end Poll

/-! ## The cases of `bench_epoll.c` -/

namespace Epoll

variable {conn : Connection} {args : Arguments} {sys : Sys} {errno : Int} {ev : BitVec 32} {io : Io}

end Epoll

/-! ## The cases of `bench_select.c` -/

namespace Select

variable {conn : WebBench.Connection} {args : Arguments} {sys : Sys} {errno : Int} {fds : FdSets} {io : Io}

end Select

/-! ## Runs -/

namespace Driver.Paces

variable [DecidableEq κ] {d : Driver κ ρ} {args : Arguments} {request : HTTPRequest} {job : Job}
  {rep : ConnectionOf κ → Phase → Prop} {count : Nat → κ} {paid : Move κ → Bool}
  {good : Sys → Int → ConnectionOf κ → ρ → Io → Prop}

/-- What every handler call that meets the condition guarantees holds of the slot's whole history. -/
theorem each_move (law : d.Paces args request job rep count paid) {kept : Move κ → Prop} {slot : Slot κ}
    (reached : d.SlotReachableWhere args request good slot)
    (step : ∀ conn p, rep conn p → p.active → ∀ sys errno mask io, good sys errno conn mask io →
      kept ⟨conn, (d.handleReadyConnection args sys errno conn mask io).conn⟩) : ∀ move ∈ slot.moves, kept move := by
  induction reached with
  | start first =>
    obtain ⟨sys, addresses, raw, allowed⟩ := first
    exact fun move none => absurd none List.not_mem_nil
  | next before taken ih =>
    cases taken with
    | recycle finished sys addresses => exact ih
    | ready pollable sys errno mask io meets =>
      obtain ⟨p, -, record⟩ := law.follows.tracks (Driver.SlotReachableWhere.reachable before)
      have waits : p.active := (congrArg ConnState.pollable (law.follows.state _ _ record)).symm.trans pollable
      intro move member
      rcases List.mem_append.mp member with old | new
      · exact ih move old
      · exact (List.mem_singleton.mp new) ▸ step _ p record waits sys errno mask io meets

/-- **A slot that is never held up ends its cycles.** -/
theorem live (law : d.Paces args request job rep count paid) {counted : Move κ → Bool} {slot : Slot κ}
    (reached : d.SlotReachableWhere args request good slot)
    (step : ∀ conn p, rep conn p → p.active → ∀ sys errno mask io, good sys errno conn mask io →
      counted ⟨conn, (d.handleReadyConnection args sys errno conn mask io).conn⟩ = true →
      paid ⟨conn, (d.handleReadyConnection args sys errno conn mask io).conn⟩ = true) :
    slot.moves.countP counted ≤ job.top * (slot.moves.countP Move.ends + 1) := by
  have charged : ∀ move ∈ slot.moves, counted move = true → paid move = true := law.each_move reached step
  calc slot.moves.countP counted
      ≤ slot.moves.countP paid := List.countP_mono_left charged
    _ ≤ job.top * (slot.moves.countP Move.ends + 1) := law.served (Driver.SlotReachableWhere.reachable reached)

end Driver.Paces

/-- A handler call of `bench_poll` with the mask `poll` has written. -/
def Poll.Stalls (_sys : Sys) (errno : Int) (conn : Connection) (revents : BitVec 16) (io : Io) : Prop :=
  WebBench.Stalls revents errno conn io

/-- A handler call of `bench_select` with the sets `select` has left. -/
def Select.Stalls (_sys : Sys) (errno : Int) (conn : Select.Connection) (fds : Select.FdSets) (io : Io) : Prop :=
  WebBench.Stalls (Select.pollMask conn.sockfd fds) errno conn io

/-- A handler call of `bench_epoll` with an event of the entry it removes first. -/
def Epoll.Stalls (sys : Sys) (errno : Int) (conn : Connection) (ev : BitVec 32) (io : Io) : Prop :=
  (sys.epoll conn.sockfd).isSome = false ∨ WebBench.Stalls (Epoll.pollMask ev) errno conn io

end WebBench
