import WebBench.Bitmap
import WebBench.Slot
import WebBench.Poll.Handler

/-!
# `bench_poll.c`: the set-up pass, the dispatch loop and the engine

`setup_connection_fdsets` compacts the slots that wait for their descriptor into
the array `poll` reads and marks their indices in a bitmap; the dispatch loop of
`bench_poll` walks the slots and the compacted array with two cursors.
-/

namespace WebBench.Poll
set_option autoImplicit false
open CLib

/-- The functions of `bench_poll.c` on one record. The array comes from
`malloc`, so it may hold anything. -/
def driver : Driver Nat (BitVec 16) where
  initConnection := initConnection
  allocateSocket := allocateSocket
  cleanupConnection := cleanupConnection
  handleReadyConnection := handleReadyConnection
  raw := fun _ => True

/-- `struct pollfd`. -/
structure PollFd where
  fd : Int
  events : BitVec 16
  revents : BitVec 16
  deriving DecidableEq, Repr

/-- `sizeof(char *)`. -/
def sizeofPointer : Int := 8

/-- `char` is signed. -/
def charSigned : Bool := true

/-- An `int` passed as `unsigned short`. -/
def ushort (i : Nat) : Nat := i % 2 ^ 16

/-- What the switch of `setup_connection_fdsets` registers for a state: the
events, and the size it gives to `set_bitmap`. -/
def registration (bitmapSize : Int) : ConnState → Option (BitVec 16 × Int)
  | .connecting | .sending | .proxyConnect => some (pollout, bitmapSize)
  | .receiving | .proxyResponse => some (pollin, bitmapSize)
  | .tlsHandshake => some (pollin ||| pollout, sizeofPointer)
  | .error | .completed | .idle => none

/-- What `setup_connection_fdsets` leaves behind. -/
structure Setup where
  ret : Int
  slots : List (Slot Nat)
  sys : Sys
  pollfds : List PollFd
  bitmap : List Byte

/-- The pass has left `slot` behind. -/
def Setup.after (slot : Slot Nat) (rest : Setup) : Setup := { rest with slots := slot :: rest.slots }

/-- The loop of `setup_connection_fdsets` from index `i` on. -/
def setupLoop (args : Arguments) (addresses : Nat → Option (List Address)) (bitmapSize : Int) :
    Nat → List (Slot Nat) → Sys → Int → List PollFd → List Byte → Setup
  | _, [], sys, num, fds, bitmap => ⟨num, [], sys, fds, bitmap⟩
  | i, slot :: rest, sys, num, fds, bitmap =>
    match registration bitmapSize slot.conn.state with
    | some (events, size) =>
      let (ret, bitmap) := setBitmap charSigned (ushort i) bitmap size
      if ret < 0 then ⟨-1, slot :: rest, sys, fds, bitmap⟩
      else (setupLoop args addresses bitmapSize (i + 1) rest sys (num + 1)
        (fds ++ [⟨slot.conn.sockfd, events, 0⟩]) bitmap).after slot
    | none =>
      if slot.conn.state = .idle then
        (setupLoop args addresses bitmapSize (i + 1) rest sys num fds bitmap).after slot
      else
        let (slot, sys) := driver.recycle args sys (addresses i) slot
        (setupLoop args addresses bitmapSize (i + 1) rest sys num fds bitmap).after slot

/-- `setup_connection_fdsets`. -/
def setupConnectionFdsets (args : Arguments) (addresses : Nat → Option (List Address)) (slots : List (Slot Nat))
    (sys : Sys) (bitmap : List Byte) (bitmapSize : Int) : Setup :=
  if (slots.head?.map (·.conn.sockfd)).getD (-1) < 0 then ⟨-1, slots, sys, [], bitmap⟩
  else if bitmapSize ≤ 0 then ⟨-1, slots, sys, [], bitmap⟩
  else setupLoop args addresses bitmapSize 0 slots sys 0 [] bitmap

/-- What the dispatch loop leaves behind; `handled` lists its handler calls. -/
structure Dispatch where
  slots : List (Slot Nat)
  sys : Sys
  handled : List (Nat × PollFd)

/-- The dispatch loop of `bench_poll` from index `i` on. Past the last entry the
pass wrote there is nothing to read. -/
def dispatch (args : Arguments) (answers : Nat → Answers) (bitmap : List Byte) (bitmapSize : Int) :
    Nat → List (Slot Nat) → List PollFd → Sys → Dispatch
  | _, [], _, sys => ⟨[], sys, []⟩
  | i, slot :: rest, fds, sys =>
    if getBitmap charSigned (ushort i) bitmap bitmapSize ≠ 0 then
      match fds with
      | [] => ⟨slot :: rest, sys, []⟩
      | fd :: fds =>
        let (slot, sys) := driver.ready args sys (answers i).errno fd.revents (answers i).io slot
        let d := dispatch args answers bitmap bitmapSize (i + 1) rest fds sys
        ⟨slot :: d.slots, d.sys, (i, fd) :: d.handled⟩
    else
      let d := dispatch args answers bitmap bitmapSize (i + 1) rest fds sys
      ⟨slot :: d.slots, d.sys, d.handled⟩

/-! ## The engine -/

/-- `MAX_CONNECTIONS`. -/
def maxConnections : Int := 1000

/-- `num_connections`. -/
def numConnections (args : Arguments) : Nat := (min args.clients maxConnections).toNat

/-- `bitmap_size`. -/
def bitmapSizeOf (n : Nat) : Nat := if n % 8 ≠ 0 then n / 8 + 1 else n / 8

/-- `poll` writes `revents` into the entries it was given. -/
def written (revents : Nat → BitVec 16) (fds : List PollFd) : List PollFd :=
  fds.mapIdx fun j fd => { fd with revents := revents j }

/-- The slot table and the state shared by the slots. -/
structure World where
  slots : List (Slot Nat)
  sys : Sys

/-- The loop that initialises the connections. -/
def openAll (args : Arguments) (request : HTTPRequest) (addresses : Nat → Option (List Address))
    (raw : Nat → Connection) : Nat → Nat → Sys → World
  | _, 0, sys => ⟨[], sys⟩
  | i, k + 1, sys =>
    let (slot, sys) := driver.fresh args request sys (addresses i) (raw i)
    let w := openAll args request addresses raw (i + 1) k sys
    ⟨slot :: w.slots, w.sys⟩

/-- The set-up pass as `bench_poll` calls it. -/
def setupPass (args : Arguments) (addresses : Nat → Option (List Address)) (w : World) : Setup :=
  let size := bitmapSizeOf w.slots.length
  setupConnectionFdsets args addresses w.slots w.sys (List.replicate size 0) size

/-- The dispatch loop as `bench_poll` calls it after `poll` has written `revents`. -/
def dispatchPass (args : Arguments) (answers : Nat → Answers) (revents : Nat → BitVec 16) (pass : Setup) :
    Dispatch :=
  dispatch args answers pass.bitmap (bitmapSizeOf pass.slots.length) 0 pass.slots (written revents pass.pollfds)
    pass.sys

/-- The table before the first iteration of the main loop. -/
inductive Init (args : Arguments) (request : HTTPRequest) : World → Prop
  | openAll (addresses : Nat → Option (List Address)) (raw : Nat → Connection) :
      Init args request (openAll args request addresses raw 0 (numConnections args) .initial)

/-- One iteration of the main loop: a set-up pass, and a dispatch if `poll` reports something. -/
inductive Step (args : Arguments) : World → World → Prop
  | quiet (w : World) (addresses : Nat → Option (List Address)) :
      Step args w ⟨(setupPass args addresses w).slots, (setupPass args addresses w).sys⟩
  | ready (w : World) (addresses : Nat → Option (List Address)) (answers : Nat → Answers)
      (revents : Nat → BitVec 16) (some : 0 < (setupPass args addresses w).ret) :
      Step args w
        ⟨(dispatchPass args answers revents (setupPass args addresses w)).slots,
          (dispatchPass args answers revents (setupPass args addresses w)).sys⟩

/-- The worlds of any run of `bench_poll`. -/
abbrev Run (args : Arguments) (request : HTTPRequest) : World → Prop :=
  Reachable (Init args request) (Step args)

/-- The totals of the summary loop: failed, speed and bytes. -/
def totals (w : World) : Int × Int × Int :=
  ((w.slots.map (·.conn.failed)).sum, (w.slots.map (·.conn.speed)).sum, (w.slots.map (·.conn.bytes)).sum)

end WebBench.Poll
