import WebBench.Slot
import WebBench.Epoll.Handler

/-!
# `bench_epoll.c`: the set-up pass and the engine

Each pass of `setup_connection_to_epoll_instance` adds the slots that wait for
their descriptor to the epoll instance, with the slot's address as user data;
`epoll_wait` reports and disarms entries, and the handler of each event removes
its entry first.
-/

namespace WebBench.Epoll
set_option autoImplicit false
open CLib

/-- The functions of `bench_epoll.c` on one record. The array comes from `calloc`. -/
def driver : Driver Nat (BitVec 32) where
  initConnection := initConnection
  allocateSocket := allocateSocket
  cleanupConnection := cleanupConnection
  handleReadyConnection := handleReadyConnection
  raw := (· = .zero 0)

/-- The events the switch of `setup_connection_to_epoll_instance` asks for. -/
def registration : ConnState → Option (BitVec 32)
  | .connecting | .sending | .proxyConnect => some (epollout ||| epollet)
  | .receiving | .proxyResponse => some (epollin ||| epollet)
  | .tlsHandshake => some (epollin ||| epollout ||| epollet)
  | .error | .completed | .idle => none

/-- What `setup_connection_to_epoll_instance` leaves behind. -/
structure Setup where
  ret : Int
  slots : List (Slot Nat)
  sys : Sys

/-- The pass has left `slot` behind. -/
def Setup.after (slot : Slot Nat) (rest : Setup) : Setup := { rest with slots := slot :: rest.slots }

/-- The loop of `setup_connection_to_epoll_instance` from index `i` on. -/
def setupLoop (args : Arguments) (addresses : Nat → Option (List Address)) (full : Nat → Bool) :
    Nat → List (Slot Nat) → Sys → Int → Setup
  | _, [], sys, num => ⟨num, [], sys⟩
  | i, slot :: rest, sys, num =>
    match registration slot.conn.state with
    | some events =>
      let (ret, errno, sys) := sys.epollAdd slot.conn.sockfd ⟨events, i, true⟩ (full i)
      if ret = -1 ∧ errno ≠ eexist then ⟨-1, slot :: rest, sys⟩
      else (setupLoop args addresses full (i + 1) rest sys (num + 1)).after slot
    | none =>
      if slot.conn.state = .idle then (setupLoop args addresses full (i + 1) rest sys num).after slot
      else
        let (slot, sys) := driver.recycle args sys (addresses i) slot
        (setupLoop args addresses full (i + 1) rest sys num).after slot

/-- `setup_connection_to_epoll_instance`. -/
def setupConnectionToEpollInstance (args : Arguments) (addresses : Nat → Option (List Address)) (full : Nat → Bool)
    (slots : List (Slot Nat)) (sys : Sys) : Setup :=
  if (slots.head?.map (·.conn.sockfd)).getD (-1) < 0 then ⟨-1, slots, sys⟩
  else setupLoop args addresses full 0 slots sys 0

/-! ## The engine -/

/-- `struct epoll_event`, its user data the index of a slot. -/
structure EpollEvent where
  slot : Nat
  events : BitVec 32
  deriving DecidableEq, Repr

/-- `MAX_CONNECTIONS`. -/
def maxConnections : Int := 1000

/-- `num_connections`. -/
def numConnections (args : Arguments) : Nat := (min args.clients maxConnections).toNat

/-- Where the main loop is: before a pass, before `epoll_wait`, among the events it reported, or left. -/
inductive Loop where
  | pass
  | wait (activeFds : Int)
  | events (left : List EpollEvent)
  | left
  deriving DecidableEq, Repr

/-- The slot table, the state shared by the slots, and the place in the main loop. -/
structure World where
  slots : List (Slot Nat)
  sys : Sys
  loop : Loop

/-- The loop that initialises the connections. -/
def openAll (args : Arguments) (request : HTTPRequest) (addresses : Nat → Option (List Address)) :
    Nat → Nat → Sys → List (Slot Nat) × Sys
  | _, 0, sys => ([], sys)
  | i, k + 1, sys =>
    let (slot, sys) := driver.fresh args request sys (addresses i) (.zero 0)
    let (slots, sys) := openAll args request addresses (i + 1) k sys
    (slot :: slots, sys)

/-- What `epoll_wait` may report of the entry of `fd`: an edge not reported yet, with the entry's user data. -/
def Reports (sys : Sys) (fd : Int) (event : EpollEvent) : Prop :=
  ∃ entry, sys.epoll fd = some entry ∧ entry.armed = true ∧ event.slot = entry.slot

/-- The table before the first iteration of the main loop. -/
inductive Init (args : Arguments) (request : HTTPRequest) : World → Prop
  | openAll (addresses : Nat → Option (List Address)) :
      Init args request ⟨(openAll args request addresses 0 (numConnections args) .initial).1,
        (openAll args request addresses 0 (numConnections args) .initial).2, .pass⟩

/-- Where the main loop goes with the count of a pass. -/
def afterPass (activeFds : Int) : Loop :=
  if activeFds < 0 then .left else if activeFds = 0 then .pass else .wait activeFds

/-- The steps of the main loop: a pass, its end, an `epoll_wait` that fails or
reports events of distinct descriptors, and the handler of the next event. -/
inductive Step (args : Arguments) : World → World → Prop
  | pass (slots : List (Slot Nat)) (sys : Sys) (addresses : Nat → Option (List Address)) (full : Nat → Bool) :
      Step args ⟨slots, sys, .pass⟩
        ⟨(setupConnectionToEpollInstance args addresses full slots sys).slots,
          (setupConnectionToEpollInstance args addresses full slots sys).sys,
          afterPass (setupConnectionToEpollInstance args addresses full slots sys).ret⟩
  | timeUp (slots : List (Slot Nat)) (sys : Sys) : Step args ⟨slots, sys, .pass⟩ ⟨slots, sys, .left⟩
  | waitFailed (slots : List (Slot Nat)) (sys : Sys) (activeFds : Int) :
      Step args ⟨slots, sys, .wait activeFds⟩ ⟨slots, sys, .left⟩
  | wait (slots : List (Slot Nat)) (sys : Sys) (activeFds : Int) (fds : List Int) (events : List EpollEvent)
      (distinct : fds.Nodup) (reported : List.Forall₂ (Reports sys) fds events) (most : events.length ≤ activeFds) :
      Step args ⟨slots, sys, .wait activeFds⟩ ⟨slots, sys.disarm fds, .events events⟩
  | handle (slots : List (Slot Nat)) (sys : Sys) (event : EpollEvent) (rest : List EpollEvent) (slot : Slot Nat)
      (here : slots[event.slot]? = some slot) (answers : Answers) :
      Step args ⟨slots, sys, .events (event :: rest)⟩
        ⟨slots.set event.slot (driver.ready args sys answers.errno event.events answers.io slot).1,
          (driver.ready args sys answers.errno event.events answers.io slot).2, .events rest⟩
  | again (slots : List (Slot Nat)) (sys : Sys) : Step args ⟨slots, sys, .events []⟩ ⟨slots, sys, .pass⟩

/-- The worlds of any run of `bench_epoll`. -/
abbrev Run (args : Arguments) (request : HTTPRequest) : World → Prop :=
  Reachable (Init args request) (Step args)

/-- The totals of the summary loop: failed, speed and bytes. -/
def totals (w : World) : Int × Int × Int :=
  ((w.slots.map (·.conn.failed)).sum, (w.slots.map (·.conn.speed)).sum, (w.slots.map (·.conn.bytes)).sum)

end WebBench.Epoll
