import WebBench.Slot
import WebBench.Select.Handler

/-!
# `bench_select.c`: the set-up of the descriptor sets and the engine

Each iteration recycles the slots whose cycle is over, fills the two descriptor
sets, and calls the handler on every slot once `select` has left the ready
descriptors in the sets. A failing `allocate_socket` ends the process.
-/

namespace WebBench.Select
set_option autoImplicit false
open CLib

/-- The functions of `bench_select.c` on one record. The array comes from
`malloc`, so it may hold anything. -/
def driver : Driver Int FdSets where
  initConnection := initConnection
  allocateSocket := allocateSocket
  cleanupConnection := cleanupConnection
  handleReadyConnection := handleReadyConnection
  raw := fun _ => True

/-- `FD_SET`. -/
def fdSet (fd : Int) (set : FdSet) : FdSet := fd :: set

/-- `setup_connection_fdsets`: the sets and `max_fd`. -/
def setupConnectionFdsets (conn : Connection) (fds : FdSets) (maxFd : Int) : FdSets × Int :=
  if conn.sockfd ≤ 0 then (fds, maxFd)
  else
    let max := if maxFd < conn.sockfd then conn.sockfd else maxFd
    match conn.state with
    | .connecting | .sending | .proxyConnect => ({ fds with write := fdSet conn.sockfd fds.write }, max)
    | .tlsHandshake =>
      (if conn.ssl.isSome then ⟨fdSet conn.sockfd fds.read, fdSet conn.sockfd fds.write⟩ else fds, max)
    | .receiving | .proxyResponse => ({ fds with read := fdSet conn.sockfd fds.read }, max)
    | .idle | .completed | .error => (fds, maxFd)

/-- What the set-up loop leaves behind. -/
structure Setup where
  slots : List (Slot Int)
  sys : Sys
  fds : FdSets
  maxFd : Int

/-- The pass has left `slot` behind. -/
def Setup.after (slot : Slot Int) (rest : Setup) : Setup := { rest with slots := slot :: rest.slots }

/-- The set-up loop of `bench_select` from index `i` on; `none` is `exit(EXIT_FAILURE)`. -/
def setupLoop (args : Arguments) (addresses : Nat → Option (List Address)) :
    Nat → List (Slot Int) → Sys → FdSets → Int → Option Setup
  | _, [], sys, fds, maxFd => some ⟨[], sys, fds, maxFd⟩
  | i, slot :: rest, sys, fds, maxFd =>
    if slot.conn.state = .completed ∨ slot.conn.state = .error then
      let (slot, sys) := driver.recycle args sys (addresses i) slot
      if slot.conn.sockfd < 0 then none
      else
        let (fds, maxFd) := setupConnectionFdsets slot.conn fds maxFd
        (setupLoop args addresses (i + 1) rest sys fds maxFd).map (·.after slot)
    else
      let (fds, maxFd) := setupConnectionFdsets slot.conn fds maxFd
      (setupLoop args addresses (i + 1) rest sys fds maxFd).map (·.after slot)

/-- The dispatch loop of `bench_select` from index `i` on. -/
def dispatch (args : Arguments) (answers : Nat → Answers) (ready : FdSets) :
    Nat → List (Slot Int) → Sys → List (Slot Int) × Sys
  | _, [], sys => ([], sys)
  | i, slot :: rest, sys =>
    let (slot, sys) := driver.ready args sys (answers i).errno ready (answers i).io slot
    let (slots, sys) := dispatch args answers ready (i + 1) rest sys
    (slot :: slots, sys)

/-! ## The engine -/

/-- `FD_SETSIZE`. -/
def fdSetSize : Int := 1024

/-- `num_connections`. -/
def numConnections (args : Arguments) : Nat :=
  (if fdSetSize ≤ args.clients then fdSetSize - 1 else args.clients).toNat

/-- The slot table, the state shared by the slots, and `max_fd`. -/
structure World where
  slots : List (Slot Int)
  sys : Sys
  maxFd : Int

/-- The loop that initialises the connections; `none` is `exit(EXIT_FAILURE)`. -/
def openAll (args : Arguments) (request : HTTPRequest) (addresses : Nat → Option (List Address))
    (raw : Nat → Connection) : Nat → Nat → Sys → Option (List (Slot Int) × Sys)
  | _, 0, sys => some ([], sys)
  | i, k + 1, sys =>
    let (slot, sys) := driver.fresh args request sys (addresses i) (raw i)
    if slot.conn.sockfd < 0 then none
    else (openAll args request addresses raw (i + 1) k sys).map fun (slots, sys) => (slot :: slots, sys)

/-- The set-up loop as `bench_select` runs it. -/
def setupPass (args : Arguments) (addresses : Nat → Option (List Address)) (w : World) : Option Setup :=
  setupLoop args addresses 0 w.slots w.sys ⟨[], []⟩ w.maxFd

/-- What `select` may leave in the sets. -/
def Selects (fds ready : FdSets) : Prop := ready.read ⊆ fds.read ∧ ready.write ⊆ fds.write

/-- The table before the first iteration of the main loop. -/
inductive Init (args : Arguments) (request : HTTPRequest) : World → Prop
  | openAll (addresses : Nat → Option (List Address)) (raw : Nat → Connection) {slots : List (Slot Int)} {sys : Sys}
      (opened : openAll args request addresses raw 0 (numConnections args) .initial = some (slots, sys)) :
      Init args request ⟨slots, sys, 0⟩

/-- One iteration of the main loop: a set-up pass, and a dispatch if `select` reports something. -/
inductive Step (args : Arguments) : World → World → Prop
  | quiet (w : World) (addresses : Nat → Option (List Address)) {r : Setup} (pass : setupPass args addresses w = some r) :
      Step args w ⟨r.slots, r.sys, r.maxFd⟩
  | ready (w : World) (addresses : Nat → Option (List Address)) {r : Setup} (pass : setupPass args addresses w = some r)
      (watched : 0 < r.maxFd) (answers : Nat → Answers) (fds : FdSets) (selected : Selects r.fds fds) :
      Step args w ⟨(dispatch args answers fds 0 r.slots r.sys).1, (dispatch args answers fds 0 r.slots r.sys).2, r.maxFd⟩

/-- The worlds of any run of `bench_select`. -/
abbrev Run (args : Arguments) (request : HTTPRequest) : World → Prop :=
  Reachable (Init args request) (Step args)

/-- The totals of the summary loop: failed, speed and bytes. -/
def totals (w : World) : Int × Int × Int :=
  ((w.slots.map (·.conn.failed)).sum, (w.slots.map (·.conn.speed)).sum, (w.slots.map (·.conn.bytes)).sum)

end WebBench.Select
