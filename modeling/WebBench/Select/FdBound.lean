import WebBench.ConnectLoop
import WebBench.Descriptors
import WebBench.Lib.LowestFree
import WebBench.Lib.Ownership
import WebBench.Select.Runs

/-!
# Descriptors and `FD_SETSIZE`

An `fd_set` has room for the descriptors below `FD_SETSIZE`. `bench_select`
bounds the number of its connections, not their descriptors. The kernel gives
each socket the lowest free number, with 0, 1 and 2 taken, so it is the number
of open sockets that says how far the descriptors reach.
-/

namespace WebBench.Select
set_option autoImplicit false
open CLib

/-! ## A kernel that gives the lowest free number -/

/-- The first number that is not one of the standard streams. -/
def firstFd : Int := 3

/-- `socket()` fails or gives the lowest free number, `connect()` returns 0 or -1. Each
attempt but the last is closed before the next, so they all find the same numbers in use. -/
structure LowestAnswers (opened : List Int) (addresses : Option (List Address)) : Prop where
  socket : ∀ list ∈ addresses, ∀ address ∈ list, address.socket = -1 ∨ LowestFree firstFd opened address.socket
  connect : ∀ list ∈ addresses, ∀ address ∈ list, address.connect = 0 ∨ address.connect = -1

section Kernel

variable (args : Arguments) (request : HTTPRequest) (addresses : Nat → Option (List Address))

/-- The kernel's answers to the loop that initialises the connections. -/
def LowestOpens (raw : Nat → Connection) : Nat → Nat → Sys → Prop
  | _, 0, _ => True
  | i, k + 1, sys =>
    LowestAnswers sys.opened (addresses i) ∧
      LowestOpens raw (i + 1) k (driver.fresh args request sys (addresses i) (raw i)).2

/-- The kernel's answers to the set-up loop. -/
def LowestPass : Nat → List (Slot Int) → Sys → Prop
  | _, [], _ => True
  | i, slot :: rest, sys =>
    if slot.conn.state = .completed ∨ slot.conn.state = .error then
      LowestAnswers (cleanupConnection slot.conn sys).2.opened (addresses i) ∧
        LowestPass (i + 1) rest (driver.recycle args sys (addresses i) slot).2
    else LowestPass (i + 1) rest sys

end Kernel

/-- The start-up with such a kernel. -/
inductive InitLowest (args : Arguments) (request : HTTPRequest) : World → Prop
  | openAll (addresses : Nat → Option (List Address)) (raw : Nat → Connection)
      (lowest : LowestOpens args request addresses raw 0 (numConnections args) .initial) {slots : List (Slot Int)}
      {sys : Sys} (opened : openAll args request addresses raw 0 (numConnections args) .initial = some (slots, sys)) :
      InitLowest args request ⟨slots, sys, 0⟩

/-- One iteration of the main loop with such a kernel. -/
inductive StepLowest (args : Arguments) : World → World → Prop
  | quiet (w : World) (addresses : Nat → Option (List Address)) (lowest : LowestPass args addresses 0 w.slots w.sys)
      {r : Setup} (pass : setupPass args addresses w = some r) : StepLowest args w ⟨r.slots, r.sys, r.maxFd⟩
  | ready (w : World) (addresses : Nat → Option (List Address)) (lowest : LowestPass args addresses 0 w.slots w.sys)
      {r : Setup} (pass : setupPass args addresses w = some r) (watched : 0 < r.maxFd) (answers : Nat → Answers)
      (fds : FdSets) (selected : Selects r.fds fds) :
      StepLowest args w
        ⟨(dispatch args answers fds 0 r.slots r.sys).1, (dispatch args answers fds 0 r.slots r.sys).2, r.maxFd⟩

/-- The worlds of the runs with such a kernel. -/
abbrev RunLowest (args : Arguments) (request : HTTPRequest) : World → Prop :=
  Reachable (InitLowest args request) (StepLowest args)

/-- The descriptors passed to `FD_SET` by the iterations that have led to `r`, and those the
handler then passes to `FD_ISSET`, fit into a set. -/
structure FitsSet (r : Setup) : Prop where
  set : ∀ fd ∈ r.fds.read ++ r.fds.write, fd < fdSetSize
  isSet : ∀ slot ∈ r.slots, slot.conn.sockfd < fdSetSize

/-! ## Numbers in use -/

/-- Open are exactly `fds`, one each, and none is beyond the reach of `n` sockets. -/
structure Numbered (n : Nat) (opened fds : List Int) : Prop where
  exact : opened.Perm fds
  once : opened.Nodup
  lower : ∀ fd ∈ opened, firstFd ≤ fd
  upper : ∀ fd ∈ opened, fd < firstFd + n

namespace Numbered

variable {n : Nat} {opened fds others : List Int} {fd : Int}

/-- The order of the numbers is nothing to it. -/
theorem reorder (numbered : Numbered n opened fds) (same : fds.Perm others) : Numbered n opened others :=
  { numbered with exact := numbered.exact.trans same }

theorem mem (numbered : Numbered n opened (fd :: others)) : fd ∈ opened :=
  numbered.exact.mem_iff.mpr List.mem_cons_self

/-- One number less is open. -/
theorem close (numbered : Numbered n opened (fd :: others)) : Numbered n (opened.filter (· ≠ fd)) others := by
  have held : opened.Perm ((some fd).toList ++ others) := numbered.exact
  obtain ⟨exact', once⟩ := Owned.swap_perm numbered.once held (.release fd)
  exact ⟨exact', once, fun other member => numbered.lower other (List.mem_of_mem_filter member),
    fun other member => numbered.upper other (List.mem_of_mem_filter member)⟩

/-- **The next number.** With fewer than `n` sockets open the new one is within reach. -/
theorem open' (numbered : Numbered n opened others) (lowest : LowestFree firstFd opened fd) (room : others.length < n) :
    Numbered n (fd :: opened) (fd :: others) := by
  have count := numbered.exact.length_eq
  have bound := lowest.le_length
  refine ⟨numbered.exact.cons fd, List.nodup_cons.mpr ⟨lowest.fresh, numbered.once⟩, ?_, ?_⟩
  · intro other member
    rcases List.mem_cons.mp member with rfl | old
    · exact lowest.first_le
    · exact numbered.lower other old
  · intro other member
    rcases List.mem_cons.mp member with rfl | old
    · omega
    · exact numbered.upper other old

end Numbered

/-! ## One slot -/

section Slot

variable {args : Arguments} {sys : Sys} {addresses : Option (List Address)}

/-- The search opens one socket or none, and the one it opens has the lowest free number. -/
theorem createNonblockingSocket_lowest (host : List Byte) (port : Int) (lowest : LowestAnswers sys.opened addresses) :
    (createNonblockingSocket host port addresses sys).1 < 0 ∨
      LowestFree firstFd sys.opened (createNonblockingSocket host port addresses sys).1 ∧
        (createNonblockingSocket host port addresses sys).2.1.opened =
          (createNonblockingSocket host port addresses sys).1 :: sys.opened := by
  unfold createNonblockingSocket WebBench.createNonblockingSocket
  split
  · exact .inl (show (-1 : Int) < 0 by decide)
  cases addresses with
  | none => exact .inl (show (-1 : Int) < 0 by decide)
  | some list =>
    have answers : ∀ address ∈ list, address.Answers sys.opened := fun address member => {
      socket := (lowest.socket list rfl address member).imp_right fun free =>
        ⟨Int.lt_of_lt_of_le (by decide) free.first_le, free.fresh⟩
      connect := lowest.connect list rfl address member }
    have picks : PicksFirst list sys [] (connectLoop (· == -1) list sys) :=
      connectLoop_picks rfl (fun fd positive => by simp; omega) answers
    dsimp only
    rw [picks.result, picks.opened]
    cases found : list.find? Address.usable with
    | none => exact .inl (show (-1 : Int) < 0 by decide)
    | some address =>
      have usable := List.find?_some found
      rcases lowest.socket list rfl address (List.mem_of_find?_eq_some found) with failed | free
      · simp [Address.usable, failed] at usable
      · exact .inr ⟨free, rfl⟩

/-- A socket that `allocate_socket` opens has the lowest free number, and is open from then on. -/
theorem allocateSocket_lowest (conn : Connection) (lowest : LowestAnswers sys.opened addresses)
    (socket : ¬ (allocateSocket args sys addresses conn).conn.sockfd < 0) :
    LowestFree firstFd sys.opened (allocateSocket args sys addresses conn).conn.sockfd ∧
      (allocateSocket args sys addresses conn).sys.opened =
        (allocateSocket args sys addresses conn).conn.sockfd :: sys.opened := by
  have either : ∀ p : Prop, [Decidable p] → ∀ o, o = (if p then
      createNonblockingSocket args.proxyHost.bytes args.proxyPort addresses sys
      else createNonblockingSocket args.targetHost.bytes args.targetPort addresses sys) →
      o.1 < 0 ∨ LowestFree firstFd sys.opened o.1 ∧ o.2.1.opened = o.1 :: sys.opened := by
    rintro p _ _ rfl
    split
    · exact createNonblockingSocket_lowest _ _ lowest
    · exact createNonblockingSocket_lowest _ _ lowest
  have created := either (needConnectProxy args = true) _ rfl
  unfold allocateSocket at socket ⊢
  generalize (if needConnectProxy args = true then _ else _ : Int × Sys × List Call) = opened at socket created ⊢
  obtain ⟨sockfd, sys', calls⟩ := opened
  dsimp only at socket created ⊢
  split
  · rename_i closed
    rw [if_pos closed] at socket
    exact absurd closed socket
  · rename_i kept
    exact created.resolve_left kept

/-- `cleanup_connection` closes the one descriptor. -/
theorem cleanupConnection_opened (conn : Connection) (sys : Sys) (socket : 0 < conn.sockfd) :
    (cleanupConnection conn sys).2.opened = sys.opened.filter (· ≠ conn.sockfd) := by
  unfold cleanupConnection
  dsimp only
  rw [if_pos socket]
  cases conn.ssl with
  | none => rfl
  | some ssl => rfl

/-- The handler opens and closes nothing, and the record keeps its descriptor. -/
structure Keeps (sys : Sys) (conn : Connection) (o : Outcome Int) : Prop where
  opened : o.sys.opened = sys.opened
  sockfd : o.conn.sockfd = conn.sockfd

theorem Keeps.ite {sys : Sys} {conn : Connection} {o o' : Outcome Int} {c : Prop} [Decidable c] (yes : Keeps sys conn o)
    (no : Keeps sys conn o') : Keeps sys conn (if c then o else o') := by
  split
  · exact yes
  · exact no

/-- What the SSL set-up leaves open. -/
theorem secured_opened (sys : Sys) (io : Io) :
    (getGlobalSslCtx sys io).2.1.opened = sys.opened ∧
      ((getGlobalSslCtx sys io).2.1.sslNew io.sslNew).2.opened = sys.opened := by
  have context := (getGlobalSslCtx_still sys io).1
  exact ⟨context, (sslNew_still _ io.sslNew).1.trans context⟩

theorem whenConnecting_keeps (args : Arguments) (sys : Sys) (conn : Connection) (fds : FdSets) (io : Io) :
    Keeps sys conn (whenConnecting args sys conn fds io) := by
  obtain ⟨context, object⟩ := secured_opened sys io
  unfold whenConnecting
  generalize getGlobalSslCtx sys io = got at context object ⊢
  obtain ⟨ctx, sys', calls⟩ := got
  dsimp only at context object ⊢
  generalize sys'.sslNew io.sslNew = made at object ⊢
  obtain ⟨ssl, sys''⟩ := made
  repeat' split
  all_goals first
    | exact ⟨rfl, rfl⟩
    | exact ⟨context, rfl⟩
    | exact ⟨object, rfl⟩

theorem handleProxyResponse_keeps (sys : Sys) (errno : Int) (conn : Connection) (io : Io) :
    (handleProxyResponse sys errno conn io).sys = sys ∧ (handleProxyResponse sys errno conn io).conn = conn := by
  unfold handleProxyResponse
  dsimp only
  repeat' split
  all_goals exact ⟨rfl, rfl⟩

theorem whenProxyResponse_keeps (args : Arguments) (sys : Sys) (errno : Int) (conn : Connection) (fds : FdSets) (io : Io) :
    Keeps sys conn (whenProxyResponse args sys errno conn fds io) := by
  obtain ⟨same, record⟩ := handleProxyResponse_keeps sys errno conn io
  obtain ⟨context, object⟩ := secured_opened sys io
  unfold whenProxyResponse
  dsimp only
  rw [same, record]
  generalize getGlobalSslCtx sys io = got at context object ⊢
  obtain ⟨ctx, sys', calls⟩ := got
  dsimp only at context object ⊢
  generalize sys'.sslNew io.sslNew = made at object ⊢
  obtain ⟨ssl, sys''⟩ := made
  repeat' split
  all_goals first
    | exact ⟨rfl, rfl⟩
    | exact ⟨context, rfl⟩
    | exact ⟨object, rfl⟩

theorem sendProxyConnect_keeps (sys : Sys) (errno : Int) (conn : Connection) (io : Io) (proxyHost targetHost : List Byte)
    (proxyPort targetPort : Int) :
    Keeps sys conn (sendProxyConnect sys errno conn io proxyHost proxyPort targetHost targetPort) := by
  unfold sendProxyConnect
  dsimp only
  repeat' split
  all_goals exact ⟨rfl, rfl⟩

theorem whenProxyConnect_keeps (args : Arguments) (sys : Sys) (errno : Int) (conn : Connection) (fds : FdSets) (io : Io) :
    Keeps sys conn (whenProxyConnect args sys errno conn fds io) := by
  have sent := sendProxyConnect_keeps sys errno conn io args.proxyHost.bytes args.targetHost.bytes args.proxyPort
    args.targetPort
  unfold whenProxyConnect
  exact .ite (.ite ⟨sent.opened, sent.sockfd⟩ (.ite ⟨sent.opened, sent.sockfd⟩ ⟨sent.opened, sent.sockfd⟩)) ⟨rfl, rfl⟩

theorem whenTlsHandshake_keeps (sys : Sys) (conn : Connection) (fds : FdSets) (io : Io) :
    Keeps sys conn (whenTlsHandshake sys conn fds io) := by
  have stay (ret : Int) (calls : List Call) : Keeps sys conn ⟨ret, conn, sys, calls⟩ := ⟨rfl, rfl⟩
  unfold whenTlsHandshake
  cases conn.ssl with
  | none => exact stay 0 []
  | some ssl => exact .ite (.ite ⟨rfl, rfl⟩ (.ite (stay 0 _) ⟨rfl, rfl⟩)) (stay 0 [])

theorem whenSending_keeps (sys : Sys) (conn : Connection) (fds : FdSets) (io : Io) :
    Keeps sys conn (whenSending sys conn fds io) := by
  unfold whenSending
  refine .ite (.ite ⟨rfl, rfl⟩ (.ite ?_ ?_)) ⟨rfl, rfl⟩
  · cases conn.ssl with
    | none => exact ⟨rfl, rfl⟩
    | some ssl => exact .ite (.ite ⟨rfl, rfl⟩ ⟨rfl, rfl⟩) (.ite ⟨rfl, rfl⟩ ⟨rfl, rfl⟩)
  · exact .ite (.ite ⟨rfl, rfl⟩ ⟨rfl, rfl⟩) (.ite ⟨rfl, rfl⟩ ⟨rfl, rfl⟩)

theorem whenReceiving_keeps (sys : Sys) (conn : Connection) (fds : FdSets) (io : Io) :
    Keeps sys conn (whenReceiving sys conn fds io) := by
  unfold whenReceiving
  refine .ite (.ite ⟨rfl, rfl⟩ (.ite ?_ ?_)) ⟨rfl, rfl⟩
  · cases conn.ssl with
    | none => exact ⟨rfl, rfl⟩
    | some ssl => exact .ite (.ite ⟨rfl, rfl⟩ ⟨rfl, rfl⟩) (.ite ⟨rfl, rfl⟩ ⟨rfl, rfl⟩)
  · exact .ite (.ite ⟨rfl, rfl⟩ ⟨rfl, rfl⟩) (.ite ⟨rfl, rfl⟩ ⟨rfl, rfl⟩)

/-- No handler opens or closes a descriptor. -/
theorem handle_keeps (args : Arguments) (sys : Sys) (errno : Int) (conn : Connection) (fds : FdSets) (io : Io) :
    Keeps sys conn (handleReadyConnection args sys errno conn fds io) := by
  unfold handleReadyConnection
  cases conn.state with
  | idle | completed | error => exact ⟨rfl, rfl⟩
  | connecting => exact whenConnecting_keeps args sys conn fds io
  | proxyConnect => exact whenProxyConnect_keeps args sys errno conn fds io
  | proxyResponse => exact whenProxyResponse_keeps args sys errno conn fds io
  | tlsHandshake => exact whenTlsHandshake_keeps sys conn fds io
  | sending => exact whenSending_keeps sys conn fds io
  | receiving => exact whenReceiving_keeps sys conn fds io

end Slot

/-! ## The loops -/

/-- The descriptors of the table. -/
abbrev sockets (slots : List (Slot Int)) : List Int := slots.map (·.conn.sockfd)

/-- The descriptors of both sets are below the bound. -/
def Within (bound : Int) (fds : FdSets) : Prop := ∀ fd ∈ fds.read ++ fds.write, fd < bound

section Loops

variable {args : Arguments} {request : HTTPRequest} {addresses : Nat → Option (List Address)} {n : Nat}

/-- The start-up leaves every socket within the reach of `n`. -/
theorem openAll_numbered (raw : Nat → Connection) :
    ∀ (k i : Nat) (sys : Sys) (others : List Int) (slots : List (Slot Int)) (sys' : Sys),
      openAll args request addresses raw i k sys = some (slots, sys') →
      LowestOpens args request addresses raw i k sys → Numbered n sys.opened others → others.length + k ≤ n →
      slots.length = k ∧ Numbered n sys'.opened (sockets slots ++ others) := by
  intro k
  induction k with
  | zero =>
    intro _ _ _ _ _ opened _ numbered _
    cases opened
    exact ⟨rfl, numbered⟩
  | succ k ih =>
    intro i sys others slots sys' opened lowest numbered room
    unfold openAll at opened
    dsimp only at opened
    by_cases closed : (driver.fresh args request sys (addresses i) (raw i)).1.conn.sockfd < 0
    · rw [if_pos closed] at opened
      cases opened
    · rw [if_neg closed] at opened
      obtain ⟨⟨rest, last⟩, later, made⟩ := Option.map_eq_some_iff.mp opened
      cases made
      obtain ⟨free, first⟩ := allocateSocket_lowest (initConnection args request (raw i)) lowest.1 closed
      have next : Numbered n (driver.fresh args request sys (addresses i) (raw i)).2.opened
          ((driver.fresh args request sys (addresses i) (raw i)).1.conn.sockfd :: others) := by
        have opens := numbered.open' free (by omega)
        rwa [← first] at opens
      obtain ⟨length, whole⟩ := ih (i + 1) _ _ _ _ later lowest.2 next (by rw [List.length_cons]; omega)
      exact ⟨congrArg (· + 1) length, whole.reorder List.perm_middle⟩

/-- A slot that is opened again takes up a number that its closing has left free. -/
theorem recycle_numbered {slot : Slot Int} {sys : Sys} {list : Option (List Address)} {others : List Int}
    (numbered : Numbered n sys.opened (slot.conn.sockfd :: others)) (room : others.length < n)
    (lowest : LowestAnswers (cleanupConnection slot.conn sys).2.opened list)
    (socket : ¬ (driver.recycle args sys list slot).1.conn.sockfd < 0) :
    Numbered n (driver.recycle args sys list slot).2.opened ((driver.recycle args sys list slot).1.conn.sockfd :: others) := by
  have positive : 0 < slot.conn.sockfd := Int.lt_of_lt_of_le (by decide) (numbered.lower _ numbered.mem)
  obtain ⟨free, first⟩ := allocateSocket_lowest (cleanupConnection slot.conn sys).1 lowest socket
  have closed := cleanupConnection_opened slot.conn sys positive
  have opens := (closed ▸ numbered.close : Numbered n (cleanupConnection slot.conn sys).2.opened others).open' free room
  rwa [← first] at opens

/-- `FD_SET` is called with the descriptor of the record. -/
theorem setupConnectionFdsets_within {bound : Int} {conn : Connection} {fds : FdSets} (maxFd : Int)
    (within : Within bound fds) (below : conn.sockfd < bound) :
    Within bound (setupConnectionFdsets conn fds maxFd).1 := by
  have added : ∀ set : FdSet, (∀ fd ∈ set, fd < bound) → ∀ fd ∈ fdSet conn.sockfd set, fd < bound :=
    fun set all => List.forall_mem_cons.mpr ⟨below, all⟩
  obtain ⟨read, write⟩ := List.forall_mem_append.mp within
  unfold setupConnectionFdsets
  split
  · exact within
  dsimp only
  cases conn.state with
  | idle | completed | error => exact within
  | connecting | proxyConnect | sending => exact List.forall_mem_append.mpr ⟨read, added _ write⟩
  | receiving | proxyResponse => exact List.forall_mem_append.mpr ⟨added _ read, write⟩
  | tlsHandshake =>
    dsimp only
    split
    · exact List.forall_mem_append.mpr ⟨added _ read, added _ write⟩
    · exact within

/-- **The set-up loop** on part of the table, where `others` are the descriptors of the rest. -/
theorem setupLoop_numbered :
    ∀ (slots : List (Slot Int)) (i : Nat) (sys : Sys) (fds : FdSets) (maxFd : Int) (others : List Int) (r : Setup),
      setupLoop args addresses i slots sys fds maxFd = some r → LowestPass args addresses i slots sys →
      Numbered n sys.opened (sockets slots ++ others) → slots.length + others.length ≤ n → Within (firstFd + n) fds →
      r.slots.length = slots.length ∧ Numbered n r.sys.opened (sockets r.slots ++ others) ∧
        Within (firstFd + n) r.fds := by
  intro slots
  induction slots with
  | nil =>
    intro _ _ _ _ _ _ passed _ numbered _ within
    cases passed
    exact ⟨rfl, numbered, within⟩
  | cons first rest ih =>
    intro i sys fds maxFd others r passed lowest numbered room within
    have goes : ∀ (slot : Slot Int) (sys : Sys) (fds : FdSets) (maxFd : Int) (r : Setup),
        (setupLoop args addresses (i + 1) rest sys fds maxFd).map (·.after slot) = some r →
        LowestPass args addresses (i + 1) rest sys → Numbered n sys.opened (slot.conn.sockfd :: (sockets rest ++ others)) →
        Within (firstFd + n) fds →
        r.slots.length = (first :: rest).length ∧ Numbered n r.sys.opened (sockets r.slots ++ others) ∧
          Within (firstFd + n) r.fds := by
      intro slot sys fds maxFd r passed lowest numbered within
      obtain ⟨tail, later, rfl⟩ := Option.map_eq_some_iff.mp passed
      obtain ⟨length, whole, sets⟩ := ih (i + 1) sys fds maxFd (slot.conn.sockfd :: others) tail later lowest
        (numbered.reorder List.perm_middle.symm) (by rw [List.length_cons] at room ⊢; omega) within
      exact ⟨congrArg (· + 1) length, whole.reorder List.perm_middle, sets⟩
    have count : (sockets rest ++ others).length < n := by
      rw [List.length_append, List.length_map]
      rw [List.length_cons] at room
      omega
    unfold setupLoop at passed
    unfold LowestPass at lowest
    by_cases finished : first.conn.state = .completed ∨ first.conn.state = .error
    · rw [if_pos finished] at passed lowest
      dsimp only at passed
      by_cases closed : (driver.recycle args sys (addresses i) first).1.conn.sockfd < 0
      · rw [if_pos closed] at passed
        cases passed
      · rw [if_neg closed] at passed
        have next := recycle_numbered numbered count lowest.1 closed
        exact goes _ _ _ _ r passed lowest.2 next
          (setupConnectionFdsets_within maxFd within (next.upper _ next.mem))
    · rw [if_neg finished] at passed lowest
      exact goes _ _ _ _ r passed lowest numbered
        (setupConnectionFdsets_within maxFd within (numbered.upper _ numbered.mem))

/-- The dispatch leaves all descriptors as they are. -/
theorem dispatch_numbered (args : Arguments) (answers : Nat → Answers) (ready : FdSets) :
    ∀ (slots : List (Slot Int)) (i : Nat) (sys : Sys),
      sockets (dispatch args answers ready i slots sys).1 = sockets slots ∧
        (dispatch args answers ready i slots sys).2.opened = sys.opened := by
  intro slots
  induction slots with
  | nil => exact fun _ _ => ⟨rfl, rfl⟩
  | cons first rest ih =>
    intro i sys
    have keeps := handle_keeps args sys (answers i).errno first.conn ready (answers i).io
    obtain ⟨same, opened⟩ := ih (i + 1) (handleReadyConnection args sys (answers i).errno first.conn ready (answers i).io).sys
    exact ⟨congrArg₂ List.cons keeps.sockfd same, opened.trans keeps.opened⟩

/-- What holds of the table between two steps. -/
def World.Numbered (args : Arguments) (w : World) : Prop :=
  w.slots.length = numConnections args ∧ Select.Numbered (numConnections args) w.sys.opened (sockets w.slots)

/-- A set-up pass closes and opens again, and the table stays numbered. -/
theorem setupPass_numbered {w : World} {r : Setup} (numbered : w.Numbered args)
    (lowest : LowestPass args addresses 0 w.slots w.sys) (pass : setupPass args addresses w = some r) :
    World.Numbered args ⟨r.slots, r.sys, r.maxFd⟩ := by
  obtain ⟨length, table⟩ := numbered
  obtain ⟨same, whole, -⟩ := setupLoop_numbered (n := numConnections args) w.slots 0 w.sys ⟨[], []⟩ w.maxFd [] r pass
    lowest (by rwa [List.append_nil]) (by rw [length]; rfl) (fun fd none => absurd none List.not_mem_nil)
  rw [List.append_nil] at whole
  exact ⟨same.trans length, whole⟩

/-- **Numbers in a run.** In every world one number is in use for each connection, all within their reach. -/
theorem RunLowest.numbered {w : World} (run : RunLowest args request w) : w.Numbered args := by
  refine run.invariant (motive := World.Numbered args) ?_ ?_
  · rintro _ ⟨addresses, raw, lowest, opened⟩
    have start : Select.Numbered (numConnections args) Sys.initial.opened [] :=
      ⟨.nil, .nil, fun _ none => absurd none List.not_mem_nil, fun _ none => absurd none List.not_mem_nil⟩
    obtain ⟨length, whole⟩ := openAll_numbered raw _ 0 .initial [] _ _ opened lowest start (by simp)
    rw [List.append_nil] at whole
    exact ⟨length, whole⟩
  · rintro w _ numbered (⟨addresses, lowest, pass⟩ | ⟨addresses, lowest, pass, -, answers, fds, -⟩)
    · exact setupPass_numbered numbered lowest pass
    · obtain ⟨length, whole⟩ := setupPass_numbered numbered lowest pass
      obtain ⟨same, opened⟩ := dispatch_numbered args answers fds _ 0 _
      refine ⟨?_, ?_⟩
      · rw [← length]
        simpa using congrArg List.length same
      · show Select.Numbered _ (dispatch args answers fds 0 _ _).2.opened (sockets (dispatch args answers fds 0 _ _).1)
        rw [same, opened]
        exact whole

/-- **Few enough connections.** Three numbers are taken, so `FD_SETSIZE - 3` connections reach `FD_SETSIZE - 1`. -/
theorem RunLowest.fitsSet {w : World} {j : Nat} {r : Setup} (run : RunLowest args request w)
    (few : args.clients ≤ fdSetSize - 3) (lowest : LowestPass args addresses 0 (w.slots.take j) w.sys)
    (pass : setupLoop args addresses 0 (w.slots.take j) w.sys ⟨[], []⟩ w.maxFd = some r) : FitsSet r := by
  obtain ⟨length, table⟩ := run.numbered
  have split : sockets w.slots = sockets (w.slots.take j) ++ sockets (w.slots.drop j) := by
    rw [← List.map_append, List.take_append_drop]
  have count : (w.slots.take j).length + (sockets (w.slots.drop j)).length ≤ numConnections args := by
    rw [List.length_map, List.length_take, List.length_drop]
    omega
  rw [split] at table
  obtain ⟨-, whole, sets⟩ := setupLoop_numbered _ 0 _ _ _ _ r pass lowest table count
    (fun fd none => absurd none List.not_mem_nil)
  have reach : firstFd + numConnections args ≤ fdSetSize := by
    unfold numConnections fdSetSize firstFd at *
    rw [if_neg (by omega)]
    omega
  refine ⟨fun fd member => Int.lt_of_lt_of_le (sets fd member) reach, fun slot member => ?_⟩
  have opened : slot.conn.sockfd ∈ r.sys.opened :=
    whole.exact.mem_iff.mpr (List.mem_append_left _ (List.mem_map_of_mem member))
  exact Int.lt_of_lt_of_le (whole.upper _ opened) reach

end Loops

/-! ## Too many connections -/

section Many

variable {args : Arguments} {request : HTTPRequest}

/-- The address of the `i`-th client: its connection is up at once. -/
def nextAddress (i : Nat) : Option (List Address) := some [⟨firstFd + i, 0, 0⟩]

/-- The host and the port that are connected to are in order. -/
def Connectable (args : Arguments) : Prop := needConnectProxy args = true ∨ 0 < args.targetPort ∧ args.targetPort ≤ 65535

/-- The address of the `i`-th client opens the number it names. -/
theorem createNonblockingSocket_next {host : List Byte} {port : Int} {i : Nat} {sys : Sys} (lower : 0 < port)
    (upper : port ≤ 65535) (fresh : firstFd + i ∉ sys.opened) :
    createNonblockingSocket host port (nextAddress i) sys =
      (firstFd + i, { sys with opened := (firstFd + i) :: sys.opened },
        [.getaddrinfo host port, .socket (firstFd + i), .connect (firstFd + i) 0]) := by
  have legal : ¬ ((decide (port ≤ 0) || decide (65535 < port)) = true) := by simp; omega
  have given : sys.socket (firstFd + i) = (firstFd + i, { sys with opened := (firstFd + i) :: sys.opened }) :=
    if_pos ⟨by unfold firstFd; omega, fresh⟩
  have some' : ¬ ((firstFd + (i : Int) == -1) = true) := by
    unfold firstFd
    simp
    omega
  unfold createNonblockingSocket WebBench.createNonblockingSocket nextAddress
  rw [if_neg legal]
  unfold connectLoop
  dsimp only
  rw [given]
  dsimp only
  rw [if_neg some', if_neg (by decide)]

/-- A connection gets the next number. -/
theorem allocateSocket_next (connectable : Connectable args) {i : Nat} {sys : Sys} (conn : Connection)
    (fresh : firstFd + i ∉ sys.opened) :
    (allocateSocket args sys (nextAddress i) conn).conn.sockfd = firstFd + i ∧
      (allocateSocket args sys (nextAddress i) conn).conn.state = .connecting ∧
      (allocateSocket args sys (nextAddress i) conn).sys.opened = (firstFd + i) :: sys.opened := by
  have some' : ¬ firstFd + (i : Int) < 0 := by
    unfold firstFd
    omega
  unfold allocateSocket
  by_cases proxy : needConnectProxy args = true
  · have ports : 0 < args.proxyPort ∧ args.proxyPort < 65535 := by
      simp only [needConnectProxy, Bool.and_eq_true, decide_eq_true_eq] at proxy
      exact ⟨proxy.1.2, proxy.2⟩
    rw [if_pos proxy, createNonblockingSocket_next ports.1 (by omega) fresh]
    dsimp only
    rw [if_neg some']
    exact ⟨rfl, rfl, rfl⟩
  · obtain ⟨lower, upper⟩ := connectable.resolve_left proxy
    rw [if_neg proxy, createNonblockingSocket_next lower upper fresh]
    dsimp only
    rw [if_neg some']
    exact ⟨rfl, rfl, rfl⟩

/-- The start-up gives the `i`-th client the number after the first `i`. -/
theorem openAll_next (connectable : Connectable args) (request : HTTPRequest) :
    ∀ (k i : Nat) (sys : Sys), (∀ fd, fd ∈ sys.opened ↔ firstFd ≤ fd ∧ fd < firstFd + i) →
      LowestOpens args request nextAddress (fun _ => .zero 0) i k sys ∧
      ∃ slots sys', openAll args request nextAddress (fun _ => .zero 0) i k sys = some (slots, sys') ∧
        (∀ slot ∈ slots, slot.conn.state = .connecting) ∧ ∀ j < k, firstFd + (i + j : Nat) ∈ sockets slots := by
  intro k
  induction k with
  | zero => exact fun _ sys _ => ⟨trivial, [], sys, rfl, fun _ none => absurd none List.not_mem_nil, fun _ none => by omega⟩
  | succ k ih =>
    intro i sys used
    have free : LowestFree firstFd sys.opened (firstFd + i) := .of_used (by omega) used
    obtain ⟨socket, state, opened⟩ := allocateSocket_next connectable (initConnection args request (.zero 0)) free.fresh
    have used' : ∀ fd, fd ∈ (driver.fresh args request sys (nextAddress i) (.zero 0)).2.opened ↔
        firstFd ≤ fd ∧ fd < firstFd + (i + 1 : Nat) := by
      intro fd
      rw [show (driver.fresh args request sys (nextAddress i) (.zero 0)).2.opened = _ from opened, List.mem_cons, used]
      omega
    obtain ⟨lowest, slots, sys', opens, connecting, numbers⟩ := ih (i + 1) _ used'
    refine ⟨⟨⟨?_, ?_⟩, lowest⟩, (driver.fresh args request sys (nextAddress i) (.zero 0)).1 :: slots, sys', ?_, ?_, ?_⟩
    · rintro _ ⟨rfl⟩ address member
      rw [List.mem_singleton.mp member]
      exact .inr free
    · rintro _ ⟨rfl⟩ address member
      rw [List.mem_singleton.mp member]
      exact .inl rfl
    · unfold openAll
      dsimp only
      rw [if_neg (by
        rw [show (driver.fresh args request sys (nextAddress i) (.zero 0)).1.conn.sockfd = _ from socket]
        unfold firstFd
        omega), opens]
      rfl
    · exact List.forall_mem_cons.mpr ⟨state, connecting⟩
    · intro j bound
      cases j with
      | zero => exact List.mem_cons.mpr (.inl socket.symm)
      | succ j =>
        have later := numbers j (by omega)
        rw [show i + 1 + j = i + (j + 1) by omega] at later
        exact List.mem_cons_of_mem _ later

/-- A pass over clients that are connecting recycles none, and calls `FD_SET` for each. -/
theorem setupLoop_connecting (args : Arguments) (addresses : Nat → Option (List Address)) :
    ∀ (slots : List (Slot Int)) (i : Nat) (sys : Sys) (fds : FdSets) (maxFd : Int),
      (∀ slot ∈ slots, slot.conn.state = .connecting) →
      LowestPass args addresses i slots sys ∧ ∃ r, setupLoop args addresses i slots sys fds maxFd = some r ∧
        fds.write ⊆ r.fds.write ∧ ∀ fd ∈ sockets slots, 0 < fd → fd ∈ r.fds.write := by
  intro slots
  induction slots with
  | nil => exact fun _ _ _ _ _ => ⟨trivial, _, rfl, List.Subset.refl _, fun _ none => absurd none List.not_mem_nil⟩
  | cons first rest ih =>
    intro i sys fds maxFd connecting
    have state := connecting first List.mem_cons_self
    have busy : ¬ (first.conn.state = .completed ∨ first.conn.state = .error) := by
      rw [state]
      decide
    obtain ⟨lowest, r, pass, kept, written⟩ := ih (i + 1) sys (setupConnectionFdsets first.conn fds maxFd).1
      (setupConnectionFdsets first.conn fds maxFd).2 fun slot member => connecting slot (List.mem_cons_of_mem _ member)
    have added : fds.write ⊆ (setupConnectionFdsets first.conn fds maxFd).1.write ∧
        (0 < first.conn.sockfd → first.conn.sockfd ∈ (setupConnectionFdsets first.conn fds maxFd).1.write) := by
      unfold setupConnectionFdsets
      split
      · exact ⟨List.Subset.refl _, fun positive => by omega⟩
      · rw [state]
        exact ⟨List.subset_cons_self _ _, fun _ => List.mem_cons_self⟩
    refine ⟨?_, r.after first, ?_, List.Subset.trans added.1 kept, ?_⟩
    · rw [LowestPass, if_neg busy]
      exact lowest
    · rw [setupLoop, if_neg busy]
      dsimp only
      rw [pass]
      rfl
    · intro fd member positive
      rcases List.mem_cons.mp member with rfl | later
      · exact kept (added.2 positive)
      · exact written fd later positive

/-- **One connection too many.** The pass after the start-up calls `FD_SET` with `FD_SETSIZE`. -/
theorem exists_beyond (connectable : Connectable args) (request : HTTPRequest) (many : fdSetSize - 3 < args.clients) :
    ∃ w r, RunLowest args request w ∧ LowestPass args (fun _ => none) 0 w.slots w.sys ∧
      setupLoop args (fun _ => none) 0 w.slots w.sys ⟨[], []⟩ w.maxFd = some r ∧ fdSetSize ∈ r.fds.write := by
  have unused : ∀ fd, fd ∈ Sys.initial.opened ↔ firstFd ≤ fd ∧ fd < firstFd + (0 : Nat) := by
    intro fd
    refine iff_of_false List.not_mem_nil ?_
    omega
  obtain ⟨lowest, slots, sys, opens, connecting, numbers⟩ := openAll_next connectable request (numConnections args) 0
    .initial unused
  obtain ⟨lowest', r, pass, -, written⟩ := setupLoop_connecting args (fun _ => none) slots 0 sys ⟨[], []⟩ 0
    connecting
  have last : (1021 : Nat) < numConnections args := by
    unfold numConnections fdSetSize at *
    split
    · decide
    · omega
  exact ⟨⟨slots, sys, 0⟩, r, .start (.openAll nextAddress _ lowest opens), lowest', pass,
    written fdSetSize (numbers 1021 last) (by decide)⟩

/-- Where the port is illegal no client gets a socket. -/
theorem allocateSocket_closed (closed : ¬ Connectable args) (sys : Sys) (addresses : Option (List Address)) (conn : Connection) :
    (allocateSocket args sys addresses conn).conn.sockfd = -1 := by
  obtain ⟨direct, illegal⟩ := not_or.mp closed
  have refused : createNonblockingSocket args.targetHost.bytes args.targetPort addresses sys = (-1, sys, []) :=
    if_pos (by simp; omega)
  unfold allocateSocket
  rw [if_neg direct, refused]
  rfl

/-- So only a benchmark without clients gets past the start-up. -/
theorem RunLowest.no_clients {w : World} (run : RunLowest args request w) (closed : ¬ Connectable args) :
    numConnections args = 0 := by
  refine run.invariant (motive := fun _ => numConnections args = 0) ?_ fun _ _ none _ => none
  rintro _ ⟨addresses, raw, -, opened⟩
  cases clients : numConnections args with
  | zero => rfl
  | succ k =>
    have socket : (driver.fresh args request .initial (addresses 0) (raw 0)).1.conn.sockfd = -1 :=
      allocateSocket_closed closed _ _ _
    rw [clients, openAll] at opened
    dsimp only at opened
    rw [socket, if_pos (by decide)] at opened
    cases opened

/-- **When descriptors stay inside the sets.** With a kernel that gives the lowest
free number, in every run and after any number of iterations of a set-up pass: if
and only if there are at most `FD_SETSIZE - 3` clients, or none of them can connect. -/
theorem fitsSet_iff (args : Arguments) (request : HTTPRequest) :
    (∀ w, RunLowest args request w → ∀ addresses j r, LowestPass args addresses 0 (w.slots.take j) w.sys →
      setupLoop args addresses 0 (w.slots.take j) w.sys ⟨[], []⟩ w.maxFd = some r → FitsSet r) ↔
      args.clients ≤ fdSetSize - 3 ∨ ¬ Connectable args := by
  constructor
  · intro fits
    by_contra many
    obtain ⟨many, connectable⟩ := not_or.mp many
    obtain ⟨w, r, run, lowest, pass, beyond⟩ := exists_beyond (not_not.mp connectable) request (by omega)
    have whole := fits w run (fun _ => none) w.slots.length r (by rwa [List.take_length]) (by rwa [List.take_length])
    exact absurd (whole.set _ (List.mem_append_right _ beyond)) (lt_irrefl _)
  · intro condition w run addresses j r lowest pass
    refine run.fitsSet ?_ lowest pass
    rcases condition with few | closed
    · exact few
    · have none := run.no_clients closed
      unfold numConnections fdSetSize at *
      split at none <;> omega

end Many

/-- A server on port 80 with 1021 clients. -/
def mostClients : Arguments := { createDefaultArguments with targetPort := 80, clients := 1021 }

/-- All of them get descriptors that fit after the first pass. -/
theorem fitsSet_most : ∃ w r, RunLowest mostClients .zero w ∧ w.slots.length = 1021 ∧
    setupLoop mostClients (fun _ => none) 0 (w.slots.take 1021) w.sys ⟨[], []⟩ w.maxFd = some r ∧ FitsSet r := by
  have connectable : Connectable mostClients := .inr (by decide)
  obtain ⟨lowest, slots, sys, opens, connecting, -⟩ := openAll_next connectable .zero 1021 0 .initial fun fd =>
    iff_of_false List.not_mem_nil (by omega)
  have run : RunLowest mostClients .zero ⟨slots, sys, 0⟩ := .start (.openAll nextAddress _ lowest opens)
  obtain ⟨lowest', r, pass, -⟩ := setupLoop_connecting mostClients (fun _ => none) (slots.take 1021) 0 sys ⟨[], []⟩ 0
    fun slot member => connecting slot (List.mem_of_mem_take member)
  exact ⟨_, r, run, run.numbered.1, pass,
    (fitsSet_iff mostClients .zero).mpr (.inl (by decide)) _ run _ 1021 r lowest' pass⟩

/-- A server on port 80 with 1022 clients. -/
def manyClients : Arguments := { createDefaultArguments with targetPort := 80, clients := 1022 }

/-- The last of them gets descriptor 1024. -/
theorem beyond_set : ¬ ∀ w, RunLowest manyClients .zero w → ∀ addresses j r,
    LowestPass manyClients addresses 0 (w.slots.take j) w.sys →
    setupLoop manyClients addresses 0 (w.slots.take j) w.sys ⟨[], []⟩ w.maxFd = some r → FitsSet r := by
  intro fits
  have connectable : Connectable manyClients := .inr (by decide)
  obtain ⟨w, r, run, lowest, pass, beyond⟩ := exists_beyond connectable .zero (by decide)
  have whole := fits w run (fun _ => none) w.slots.length r (by rwa [List.take_length]) (by rwa [List.take_length])
  exact absurd (whole.set _ (List.mem_append_right _ beyond)) (lt_irrefl _)

end WebBench.Select
