import WebBench.Ownership
import WebBench.Select.FdBound

/-!
# Ownership in `bench_select`

The counterpart of `WebBench.Ownership`. `allocate_socket` ends the process when
it fails, so the runs are those in which it does not; the operations are the
same, and between any two of them sockets and SSL objects have one owner each.
-/

namespace WebBench.Select
set_option autoImplicit false
open CLib Relation

/-! ## One record -/

/-- What an operation changes hands: at most one socket and one SSL object of its record. -/
structure Exchange (sys : Sys) (conn : Connection) (sys' : Sys) (conn' : Connection) : Prop where
  socket : Swap sys.opened conn.socket? conn'.socket? sys'.opened
  object : Swap sys.liveSsl conn.ssl conn'.ssl sys'.liveSsl

/-- What one record is between two operations. -/
structure Settled (job : Job) (conn : Connection) : Prop where
  phase : ∃ p, Stands job conn p ∧ job.Sound p
  waiting : conn.state.pollable = true → 0 < conn.sockfd
  idle : conn.state = .idle → conn.sockfd ≤ 0

/-- The invariant of a table. -/
structure Held (job : Job) (t : Table Int) : Prop where
  sockets : Owned ConnectionOf.socket? t.conns t.sys.opened
  objects : Owned ConnectionOf.ssl t.conns t.sys.liveSsl
  settled : ∀ conn ∈ t.conns, Settled job conn

section Records

variable {args : Arguments} {request : HTTPRequest} {job : Job} {conn : Connection} {p : Phase}

/-- A record has no SSL object before its handshake. -/
theorem Stands.bare (stands : Stands job conn p) (early : conn.state.early = true) : conn.ssl = none := by
  obtain ⟨sizes, q, rfl, record, -, -⟩ := stands.sizes
  exact record.bare early

theorem Stands.through (stands : Stands job conn p) (sound : job.Sound p) (waiting : conn.state = .proxyResponse) :
    job.tunnel = true := by
  have names := stands.state.symm.trans waiting
  cases p with
  | awaitingReply got => exact sound.2
  | _ => exact ConnState.noConfusion names

theorem created (host : List Byte) (port : Int) {addresses : Option (List Address)} (positive : PositiveSockets addresses)
    (sys : Sys) : Acquired sys (createNonblockingSocket host port addresses sys).1
      (createNonblockingSocket host port addresses sys).2.1 := by
  refine createNonblockingSocket_acquired rfl (fun fd positive => ?_) _ host port positive sys
  exact beq_eq_false_iff_ne.mpr (by omega)

/-- `allocate_socket` on an idle record. -/
theorem allocateSocket_exchange {addresses : Option (List Address)} (positive : PositiveSockets addresses) (sys : Sys)
    (idle : conn.state = .idle) (closed : conn.sockfd ≤ 0) :
    let o := allocateSocket args sys addresses conn
    Exchange sys conn o.sys o.conn ∧ (o.conn.state.pollable = true → 0 < o.conn.sockfd) ∧
      (o.conn.state = .idle → o.conn.sockfd ≤ 0) := by
  have acquired := Acquired.either (p := needConnectProxy args = true)
    (created args.proxyHost.bytes args.proxyPort positive sys) (created args.targetHost.bytes args.targetPort positive sys)
  have before : conn.socket? = none := ConnectionOf.socket?_eq_none closed
  unfold allocateSocket
  generalize (if needConnectProxy args = true then _ else _ : Int × Sys × List Call) = opened at acquired ⊢
  obtain ⟨fd, sys', calls⟩ := opened
  have object : Swap sys.liveSsl conn.ssl conn.ssl sys'.liveSsl := by
    rw [show sys'.liveSsl = sys.liveSsl from acquired.live]
    exact .stay conn.ssl
  dsimp only
  rcases acquired.socket with ⟨rfl, same⟩ | ⟨some, fresh, opened⟩
  · rw [if_pos (show (-1 : Int) < 0 by decide)]
    refine ⟨⟨?_, object⟩, fun waits => ?_, fun _ => show (-1 : Int) ≤ 0 by decide⟩
    · show Swap sys.opened conn.socket? (ConnectionOf.socket? { conn with sockfd := -1 }) sys'.opened
      rw [before, show sys'.opened = sys.opened from same]
      exact .stay none
    · rw [show ({ conn with sockfd := -1 } : Connection).state = .idle from idle] at waits
      exact Bool.noConfusion waits
  · have some : 0 < fd := some
    rw [if_neg (by omega)]
    refine ⟨⟨?_, object⟩, fun _ => some, fun now => ConnState.noConfusion now⟩
    show Swap sys.opened conn.socket? (if 0 < fd then Option.some fd else none) sys'.opened
    rw [before, show sys'.opened = fd :: sys.opened from opened, if_pos some]
    exact .acquire fresh

/-- `cleanup_connection` releases what the record has. -/
theorem cleanupConnection_exchange (conn : Connection) (sys : Sys) :
    Exchange sys conn (cleanupConnection conn sys).2 (cleanupConnection conn sys).1 ∧
      (cleanupConnection conn sys).1.sockfd ≤ 0 ∧ (cleanupConnection conn sys).1.ssl = none := by
  have closed : (cleanupConnection conn sys).1.sockfd ≤ 0 := by
    show (if 0 < conn.sockfd then -1 else conn.sockfd) ≤ 0
    split
    · decide
    · omega
  refine ⟨⟨?_, ?_⟩, closed, rfl⟩
  · rw [ConnectionOf.socket?_eq_none closed]
    by_cases socket : 0 < conn.sockfd
    · rw [cleanupConnection_opened conn sys socket, show conn.socket? = some conn.sockfd from if_pos socket]
      exact .release conn.sockfd
    · rw [ConnectionOf.socket?_eq_none (Int.not_lt.mp socket)]
      have kept : (cleanupConnection conn sys).2.opened = sys.opened := by
        unfold cleanupConnection
        dsimp only
        rw [if_neg socket]
        cases conn.ssl <;> rfl
      rw [kept]
      exact .stay none
  · rw [show (cleanupConnection conn sys).1.ssl = none from rfl]
    unfold cleanupConnection
    dsimp only
    cases conn.ssl with
    | none =>
      rw [show (if 0 < conn.sockfd then sys.close conn.sockfd else sys).liveSsl = sys.liveSsl by split <;> rfl]
      exact .stay none
    | some ssl =>
      rw [show (if 0 < conn.sockfd then (sys.sslFree ssl).close conn.sockfd else sys.sslFree ssl).liveSsl =
        (sys.sslFree ssl).liveSsl by split <;> rfl]
      exact .release ssl

/-- A handler call exchanges at most an SSL object. -/
theorem handle_exchange (sys : Sys) (errno : Int) (fds : FdSets) (io : Io)
    (stands : Stands (Select.job args request) conn p) (sound : (Select.job args request).Sound p)
    (waits : conn.state.pollable = true) :
    let o := handleReadyConnection args sys errno conn fds io
    Exchange sys conn o.sys o.conn ∧ o.conn.sockfd = conn.sockfd := by
  have step := handle_ssl args sys errno fds io waits stands.bare (stands.through sound)
  have same : (handleReadyConnection args sys errno conn fds io).conn.socket? = conn.socket? := by
    unfold ConnectionOf.socket?
    rw [step.sockfd]
  refine ⟨⟨?_, ?_⟩, step.sockfd⟩
  · rw [step.opened, same]
    exact .stay _
  · cases step.change with
    | still object live =>
      rw [object, live]
      exact .stay _
    | handshake _ object kept live =>
      rw [object, kept, live]
      exact .stay _
    | setUp early object =>
      rw [stands.bare early]
      exact object

end Records

/-! ## The table -/

section Tables

variable {args : Arguments} {request : HTTPRequest} {t t' : Table Int}

/-- One record exchanges what it has. -/
theorem Held.exchange {job : Job} {conns : List Connection} {sys sys' : Sys} {i : Nat} {conn conn' : Connection}
    (held : Held job ⟨conns, sys⟩) (here : conns[i]? = some conn) (exchange : Exchange sys conn sys' conn')
    (settled : Settled job conn') : Held job ⟨conns.set i conn', sys'⟩ where
  sockets := held.sockets.swap here exchange.socket
  objects := held.objects.swap here exchange.object
  settled := by
    intro other member
    rcases List.mem_or_eq_of_mem_set member with before | rfl
    · exact held.settled other before
    · exact settled

/-- **The step.** Every operation keeps the invariant. -/
theorem Held.operation (held : Held (job args request) t) (step : driver.Operation args request t t') :
    Held (job args request) t' := by
  have follows := follows args request
  cases step with
  | init conns sys raw allowed =>
    have record := follows.init raw allowed
    have idle : (driver.initConnection args request raw).state = .idle := rfl
    have closed : (driver.initConnection args request raw).sockfd ≤ 0 := show (-1 : Int) ≤ 0 by decide
    refine ⟨held.sockets.join (ConnectionOf.socket?_eq_none closed), held.objects.join rfl, ?_⟩
    intro conn member
    rcases List.mem_append.mp member with old | new
    · exact held.settled conn old
    · rw [List.mem_singleton.mp new]
      exact ⟨⟨.idle, record, trivial⟩, fun waits => Bool.noConfusion waits, fun _ => closed⟩
  | allocate conns sys i conn here idle addresses positive =>
    have settled := held.settled conn (List.mem_of_getElem? here)
    obtain ⟨p, stands, -⟩ := settled.phase
    have resting : p = .idle := by
      have names := stands.state.symm.trans idle
      cases p <;> first | rfl | exact ConnState.noConfusion names
    subst resting
    obtain ⟨q, trace, next⟩ := follows.allocate sys addresses conn stands
    obtain ⟨exchange, waiting, resting⟩ := @allocateSocket_exchange args conn _ positive sys idle (settled.idle idle)
    exact held.exchange here exchange ⟨⟨q, next, Job.sound_of_trace trace trivial⟩, waiting, resting⟩
  | cleanup conns sys i conn here =>
    obtain ⟨p, stands, -⟩ := (held.settled conn (List.mem_of_getElem? here)).phase
    obtain ⟨exchange, closed, -⟩ := cleanupConnection_exchange conn sys
    have next := follows.cleanup conn p sys stands
    exact held.exchange here exchange ⟨⟨.idle, next, trivial⟩, fun waits => Bool.noConfusion waits, fun _ => closed⟩
  | handle conns sys i conn here pollable errno mask io =>
    have settled := held.settled conn (List.mem_of_getElem? here)
    obtain ⟨p, stands, sound⟩ := settled.phase
    have active : p.active := (congrArg ConnState.pollable stands.state).symm.trans pollable
    have begun : p.state ≠ .idle := fun idle => by rw [Phase.active, idle] at active; exact Bool.noConfusion active
    obtain ⟨q, trace, next⟩ := follows.handle sys errno conn mask io p stands active
    obtain ⟨exchange, same⟩ := handle_exchange sys errno mask io stands sound pollable
    refine held.exchange here exchange ⟨⟨q, next, Job.sound_of_trace trace sound⟩, fun _ => ?_, fun idle => ?_⟩
    · show 0 < (handleReadyConnection args sys errno conn mask io).conn.sockfd
      rw [same]
      exact settled.waiting pollable
    · exact absurd (next.state.symm.trans idle) (Job.begun_of_trace trace begun)
  | system conns sys sys' opened live =>
    refine ⟨?_, ?_, held.settled⟩
    · rw [opened]
      exact held.sockets
    · rw [live]
      exact held.objects

/-- **Every table of a run.** -/
theorem held_of_between (between : driver.Between args request t) : Held (job args request) t := by
  refine between.invariant ?_ fun _ _ held step => held.operation step
  rintro _ rfl
  exact ⟨.nil, .nil, fun conn member => absurd member List.not_mem_nil⟩

theorem Held.owning {job : Job} (held : Held job t) : Owning t where
  sockets := held.sockets
  objects := held.objects
  waiting := by
    intro conn member pollable
    have positive := (held.settled conn member).waiting pollable
    exact ⟨positive, held.sockets.alive member (if_pos positive)⟩
  idle := by
    intro conn member idle
    have settled := held.settled conn member
    obtain ⟨p, stands, -⟩ := settled.phase
    exact ⟨settled.idle idle, stands.bare (by rw [idle]; rfl)⟩

end Tables

/-! ## The loops -/

section Loops

variable {args : Arguments} {request : HTTPRequest}

/-- The table of a world. -/
def World.table (w : World) : Table Int := ⟨w.slots.map (·.conn), w.sys⟩

/-- The start-up, with positive descriptors. -/
inductive InitPositive (args : Arguments) (request : HTTPRequest) : World → Prop
  | openAll (addresses : Nat → Option (List Address)) (positive : ∀ i, PositiveSockets (addresses i))
      (raw : Nat → Connection) {slots : List (Slot Int)} {sys : Sys}
      (opened : openAll args request addresses raw 0 (numConnections args) .initial = some (slots, sys)) :
      InitPositive args request ⟨slots, sys, 0⟩

/-- One iteration of the main loop, with positive descriptors. -/
inductive StepPositive (args : Arguments) : World → World → Prop
  | quiet (w : World) (addresses : Nat → Option (List Address)) (positive : ∀ i, PositiveSockets (addresses i))
      {r : Setup} (pass : setupPass args addresses w = some r) : StepPositive args w ⟨r.slots, r.sys, r.maxFd⟩
  | ready (w : World) (addresses : Nat → Option (List Address)) (positive : ∀ i, PositiveSockets (addresses i))
      {r : Setup} (pass : setupPass args addresses w = some r) (watched : 0 < r.maxFd) (answers : Nat → Answers)
      (fds : FdSets) (selected : Selects r.fds fds) :
      StepPositive args w
        ⟨(dispatch args answers fds 0 r.slots r.sys).1, (dispatch args answers fds 0 r.slots r.sys).2, r.maxFd⟩

/-- The worlds of the runs in which `socket()` gives positive descriptors. -/
abbrev RunPositive (args : Arguments) (request : HTTPRequest) : World → Prop :=
  Reachable (InitPositive args request) (StepPositive args)

theorem RunPositive.run {w : World} (positive : RunPositive args request w) : Run args request w := by
  induction positive with
  | start first =>
    obtain ⟨addresses, -, raw, opened⟩ := first
    exact .start (.openAll addresses raw opened)
  | next _ step ih =>
    cases step with
    | quiet addresses positive pass => exact .next ih (.quiet _ addresses pass)
    | ready addresses positive pass watched answers fds selected =>
      exact .next ih (.ready _ addresses pass watched answers fds selected)

theorem openAll_operations {addresses : Nat → Option (List Address)} (positive : ∀ i, PositiveSockets (addresses i))
    (raw : Nat → Connection) : ∀ (k i : Nat) (sys : Sys) (pre : List Connection) (slots : List (Slot Int)) (sys' : Sys),
      openAll args request addresses raw i k sys = some (slots, sys') →
      ReflTransGen (driver.Operation args request) ⟨pre, sys⟩ ⟨pre ++ slots.map (·.conn), sys'⟩ := by
  intro k
  induction k with
  | zero =>
    intro i sys pre slots sys' opened
    cases opened
    simpa using ReflTransGen.refl
  | succ k ih =>
    intro i sys pre slots sys' opened
    unfold openAll at opened
    dsimp only at opened
    by_cases closed : (driver.fresh args request sys (addresses i) (raw i)).1.conn.sockfd < 0
    · rw [if_pos closed] at opened
      cases opened
    · rw [if_neg closed] at opened
      obtain ⟨⟨rest, last⟩, later, made⟩ := Option.map_eq_some_iff.mp opened
      cases made
      have first := driver.fresh_operations args request (fun _ => rfl) pre sys (positive i) (raw i) trivial
      have others := ih (i + 1) _ (pre ++ [(driver.fresh args request sys (addresses i) (raw i)).1.conn]) _ _ later
      refine first.trans ?_
      simpa using others

theorem setupLoop_operations {addresses : Nat → Option (List Address)} (positive : ∀ i, PositiveSockets (addresses i)) :
    ∀ (slots : List (Slot Int)) (pre : List Connection) (i : Nat) (sys : Sys) (fds : FdSets) (maxFd : Int) (r : Setup),
      setupLoop args addresses i slots sys fds maxFd = some r →
      ReflTransGen (driver.Operation args request) ⟨pre ++ slots.map (·.conn), sys⟩
        ⟨pre ++ r.slots.map (·.conn), r.sys⟩ := by
  intro slots
  induction slots with
  | nil =>
    intro _ _ _ _ _ _ passed
    cases passed
    exact .refl
  | cons slot rest ih =>
    intro pre i sys fds maxFd r passed
    have later : ∀ (slot : Slot Int) (sys : Sys) (fds : FdSets) (maxFd : Int) (r : Setup),
        (setupLoop args addresses (i + 1) rest sys fds maxFd).map (·.after slot) = some r →
        ReflTransGen (driver.Operation args request) ⟨pre ++ slot.conn :: rest.map (·.conn), sys⟩
          ⟨pre ++ r.slots.map (·.conn), r.sys⟩ := by
      intro slot sys fds maxFd r passed
      obtain ⟨tail, later, rfl⟩ := Option.map_eq_some_iff.mp passed
      simpa [Setup.after] using ih (pre ++ [slot.conn]) (i + 1) sys fds maxFd tail later
    unfold setupLoop at passed
    by_cases finished : slot.conn.state = .completed ∨ slot.conn.state = .error
    · rw [if_pos finished] at passed
      dsimp only at passed
      by_cases closed : (driver.recycle args sys (addresses i) slot).1.conn.sockfd < 0
      · rw [if_pos closed] at passed
        cases passed
      · rw [if_neg closed] at passed
        have recycled := driver.recycle_operations args request (fun _ _ => rfl) pre (rest.map (·.conn)) slot sys
          (positive i)
        exact recycled.trans (later _ _ _ _ r passed)
    · rw [if_neg finished] at passed
      exact later slot sys _ _ r passed

/-- The dispatch loop only handles slots that wait. -/
theorem dispatch_operations (answers : Nat → Answers) (ready : FdSets) :
    ∀ (slots : List (Slot Int)) (pre : List Connection) (i : Nat) (sys : Sys),
      (∀ slot ∈ slots, slot.conn.state.pollable = true) →
      ReflTransGen (driver.Operation args request) ⟨pre ++ slots.map (·.conn), sys⟩
        ⟨pre ++ (dispatch args answers ready i slots sys).1.map (·.conn), (dispatch args answers ready i slots sys).2⟩ := by
  intro slots
  induction slots with
  | nil => intro _ _ _ _; exact .refl
  | cons slot rest ih =>
    intro pre i sys waits
    obtain ⟨here, others⟩ := List.forall_mem_cons.mp waits
    have handled := driver.ready_operation args request pre (rest.map (·.conn)) here sys (answers i).errno ready
      (answers i).io
    refine .head handled ?_
    simpa [dispatch] using ih (pre ++ [(driver.ready args sys (answers i).errno ready (answers i).io slot).1.conn]) (i + 1)
      (driver.ready args sys (answers i).errno ready (answers i).io slot).2 others

/-- **A run is a sequence of operations.** -/
theorem RunPositive.operations {w w' : World} (positive : RunPositive args request w) (step : StepPositive args w w') :
    ReflTransGen (driver.Operation args request) w.table w'.table := by
  have begun := run_begun positive.run
  cases step with
  | quiet addresses sockets pass => exact setupLoop_operations sockets w.slots [] 0 w.sys _ _ _ pass
  | ready addresses sockets pass watched answers fds selected =>
    have waits := setupLoop_waiting addresses w.slots 0 w.sys _ _ _ pass begun
    exact (setupLoop_operations sockets w.slots [] 0 w.sys _ _ _ pass).trans
      (dispatch_operations answers fds _ [] 0 _ fun slot member => (waits slot member).state)

/-- The tables of a run lie between two operations. -/
theorem RunPositive.between {w : World} (positive : RunPositive args request w) : driver.Between args request w.table := by
  induction positive with
  | start first =>
    obtain ⟨addresses, sockets, raw, opened⟩ := first
    exact Reachable.steps (.start rfl) (openAll_operations sockets raw _ 0 .initial [] _ _ opened)
  | next before step ih => exact ih.steps (RunPositive.operations before step)

/-- The final loop releases everything. -/
theorem all_released {t : Table Int} (between : driver.Between args request t) :
    (driver.cleanupAll t.conns t.sys).2.opened = [] ∧ (driver.cleanupAll t.conns t.sys).2.liveSsl = [] := by
  have after := held_of_between (between.steps (driver.cleanupAll_operations args request t.conns [] t.sys))
  have clean := driver.cleanupAll_clean (fun conn => conn.sockfd ≤ 0 ∧ conn.ssl = none)
    (fun conn sys => (cleanupConnection_exchange conn sys).2) t.conns t.sys
  exact ⟨after.sockets.all_released fun conn member => ConnectionOf.socket?_eq_none (clean conn member).1,
    after.objects.all_released fun conn member => (clean conn member).2⟩

end Loops

/-- How the tables of `bench_select` own what is open. -/
structure Owns (args : Arguments) (request : HTTPRequest) : Prop where
  /-- The tables between two iterations are tables between two operations. -/
  run : ∀ w, RunPositive args request w → driver.Between args request w.table
  owning : ∀ t, driver.Between args request t → Owning t
  /-- What a record releases is still open, or alive. -/
  once : ∀ t, driver.Between args request t → ∀ conn ∈ t.conns,
    (∀ fd, conn.socket? = some fd → fd ∈ t.sys.opened) ∧ ∀ ssl, conn.ssl = some ssl → ssl ∈ t.sys.liveSsl
  /-- The final loop leaves nothing. -/
  left : ∀ t, driver.Between args request t →
    (driver.cleanupAll t.conns t.sys).2.opened = [] ∧ (driver.cleanupAll t.conns t.sys).2.liveSsl = []

/-- **Ownership.** In every run of `bench_select` in which `socket()` gives
positive descriptors, no socket and no SSL object is leaked, shared or released twice. -/
theorem owns_of_selectRun (args : Arguments) (request : HTTPRequest) : Owns args request where
  run _ positive := positive.between
  owning _ between := (held_of_between between).owning
  once _ between _ member :=
    ⟨fun _ holds => (held_of_between between).sockets.alive member holds,
      fun _ holds => (held_of_between between).objects.alive member holds⟩
  left _ between := all_released between

end WebBench.Select
