import WebBench.Operations
import WebBench.SslSteps
import WebBench.Invariant

/-!
# Ownership in `bench_poll` and `bench_epoll`

Runs of the two engines, as long as `socket()` gives positive descriptors, are
sequences of operations on one record each. Between any two of them the open
sockets and the live SSL objects are those of the records, and the final loop
releases all of them.
-/

namespace WebBench
set_option autoImplicit false
open CLib Relation

/-! ## Opening a socket -/

/-- The search for an address opens one socket or none. -/
structure Acquired (sys : Sys) (fd : Int) (sys' : Sys) : Prop where
  socket : fd = -1 ∧ sys'.opened = sys.opened ∨ 0 < fd ∧ fd ∉ sys.opened ∧ sys'.opened = fd :: sys.opened
  live : sys'.liveSsl = sys.liveSsl

/-- The loop over the addresses closes every socket but the one it leaves. -/
theorem connectLoop_acquired {noSocket : Int → Bool} (none : noSocket (-1) = true) (some : ∀ fd, 0 < fd → noSocket fd = false)
    (addresses : List Address) (positive : ∀ address ∈ addresses, address.socket ≠ 0) (sys : Sys) :
    Acquired sys (connectLoop noSocket addresses sys).1 (connectLoop noSocket addresses sys).2.1 := by
  induction addresses generalizing sys with
  | nil => exact ⟨.inl ⟨rfl, rfl⟩, rfl⟩
  | cons address next ih =>
    have later := ih fun other member => positive other (List.mem_cons_of_mem address member)
    unfold connectLoop Sys.socket
    dsimp only
    split
    · rename_i given
      have nonzero := positive address List.mem_cons_self
      have created : ¬ noSocket address.socket = true := by
        rw [some _ (by omega)]
        exact Bool.false_ne_true
      rw [if_neg created]
      split
      · have rest := later (Sys.close { sys with opened := address.socket :: sys.opened } address.socket)
        have socket := rest.socket
        rw [Sys.close_fresh given.2] at socket
        exact ⟨socket, rest.live⟩
      · exact ⟨.inr ⟨by omega, given.2, rfl⟩, rfl⟩
    · exact later sys

/-- So `create_nonblocking_socket` opens the descriptor it returns, or none. -/
theorem createNonblockingSocket_acquired {noSocket : Int → Bool} (none : noSocket (-1) = true)
    (some : ∀ fd, 0 < fd → noSocket fd = false) (illegalPort : Int → Bool) (host : List Byte) (port : Int)
    {addresses : Option (List Address)} (positive : PositiveSockets addresses) (sys : Sys) :
    Acquired sys (createNonblockingSocket illegalPort noSocket host port addresses sys).1
      (createNonblockingSocket illegalPort noSocket host port addresses sys).2.1 := by
  have nothing : Acquired sys (-1) sys := ⟨.inl ⟨rfl, rfl⟩, rfl⟩
  unfold createNonblockingSocket
  split
  · exact nothing
  · cases addresses with
    | none => exact nothing
    | some list => exact connectLoop_acquired none some list (positive list rfl) sys

theorem Acquired.either {sys : Sys} {p : Prop} [Decidable p] {a b : Int × Sys × List Call} (first : Acquired sys a.1 a.2.1)
    (second : Acquired sys b.1 b.2.1) : Acquired sys (if p then a else b).1 (if p then a else b).2.1 := by
  split
  · exact first
  · exact second

/-- `allocate_socket` on a record without a socket. -/
theorem Acquired.allocate {sys sys' : Sys} {fd : Int} {conn : Connection} {calls : List Call}
    (acquired : Acquired sys fd sys') (idle : conn.state = .idle) (closed : conn.sockfd ≤ 0) :
    Allocates sys conn
      (let conn := { conn with sockfd := fd }
      if conn.sockfd ≤ 0 then ⟨-1, conn, sys', calls⟩ else ⟨1, { conn with state := .connecting }, sys', calls⟩) := by
  have before : conn.socket? = none := ConnectionOf.socket?_eq_none closed
  have object : Swap sys.liveSsl conn.ssl conn.ssl sys'.liveSsl := by
    rw [acquired.live]
    exact .stay conn.ssl
  dsimp only
  rcases acquired.socket with ⟨rfl, same⟩ | ⟨positive, fresh, opened⟩
  · rw [if_pos (by decide)]
    refine ⟨⟨?_, object⟩, fun waits => ?_, fun _ => show (-1 : Int) ≤ 0 by decide⟩
    · show Swap sys.opened conn.socket? (ConnectionOf.socket? { conn with sockfd := -1 }) sys'.opened
      rw [before, same]
      exact .stay none
    · rw [show ({ conn with sockfd := -1 } : Connection).state = .idle from idle] at waits
      exact Bool.noConfusion waits
  · rw [if_neg (Int.not_le.mpr positive)]
    refine ⟨⟨?_, object⟩, fun _ => positive, fun now => ConnState.noConfusion now⟩
    show Swap sys.opened conn.socket? (if 0 < fd then some fd else none) sys'.opened
    rw [before, opened, if_pos positive]
    exact .acquire fresh

/-! ## Closing it -/

/-- `cleanup_connection`: whatever its test for a socket, it closes the record's own and frees the record's object. -/
theorem cleaned_exchange {sys : Sys} {conn conn' : Connection} {closes : Prop} [Decidable closes]
    (some : 0 < conn.sockfd → closes) (none : conn.sockfd ≤ 0 → conn.sockfd ∉ sys.opened) (closed : conn'.sockfd ≤ 0)
    (bare : conn'.ssl = Option.none) :
    let freed := match conn.ssl with
      | .some ssl => sys.sslFree ssl
      | .none => sys
    Exchange sys conn (if closes then freed.close conn.sockfd else freed) conn' := by
  dsimp only
  have after : conn'.socket? = Option.none := ConnectionOf.socket?_eq_none closed
  constructor
  · have opened : (match conn.ssl with
        | .some ssl => sys.sslFree ssl
        | .none => sys).opened = sys.opened := by
      cases conn.ssl <;> rfl
    generalize (match conn.ssl with
        | .some ssl => sys.sslFree ssl
        | .none => sys) = freed at opened ⊢
    rw [after]
    by_cases positive : 0 < conn.sockfd
    · rw [if_pos (some positive), show conn.socket? = Option.some conn.sockfd from if_pos positive]
      show Swap _ _ _ (freed.opened.filter (· ≠ conn.sockfd))
      rw [opened]
      exact .release conn.sockfd
    · have absent := none (Int.not_lt.mp positive)
      have kept : sys.opened.filter (· ≠ conn.sockfd) = sys.opened := by
        rw [List.filter_eq_self]
        intro other member
        exact decide_eq_true fun same => absent (same ▸ member)
      rw [ConnectionOf.socket?_eq_none (Int.not_lt.mp positive)]
      split
      · show Swap _ _ _ (freed.opened.filter (· ≠ conn.sockfd))
        rw [opened, kept]
        exact .stay _
      · rw [opened]
        exact .stay _
  · have live : ∀ freed : Sys, (if closes then freed.close conn.sockfd else freed).liveSsl = freed.liveSsl := by
      intro freed
      split
      · rfl
      · rfl
    rw [live, bare]
    cases conn.ssl with
    | none => exact .stay _
    | some ssl => exact .release ssl

/-- A handler exchanges at most an SSL object. -/
theorem SslStep.exchange {host : List Byte} {direct named : Prop} {sys : Sys} {conn : Connection} {o : Outcome Nat}
    (step : SslStep host direct named sys conn o) (bare : conn.state.early = true → conn.ssl = none) :
    Exchange sys conn o.sys o.conn ∧ o.conn.sockfd = conn.sockfd := by
  have socket : Swap sys.opened conn.socket? o.conn.socket? o.sys.opened := by
    rw [step.opened, show o.conn.socket? = conn.socket? by unfold ConnectionOf.socket?; rw [step.sockfd]]
    exact .stay _
  refine ⟨⟨socket, ?_⟩, step.sockfd⟩
  cases step.change with
  | still object live =>
    rw [object, live]
    exact .stay _
  | handshake _ object kept live =>
    rw [object, kept, live]
    exact .stay _
  | setUp early object =>
    rw [bare early]
    exact object

/-- What a phase says about the set-up of its record. -/
theorem Represents.bare {job : Job} {conn : Connection} {p : Phase} (record : Represents job conn p)
    (early : conn.state.early = true) : conn.ssl = none := by
  have ssl := record.ssl
  rw [record.state] at early
  cases p with
  | idle | connecting | tunnelling | awaitingReply => exact ssl ConnState.noConfusion ConnState.noConfusion
  | _ => exact Bool.noConfusion early

/-- A slot waits for a proxy's reply only where it goes through a tunnel. -/
theorem Represents.through {job : Job} {conn : Connection} {p : Phase} (record : Represents job conn p)
    (sound : job.Sound p) (waiting : conn.state = .proxyResponse) : job.tunnel = true := by
  have names := record.state.symm.trans waiting
  cases p with
  | awaitingReply got => exact sound.2
  | _ => exact ConnState.noConfusion names

namespace Poll

variable (args : Arguments) (request : HTTPRequest)

theorem created (host : List Byte) (port : Int) {addresses : Option (List Address)} (positive : PositiveSockets addresses)
    (sys : Sys) : Acquired sys (createNonblockingSocket host port addresses sys).1
      (createNonblockingSocket host port addresses sys).2.1 :=
  createNonblockingSocket_acquired rfl (fun _ positive => decide_eq_false (Int.not_le.mpr positive)) _ host port positive sys

/-- `cleanup_connection` leaves the slot without a descriptor. -/
theorem cleanup_closed (conn : Connection) (sys : Sys) : (cleanupConnection conn sys).1.sockfd ≤ 0 := by
  show (if conn.sockfd ≠ 0 then -1 else conn.sockfd) ≤ 0
  split
  · decide
  · omega

/-- The functions of `bench_poll` account for what a slot owns. -/
theorem handles : driver.Handles args request (job args request) where
  follows := follows args request
  init := fun _ => rfl
  allocate := by
    intro sys addresses conn positive idle closed
    have acquired := Acquired.either (p := needConnectProxy args = true)
      (created args.proxyHost.bytes args.proxyPort positive sys)
      (created args.targetHost.bytes args.targetPort positive sys)
    show Allocates sys conn (allocateSocket args sys addresses conn)
    unfold allocateSocket
    generalize (if needConnectProxy args = true then _ else _ : Int × Sys × List Call) = opened at acquired ⊢
    obtain ⟨fd, sys', calls⟩ := opened
    exact acquired.allocate idle closed
  cleanup := by
    intro sys conn none
    exact cleaned_exchange (fun positive => by omega) none (cleanup_closed conn sys) rfl
  clean := fun sys conn => ⟨cleanup_closed conn sys, rfl⟩
  handle := by
    intro sys errno conn mask io p record sound active
    have waits : conn.state.pollable = true := (congrArg ConnState.pollable record.state).trans active
    exact (handle_ssl args sys errno mask io waits record.bare (record.through sound)).exchange record.bare

variable {args request}

/-- The table of a world. -/
def World.table (w : World) : Table Nat := ⟨w.slots.map (·.conn), w.sys⟩

/-- The start-up, with positive descriptors. -/
inductive InitPositive (args : Arguments) (request : HTTPRequest) : World → Prop
  | openAll (addresses : Nat → Option (List Address)) (positive : ∀ i, PositiveSockets (addresses i))
      (raw : Nat → Connection) :
      InitPositive args request (openAll args request addresses raw 0 (numConnections args) .initial)

/-- One iteration of the main loop, with positive descriptors. -/
inductive StepPositive (args : Arguments) : World → World → Prop
  | quiet (w : World) (addresses : Nat → Option (List Address)) (positive : ∀ i, PositiveSockets (addresses i)) :
      StepPositive args w ⟨(setupPass args addresses w).slots, (setupPass args addresses w).sys⟩
  | ready (w : World) (addresses : Nat → Option (List Address)) (positive : ∀ i, PositiveSockets (addresses i))
      (answers : Nat → Answers) (revents : Nat → BitVec 16) (some : 0 < (setupPass args addresses w).ret) :
      StepPositive args w
        ⟨(dispatchPass args answers revents (setupPass args addresses w)).slots,
          (dispatchPass args answers revents (setupPass args addresses w)).sys⟩

/-- The worlds of the runs in which `socket()` gives positive descriptors. -/
abbrev RunPositive (args : Arguments) (request : HTTPRequest) : World → Prop :=
  Reachable (InitPositive args request) (StepPositive args)

/-- Such runs are runs. -/
theorem RunPositive.run {w : World} (positive : RunPositive args request w) : Run args request w := by
  induction positive with
  | start first =>
    obtain ⟨addresses, -, raw⟩ := first
    exact .start (.openAll addresses raw)
  | next _ step ih =>
    cases step with
    | quiet addresses => exact .next ih (.quiet _ addresses)
    | ready addresses positive answers revents some => exact .next ih (.ready _ addresses answers revents some)

/-- The start-up is a sequence of operations on the table. -/
theorem openAll_operations {addresses : Nat → Option (List Address)} (positive : ∀ i, PositiveSockets (addresses i))
    (raw : Nat → Connection) : ∀ (k i : Nat) (sys : Sys) (pre : List Connection),
      ReflTransGen (driver.Operation args request) ⟨pre, sys⟩
        ⟨pre ++ (openAll args request addresses raw i k sys).slots.map (·.conn),
          (openAll args request addresses raw i k sys).sys⟩ := by
  intro k
  induction k with
  | zero =>
    intro i sys pre
    simpa [openAll] using ReflTransGen.refl
  | succ k ih =>
    intro i sys pre
    have first := driver.fresh_operations args request (fun _ => rfl) pre sys (positive i) (raw i) trivial
    have rest := ih (i + 1) (driver.fresh args request sys (addresses i) (raw i)).2
      (pre ++ [(driver.fresh args request sys (addresses i) (raw i)).1.conn])
    refine first.trans ?_
    simpa [openAll] using rest

/-- The set-up loop is one of operations on the slots it has come to. -/
theorem setupLoop_operations {addresses : Nat → Option (List Address)} (positive : ∀ i, PositiveSockets (addresses i))
    (bitmapSize : Int) : ∀ (slots : List (Slot Nat)) (pre : List Connection) (i : Nat) (sys : Sys) (num : Int)
      (fds : List PollFd) (bitmap : List Byte),
      ReflTransGen (driver.Operation args request) ⟨pre ++ slots.map (·.conn), sys⟩
        ⟨pre ++ (setupLoop args addresses bitmapSize i slots sys num fds bitmap).slots.map (·.conn),
          (setupLoop args addresses bitmapSize i slots sys num fds bitmap).sys⟩ := by
  intro slots
  induction slots with
  | nil => intro _ _ _ _ _ _; exact .refl
  | cons slot rest ih =>
    intro pre i sys num fds bitmap
    have later : ∀ (slot : Slot Nat) (sys : Sys) (num : Int) (fds : List PollFd) (bitmap : List Byte),
        ReflTransGen (driver.Operation args request) ⟨pre ++ slot.conn :: rest.map (·.conn), sys⟩
          ⟨pre ++ slot.conn :: (setupLoop args addresses bitmapSize (i + 1) rest sys num fds bitmap).slots.map (·.conn),
            (setupLoop args addresses bitmapSize (i + 1) rest sys num fds bitmap).sys⟩ := by
      intro slot sys num fds bitmap
      simpa using ih (pre ++ [slot.conn]) (i + 1) sys num fds bitmap
    unfold setupLoop
    split
    · dsimp only
      split
      · exact .refl
      · exact later slot sys _ _ _
    · split
      · exact later slot sys _ _ _
      · have recycled := driver.recycle_operations args request (fun _ _ => rfl) pre (rest.map (·.conn)) slot sys
          (positive i)
        exact recycled.trans (later _ _ _ _ _)

/-- And so is the whole pass. -/
theorem setupPass_operations {addresses : Nat → Option (List Address)} (positive : ∀ i, PositiveSockets (addresses i))
    (w : World) : ReflTransGen (driver.Operation args request) w.table
      ⟨(setupPass args addresses w).slots.map (·.conn), (setupPass args addresses w).sys⟩ := by
  unfold setupPass setupConnectionFdsets
  dsimp only
  split
  · exact .refl
  · split
    · exact .refl
    · exact setupLoop_operations positive _ w.slots [] 0 w.sys 0 [] _

/-- The dispatch loop only handles slots that wait. -/
theorem dispatch_operations (answers : Nat → Answers) (bitmap : List Byte) (size : Int) :
    ∀ (slots : List (Slot Nat)) (pre : List Connection) (i : Nat) (fds : List PollFd) (sys : Sys),
      (∀ (j : Nat) (slot : Slot Nat), slots[j]? = some slot → getBitmap charSigned (ushort (i + j)) bitmap size ≠ 0 →
        slot.conn.state.pollable = true) →
      ReflTransGen (driver.Operation args request) ⟨pre ++ slots.map (·.conn), sys⟩
        ⟨pre ++ (dispatch args answers bitmap size i slots fds sys).slots.map (·.conn),
          (dispatch args answers bitmap size i slots fds sys).sys⟩ := by
  intro slots
  induction slots with
  | nil => intro _ _ _ _ _; exact .refl
  | cons slot rest ih =>
    intro pre i fds sys waits
    have tail : ∀ (j : Nat) (other : Slot Nat), rest[j]? = some other →
        getBitmap charSigned (ushort (i + 1 + j)) bitmap size ≠ 0 → other.conn.state.pollable = true := by
      intro j other here set
      rw [show i + 1 + j = i + (j + 1) by omega] at set
      exact waits (j + 1) other here set
    have later : ∀ (slot : Slot Nat) (fds : List PollFd) (sys : Sys),
        ReflTransGen (driver.Operation args request) ⟨pre ++ slot.conn :: rest.map (·.conn), sys⟩
          ⟨pre ++ slot.conn :: (dispatch args answers bitmap size (i + 1) rest fds sys).slots.map (·.conn),
            (dispatch args answers bitmap size (i + 1) rest fds sys).sys⟩ := by
      intro slot fds sys
      simpa using ih (pre ++ [slot.conn]) (i + 1) fds sys tail
    unfold dispatch
    split
    · rename_i set
      cases fds with
      | nil => exact .refl
      | cons fd fds =>
        have handled := driver.ready_operation args request pre (rest.map (·.conn)) (waits 0 slot rfl set) sys
          (answers i).errno fd.revents (answers i).io
        exact .head handled (later _ _ _)
    · exact later slot fds sys

/-- **A run is a sequence of operations.** -/
theorem RunPositive.operations {w w' : World} (positive : RunPositive args request w) (step : StepPositive args w w') :
    ReflTransGen (driver.Operation args request) w.table w'.table := by
  cases step with
  | quiet addresses positive => exact setupPass_operations positive w
  | ready addresses sockets answers revents counted =>
    obtain ⟨done, room, small⟩ := setupPass_done addresses w (run_length positive.run) counted
    have length : (setupPass args addresses w).slots.length = w.slots.length := done.visited.length_eq.symm
    have waits : ∀ (j : Nat) (slot : Slot Nat), (setupPass args addresses w).slots[j]? = some slot →
        getBitmap charSigned (ushort (0 + j)) (setupPass args addresses w).bitmap (bitmapSizeOf w.slots.length) ≠ 0 →
          slot.conn.state.pollable = true := by
      intro j slot here set
      rw [Nat.zero_add] at set
      exact done.set_waits room small here set
    refine (setupPass_operations sockets w).trans ?_
    unfold dispatchPass
    rw [length]
    exact dispatch_operations answers _ _ _ [] 0 _ _ waits

end Poll

namespace Epoll

variable (args : Arguments) (request : HTTPRequest)

theorem created (host : List Byte) (port : Int) {addresses : Option (List Address)} (positive : PositiveSockets addresses)
    (sys : Sys) : Acquired sys (createNonblockingSocket host port addresses sys).1
      (createNonblockingSocket host port addresses sys).2.1 :=
  createNonblockingSocket_acquired rfl (fun _ positive => decide_eq_false (Int.not_le.mpr positive)) _ host port positive sys

/-- `cleanup_connection` of `bench_epoll` leaves the slot without a descriptor. -/
theorem cleanup_closed (conn : Connection) (sys : Sys) : (cleanupConnection conn sys).1.sockfd ≤ 0 := by
  show (if 0 < conn.sockfd then -1 else conn.sockfd) ≤ 0
  split
  · decide
  · omega

/-- The functions of `bench_epoll` account for what a slot owns. -/
theorem handles : driver.Handles args request (job args request) where
  follows := follows args request
  init := fun _ => rfl
  allocate := by
    intro sys addresses conn positive idle closed
    have acquired := Acquired.either (p := needConnectProxy args = true)
      (created args.proxyHost.bytes args.proxyPort positive sys)
      (created args.targetHost.bytes args.targetPort positive sys)
    show Allocates sys conn (allocateSocket args sys addresses conn)
    unfold allocateSocket
    generalize (if needConnectProxy args = true then _ else _ : Int × Sys × List Call) = opened at acquired ⊢
    obtain ⟨fd, sys', calls⟩ := opened
    exact acquired.allocate idle closed
  cleanup := by
    intro sys conn none
    exact cleaned_exchange id none (cleanup_closed conn sys) rfl
  clean := fun sys conn => ⟨cleanup_closed conn sys, rfl⟩
  handle := by
    intro sys errno conn mask io p record sound active
    have waits : conn.state.pollable = true := (congrArg ConnState.pollable record.state).trans active
    exact (handle_ssl args sys errno mask io waits record.bare (record.through sound)).exchange record.bare

variable {args request}

/-- The table of a world. -/
def World.table (w : World) : Table Nat := ⟨w.slots.map (·.conn), w.sys⟩

/-- The start-up, with positive descriptors. -/
inductive InitPositive (args : Arguments) (request : HTTPRequest) : World → Prop
  | openAll (addresses : Nat → Option (List Address)) (positive : ∀ i, PositiveSockets (addresses i)) :
      InitPositive args request ⟨(openAll args request addresses 0 (numConnections args) .initial).1,
        (openAll args request addresses 0 (numConnections args) .initial).2, .pass⟩

/-- A step of the main loop, a pass among them only with positive descriptors. -/
inductive StepPositive (args : Arguments) : World → World → Prop
  | pass (slots : List (Slot Nat)) (sys : Sys) (addresses : Nat → Option (List Address))
      (positive : ∀ i, PositiveSockets (addresses i)) (full : Nat → Bool) :
      StepPositive args ⟨slots, sys, .pass⟩
        ⟨(setupConnectionToEpollInstance args addresses full slots sys).slots,
          (setupConnectionToEpollInstance args addresses full slots sys).sys,
          afterPass (setupConnectionToEpollInstance args addresses full slots sys).ret⟩
  | timeUp (slots : List (Slot Nat)) (sys : Sys) : StepPositive args ⟨slots, sys, .pass⟩ ⟨slots, sys, .left⟩
  | other (w w' : World) (elsewhere : w.loop ≠ .pass) (step : Step args w w') : StepPositive args w w'

/-- The worlds of the runs in which `socket()` gives positive descriptors. -/
abbrev RunPositive (args : Arguments) (request : HTTPRequest) : World → Prop :=
  Reachable (InitPositive args request) (StepPositive args)

theorem RunPositive.run {w : World} (positive : RunPositive args request w) : Run args request w := by
  induction positive with
  | start first =>
    obtain ⟨addresses, -⟩ := first
    exact .start (.openAll addresses)
  | next _ step ih =>
    cases step with
    | pass slots sys addresses positive full => exact .next ih (.pass slots sys addresses full)
    | timeUp slots sys => exact .next ih (.timeUp slots sys)
    | other _ _ _ step => exact .next ih step

/-- The start-up of `bench_epoll` is a sequence of operations. -/
theorem openAll_operations {addresses : Nat → Option (List Address)} (positive : ∀ i, PositiveSockets (addresses i)) :
    ∀ (k i : Nat) (sys : Sys) (pre : List Connection), ReflTransGen (driver.Operation args request) ⟨pre, sys⟩
      ⟨pre ++ (openAll args request addresses i k sys).1.map (·.conn), (openAll args request addresses i k sys).2⟩ := by
  intro k
  induction k with
  | zero =>
    intro i sys pre
    simpa [openAll] using ReflTransGen.refl
  | succ k ih =>
    intro i sys pre
    have first := driver.fresh_operations args request (fun _ => rfl) pre sys (positive i) (.zero 0) rfl
    have rest := ih (i + 1) (driver.fresh args request sys (addresses i) (.zero 0)).2
      (pre ++ [(driver.fresh args request sys (addresses i) (.zero 0)).1.conn])
    refine first.trans ?_
    simpa [openAll] using rest

/-- `epoll_ctl(EPOLL_CTL_ADD)` opens and frees nothing. -/
theorem epollAdd_still (sys : Sys) (fd : Int) (entry : Registration) (full : Bool) :
    (sys.epollAdd fd entry full).2.2.opened = sys.opened ∧ (sys.epollAdd fd entry full).2.2.liveSsl = sys.liveSsl := by
  unfold Sys.epollAdd
  repeat' split
  all_goals exact ⟨rfl, rfl⟩

/-- The set-up loop of `bench_epoll` is one of operations on the slots it has come to. -/
theorem setupLoop_operations {addresses : Nat → Option (List Address)} (positive : ∀ i, PositiveSockets (addresses i))
    (full : Nat → Bool) : ∀ (slots : List (Slot Nat)) (pre : List Connection) (i : Nat) (sys : Sys) (num : Int),
      ReflTransGen (driver.Operation args request) ⟨pre ++ slots.map (·.conn), sys⟩
        ⟨pre ++ (setupLoop args addresses full i slots sys num).slots.map (·.conn),
          (setupLoop args addresses full i slots sys num).sys⟩ := by
  intro slots
  induction slots with
  | nil => intro _ _ _ _; exact .refl
  | cons slot rest ih =>
    intro pre i sys num
    have later : ∀ (slot : Slot Nat) (sys : Sys) (num : Int),
        ReflTransGen (driver.Operation args request) ⟨pre ++ slot.conn :: rest.map (·.conn), sys⟩
          ⟨pre ++ slot.conn :: (setupLoop args addresses full (i + 1) rest sys num).slots.map (·.conn),
            (setupLoop args addresses full (i + 1) rest sys num).sys⟩ := by
      intro slot sys num
      simpa using ih (pre ++ [slot.conn]) (i + 1) sys num
    unfold setupLoop
    split
    · rename_i events _
      have still := epollAdd_still sys slot.conn.sockfd ⟨events, i, true⟩ (full i)
      have added : driver.Operation args request ⟨pre ++ slot.conn :: rest.map (·.conn), sys⟩
          ⟨pre ++ slot.conn :: rest.map (·.conn), (sys.epollAdd slot.conn.sockfd ⟨events, i, true⟩ (full i)).2.2⟩ :=
        .system _ _ _ still.1 still.2
      dsimp only
      split
      · exact .single added
      · exact .head added (later slot _ _)
    · split
      · exact later slot sys _
      · have recycled := driver.recycle_operations args request (fun _ _ => rfl) pre (rest.map (·.conn)) slot sys
          (positive i)
        exact recycled.trans (later _ _ _)

/-- **A run is a sequence of operations.** -/
theorem RunPositive.operations {w w' : World} (positive : RunPositive args request w) (step : StepPositive args w w') :
    ReflTransGen (driver.Operation args request) w.table w'.table := by
  cases step with
  | pass slots sys addresses sockets full =>
    unfold setupConnectionToEpollInstance
    split
    · exact .refl
    · exact setupLoop_operations sockets full slots [] 0 sys 0
  | timeUp slots sys => exact .refl
  | other _ _ elsewhere step =>
    cases step with
    | pass slots sys addresses full => exact absurd rfl elsewhere
    | timeUp slots sys => exact absurd rfl elsewhere
    | waitFailed slots sys activeFds => exact .refl
    | wait slots sys activeFds fds events distinct reported most => exact .single (.system _ _ _ rfl rfl)
    | handle slots sys event rest slot here answers =>
      have inv := run_registered positive.run
      obtain ⟨slot', entry, there, present, -⟩ := inv.pending event.slot List.mem_cons_self
      obtain rfl : slot = slot' := Option.some.inj (here.symm.trans there)
      have waits := registration_pollable (inv.own here present).2.1
      have table : (slots.map (·.conn))[event.slot]? = some slot.conn := by simp [here]
      have handled : driver.Operation args request ⟨slots.map (·.conn), sys⟩ _ :=
        .handle _ sys event.slot slot.conn table waits answers.errno event.events answers.io
      simp only [World.table, List.map_set]
      exact .single handled
    | again slots sys => exact .refl

end Epoll

/-! ## The two engines -/

/-- How an engine's tables own what is open: its runs are made of operations,
between any two of them the table owns, and the final loop leaves nothing. -/
structure Owns {ρ σ : Type} (d : Driver Nat ρ) (args : Arguments) (request : HTTPRequest) (init : σ → Prop)
    (step : σ → σ → Prop) (table : σ → Table Nat) : Prop where
  start : ∀ w, init w → ReflTransGen (d.Operation args request) .empty (table w)
  run : ∀ w w', Reachable init step w → step w w' → ReflTransGen (d.Operation args request) (table w) (table w')
  owning : ∀ t, d.Between args request t → Owning t
  /-- What a record releases is still open, or alive. -/
  once : ∀ t, d.Between args request t → ∀ conn ∈ t.conns,
    (∀ fd, conn.socket? = some fd → fd ∈ t.sys.opened) ∧ ∀ ssl, conn.ssl = some ssl → ssl ∈ t.sys.liveSsl
  left : ∀ t, d.Between args request t →
    (d.cleanupAll t.conns t.sys).2.opened = [] ∧ (d.cleanupAll t.conns t.sys).2.liveSsl = []

/-- **Ownership.** In every run of either engine in which `socket()` gives
positive descriptors, no socket and no SSL object is leaked, shared or released twice. -/
theorem owns_of_run (args : Arguments) (request : HTTPRequest) :
    Owns Poll.driver args request (Poll.InitPositive args request) (Poll.StepPositive args) Poll.World.table ∧
      Owns Epoll.driver args request (Epoll.InitPositive args request) (Epoll.StepPositive args) Epoll.World.table := by
  constructor
  · constructor
    · rintro _ ⟨addresses, positive, raw⟩
      exact Poll.openAll_operations positive raw _ 0 .initial []
    · exact fun w w' run step => Poll.RunPositive.operations run step
    · exact fun t between => ((Poll.handles args request).keeps_of_between between).owning
    · exact fun t between => ((Poll.handles args request).keeps_of_between between).once
    · exact fun t between => (Poll.handles args request).all_released between
  · constructor
    · rintro _ ⟨addresses, positive⟩
      exact Epoll.openAll_operations positive _ 0 .initial []
    · exact fun w w' run step => Epoll.RunPositive.operations run step
    · exact fun t between => ((Epoll.handles args request).keeps_of_between between).owning
    · exact fun t between => ((Epoll.handles args request).keeps_of_between between).once
    · exact fun t between => (Epoll.handles args request).all_released between

end WebBench
