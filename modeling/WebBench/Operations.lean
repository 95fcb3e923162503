import WebBench.Lib.Ownership
import WebBench.Lib.Reach
import WebBench.Record

/-!
# Operations on the table

An engine works on its table one record at a time: it initialises, opens, cleans
up and handles connections. `Operation` is one such step, apart from the loops
it belongs to, and `Owning` is what holds between any two of them: sockets and
SSL objects belong to the records, one owner each.
-/

namespace WebBench
set_option autoImplicit false
open CLib Relation

variable {κ ρ : Type}

/-- `socket()` returns -1 or a positive descriptor. -/
def PositiveSockets (addresses : Option (List Address)) : Prop :=
  ∀ list ∈ addresses, ∀ address ∈ list, address.socket ≠ 0

/-- The records of the table and the state they share. -/
structure Table (κ : Type) where
  conns : List (ConnectionOf κ)
  sys : Sys

/-- Nothing has been initialised yet. -/
def Table.empty : Table κ := ⟨[], .initial⟩

/-- The descriptor a record holds. -/
def ConnectionOf.socket? (conn : ConnectionOf κ) : Option Int := if 0 < conn.sockfd then some conn.sockfd else none

namespace Driver

variable (d : Driver κ ρ) (args : Arguments) (request : HTTPRequest)

/-- One operation of the engine. `system` is a call such as `epoll_ctl`, which
opens and closes nothing; the final loop cleans up records in any state. -/
inductive Operation : Table κ → Table κ → Prop
  | init (conns : List (ConnectionOf κ)) (sys : Sys) (raw : ConnectionOf κ) (allowed : d.raw raw) :
      Operation ⟨conns, sys⟩ ⟨conns ++ [d.initConnection args request raw], sys⟩
  | allocate (conns : List (ConnectionOf κ)) (sys : Sys) (i : Nat) (conn : ConnectionOf κ) (here : conns[i]? = some conn)
      (idle : conn.state = .idle) (addresses : Option (List Address)) (positive : PositiveSockets addresses) :
      Operation ⟨conns, sys⟩
        ⟨conns.set i (d.allocateSocket args sys addresses conn).conn, (d.allocateSocket args sys addresses conn).sys⟩
  | cleanup (conns : List (ConnectionOf κ)) (sys : Sys) (i : Nat) (conn : ConnectionOf κ) (here : conns[i]? = some conn) :
      Operation ⟨conns, sys⟩ ⟨conns.set i (d.cleanupConnection conn sys).1, (d.cleanupConnection conn sys).2⟩
  | handle (conns : List (ConnectionOf κ)) (sys : Sys) (i : Nat) (conn : ConnectionOf κ) (here : conns[i]? = some conn)
      (pollable : conn.state.pollable = true) (errno : Int) (mask : ρ) (io : Io) :
      Operation ⟨conns, sys⟩
        ⟨conns.set i (d.handleReadyConnection args sys errno conn mask io).conn,
          (d.handleReadyConnection args sys errno conn mask io).sys⟩
  | system (conns : List (ConnectionOf κ)) (sys sys' : Sys) (opened : sys'.opened = sys.opened)
      (live : sys'.liveSsl = sys.liveSsl) : Operation ⟨conns, sys⟩ ⟨conns, sys'⟩

/-- The tables found between two operations. -/
abbrev Between : Table κ → Prop := Reachable (· = .empty) (d.Operation args request)

/-- The loop that cleans up every record at the end. -/
def cleanupAll : List (ConnectionOf κ) → Sys → List (ConnectionOf κ) × Sys
  | [], sys => ([], sys)
  | conn :: rest, sys =>
    let (conn, sys) := d.cleanupConnection conn sys
    let (rest, sys) := cleanupAll rest sys
    (conn :: rest, sys)

end Driver

/-- Who owns what: every open socket is the `sockfd` of one record, every live
SSL object the `ssl` of one record, and the states say what a record has. -/
structure Owning (t : Table κ) : Prop where
  sockets : Owned ConnectionOf.socket? t.conns t.sys.opened
  objects : Owned ConnectionOf.ssl t.conns t.sys.liveSsl
  waiting : ∀ conn ∈ t.conns, conn.state.pollable = true → 0 < conn.sockfd ∧ conn.sockfd ∈ t.sys.opened
  idle : ∀ conn ∈ t.conns, conn.state = .idle → conn.sockfd ≤ 0 ∧ conn.ssl = none

/-! ## One record -/

/-- What one record is between two operations: it stands for a phase of its
cycle, and has a socket while it waits for one and none while it is idle. -/
structure Settled (job : Job) (conn : Connection) : Prop where
  phase : ∃ p, Represents job conn p ∧ job.Sound p
  waiting : conn.state.pollable = true → 0 < conn.sockfd
  idle : conn.state = .idle → conn.sockfd ≤ 0

/-- What an operation changes hands: at most one socket and one SSL object of its record. -/
structure Exchange (sys : Sys) (conn : Connection) (sys' : Sys) (conn' : Connection) : Prop where
  socket : Swap sys.opened conn.socket? conn'.socket? sys'.opened
  object : Swap sys.liveSsl conn.ssl conn'.ssl sys'.liveSsl

/-- What `allocate_socket` does to an idle record: it waits with a socket, or stays idle without one. -/
structure Allocates (sys : Sys) (conn : Connection) (o : Outcome Nat) : Prop where
  exchange : Exchange sys conn o.sys o.conn
  waiting : o.conn.state.pollable = true → 0 < o.conn.sockfd
  idle : o.conn.state = .idle → o.conn.sockfd ≤ 0

/-- What an engine's functions must do for their tables to own what is open. -/
structure Driver.Handles (d : Driver Nat ρ) (args : Arguments) (request : HTTPRequest) (job : Job) : Prop where
  follows : d.Follows args request job (Represents job)
  init : ∀ raw, (d.initConnection args request raw).sockfd = -1
  allocate : ∀ sys addresses conn, PositiveSockets addresses → conn.state = .idle → conn.sockfd ≤ 0 →
    Allocates sys conn (d.allocateSocket args sys addresses conn)
  cleanup : ∀ sys conn, (conn.sockfd ≤ 0 → conn.sockfd ∉ sys.opened) →
    Exchange sys conn (d.cleanupConnection conn sys).2 (d.cleanupConnection conn sys).1
  clean : ∀ sys conn, (d.cleanupConnection conn sys).1.sockfd ≤ 0 ∧ (d.cleanupConnection conn sys).1.ssl = none
  handle : ∀ sys errno conn mask io p, Represents job conn p → job.Sound p → p.active →
    Exchange sys conn (d.handleReadyConnection args sys errno conn mask io).sys
      (d.handleReadyConnection args sys errno conn mask io).conn ∧
      (d.handleReadyConnection args sys errno conn mask io).conn.sockfd = conn.sockfd

/-- The invariant of a table. -/
structure Keeps (job : Job) (t : Table Nat) : Prop where
  sockets : Owned ConnectionOf.socket? t.conns t.sys.opened
  objects : Owned ConnectionOf.ssl t.conns t.sys.liveSsl
  settled : ∀ conn ∈ t.conns, Settled job conn

theorem ConnectionOf.socket?_eq_none {conn : ConnectionOf κ} (closed : conn.sockfd ≤ 0) : conn.socket? = none :=
  if_neg (Int.not_lt.mpr closed)

theorem ConnectionOf.socket?_eq_some {conn : ConnectionOf κ} {fd : Int} (holds : conn.socket? = some fd) :
    conn.sockfd = fd ∧ 0 < fd := by
  unfold ConnectionOf.socket? at holds
  split at holds
  · rename_i positive
    cases holds
    exact ⟨rfl, positive⟩
  · cases holds

namespace Keeps

variable {job : Job} {t : Table Nat} {conns : List Connection} {sys sys' : Sys} {i : Nat} {conn conn' : Connection}

/-- Only positive descriptors are open. -/
theorem positive (keeps : Keeps job t) {fd : Int} (opened : fd ∈ t.sys.opened) : 0 < fd := by
  obtain ⟨conn, -, holds⟩ := keeps.sockets.holder opened
  exact (ConnectionOf.socket?_eq_some holds).2

/-- **One record exchanges what it has.** -/
theorem exchange (keeps : Keeps job ⟨conns, sys⟩) (here : conns[i]? = some conn)
    (exchange : Exchange sys conn sys' conn') (settled : Settled job conn') : Keeps job ⟨conns.set i conn', sys'⟩ where
  sockets := keeps.sockets.swap here exchange.socket
  objects := keeps.objects.swap here exchange.object
  settled := by
    intro other member
    rcases List.mem_or_eq_of_mem_set member with before | rfl
    · exact keeps.settled other before
    · exact settled

end Keeps

namespace Driver.Handles

variable {d : Driver Nat ρ} {args : Arguments} {request : HTTPRequest} {job : Job} {t t' : Table Nat}

/-- **The step.** Every operation keeps the invariant. -/
theorem keeps (law : d.Handles args request job) (before : Keeps job t) (step : d.Operation args request t t') :
    Keeps job t' := by
  cases step with
  | init conns sys raw allowed =>
    have closed := law.init raw
    have record := law.follows.init raw allowed
    have idle : (d.initConnection args request raw).state = .idle := record.state
    have settled : Settled job (d.initConnection args request raw) :=
      ⟨⟨.idle, record, trivial⟩, by simp [idle, ConnState.pollable], fun _ => by rw [closed]; decide⟩
    refine ⟨before.sockets.join (ConnectionOf.socket?_eq_none (by rw [closed]; decide)),
      before.objects.join (record.ssl ConnState.noConfusion ConnState.noConfusion), ?_⟩
    intro conn member
    rcases List.mem_append.mp member with old | new
    · exact before.settled conn old
    · rw [List.mem_singleton.mp new]
      exact settled
  | allocate conns sys i conn here idle addresses positive =>
    have settled := before.settled conn (List.mem_of_getElem? here)
    obtain ⟨p, record, -⟩ := settled.phase
    have resting : p = .idle := by
      have names := record.state.symm.trans idle
      cases p <;> first | rfl | exact ConnState.noConfusion names
    subst resting
    obtain ⟨q, trace, next⟩ := law.follows.allocate sys addresses conn record
    have allocates := law.allocate sys addresses conn positive idle (settled.idle idle)
    exact before.exchange here allocates.exchange
      ⟨⟨q, next, Job.sound_of_trace trace trivial⟩, allocates.waiting, allocates.idle⟩
  | cleanup conns sys i conn here =>
    have settled := before.settled conn (List.mem_of_getElem? here)
    obtain ⟨p, record, -⟩ := settled.phase
    have exchange := law.cleanup sys conn fun none opened => absurd (before.positive opened) (Int.not_lt.mpr none)
    have next := law.follows.cleanup conn p sys record
    have idle : (d.cleanupConnection conn sys).1.state = .idle := next.state
    exact before.exchange here exchange
      ⟨⟨.idle, next, trivial⟩, by simp [idle, ConnState.pollable], fun _ => (law.clean sys conn).1⟩
  | handle conns sys i conn here pollable errno mask io =>
    have settled := before.settled conn (List.mem_of_getElem? here)
    obtain ⟨p, record, sound⟩ := settled.phase
    have active : p.active := (congrArg ConnState.pollable record.state).symm.trans pollable
    have begun : p.state ≠ .idle := fun idle => by rw [Phase.active, idle] at active; exact Bool.noConfusion active
    obtain ⟨q, trace, next⟩ := law.follows.handle sys errno conn mask io p record active
    obtain ⟨exchange, same⟩ := law.handle sys errno conn mask io p record sound active
    refine before.exchange here exchange ⟨⟨q, next, Job.sound_of_trace trace sound⟩, fun _ => ?_, fun idle => ?_⟩
    · rw [same]
      exact settled.waiting pollable
    · exact absurd (next.state.symm.trans idle) (Job.begun_of_trace trace begun)
  | system conns sys sys' opened live =>
    refine ⟨?_, ?_, before.settled⟩
    · rw [opened]
      exact before.sockets
    · rw [live]
      exact before.objects

/-- **Every table of a run.** -/
theorem keeps_of_between (law : d.Handles args request job) (between : d.Between args request t) : Keeps job t := by
  refine between.invariant ?_ fun _ _ keeps step => law.keeps keeps step
  rintro _ rfl
  exact ⟨.nil, .nil, fun conn member => absurd member List.not_mem_nil⟩

end Driver.Handles

/-- The invariant says who owns what. -/
theorem Keeps.owning {job : Job} {t : Table Nat} (keeps : Keeps job t) : Owning t where
  sockets := keeps.sockets
  objects := keeps.objects
  waiting := by
    intro conn member pollable
    have positive := (keeps.settled conn member).waiting pollable
    exact ⟨positive, keeps.sockets.alive member (if_pos positive)⟩
  idle := by
    intro conn member idle
    have settled := keeps.settled conn member
    obtain ⟨p, record, -⟩ := settled.phase
    have names := record.state.symm.trans idle
    have none : p.ssl = none := by cases p <;> first | rfl | exact ConnState.noConfusion names
    refine ⟨settled.idle idle, (record.ssl ?_ ?_).trans none⟩
    · rw [names]
      exact ConnState.noConfusion
    · rw [names]
      exact ConnState.noConfusion

theorem Keeps.once {job : Job} {t : Table Nat} (keeps : Keeps job t) : ∀ conn ∈ t.conns,
    (∀ fd, conn.socket? = some fd → fd ∈ t.sys.opened) ∧ ∀ ssl, conn.ssl = some ssl → ssl ∈ t.sys.liveSsl :=
  fun _ member => ⟨fun _ holds => keeps.sockets.alive member holds, fun _ holds => keeps.objects.alive member holds⟩

/-! ## The loops -/

section Loops

variable (d : Driver κ ρ) (args : Arguments) (request : HTTPRequest)

/-- The start-up of one slot. -/
theorem Driver.fresh_operations (idle : ∀ raw, (d.initConnection args request raw).state = .idle)
    (conns : List (ConnectionOf κ)) (sys : Sys) {addresses : Option (List Address)} (positive : PositiveSockets addresses)
    (raw : ConnectionOf κ) (allowed : d.raw raw) :
    ReflTransGen (d.Operation args request) ⟨conns, sys⟩
      ⟨conns ++ [(d.fresh args request sys addresses raw).1.conn], (d.fresh args request sys addresses raw).2⟩ := by
  have opened : d.Operation args request ⟨conns ++ [d.initConnection args request raw], sys⟩ _ :=
    .allocate _ sys conns.length (d.initConnection args request raw) (by simp) (idle raw) addresses positive
  rw [List.set_append_right _ _ (Nat.le_refl _), Nat.sub_self] at opened
  exact .tail (.single (.init conns sys raw allowed)) opened

/-- The set-up pass recycles one slot. -/
theorem Driver.recycle_operations (idle : ∀ conn sys, (d.cleanupConnection conn sys).1.state = .idle)
    (pre rest : List (ConnectionOf κ)) (slot : Slot κ) (sys : Sys) {addresses : Option (List Address)}
    (positive : PositiveSockets addresses) :
    ReflTransGen (d.Operation args request) ⟨pre ++ slot.conn :: rest, sys⟩
      ⟨pre ++ (d.recycle args sys addresses slot).1.conn :: rest, (d.recycle args sys addresses slot).2⟩ := by
  have cleaned : d.Operation args request ⟨pre ++ slot.conn :: rest, sys⟩ _ :=
    .cleanup _ sys pre.length slot.conn (by simp)
  rw [List.set_append_right _ _ (Nat.le_refl _), Nat.sub_self, List.set_cons_zero] at cleaned
  have opened : d.Operation args request
      ⟨pre ++ (d.cleanupConnection slot.conn sys).1 :: rest, (d.cleanupConnection slot.conn sys).2⟩ _ :=
    .allocate _ _ pre.length (d.cleanupConnection slot.conn sys).1 (by simp) (idle slot.conn sys) addresses positive
  rw [List.set_append_right _ _ (Nat.le_refl _), Nat.sub_self, List.set_cons_zero] at opened
  exact .tail (.single cleaned) opened

/-- The handler runs on one slot. -/
theorem Driver.ready_operation (pre rest : List (ConnectionOf κ)) {slot : Slot κ}
    (pollable : slot.conn.state.pollable = true) (sys : Sys) (errno : Int) (mask : ρ) (io : Io) :
    d.Operation args request ⟨pre ++ slot.conn :: rest, sys⟩
      ⟨pre ++ (d.ready args sys errno mask io slot).1.conn :: rest, (d.ready args sys errno mask io slot).2⟩ := by
  have handled : d.Operation args request ⟨pre ++ slot.conn :: rest, sys⟩ _ :=
    .handle _ sys pre.length slot.conn (by simp) pollable errno mask io
  rwa [List.set_append_right _ _ (Nat.le_refl _), Nat.sub_self, List.set_cons_zero] at handled

/-! ## The final loop -/

/-- The final loop is a sequence of operations. -/
theorem Driver.cleanupAll_operations (conns : List (ConnectionOf κ)) :
    ∀ (pre : List (ConnectionOf κ)) (sys : Sys), ReflTransGen (d.Operation args request) ⟨pre ++ conns, sys⟩
      ⟨pre ++ (d.cleanupAll conns sys).1, (d.cleanupAll conns sys).2⟩ := by
  induction conns with
  | nil => exact fun _ _ => .refl
  | cons conn rest ih =>
    intro pre sys
    have first : d.Operation args request ⟨pre ++ conn :: rest, sys⟩
        ⟨pre ++ (d.cleanupConnection conn sys).1 :: rest, (d.cleanupConnection conn sys).2⟩ := by
      have cleaned : d.Operation args request ⟨pre ++ conn :: rest, sys⟩ _ :=
        .cleanup _ sys pre.length conn (by simp)
      rwa [List.set_append_right _ _ (Nat.le_refl _), Nat.sub_self, List.set_cons_zero] at cleaned
    refine .head first ?_
    simpa [cleanupAll] using ih (pre ++ [(d.cleanupConnection conn sys).1]) (d.cleanupConnection conn sys).2

theorem Driver.cleanupAll_clean (clean : ConnectionOf κ → Prop)
    (cleans : ∀ conn sys, clean (d.cleanupConnection conn sys).1) (conns : List (ConnectionOf κ)) :
    ∀ sys, ∀ conn ∈ (d.cleanupAll conns sys).1, clean conn := by
  induction conns with
  | nil => exact fun _ conn member => absurd member List.not_mem_nil
  | cons conn rest ih =>
    intro sys other member
    rcases List.mem_cons.mp member with rfl | later
    · exact cleans conn sys
    · exact ih _ other later

end Loops

/-- **Nothing is left.** The final loop releases every socket and every SSL object. -/
theorem Driver.Handles.all_released {d : Driver Nat ρ} {args : Arguments} {request : HTTPRequest} {job : Job}
    {t : Table Nat} (law : d.Handles args request job) (between : d.Between args request t) :
    (d.cleanupAll t.conns t.sys).2.opened = [] ∧ (d.cleanupAll t.conns t.sys).2.liveSsl = [] := by
  have after : Keeps job ⟨(d.cleanupAll t.conns t.sys).1, (d.cleanupAll t.conns t.sys).2⟩ :=
    law.keeps_of_between (between.steps (d.cleanupAll_operations args request t.conns [] t.sys))
  have clean := d.cleanupAll_clean (fun conn => conn.sockfd ≤ 0 ∧ conn.ssl = none)
    (fun conn sys => law.clean sys conn) t.conns t.sys
  exact ⟨after.sockets.all_released fun conn member => ConnectionOf.socket?_eq_none (clean conn member).1,
    after.objects.all_released fun conn member => (clean conn member).2⟩

end WebBench
