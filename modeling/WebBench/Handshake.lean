import WebBench.SslSteps
import WebBench.Secrecy

/-!
# The SSL object of a cycle

`SslHistory` is what the calls of a cycle say about the SSL object of its slot:
there is none before the set-up, and after it the object is the one that the
set-up has made. Which slots have a bound object, and which handshakes announce
the server's name, is read off it.
-/

namespace WebBench
set_option autoImplicit false
open CLib

variable {κ ρ : Type}

/-- What a slot's cycle has done about SSL so far. -/
structure SslHistory (host : List Byte) (direct named : Prop) (slot : Slot κ) : Prop where
  early : slot.conn.state.early = true → slot.conn.ssl = none ∧ ∀ c ∈ slot.cycle, c.plainly
  late : slot.conn.late → SetUp slot.conn.sockfd host direct named slot.conn.ssl slot.cycle
  shaken : ∀ before ssl ret after, slot.cycle = before ++ .sslConnect ssl ret :: after →
    SetUp slot.conn.sockfd host direct named (some ssl) before

/-- A call that is not among the last ones is among the first ones. -/
theorem split_before {first last before after : List Call} {c : Call} (whole : first ++ last = before ++ c :: after)
    (absent : c ∉ last) : ∃ rest, first = before ++ c :: rest := by
  rcases List.append_eq_append_iff.mp whole with ⟨middle, rfl, inside⟩ | ⟨middle, rfl, inside⟩
  · exact absurd (inside ▸ List.mem_append_right middle List.mem_cons_self) absent
  · cases middle with
    | nil => exact absurd (show c ∈ last by simp [← show c :: after = last from inside]) absent
    | cons head tail =>
      obtain ⟨rfl, -⟩ := List.cons.inj inside
      exact ⟨tail, rfl⟩

/-- A late state is not an early one. -/
theorem ConnectionOf.late_not_early {conn : ConnectionOf κ} (late : conn.late) : conn.state.early = false := by
  rcases late with now | ⟨-, now | now⟩ <;> rw [now] <;> rfl

namespace SslHistory

variable {host : List Byte} {direct named : Prop} {slot : Slot κ} {sys : Sys} {o : Outcome κ}

/-- No handshake among the new calls. -/
theorem shaken_append (history : SslHistory host direct named slot) (calm : ∀ c ∈ o.calls, c.handshakes = false)
    (same : o.conn.sockfd = slot.conn.sockfd) : ∀ before ssl ret after,
      slot.cycle ++ o.calls = before ++ .sslConnect ssl ret :: after →
        SetUp o.conn.sockfd host direct named (some ssl) before := by
  intro before ssl ret after whole
  obtain ⟨rest, first⟩ := split_before whole fun member => Bool.noConfusion (calm _ member)
  rw [same]
  exact history.shaken before ssl ret rest first

/-- **The step.** -/
theorem ready (history : SslHistory host direct named slot) (step : SslStep host direct named sys slot.conn o)
    (moves : List (Move κ)) : SslHistory host direct named ⟨o.conn, slot.cycle ++ o.calls, moves⟩ := by
  have same := step.sockfd
  cases step.change with
  | still object live calls early late =>
    refine ⟨fun now => ?_, fun now => ?_, history.shaken_append (fun c member => (calls c member).2) same⟩
    · obtain ⟨bare, plain⟩ := history.early (early now)
      exact ⟨object.trans bare, fun c member => (List.mem_append.mp member).elim (plain c) (calls c)⟩
    · have setUp := (history.late (late now)).among [] _ (by simp) fun c member => (calls c member).1
      show SetUp o.conn.sockfd host direct named o.conn.ssl (slot.cycle ++ o.calls)
      rw [same, object]
      simpa using setUp
  | @handshake ssl ret waits object kept live calls next =>
    have setUp := history.late (.inl waits)
    rw [object] at setUp
    refine ⟨fun now => ?_, fun _ => ?_, ?_⟩
    · exact Bool.noConfusion (next.symm.trans now)
    · have after := setUp.among [] o.calls (by simp) (by simp [calls, Call.setsUp])
      show SetUp o.conn.sockfd host direct named o.conn.ssl (slot.cycle ++ o.calls)
      rw [same, kept]
      simpa using after
    · intro before ssl' ret' after whole
      show SetUp o.conn.sockfd host direct named (some ssl') before
      rw [same]
      simp only [calls] at whole
      rcases List.eq_nil_or_concat after with rfl | ⟨init, last, rfl⟩
      · obtain ⟨rfl, same⟩ := List.append_inj' whole rfl
        cases same
        exact setUp
      · rw [List.concat_eq_append, ← List.cons_append, ← List.append_assoc] at whole
        exact history.shaken before ssl' ret' init (List.append_inj' whole rfl).1
  | setUp early object calm next =>
    obtain ⟨-, plain⟩ := history.early early
    refine ⟨fun now => ?_, fun now => ?_, history.shaken_append calm same⟩
    · rcases next with failed | ⟨shaking, -⟩
      · rw [show o.conn.state = .error from failed] at now
        exact Bool.noConfusion now
      · rw [show o.conn.state = .tlsHandshake from shaking] at now
        exact Bool.noConfusion now
    · rcases next with failed | ⟨-, setUp⟩
      · have now : o.conn.late := now
        simp [ConnectionOf.late, failed] at now
      · have after := setUp.among _ [] (fun c member => (plain c member).1) (by simp)
        show SetUp o.conn.sockfd host direct named o.conn.ssl (slot.cycle ++ o.calls)
        rw [same]
        simpa using after

end SslHistory

/-- A cycle that has not come to its set-up has made no call that belongs to one. -/
theorem Job.plainly_of_trace {job : Job} {calls : List Call} {p : Phase} (trace : job.Trace .idle calls p) :
    p.state.early = true → ∀ c ∈ calls, c.plainly := by
  refine trace.invariant (motive := fun calls p => p.state.early = true → ∀ c ∈ calls, c.plainly) ?_ ?_ ?_
  · exact fun _ c member => absurd member List.not_mem_nil
  · intro calls p q plain move early
    refine plain ?_
    cases move <;> simp_all [Phase.state, ConnState.early]
  · intro calls p c q plain move early
    have new : p.state.early = true ∧ c.plainly := by
      cases move <;> simp_all [Phase.state, ConnState.early, Call.plainly, Call.setsUp, Call.handshakes]
    exact fun other member => (List.mem_append.mp member).elim (plain new.1 other)
      fun last => List.mem_singleton.mp last ▸ new.2

/-- What an engine's functions must do for their slots to have such a history. -/
structure Driver.Secures (d : Driver κ ρ) (args : Arguments) (host : List Byte) (direct named : Prop)
    (through : Bool) : Prop where
  init : ∀ request raw, d.raw raw → (d.initConnection args request raw).state = .idle ∧
    (d.initConnection args request raw).ssl = none
  cleanup : ∀ conn sys, (d.cleanupConnection conn sys).1.state = .idle ∧ (d.cleanupConnection conn sys).1.ssl = none
  allocate : ∀ sys addresses conn, conn.state = .idle →
    (d.allocateSocket args sys addresses conn).conn.state.early = true ∧
      (d.allocateSocket args sys addresses conn).conn.ssl = conn.ssl
  handle : ∀ sys errno conn mask io, conn.state.pollable = true → (conn.state.early = true → conn.ssl = none) →
    (conn.state = .proxyResponse → through = true) →
      SslStep host direct named sys conn (d.handleReadyConnection args sys errno conn mask io)

namespace Driver.Secures

variable {d : Driver κ ρ} {args : Arguments} {request : HTTPRequest} {host : List Byte} {direct named : Prop} {job : Job}
  {rep : ConnectionOf κ → Phase → Prop} {slot : Slot κ}

/-- A slot that has just got its socket, or none. -/
theorem opened (law : d.Secures args host direct named job.tunnel) (follows : d.Follows args request job rep) (sys : Sys)
    (addresses : Option (List Address)) {conn : ConnectionOf κ} (idle : conn.state = .idle) (bare : conn.ssl = none)
    (record : rep conn .idle) (moves : List (Move κ)) :
    SslHistory host direct named ⟨(d.allocateSocket args sys addresses conn).conn,
      (d.allocateSocket args sys addresses conn).calls, moves⟩ := by
  obtain ⟨early, object⟩ := law.allocate sys addresses conn idle
  obtain ⟨p, trace, next⟩ := follows.allocate sys addresses conn record
  have plain := Job.plainly_of_trace trace (follows.state _ _ next ▸ early)
  refine ⟨fun _ => ⟨object.trans bare, plain⟩, fun late => ?_, fun before ssl ret after whole => ?_⟩
  · exact Bool.noConfusion (early.symm.trans (ConnectionOf.late_not_early late))
  · have member : Call.sslConnect ssl ret ∈ (d.allocateSocket args sys addresses conn).calls := by
      rw [show (d.allocateSocket args sys addresses conn).calls = _ from whole]
      simp
    exact Bool.noConfusion (plain _ member).2

/-- **The history of a reachable slot.** -/
theorem history (law : d.Secures args host direct named job.tunnel) (follows : d.Follows args request job rep)
    (reached : d.SlotReachable args request slot) : SslHistory host direct named slot := by
  induction reached with
  | start first =>
    obtain ⟨sys, addresses, raw, allowed⟩ := first
    obtain ⟨idle, bare⟩ := law.init request raw allowed
    exact law.opened follows sys addresses idle bare (follows.init raw allowed) []
  | @next slot slot' before step ih =>
    obtain ⟨p, trace, record⟩ := follows.tracks before
    cases step with
    | recycle finished sys addresses =>
      obtain ⟨idle, bare⟩ := law.cleanup slot.conn sys
      exact law.opened follows _ addresses idle bare (follows.cleanup _ p sys record) slot.moves
    | ready pollable sys errno mask io =>
      have through : slot.conn.state = .proxyResponse → job.tunnel = true := by
        intro waiting
        have names := (follows.state _ _ record).symm.trans waiting
        have sound := (Job.wire_of_trace trace).sound
        cases p with
        | awaitingReply got => exact sound.2
        | _ => exact ConnState.noConfusion names
      exact ih.ready (law.handle sys errno slot.conn mask io pollable (fun early => (ih.early early).1) through) _

end Driver.Secures

/-- `allocate_socket` once it has a descriptor, or none. -/
theorem allocated_early (closed : Int → Prop) [DecidablePred closed] {conn : ConnectionOf κ} {ret ret' : Int}
    (sockfd : Int) (sys : Sys) (calls : List Call) (idle : conn.state = .idle) :
    let o : Outcome κ :=
      let conn := { conn with sockfd := sockfd }
      if closed conn.sockfd then ⟨ret, conn, sys, calls⟩ else ⟨ret', { conn with state := .connecting }, sys, calls⟩
    o.conn.state.early = true ∧ o.conn.ssl = conn.ssl := by
  dsimp only
  split
  · exact ⟨congrArg ConnState.early idle, rfl⟩
  · exact ⟨rfl, rfl⟩

namespace Poll

/-- `bench_poll` names the host on a direct connection only. -/
theorem secures (args : Arguments) : driver.Secures args args.targetHost.bytes (needConnectProxy args = false)
    (needConnectProxy args = false) (needConnectProxy args) where
  init := fun _ _ _ => ⟨rfl, rfl⟩
  cleanup := fun _ _ => ⟨rfl, rfl⟩
  allocate := by
    intro sys addresses conn idle
    show (allocateSocket args sys addresses conn).conn.state.early = true ∧ _
    unfold allocateSocket
    exact allocated_early (· ≤ 0) _ _ _ idle
  handle := fun sys errno _ revents io waits bare through => handle_ssl args sys errno revents io waits bare through

end Poll

namespace Epoll

/-- So does `bench_epoll`. -/
theorem secures (args : Arguments) : driver.Secures args args.targetHost.bytes (needConnectProxy args = false)
    (needConnectProxy args = false) (needConnectProxy args) where
  init := fun _ _ _ => ⟨rfl, rfl⟩
  cleanup := fun _ _ => ⟨rfl, rfl⟩
  allocate := by
    intro sys addresses conn idle
    show (allocateSocket args sys addresses conn).conn.state.early = true ∧ _
    unfold allocateSocket
    exact allocated_early (· ≤ 0) _ _ _ idle
  handle := fun sys errno _ ev io waits bare through => handle_ssl args sys errno ev io waits bare through

end Epoll

namespace Select

/-- `bench_select` names it always. -/
theorem secures (args : Arguments) : driver.Secures args args.targetHost.bytes (needConnectProxy args = false) True
    (needConnectProxy args) where
  init := fun _ _ _ => ⟨rfl, rfl⟩
  cleanup := fun _ _ => ⟨rfl, rfl⟩
  allocate := by
    intro sys addresses conn idle
    show (allocateSocket args sys addresses conn).conn.state.early = true ∧ _
    unfold allocateSocket
    exact allocated_early (· < 0) _ _ _ idle
  handle := fun sys errno _ fds io waits bare through => handle_ssl args sys errno fds io waits bare through

end Select

/-! ## Handshakes -/

/-- The state of a slot past the TCP and proxy phase. -/
def ConnState.past : ConnState → Bool
  | .tlsHandshake | .sending | .receiving => true
  | _ => false

/-- The slot has an SSL object that `SSL_set_fd` has bound to its socket. -/
def Slot.Bound (slot : Slot κ) : Prop :=
  ∃ ssl ret, slot.conn.ssl = some ssl ∧ ret ≠ 0 ∧ .sslSetFd (some ssl) slot.conn.sockfd ret ∈ slot.cycle

/-- In `CONN_TLS_HANDSHAKE` every ready event leads to `SSL_connect`. -/
def Driver.Shakes (d : Driver κ ρ) (args : Arguments) (event : Sys → ConnectionOf κ → ρ → Prop) (slot : Slot κ) : Prop :=
  slot.conn.state = .tlsHandshake → ∀ sys errno mask io, event sys slot.conn mask →
    ∃ ssl ret, .sslConnect ssl ret ∈ (d.handleReadyConnection args sys errno slot.conn mask io).calls

/-- `poll` reports that the socket can be read or written, and no error. -/
def Poll.Ready (_sys : Sys) (_conn : Connection) (revents : BitVec 16) : Prop :=
  anyBit revents (pollin ||| pollout) = true ∧ anyBit revents (pollerr ||| pollhup ||| pollnval) = false

/-- The same of `epoll_wait`, of a descriptor in the epoll instance. -/
def Epoll.Ready (sys : Sys) (conn : Connection) (ev : BitVec 32) : Prop :=
  (sys.epoll conn.sockfd).isSome = true ∧ anyBit ev (epollin ||| epollout) = true ∧
    anyBit ev (epollerr ||| epollhup) = false

/-- `select` leaves the socket in one of the sets. -/
def Select.Ready (_sys : Sys) (conn : Select.Connection) (fds : Select.FdSets) : Prop :=
  (Select.fdIsSet conn.sockfd fds.read || Select.fdIsSet conn.sockfd fds.write) = true

/-- With an object, a ready slot of `bench_poll` calls `SSL_connect`. -/
theorem Poll.shakes {args : Arguments} {slot : Slot Nat} {ssl : Ptr} (object : slot.conn.ssl = some ssl) :
    Poll.driver.Shakes args Poll.Ready slot := by
  rintro waits sys errno revents io ⟨ready, fine⟩
  refine ⟨ssl, io.sslConnect, ?_⟩
  show _ ∈ (Poll.handleReadyConnection args sys errno slot.conn revents io).calls
  unfold Poll.handleReadyConnection
  rw [if_neg (by simp [fine]), waits]
  dsimp only
  unfold Poll.whenTlsHandshake
  rw [object]
  dsimp only
  rw [if_pos ready]
  repeat' split
  all_goals exact List.mem_singleton_self _

/-- So does one of `bench_epoll`. -/
theorem Epoll.shakes {args : Arguments} {slot : Slot Nat} {ssl : Ptr} (object : slot.conn.ssl = some ssl) :
    Epoll.driver.Shakes args Epoll.Ready slot := by
  rintro waits sys errno ev io ⟨present, ready, fine⟩
  refine ⟨ssl, io.sslConnect, ?_⟩
  show _ ∈ (Epoll.handleReadyConnection args sys errno slot.conn ev io).calls
  have deleted : (sys.epollDel slot.conn.sockfd).1 = 0 := by
    unfold Sys.epollDel
    rw [if_pos present]
  unfold Epoll.handleReadyConnection
  dsimp only
  rw [deleted, if_neg (by decide), if_neg (by simp [fine])]
  unfold Epoll.dispatchState
  rw [waits]
  dsimp only
  unfold Epoll.whenTlsHandshake
  rw [object]
  dsimp only
  rw [if_pos ready]
  repeat' split
  all_goals exact List.mem_singleton_self _

/-- So does one of `bench_select`. -/
theorem Select.shakes {args : Arguments} {slot : Slot Int} {ssl : Ptr} (object : slot.conn.ssl = some ssl) :
    Select.driver.Shakes args Select.Ready slot := by
  intro waits sys errno fds io ready
  unfold Select.Ready at ready
  refine ⟨ssl, io.sslConnect, ?_⟩
  show _ ∈ (Select.handleReadyConnection args sys errno slot.conn fds io).calls
  unfold Select.handleReadyConnection
  rw [waits]
  dsimp only
  unfold Select.whenTlsHandshake
  rw [object]
  dsimp only
  rw [if_pos ready]
  repeat' split
  all_goals exact List.mem_singleton_self _

/-- When a slot past the proxy phase has its bound object and handshakes: if no
call of the set-up has failed, which on a direct connection none has. -/
structure BoundWhenFine (d : Driver κ ρ) (args : Arguments) (event : Sys → ConnectionOf κ → ρ → Prop) (through : Bool)
    (slot : Slot κ) : Prop where
  bound : slot.Bound ∧ d.Shakes args event slot ↔ Fine slot.cycle
  direct : through = false → Fine slot.cycle

/-- The history of a secure slot past the proxy phase says when its object is bound. -/
theorem SslHistory.boundWhenFine {d : Driver κ ρ} {args : Arguments} {event : Sys → ConnectionOf κ → ρ → Prop}
    {host : List Byte} {through : Bool} {named : Prop} {slot : Slot κ}
    (history : SslHistory host (through = false) named slot) (secure : slot.conn.isHttps = true)
    (past : slot.conn.state.past = true) (shakes : ∀ {ssl}, slot.conn.ssl = some ssl → d.Shakes args event slot) :
    BoundWhenFine d args event through slot := by
  have late : slot.conn.late := by
    cases state : slot.conn.state with
    | tlsHandshake => exact .inl state
    | sending => exact .inr ⟨secure, .inl state⟩
    | receiving => exact .inr ⟨secure, .inr state⟩
    | _ => rw [state] at past; exact Bool.noConfusion past
  have setUp := history.late late
  refine ⟨⟨fun both => setUp.bound.mp both.1, fun fine => ?_⟩, setUp.sure⟩
  obtain ⟨ssl, ret, object, bound⟩ := setUp.bound.mpr fine
  exact ⟨⟨ssl, ret, object, bound⟩, shakes object⟩

/-! ## Clients that come to their handshake -/

/-- The client has connected directly. -/
def Poll.connected : Poll.World :=
  (Poll.opened secureArguments .zero).woken secureArguments pollout (shakingIo (some 7))

/-- The client has its tunnel, and `ctx` is what `SSL_CTX_new` has returned. -/
def Poll.tunnelled (ctx : Option Ptr) : Poll.World :=
  (((Poll.opened proxyArguments .zero).woken proxyArguments pollout (shakingIo ctx)).woken proxyArguments pollout
    (shakingIo ctx)).woken proxyArguments pollin (shakingIo ctx)

theorem Poll.connected_run : Poll.Run secureArguments .zero Poll.connected :=
  Poll.World.woken_run (Poll.opened_run _ _) (by decide +kernel)

theorem Poll.tunnelled_run : ∀ ctx ∈ [none, some 7], Poll.Run proxyArguments .zero (Poll.tunnelled ctx) := by
  have wakes : ∀ {w : World} (revents : BitVec 16) (io : Io), Run proxyArguments .zero w →
      0 < (setupPass proxyArguments (fun _ => none) w).ret →
        Run proxyArguments .zero (w.woken proxyArguments revents io) :=
    fun _ _ run counted => World.woken_run run counted
  simp only [List.mem_cons, List.not_mem_nil, or_false]
  rintro _ (rfl | rfl)
  · have asked := wakes pollout (shakingIo none) (opened_run _ _) (by decide +kernel)
    have sent := wakes pollout (shakingIo none) asked (by decide +kernel)
    exact wakes pollin (shakingIo none) sent (by decide +kernel)
  · have asked := wakes pollout (shakingIo (some 7)) (opened_run _ _) (by decide +kernel)
    have sent := wakes pollout (shakingIo (some 7)) asked (by decide +kernel)
    exact wakes pollin (shakingIo (some 7)) sent (by decide +kernel)

/-! ## Whole runs -/

section Runs

variable {args : Arguments} {request : HTTPRequest}

/-- Every slot of a run of `bench_poll` has such a history. -/
theorem Poll.run_history {w : Poll.World} (run : Poll.Run args request w) : ∀ slot ∈ w.slots,
    SslHistory args.targetHost.bytes (Poll.needConnectProxy args = false) (Poll.needConnectProxy args = false) slot :=
  fun slot member => (Poll.secures args).history (Poll.follows args request) (Poll.run_slot run slot member)

/-- And every slot of a run of `bench_epoll`. -/
theorem Epoll.run_history {w : Epoll.World} (run : Epoll.Run args request w) : ∀ slot ∈ w.slots,
    SslHistory args.targetHost.bytes (Epoll.needConnectProxy args = false) (Epoll.needConnectProxy args = false) slot :=
  fun slot member => (Epoll.secures args).history (Epoll.follows args request) (Epoll.run_slot run slot member)

/-- And every slot of a run of `bench_select`. -/
theorem Select.run_history {w : Select.World} (run : Select.Run args request w) : ∀ slot ∈ w.slots,
    SslHistory args.targetHost.bytes (Select.needConnectProxy args = false) True slot :=
  fun slot member => (Select.secures args).history (Select.follows args request) (Select.run_slot run slot member)

end Runs

/-- **A slot past the proxy phase has its SSL object** if and only if no call of
its set-up has failed. In every run of the three engines with HTTPS. -/
theorem boundWhenFine_of_run (args : Arguments) (request : HTTPRequest) (secure : args.protocol = protocolHttps) :
    (∀ w, Poll.Run args request w → ∀ slot ∈ w.slots, slot.conn.state.past = true →
      BoundWhenFine Poll.driver args Poll.Ready (Poll.needConnectProxy args) slot) ∧
    (∀ w, Epoll.Run args request w → ∀ slot ∈ w.slots, slot.conn.state.past = true →
      BoundWhenFine Epoll.driver args Epoll.Ready (Epoll.needConnectProxy args) slot) ∧
    ∀ w, Select.Run args request w → ∀ slot ∈ w.slots, slot.conn.state.past = true →
      BoundWhenFine Select.driver args Select.Ready (Select.needConnectProxy args) slot := by
  have https : (args.protocol == protocolHttps) = true := beq_iff_eq.mpr secure
  refine ⟨fun w run slot member past => ?_, fun w run slot member past => ?_, fun w run slot member past => ?_⟩
  · obtain ⟨p, -, record⟩ := (Poll.follows args request).tracks (Poll.run_slot run slot member)
    exact (Poll.run_history run slot member).boundWhenFine (record.https.trans https) past Poll.shakes
  · obtain ⟨p, -, record⟩ := (Epoll.follows args request).tracks (Epoll.run_slot run slot member)
    exact (Epoll.run_history run slot member).boundWhenFine (record.https.trans https) past Epoll.shakes
  · obtain ⟨p, -, ⟨sizes, q, made, record, -, -⟩, -⟩ :=
      (Select.follows args request).tracks (Select.run_slot run slot member)
    have secured : slot.conn.isHttps = true := by rw [made]; exact record.https.trans https
    exact (Select.run_history run slot member).boundWhenFine secured past Select.shakes

/-- A client that has connected directly. -/
theorem boundWhenFine_of_run_connected : ∃ slot ∈ Poll.connected.slots,
    BoundWhenFine Poll.driver secureArguments Poll.Ready false slot := by
  have past : ∃ slot ∈ Poll.connected.slots, slot.conn.state.past = true := by decide +kernel
  obtain ⟨slot, member, past⟩ := past
  exact ⟨slot, member, (boundWhenFine_of_run secureArguments .zero rfl).1 _ Poll.connected_run slot member past⟩

/-- `SSL_CTX_new` fails after the tunnel has been opened: the slot waits for a handshake without an SSL object. -/
theorem handshake_without_object : ¬ ∀ w, Poll.Run proxyArguments .zero w → ∀ slot ∈ w.slots,
    slot.conn.state.past = true → ∃ ssl, slot.conn.ssl = some ssl := by
  intro claimed
  have stuck : ∃ slot ∈ (Poll.tunnelled none).slots, slot.conn.state.past = true ∧ slot.conn.ssl = none := by
    decide +kernel
  obtain ⟨slot, member, past, none⟩ := stuck
  obtain ⟨ssl, object⟩ := claimed _ (Poll.tunnelled_run _ (by simp)) slot member past
  exact Option.some_ne_none ssl (object.symm.trans none)

/-- **The server's name is announced** before a handshake if and only if the
connection is direct, or the engine is `bench_select`. In every run with HTTPS. -/
theorem named_iff_of_run (args : Arguments) (request : HTTPRequest) :
    (∀ w, Poll.Run args request w → ∀ slot ∈ w.slots, ∀ before ssl ret after,
      slot.cycle = before ++ .sslConnect ssl ret :: after →
        (.sslSetHostName (some ssl) args.targetHost.bytes ∈ before ↔ Poll.needConnectProxy args = false)) ∧
    (∀ w, Epoll.Run args request w → ∀ slot ∈ w.slots, ∀ before ssl ret after,
      slot.cycle = before ++ .sslConnect ssl ret :: after →
        (.sslSetHostName (some ssl) args.targetHost.bytes ∈ before ↔ Epoll.needConnectProxy args = false)) ∧
    ∀ w, Select.Run args request w → ∀ slot ∈ w.slots, ∀ before ssl ret after,
      slot.cycle = before ++ .sslConnect ssl ret :: after →
        .sslSetHostName (some ssl) args.targetHost.bytes ∈ before := by
  refine ⟨?_, ?_, ?_⟩
  · intro w run slot member before ssl ret after whole
    exact ((Poll.run_history run slot member).shaken before ssl ret after whole).name ssl rfl
  · intro w run slot member before ssl ret after whole
    exact ((Epoll.run_history run slot member).shaken before ssl ret after whole).name ssl rfl
  · intro w run slot member before ssl ret after whole
    exact (((Select.run_history run slot member).shaken before ssl ret after whole).name ssl rfl).mpr trivial

/-- A client that has connected directly and calls `SSL_connect`. -/
theorem named_iff_of_run_connected : ∃ slot ∈ (Poll.connected.woken secureArguments pollin .retry).slots,
    ∃ before ssl ret after, slot.cycle = before ++ .sslConnect ssl ret :: after ∧
      .sslSetHostName (some ssl) secureArguments.targetHost.bytes ∈ before := by
  have shaking : ∃ slot ∈ (Poll.connected.woken secureArguments pollin .retry).slots,
      Call.sslConnect 1 (-1) ∈ slot.cycle := by decide +kernel
  obtain ⟨slot, member, shakes⟩ := shaking
  obtain ⟨before, after, whole⟩ := List.append_of_mem shakes
  have run : Poll.Run secureArguments .zero (Poll.connected.woken secureArguments pollin .retry) :=
    Poll.World.woken_run Poll.connected_run (by decide +kernel)
  exact ⟨slot, member, before, 1, -1, after, whole,
    ((named_iff_of_run secureArguments .zero).1 _ run slot member before 1 (-1) after whole).mpr rfl⟩

/-- Through a proxy `bench_poll` calls `SSL_connect` on an object that has no server name. -/
theorem handshake_without_name : ¬ ∀ w, Poll.Run proxyArguments .zero w → ∀ slot ∈ w.slots, ∀ before ssl ret after,
    slot.cycle = before ++ .sslConnect ssl ret :: after →
      .sslSetHostName (some ssl) proxyArguments.targetHost.bytes ∈ before := by
  intro claimed
  have shaking : ∃ slot ∈ ((Poll.tunnelled (some 7)).woken proxyArguments pollin .retry).slots,
      Call.sslConnect 1 (-1) ∈ slot.cycle ∧
        .sslSetHostName (some 1) proxyArguments.targetHost.bytes ∉ slot.cycle := by decide +kernel
  obtain ⟨slot, member, shakes, nameless⟩ := shaking
  obtain ⟨before, after, whole⟩ := List.append_of_mem shakes
  have run : Poll.Run proxyArguments .zero ((Poll.tunnelled (some 7)).woken proxyArguments pollin .retry) :=
    Poll.World.woken_run (Poll.tunnelled_run _ (by simp)) (by decide +kernel)
  have named := claimed _ run slot member before 1 (-1) after whole
  exact nameless (whole ▸ List.mem_append_left _ named)

end WebBench
