import WebBench.Account
import WebBench.Epoll.Copy
import WebBench.Epoll.Registration
import WebBench.Poll.Engine

/-!
# Without a proxy the two engines go in lockstep

A slot of `bench_poll` and a slot of `bench_epoll` are driven by the same
inputs: the outcome of each `allocate_socket`, the ready masks, and the answers
to the calls of the handlers. Where there is no proxy the copies of the handler
agree in every case that can come up, so the slots show the same and the
handlers make the same calls.
-/

namespace WebBench
set_option autoImplicit false
open CLib

/-- What a slot shows between two operations. -/
structure Observation where
  state : ConnState
  bytesSent : Nat
  bytesReceived : Nat
  receivedResponse : CharArray recvBufferSize
  speed : Int
  failed : Int
  bytes : Int

def ConnectionOf.observe (conn : Connection) : Observation :=
  ⟨conn.state, conn.bytesSent, conn.bytesReceived, conn.receivedResponse, conn.speed, conn.failed, conn.bytes⟩

/-- A slot, what it has shown after each operation, and the calls of each of its handlers. -/
structure Driven where
  conn : Connection
  seen : List Observation
  calls : List (List Call)

namespace Driver

variable {ρ : Type} (d : Driver Nat ρ) (args : Arguments)

/-- `init_connection`. -/
def started (request : HTTPRequest) (raw : Connection) : Driven :=
  let conn := d.initConnection args request raw
  ⟨conn, [conn.observe], []⟩

/-- `cleanup_connection`. -/
def cleaned (sys : Sys) (slot : Driven) : Driven :=
  let conn := (d.cleanupConnection slot.conn sys).1
  ⟨conn, slot.seen ++ [conn.observe], slot.calls⟩

/-- `allocate_socket`. -/
def allocated (sys : Sys) (addresses : Option (List Address)) (slot : Driven) : Driven :=
  let conn := (d.allocateSocket args sys addresses slot.conn).conn
  ⟨conn, slot.seen ++ [conn.observe], slot.calls⟩

/-- `handle_ready_connection`. -/
def handled (sys : Sys) (errno : Int) (mask : ρ) (io : Io) (slot : Driven) : Driven :=
  let o := d.handleReadyConnection args sys errno slot.conn mask io
  ⟨o.conn, slot.seen ++ [o.conn.observe], slot.calls ++ [o.calls]⟩

end Driver

/-! ## The shared SSL state -/

/-- The state `setup_ssl_context` depends on is the same. -/
structure SameSsl (sys sys' : Sys) : Prop where
  ctx : sys.globalSslCtx = sys'.globalSslCtx
  live : sys.liveSsl = sys'.liveSsl

/-- Two steps leave the same record and make the same calls. -/
structure Alike (o o' : Outcome Nat) : Prop where
  conn : o.conn = o'.conn
  calls : o.calls = o'.calls

/-- The context is made, or taken, alike. -/
theorem getGlobalSslCtx_alike {sys sys' : Sys} (same : SameSsl sys sys') (io : Io) :
    (getGlobalSslCtx sys io).1 = (getGlobalSslCtx sys' io).1 ∧
      SameSsl (getGlobalSslCtx sys io).2.1 (getGlobalSslCtx sys' io).2.1 ∧
      (getGlobalSslCtx sys io).2.2 = (getGlobalSslCtx sys' io).2.2 := by
  unfold getGlobalSslCtx
  rw [← same.ctx]
  split
  · exact ⟨rfl, ⟨rfl, same.live⟩, rfl⟩
  · exact ⟨rfl, same, rfl⟩

/-- `SSL_new` gives the same object where the same ones are alive. -/
theorem sslNew_alike {sys sys' : Sys} (same : SameSsl sys sys') (want : Option Ptr) :
    (sys.sslNew want).1 = (sys'.sslNew want).1 := by
  unfold Sys.sslNew
  rw [← same.live]
  split
  · split
    · rfl
    · rfl
  · rfl

/-- The set-up of a connection's TLS is the same. -/
theorem setupSslContext_alike {sys sys' : Sys} (same : SameSsl sys sys') (io : Io) (conn : Connection) :
    (setupSslContext sys io conn).ret = (setupSslContext sys' io conn).ret ∧
      Alike (setupSslContext sys io conn) (setupSslContext sys' io conn) := by
  obtain ⟨context, live, asked⟩ := getGlobalSslCtx_alike same io
  have object := sslNew_alike live io.sslNew
  unfold setupSslContext
  generalize getGlobalSslCtx sys io = got at *
  generalize getGlobalSslCtx sys' io = got' at *
  obtain ⟨ctx, sys₁, calls⟩ := got
  obtain ⟨ctx', sys₁', calls'⟩ := got'
  dsimp only at context asked object
  subst context asked
  cases ctx with
  | none => exact ⟨rfl, rfl, rfl⟩
  | some ctx =>
    dsimp only
    generalize sys₁.sslNew io.sslNew = made at *
    generalize sys₁'.sslNew io.sslNew = made' at *
    obtain ⟨ssl, sys₂⟩ := made
    obtain ⟨ssl', sys₂'⟩ := made'
    dsimp only at object
    subst object
    cases ssl with
    | none => exact ⟨rfl, rfl, rfl⟩
    | some ssl =>
      dsimp only
      split
      · exact ⟨rfl, rfl, rfl⟩
      · exact ⟨rfl, rfl, rfl⟩

/-! ## The cases of the handler -/

namespace Poll

variable {sys sys' : Sys} (conn : Connection) (revents : BitVec 16) (io : Io)

/-- A handshake step does not look at the kernel's state. -/
theorem whenTlsHandshake_alike : Alike (whenTlsHandshake sys conn revents io) (whenTlsHandshake sys' conn revents io) := by
  unfold whenTlsHandshake
  dsimp only
  repeat' split
  all_goals exact ⟨rfl, rfl⟩

/-- Nor does a send. -/
theorem whenSending_alike : Alike (whenSending sys conn revents io) (whenSending sys' conn revents io) := by
  unfold whenSending
  dsimp only
  repeat' split
  all_goals exact ⟨rfl, rfl⟩

/-- Nor does a read. -/
theorem whenReceiving_alike : Alike (whenReceiving sys conn revents io) (whenReceiving sys' conn revents io) := by
  unfold whenReceiving
  dsimp only
  repeat' split
  all_goals exact ⟨rfl, rfl⟩

/-- A connection that comes up depends on the SSL state only. -/
theorem whenConnecting_alike (args : Arguments) (same : SameSsl sys sys') :
    Alike (whenConnecting args sys conn revents io) (whenConnecting args sys' conn revents io) := by
  unfold whenConnecting
  split
  · dsimp only
    split
    · split
      · exact ⟨rfl, rfl⟩
      · split
        · obtain ⟨ret, made⟩ := setupSslContext_alike same io { conn with state := .tlsHandshake }
          rw [ret, made.conn, made.calls]
          split
          · exact ⟨rfl, rfl⟩
          · exact ⟨rfl, rfl⟩
        · exact ⟨rfl, rfl⟩
    · exact ⟨rfl, rfl⟩
  · exact ⟨rfl, rfl⟩

end Poll

/-! ## Without a proxy -/

/-- The states a slot can be in when there is no proxy. -/
def ConnState.direct : ConnState → Bool
  | .proxyConnect | .proxyResponse => false
  | _ => true

/-- The descriptor the loop leaves is -1 or one its own test took for good. -/
theorem connectLoop_result (noSocket : Int → Bool) (addresses : List Address) (sys : Sys) :
    (connectLoop noSocket addresses sys).1 = -1 ∨ noSocket (connectLoop noSocket addresses sys).1 = false := by
  induction addresses generalizing sys with
  | nil => exact .inl rfl
  | cons address next ih =>
    unfold connectLoop
    dsimp only
    split
    · exact ih _
    · rename_i some
      split
      · exact ih _
      · exact .inr (Bool.eq_false_iff.mpr some)

/-- The same of the descriptor `create_nonblocking_socket` returns. -/
theorem createNonblockingSocket_result (illegalPort noSocket : Int → Bool) (host : List Byte) (port : Int)
    (addresses : Option (List Address)) (sys : Sys) :
    (createNonblockingSocket illegalPort noSocket host port addresses sys).1 = -1 ∨
      noSocket (createNonblockingSocket illegalPort noSocket host port addresses sys).1 = false := by
  unfold createNonblockingSocket
  split
  · exact .inl rfl
  · cases addresses with
    | none => exact .inl rfl
    | some list => exact connectLoop_result noSocket list sys

/-- Without a proxy there is none to connect to. -/
theorem Poll.needConnectProxy_direct {args : Arguments} (direct : args.proxyHost.bytes = []) :
    Poll.needConnectProxy args = false := by
  simp [Poll.needConnectProxy, direct]

/-- Nor in `bench_epoll`. -/
theorem Epoll.needConnectProxy_direct {args : Arguments} (direct : args.proxyHost.bytes = []) :
    Epoll.needConnectProxy args = false := by
  simp [Epoll.needConnectProxy, direct]

section Direct

variable {args : Arguments} {conn : Connection} {sys sys' : Sys}

/-- The step leaves the slot in such a state. -/
def Outcome.Direct (o : Outcome Nat) : Prop := o.conn.state.direct = true

/-- What follows sending has nothing to do with a proxy. -/
theorem afterSending_direct : conn.afterSending.direct = true := by
  unfold ConnectionOf.afterSending
  split
  · rfl
  · rfl

theorem Poll.whenConnecting_direct (direct : args.proxyHost.bytes = []) (revents : BitVec 16) (io : Io)
    (state : conn.state.direct = true) : (Poll.whenConnecting args sys conn revents io).Direct := by
  unfold Poll.whenConnecting
  rw [Poll.needConnectProxy_direct direct, Bool.false_and]
  split
  · dsimp only
    split
    · rw [if_neg Bool.false_ne_true]
      split
      · have kept := setupSslContext_uncounted sys { conn with state := .tlsHandshake } io
        split
        · exact (congrArg ConnState.direct kept.state).trans rfl
        · rfl
      · rfl
    · rfl
  · exact state

theorem Poll.whenTlsHandshake_direct (revents : BitVec 16) (io : Io) (state : conn.state.direct = true) :
    (Poll.whenTlsHandshake sys conn revents io).Direct := by
  unfold Poll.whenTlsHandshake
  dsimp only
  repeat' split
  all_goals first | exact state | rfl

theorem Poll.whenSending_direct (revents : BitVec 16) (io : Io) (state : conn.state.direct = true) :
    (Poll.whenSending sys conn revents io).Direct := by
  unfold Poll.whenSending
  dsimp only
  repeat' split
  all_goals first | exact state | rfl | exact afterSending_direct

theorem Poll.whenReceiving_direct (revents : BitVec 16) (io : Io) (state : conn.state.direct = true) :
    (Poll.whenReceiving sys conn revents io).Direct := by
  unfold Poll.whenReceiving
  dsimp only
  repeat' split
  all_goals first | exact state | rfl

/-- No handler of a direct slot brings a proxy in. -/
theorem Poll.handle_direct (direct : args.proxyHost.bytes = []) (errno : Int) (revents : BitVec 16) (io : Io)
    (state : conn.state.direct = true) : (Poll.handleReadyConnection args sys errno conn revents io).Direct := by
  unfold Poll.handleReadyConnection
  split
  · rfl
  cases now : conn.state with
  | connecting => exact Poll.whenConnecting_direct direct revents io state
  | tlsHandshake => exact Poll.whenTlsHandshake_direct revents io state
  | sending => exact Poll.whenSending_direct revents io state
  | receiving => exact Poll.whenReceiving_direct revents io state
  | proxyConnect | proxyResponse =>
    rw [now] at state
    exact Bool.noConfusion state
  | idle | completed | error => exact state

/-- **The two handlers agree** on a slot that has no proxy to deal with and is registered. -/
theorem handle_alike (direct : args.proxyHost.bytes = []) (same : SameSsl sys sys')
    (deleted : (sys'.epollDel conn.sockfd).1 ≠ -1) (errno errno' : Int) (ev : BitVec 32) (io : Io)
    (state : conn.state.direct = true) :
    Alike (Poll.handleReadyConnection args sys errno conn (Epoll.pollMask ev) io)
      (Epoll.handleReadyConnection args sys' errno' conn ev io) := by
  have left : SameSsl sys (sys'.epollDel conn.sockfd).2 := by
    unfold Sys.epollDel
    split
    · exact ⟨same.ctx, same.live⟩
    · exact same
  have need : Epoll.needConnectProxy args = Poll.needConnectProxy args := by
    rw [Epoll.needConnectProxy_direct direct, Poll.needConnectProxy_direct direct]
  unfold Poll.handleReadyConnection Epoll.handleReadyConnection
  generalize sys'.epollDel conn.sockfd = after at deleted left ⊢
  obtain ⟨ret, sys''⟩ := after
  dsimp only at deleted left ⊢
  rw [if_neg deleted, Epoll.anyBit_error]
  split
  · exact ⟨rfl, rfl⟩
  unfold Epoll.dispatchState
  cases now : conn.state with
  | connecting =>
    dsimp only
    rw [Epoll.whenConnecting_eq _ _ _ _ args need]
    exact Poll.whenConnecting_alike conn _ io args left
  | tlsHandshake =>
    have agree := Epoll.whenTlsHandshake_agree sys'' conn ev io
    have alike : Alike (Poll.whenTlsHandshake sys conn _ io) (Poll.whenTlsHandshake sys'' conn _ io) :=
      Poll.whenTlsHandshake_alike conn (Epoll.pollMask ev) io
    exact ⟨alike.conn.trans agree.conn.symm, alike.calls.trans agree.calls.symm⟩
  | sending =>
    dsimp only
    rw [Epoll.whenSending_eq]
    exact Poll.whenSending_alike conn _ io
  | receiving =>
    dsimp only
    rw [Epoll.whenReceiving_eq]
    exact Poll.whenReceiving_alike conn _ io
  | proxyConnect | proxyResponse =>
    rw [now] at state
    exact Bool.noConfusion state
  | idle | completed | error => exact ⟨rfl, rfl⟩

end Direct

/-! ## Opening and closing -/

/-- The record `allocate_socket` leaves once it has a descriptor, or none. -/
def ConnectionOf.open (conn : Connection) (sockfd : Int) : Connection :=
  { conn with sockfd := sockfd, state := if sockfd ≤ 0 then conn.state else .connecting }

/-- Both ways `allocate_socket` ends are the one record, by the descriptor. -/
theorem opened_open (conn : Connection) (sockfd : Int) (sys : Sys) (calls : List Call) :
    Outcome.conn
      (let conn := { conn with sockfd := sockfd }
      if conn.sockfd ≤ 0 then ⟨-1, conn, sys, calls⟩ else ⟨1, { conn with state := .connecting }, sys, calls⟩) =
      conn.open sockfd := by
  unfold ConnectionOf.open
  dsimp only
  by_cases closed : sockfd ≤ 0
  · rw [if_pos closed, if_pos closed]
  · rw [if_neg closed, if_neg closed]

/-- A descriptor is -1 or positive. -/
def Opens (fd : Int) : Prop := fd = -1 ∨ 0 < fd

theorem opens_of_result {fd : Int} (result : fd = -1 ∨ decide (fd ≤ 0) = false) : Opens fd :=
  result.imp_right fun some => Int.not_le.mp (of_decide_eq_false some)

/-- What `bench_poll` opens is -1 or positive. -/
theorem Poll.opened_opens (args : Arguments) (sys : Sys) (addresses : Option (List Address)) :
    Opens (if Poll.needConnectProxy args then
      Poll.createNonblockingSocket args.proxyHost.bytes args.proxyPort addresses sys
      else Poll.createNonblockingSocket args.targetHost.bytes args.targetPort addresses sys).1 := by
  split
  · exact opens_of_result (createNonblockingSocket_result ..)
  · exact opens_of_result (createNonblockingSocket_result ..)

/-- So its `allocate_socket` leaves the record with such a descriptor. -/
theorem Poll.allocateSocket_open (args : Arguments) (sys : Sys) (addresses : Option (List Address)) (conn : Connection) :
    ∃ fd, Opens fd ∧ (Poll.allocateSocket args sys addresses conn).conn = conn.open fd := by
  have opens := Poll.opened_opens args sys addresses
  unfold Poll.allocateSocket
  generalize (if Poll.needConnectProxy args then _ else _) = opened at opens ⊢
  exact ⟨opened.1, opens, opened_open conn ..⟩

/-- What `bench_epoll` opens is -1 or positive. -/
theorem Epoll.opened_opens (args : Arguments) (sys : Sys) (addresses : Option (List Address)) :
    Opens (if Epoll.needConnectProxy args then
      Epoll.createNonblockingSocket args.proxyHost.bytes args.proxyPort addresses sys
      else Epoll.createNonblockingSocket args.targetHost.bytes args.targetPort addresses sys).1 := by
  split
  · exact opens_of_result (createNonblockingSocket_result ..)
  · exact opens_of_result (createNonblockingSocket_result ..)

/-- So its `allocate_socket` leaves the record with such a descriptor. -/
theorem Epoll.allocateSocket_open (args : Arguments) (sys : Sys) (addresses : Option (List Address)) (conn : Connection) :
    ∃ fd, Opens fd ∧ (Epoll.allocateSocket args sys addresses conn).conn = conn.open fd := by
  have opens := Epoll.opened_opens args sys addresses
  unfold Epoll.allocateSocket
  generalize (if Epoll.needConnectProxy args then _ else _) = opened at opens ⊢
  exact ⟨opened.1, opens, opened_open conn ..⟩

/-- Both engines close a descriptor and keep -1. -/
theorem cleanup_alike {conn : Connection} (opens : Opens conn.sockfd) (sys sys' : Sys) :
    (Poll.cleanupConnection conn sys).1 = (Epoll.cleanupConnection conn sys').1 := by
  unfold Poll.cleanupConnection Epoll.cleanupConnection
  dsimp only
  rcases opens with none | positive
  · rw [none]
    rfl
  · rw [if_pos (by omega), if_pos positive]

/-! ## The lockstep -/

/-- A slot of each engine. -/
structure Pair where
  poll : Driven
  epoll : Driven

namespace Pair

/-- A slot of `bench_poll`, whatever the array held, and one of the zeroed array of `bench_epoll`. -/
inductive Start (args : Arguments) (request : HTTPRequest) : Pair → Prop
  | init (raw : Connection) :
      Start args request ⟨Poll.driver.started args request raw, Epoll.driver.started args request (.zero 0)⟩

/-- One operation on both slots with the same input; `epoll_ctl` finds the
descriptor it deletes. -/
inductive Step (args : Arguments) : Pair → Pair → Prop
  | cleanup (pair : Pair) (sys sys' : Sys) :
      Step args pair ⟨Poll.driver.cleaned sys pair.poll, Epoll.driver.cleaned sys' pair.epoll⟩
  | allocate (pair : Pair) (sys sys' : Sys) (addresses addresses' : Option (List Address))
      (outcome : (Poll.driver.allocated args sys addresses pair.poll).conn.sockfd =
        (Epoll.driver.allocated args sys' addresses' pair.epoll).conn.sockfd) :
      Step args pair ⟨Poll.driver.allocated args sys addresses pair.poll,
        Epoll.driver.allocated args sys' addresses' pair.epoll⟩
  | ready (pair : Pair) (sys sys' : Sys) (ssl : SameSsl sys sys')
      (deleted : (sys'.epollDel pair.epoll.conn.sockfd).1 ≠ -1) (errno errno' : Int) (ev : BitVec 32) (io : Io) :
      Step args pair ⟨Poll.driver.handled args sys errno (Epoll.pollMask ev) io pair.poll,
        Epoll.driver.handled args sys' errno' ev io pair.epoll⟩

/-- The pairs after any sequence of inputs. -/
abbrev Run (args : Arguments) (request : HTTPRequest) : Pair → Prop := Reachable (Start args request) (Step args)

/-- The two slots are the same, have a descriptor or -1, and do not deal with a proxy. -/
structure Lockstep (pair : Pair) : Prop where
  same : pair.poll = pair.epoll
  direct : pair.poll.conn.state.direct = true
  opens : Opens pair.poll.conn.sockfd

variable {args : Arguments} {request : HTTPRequest} {pair pair' : Pair}

/-- The two slots start the same. -/
theorem Lockstep.start (start : Start args request pair) : pair.Lockstep := by
  cases start
  exact ⟨rfl, rfl, .inl rfl⟩

/-- One operation keeps the lockstep. -/
theorem Lockstep.step (direct : args.proxyHost.bytes = []) (inv : pair.Lockstep) (step : Step args pair pair') :
    pair'.Lockstep := by
  obtain ⟨⟨conn, seen, calls⟩, ⟨conn', seen', calls'⟩⟩ := pair
  obtain ⟨same, state, opens⟩ := inv
  obtain ⟨rfl, rfl, rfl⟩ := Driven.mk.inj same
  cases step with
  | cleanup sys sys' =>
    have alike : (Poll.driver.cleanupConnection conn sys).1 = (Epoll.driver.cleanupConnection conn sys').1 :=
      cleanup_alike opens sys sys'
    refine ⟨?_, rfl, ?_⟩
    · simp only [Driver.cleaned, alike]
    · have some : conn.sockfd ≠ 0 := opens.elim (fun none => by rw [none]; decide) fun positive => positive.ne'
      exact .inl (if_pos some)
  | allocate sys sys' addresses addresses' outcome =>
    obtain ⟨fd, opened, left⟩ := Poll.allocateSocket_open args sys addresses conn
    obtain ⟨fd', -, right⟩ := Epoll.allocateSocket_open args sys' addresses' conn
    replace left : (Poll.driver.allocateSocket args sys addresses conn).conn = conn.open fd := left
    replace right : (Epoll.driver.allocateSocket args sys' addresses' conn).conn = conn.open fd' := right
    simp only [Driver.allocated, left, right] at outcome ⊢
    obtain rfl : fd = fd' := outcome
    refine ⟨rfl, ?_, opened⟩
    show ConnState.direct (if fd ≤ 0 then conn.state else .connecting) = true
    split
    · exact state
    · rfl
  | ready sys sys' ssl deleted errno errno' ev io =>
    have alike : Alike (Poll.driver.handleReadyConnection args sys errno conn (Epoll.pollMask ev) io)
        (Epoll.driver.handleReadyConnection args sys' errno' conn ev io) :=
      handle_alike direct ssl deleted errno errno' ev io state
    have still := Epoll.handle_still args sys' errno' conn ev io
    refine ⟨?_, Poll.handle_direct direct errno _ io state, ?_⟩
    · simp only [Driver.handled]
      rw [alike.conn, alike.calls]
    · show Opens (Poll.driver.handleReadyConnection args sys errno conn (Epoll.pollMask ev) io).conn.sockfd
      rw [alike.conn]
      exact still.sockfd ▸ opens

/-- **The epoll engine refines the poll engine without a proxy.** After any
sequence of inputs the two slots have shown the same and their handlers have
made the same calls. -/
theorem lockstep_of_run (direct : args.proxyHost.bytes = []) (run : Pair.Run args request pair) :
    pair.poll.seen = pair.epoll.seen ∧ pair.poll.calls = pair.epoll.calls := by
  have inv : pair.Lockstep := run.invariant (fun _ start => .start start) fun _ _ inv step => inv.step direct step
  exact ⟨congrArg Driven.seen inv.same, congrArg Driven.calls inv.same⟩

/-- Two slots that have opened descriptor 3. -/
def opened : Pair :=
  ⟨Poll.driver.allocated createDefaultArguments .initial (some [⟨3, 0, 0⟩])
      (Poll.driver.started createDefaultArguments .zero (.zero 7)),
    Epoll.driver.allocated createDefaultArguments .initial (some [⟨3, 0, 0⟩])
      (Epoll.driver.started createDefaultArguments .zero (.zero 0))⟩

/-- The kernel with descriptor 3 in the epoll instance. -/
def registered : Sys := { Sys.initial with epoll := fun fd => if fd = 3 then some ⟨epollout, 0, false⟩ else none }

/-- Their connection is up. -/
def connected : Pair :=
  ⟨Poll.driver.handled createDefaultArguments .initial 0 (Epoll.pollMask epollout) { Io.retry with getsockopt := 0 }
      opened.poll,
    Epoll.driver.handled createDefaultArguments registered 0 epollout { Io.retry with getsockopt := 0 } opened.epoll⟩

/-- Both slots have asked for the result of `connect` once. -/
theorem lockstep_of_run_connected :
    connected.poll.calls = [[.getsockopt 3]] ∧ connected.epoll.calls = [[.getsockopt 3]] ∧
      connected.poll.seen = connected.epoll.seen := by
  have run : Run createDefaultArguments .zero connected :=
    .next (.next (.start (.init (.zero 7))) (.allocate _ .initial .initial (some [⟨3, 0, 0⟩]) (some [⟨3, 0, 0⟩]) rfl))
      (.ready opened .initial registered ⟨rfl, rfl⟩ (by decide) 0 0 epollout { Io.retry with getsockopt := 0 })
  obtain ⟨seen, calls⟩ := lockstep_of_run (by decide) run
  have first : connected.poll.calls = [[.getsockopt 3]] := by decide
  exact ⟨first, calls ▸ first, seen⟩

end Pair

end WebBench
