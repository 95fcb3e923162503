import WebBench.Poll.Refine
import WebBench.Select.Engine

/-!
# `bench_select.c` runs the cycle

The counterpart of `WebBench.Poll.Refine`. A record with `int` counts stands for
one with `size_t` counts, and what the sets say of a descriptor for a mask of
POLL bits; then the cases that the files share are those of `bench_poll.c`. What
`send` leaves of the CONNECT request is not sent, so the cycle is not exact.
-/

namespace WebBench.Select
set_option autoImplicit false
open CLib

/-- The cycle of a slot of `bench_select`. -/
def job (args : Arguments) (request : HTTPRequest) : Job :=
  .ofArguments args request (needConnectProxy args) false

/-- The record with its counts read as `int`s. -/
def ofSizes (conn : WebBench.Connection) : Connection where
  state := conn.state
  sockfd := conn.sockfd
  sslContext := conn.sslContext
  ssl := conn.ssl
  isHttps := conn.isHttps
  request := conn.request
  receivedResponse := conn.receivedResponse
  requestLen := conn.requestLen
  forceFlag := conn.forceFlag
  bytesSent := conn.bytesSent
  bytesReceived := conn.bytesReceived
  speed := conn.speed
  failed := conn.failed
  bytes := conn.bytes

/-- The step with its counts read as `int`s. -/
def outcome (o : Outcome Nat) : Outcome Int := ⟨o.ret, ofSizes o.conn, o.sys, o.calls⟩

/-- A test that decides the same for both. -/
theorem ite_outcome {c d : Prop} [Decidable c] [Decidable d] {x y : Outcome Int} {u v : Outcome Nat} (same : c ↔ d)
    (yes : d → x = outcome u) (no : ¬ d → y = outcome v) : (if c then x else y) = outcome (if d then u else v) := by
  by_cases holds : d
  · rw [if_pos holds, if_pos (same.mpr holds), yes holds]
  · rw [if_neg holds, if_neg (fun c => holds (same.mp c)), no holds]

/-- The POLL bits the sets amount to. -/
def pollMask (fd : Int) (fds : FdSets) : BitVec 16 :=
  (if fdIsSet fd fds.read then pollin else 0) ||| (if fdIsSet fd fds.write then pollout else 0)

/-- The read set stands for POLLIN. -/
@[simp] theorem anyBit_pollin (fd : Int) (fds : FdSets) : anyBit (pollMask fd fds) pollin = fdIsSet fd fds.read := by
  unfold pollMask
  cases fdIsSet fd fds.read <;> cases fdIsSet fd fds.write <;> decide

/-- The write set stands for POLLOUT. -/
@[simp] theorem anyBit_pollout (fd : Int) (fds : FdSets) : anyBit (pollMask fd fds) pollout = fdIsSet fd fds.write := by
  unfold pollMask
  cases fdIsSet fd fds.read <;> cases fdIsSet fd fds.write <;> decide

@[simp] theorem anyBit_pollinout (fd : Int) (fds : FdSets) :
    anyBit (pollMask fd fds) (pollin ||| pollout) = (fdIsSet fd fds.read || fdIsSet fd fds.write) := by
  rw [anyBit_or, anyBit_pollin, anyBit_pollout]

/-- Between two steps none of the CONNECT request is counted as sent, and no part of the reply is held. -/
def Fresh : Phase → Prop
  | .tunnelling k => k = 0
  | .awaitingReply got => got = []
  | _ => True

/-- A record with `int` counts stands for a phase. What a failed cycle has received need not be in the buffer. -/
structure Stands (job : Job) (conn : Connection) (p : Phase) : Prop where
  sizes : ∃ sizes q, conn = ofSizes sizes ∧ Represents job sizes q ∧ q.state = p.state ∧ (p.state ≠ .error → q = p)
  fresh : Fresh p

/-- The step makes calls of the cycle and leaves a record of the phase they lead to. -/
def Refines (job : Job) (p : Phase) (o : Outcome Int) : Prop :=
  ∃ q, job.Trace p o.calls q ∧ Stands job o.conn q

/-- A record that counts nothing as sent and nothing as received. -/
def Untouched (conn : WebBench.Connection) : Prop := conn.bytesSent = 0 ∧ conn.bytesReceived = 0

/-- The phases after the tunnel has been set up. -/
def Past : Phase → Prop
  | .idle | .connecting | .tunnelling _ | .awaitingReply _ => False
  | _ => True

section Stands

variable {job : Job} {conn : WebBench.Connection} {p : Phase} {o : Outcome Nat}

/-- A cycle that is past the tunnel does not go back to it. -/
theorem past_of_trace {calls : List Call} {q : Phase} (past : Past p) (trace : job.Trace p calls q) : Past q := by
  refine trace.invariant (motive := fun _ q => Past q) past ?_ ?_
  · intro _ p q past move
    cases move <;> simp_all [Past]
  · intro _ p c q past move
    cases move <;> simp_all [Past]

/-- Where nothing of the tunnel is counted, a record stands for what it represents. -/
theorem Stands.of_record (record : Represents job conn p) (fresh : Fresh p) : Stands job (ofSizes conn) p :=
  ⟨⟨conn, p, rfl, record, rfl, fun _ => rfl⟩, fresh⟩

/-- So it does after the tunnel. -/
theorem Stands.of_past (record : Represents job conn p) (past : Past p) : Stands job (ofSizes conn) p := by
  refine .of_record record ?_
  cases p <;> trivial

/-- And so it does while its counts are 0. -/
theorem Stands.of_untouched (record : Represents job conn p) (untouched : Untouched conn) :
    Stands job (ofSizes conn) p := by
  refine .of_record record ?_
  cases p with
  | tunnelling k => exact (record.sent ConnState.noConfusion).symm.trans untouched.1
  | awaitingReply got => exact List.length_eq_zero_iff.mp (record.received.symm.trans untouched.2)
  | _ => trivial

/-- A step of the cycle after the tunnel is one on the record of sizes. -/
theorem Refines.of_past (step : WebBench.Refines job p o) (past : Past p) : Refines job p (outcome o) := by
  obtain ⟨q, trace, record⟩ := step
  exact ⟨q, trace, .of_past record (past_of_trace past trace)⟩

/-- So is one that leaves the counts at 0. -/
theorem Refines.of_untouched (step : WebBench.Refines job p o) (untouched : Untouched o.conn) :
    Refines job p (outcome o) := by
  obtain ⟨q, trace, record⟩ := step
  exact ⟨q, trace, .of_untouched record untouched⟩

end Stands

namespace Stands

variable {job : Job} {conn : Connection} {p : Phase}

/-- The state names the phase. -/
theorem state (stands : Stands job conn p) : conn.state = p.state := by
  obtain ⟨sizes, q, rfl, record, names, -⟩ := stands.sizes
  exact record.state.trans names

theorem https (stands : Stands job conn p) : conn.isHttps = job.https := by
  obtain ⟨sizes, q, rfl, record, -, -⟩ := stands.sizes
  exact record.https

/-- A record that waits shows the counts of its phase. -/
theorem represents (stands : Stands job conn p) (waits : p.active) :
    ∃ sizes, conn = ofSizes sizes ∧ Represents job sizes p := by
  obtain ⟨⟨sizes, q, made, record, -, same⟩, -⟩ := stands
  obtain rfl : q = p := same fun failed => by rw [Phase.active, failed] at waits; exact Bool.noConfusion waits
  exact ⟨sizes, made, record⟩

/-- And it has the object of its phase. -/
theorem ssl (stands : Stands job conn p) (waits : conn.state.pollable = true) : conn.ssl = p.ssl := by
  have active : p.active := (congrArg ConnState.pollable stands.state).symm.trans waits
  obtain ⟨sizes, rfl, record⟩ := stands.represents active
  exact record.ssl (fun done => by rw [Phase.active, done] at active; exact Bool.noConfusion active)
    fun failed => by rw [Phase.active, failed] at active; exact Bool.noConfusion active

end Stands

/-! ## The cases the files share -/

section Shared

variable (sys : Sys) (conn : WebBench.Connection) (fds : FdSets) (io : Io)

/-- `bench_select` shakes hands as `bench_poll` does. -/
theorem whenTlsHandshake_eq :
    whenTlsHandshake sys (ofSizes conn) fds io =
      outcome (Poll.whenTlsHandshake sys conn (pollMask conn.sockfd fds) io) := by
  unfold whenTlsHandshake Poll.whenTlsHandshake
  rw [anyBit_pollinout]
  cases object : conn.ssl with
  | none =>
    rw [show (ofSizes conn).ssl = none from object]
    rfl
  | some ssl =>
    rw [show (ofSizes conn).ssl = some ssl from object]
    refine ite_outcome .rfl (fun _ => ?_) fun _ => rfl
    exact ite_outcome .rfl (fun _ => rfl) fun _ => ite_outcome .rfl (fun _ => rfl) fun _ => rfl

/-- The counts of a request that is on its way. -/
theorem whenSending_eq (within : conn.bytesSent ≤ conn.requestLen) (fits : conn.requestLen < 2 ^ 31) :
    whenSending sys (ofSizes conn) fds io = outcome (Poll.whenSending sys conn (pollMask conn.sockfd fds) io) := by
  have remaining : intOfSize (sizeSub conn.requestLen conn.bytesSent) =
      (ofSizes conn).requestLen - (ofSizes conn).bytesSent := by
    rw [sizeSub_of_le within (by omega), intOfSize_of_lt (by omega)]
    show ((conn.requestLen - conn.bytesSent : Nat) : Int) = (conn.requestLen : Int) - (conn.bytesSent : Int)
    omega
  unfold whenSending Poll.whenSending
  rw [anyBit_pollout, remaining]
  generalize left : ((ofSizes conn).requestLen - (ofSizes conn).bytesSent).toNat = len
  have more : ∀ taken : Taken, taken.ret len > 0 →
      (ofSizes conn).bytesSent + taken.ret len = (sizeAdd conn.bytesSent (sizeOfInt (taken.ret len)) : Nat) := by
    intro taken some
    have short := taken.ret_toNat_le len
    have whole : ((conn.requestLen : Int) - (conn.bytesSent : Int)).toNat = len := left
    rw [taken_eq some (by omega)]
    show (conn.bytesSent : Int) + taken.ret len = _
    omega
  dsimp only
  rw [left]
  refine ite_outcome .rfl (fun _ => ?_) fun _ => rfl
  refine ite_outcome .rfl (fun _ => rfl) fun _ => ?_
  refine ite_outcome .rfl (fun _ => ?_) fun _ => ?_
  · cases object : conn.ssl with
    | none =>
      rw [show (ofSizes conn).ssl = none from object]
      rfl
    | some ssl =>
      rw [show (ofSizes conn).ssl = some ssl from object]
      refine ite_outcome .rfl (fun some => ?_) fun _ => ite_outcome .rfl (fun _ => rfl) fun _ => rfl
      rw [more _ some]
      exact ite_outcome Int.ofNat_le (fun _ => rfl) fun _ => rfl
  · refine ite_outcome .rfl (fun some => ?_) fun _ => ite_outcome .rfl (fun _ => rfl) fun _ => rfl
    rw [more _ some]
    exact ite_outcome Int.ofNat_le (fun _ => rfl) fun _ => rfl

end Shared

/-! ## The response -/

section Receiving

variable {job : Job} {conn : WebBench.Connection} {ssl : Option Ptr} {got : List Byte}

/-- After a read that delivered a part of the response. -/
theorem read_refines {calls : List Call} {given : Given} (sys : Sys)
    (record : Represents job conn (.receiving ssl got)) (some : 0 < given.ret (recvBufferSize - 1 - got.length))
    (trace : job.Trace (.receiving ssl got) calls
      (.receiving ssl (got ++ given.chunk (recvBufferSize - 1 - got.length)))) :
    let buffer := (ofSizes conn).receivedResponse.store conn.bytesReceived (given.chunk (recvBufferSize - 1 - got.length))
    let total := (ofSizes conn).bytesReceived + given.ret (recvBufferSize - 1 - got.length)
    let after := { ofSizes conn with receivedResponse := buffer.setNul total.toNat, bytesReceived := total }
    Refines job (.receiving ssl got)
      (if strstr (cstr after.receivedResponse.toList) headerEnd then
        ⟨0, { after with state := .completed, bytes := after.bytes + after.bytesReceived, speed := after.speed + 1 }, sys,
          calls⟩
      else ⟨0, after, sys, calls⟩) := by
  have room : got.length < recvBufferSize := record.room
  have count : conn.bytesReceived = got.length := record.received
  have total : (ofSizes conn).bytesReceived + given.ret (recvBufferSize - 1 - got.length) =
      (sizeAdd conn.bytesReceived (sizeOfInt (given.ret (recvBufferSize - 1 - got.length))) : Nat) := by
    show (conn.bytesReceived : Int) + given.ret (recvBufferSize - 1 - got.length) = _
    rw [count, total_eq some (by omega), Given.ret_of_pos some]
    omega
  dsimp only
  rw [total, Int.toNat_natCast]
  have step := Poll.read_refines (conn.speed + 1) (conn.bytes +
    (sizeAdd conn.bytesReceived (sizeOfInt (given.ret (recvBufferSize - 1 - got.length))) : Nat)) sys record some trace
  exact (congrArg (Refines job _) (ite_outcome .rfl (fun _ => rfl) fun _ => rfl)).mpr (.of_past step trivial)

/-- After a read: a part of the response comes, or it is to be tried again, or it fails. -/
theorem given_refines {calls : List Call} (given : Given) {again : Prop} [Decidable again] (sys : Sys)
    (record : Represents job conn (.receiving ssl got))
    (trace : job.Trace (.receiving ssl got) calls
      (.receiving ssl (got ++ given.chunk (recvBufferSize - 1 - got.length)))) :
    let bytesRead := given.ret (recvBufferSize - 1 - got.length)
    Refines job (.receiving ssl got)
      (if bytesRead > 0 then
        let buffer := (ofSizes conn).receivedResponse.store conn.bytesReceived
          (given.chunk (recvBufferSize - 1 - got.length))
        let total := (ofSizes conn).bytesReceived + bytesRead
        let after := { ofSizes conn with receivedResponse := buffer.setNul total.toNat, bytesReceived := total }
        if strstr (cstr after.receivedResponse.toList) headerEnd then
          ⟨0, { after with state := .completed, bytes := after.bytes + after.bytesReceived, speed := after.speed + 1 }, sys,
            calls⟩
        else ⟨0, after, sys, calls⟩
      else if again then ⟨0, ofSizes conn, sys, calls⟩
      else ⟨-1, (ofSizes conn).toError, sys, calls⟩) := by
  intro bytesRead
  by_cases some : 0 < given.ret (recvBufferSize - 1 - got.length)
  · rw [if_pos some]
    exact read_refines sys record some trace
  · rw [Given.chunk_of_nonpos (Int.not_lt.mp some), List.append_nil] at trace
    rw [if_neg some]
    split
    · exact ⟨_, trace, .of_past record trivial⟩
    · exact .of_past (record.fail rfl trace (-1) sys) trivial

/-- A full buffer ends the response without counting its bytes, and a missing SSL object is an error. -/
theorem whenReceiving_refines (sys : Sys) (fds : FdSets) (io : Io) (record : Represents job conn (.receiving ssl got)) :
    Refines job (.receiving ssl got) (whenReceiving sys (ofSizes conn) fds io) := by
  have object : conn.ssl = ssl := record.ssl ConnState.noConfusion ConnState.noConfusion
  have count : conn.bytesReceived = got.length := record.received
  have room : got.length < recvBufferSize := record.room
  have size : recvBufferSize = 8096 := rfl
  have remaining : intOfSize (sizeSub (sizeSub recvBufferSize (sizeOfInt (ofSizes conn).bytesReceived)) 1) =
      (recvBufferSize - 1 - got.length : Nat) := by
    show intOfSize (sizeSub (sizeSub recvBufferSize (sizeOfInt (conn.bytesReceived : Int))) 1) = _
    rw [sizeOfInt_natCast (by omega), count, room_eq room, intOfSize_of_lt (by omega)]
  unfold whenReceiving
  by_cases ready : fdIsSet (ofSizes conn).sockfd fds.read = true
  · rw [if_pos ready, remaining, show (ofSizes conn).bytesReceived.toNat = conn.bytesReceived from Int.toNat_natCast _]
    dsimp only
    rw [Int.toNat_natCast]
    by_cases full : ((recvBufferSize - 1 - got.length : Nat) : Int) ≤ 0
    · rw [if_pos full]
      have next := Stands.of_past (record.complete (conn.speed + 1) conn.bytes) trivial
      exact ⟨_, (Trace.refl _).silent (.complete (.inr (by omega))), next⟩
    rw [if_neg full]
    cases secure : job.https with
    | true =>
      rw [if_pos (show (ofSizes conn).isHttps = true from record.https.trans secure)]
      split
      · rename_i object' present
        obtain rfl : ssl = some object' := object.symm.trans present
        have trace : job.Trace (.receiving (some object') got)
            [.sslRead (some object') conn.bytesReceived (recvBufferSize - 1 - got.length)
              (io.sslRead.chunk (recvBufferSize - 1 - got.length))]
            (.receiving (some object') (got ++ io.sslRead.chunk (recvBufferSize - 1 - got.length))) :=
          .single (.sslRead secure)
        exact given_refines io.sslRead sys record trace
      · exact .of_past (record.fail rfl (.refl _) (-1) sys) trivial
    | false =>
      rw [if_neg (by rw [show (ofSizes conn).isHttps = _ from record.https, secure]; decide)]
      have trace : job.Trace (.receiving ssl got)
          [.read conn.sockfd conn.bytesReceived (recvBufferSize - 1 - got.length)
            (io.read.chunk (recvBufferSize - 1 - got.length))]
          (.receiving ssl (got ++ io.read.chunk (recvBufferSize - 1 - got.length))) := .single (.read secure)
      exact given_refines io.read sys record trace
  · rw [if_neg ready]
    exact .of_past (record.stay 0 sys) trivial

end Receiving

/-! ## The cases on the way to the handshake -/

section Tunnel

variable {args : Arguments} {request : HTTPRequest} {conn : WebBench.Connection}

/-- The SSL set-up written out is that of `setup_ssl_context`. -/
theorem secured_eq (sys : Sys) (conn : WebBench.Connection) (io : Io) (asked : List Call) (host : List Byte) :
    (let (ctx, sys, calls) := getGlobalSslCtx sys io
    let conn := { ofSizes conn with sslContext := ctx }
    match ctx with
    | none => (⟨-1, conn.toError, sys, asked ++ calls⟩ : Outcome Int)
    | some _ =>
      let (ssl, sys) := sys.sslNew io.sslNew
      let conn := { conn with ssl := ssl }
      let calls := asked ++ calls ++ [.sslNew ssl]
      match ssl with
      | none => ⟨-1, conn.toError, sys, calls⟩
      | some _ =>
        let calls := calls ++ [.sslSetFd ssl conn.sockfd io.sslSetFd]
        if io.sslSetFd = 0 then ⟨-1, conn.toError, sys, calls⟩
        else ⟨0, conn, sys, calls ++ [.sslSetHostName ssl host]⟩) =
    outcome
      (let setup := setupSslContext sys io conn
      if setup.ret > 0 then ⟨0, setup.conn, setup.sys, asked ++ setup.calls ++ [.sslSetHostName setup.conn.ssl host]⟩
      else ⟨-1, setup.conn.toError, setup.sys, asked ++ setup.calls⟩) := by
  unfold setupSslContext
  generalize getGlobalSslCtx sys io = got
  obtain ⟨ctx, sys', calls⟩ := got
  cases ctx with
  | none => rfl
  | some ctx =>
    dsimp only
    generalize sys'.sslNew io.sslNew = made
    obtain ⟨ssl, sys''⟩ := made
    cases ssl with
    | none =>
      simp only [List.append_assoc]
      rfl
    | some ssl =>
      dsimp only
      by_cases bad : io.sslSetFd = 0
      · rw [if_pos bad, if_pos bad]
        simp only [List.append_assoc]
        rfl
      · rw [if_neg bad, if_neg bad]
        simp only [List.append_assoc]
        rfl

/-- The set-up of TLS counts nothing. -/
theorem setupSslContext_untouched (job : Job) (sys : Sys) (io : Io) (untouched : Untouched conn) :
    Untouched (setupSslContext sys io conn).conn := by
  obtain ⟨ctx, ssl, made, -⟩ := setupSslContext_spec job sys io conn rfl
  rw [made]
  exact untouched

/-- A connection that comes up goes on to the tunnel, to the handshake or to sending. -/
theorem whenConnecting_refines (sys : Sys) (fds : FdSets) (io : Io)
    (record : Represents (job args request) conn .connecting) :
    Refines (job args request) .connecting (whenConnecting args sys (ofSizes conn) fds io) := by
  have asked : (job args request).Trace .connecting [.getsockopt conn.sockfd] .connecting := .single .getsockopt
  have secure : (args.protocol == protocolHttps) = conn.isHttps := record.https.symm
  have zero : Untouched conn := ⟨record.sent ConnState.noConfusion, record.received⟩
  unfold whenConnecting
  split
  · dsimp only
    split
    · have step := connected_refines sys io _ args.targetHost.bytes record asked
      rw [secure]
      refine (congrArg (Refines _ _) ?_).mpr (Refines.of_untouched step ?_)
      · refine ite_outcome .rfl (fun _ => rfl) fun _ => ite_outcome .rfl (fun https => ?_) fun _ => rfl
        exact secured_eq sys { conn with state := if conn.isHttps then .tlsHandshake else .sending } io
          [.getsockopt conn.sockfd] args.targetHost.bytes
      · dsimp only
        split
        · exact zero
        · split
          · split
            · exact setupSslContext_untouched (job args request) sys io zero
            · exact setupSslContext_untouched (job args request) sys io zero
          · exact zero
    · exact .of_untouched (record.fail rfl asked (-1) sys) zero
  · exact .of_untouched (record.stay 0 sys) zero

/-- `send_proxy_connect` makes one call, and what that leaves of the request is skipped. -/
theorem sendProxyConnect_spec (args : Arguments) (request : HTTPRequest) (sys : Sys) (errno : Int) (conn : Connection) (io : Io) :
    let o := sendProxyConnect sys errno conn io args.proxyHost.bytes args.proxyPort args.targetHost.bytes args.targetPort
    o.conn = conn ∧ (o.ret > 0 → (job args request).Trace (.tunnelling 0) o.calls (.awaitingReply [])) ∧
      (o.ret ≤ 0 → (job args request).Trace (.tunnelling 0) o.calls (.tunnelling 0)) := by
  have idle {ret : Int} : ret ≤ 0 → (job args request).Trace (.tunnelling 0) [] (.tunnelling 0) := fun _ => .refl _
  have no {calls : List Call} {ret : Int} (none : ret ≤ 0) :
      ret > 0 → (job args request).Trace (.tunnelling 0) calls (.awaitingReply []) :=
    fun some => absurd some (Int.not_lt.mpr none)
  unfold sendProxyConnect
  by_cases hosts : args.proxyHost.bytes.length = 0 ∨ args.targetHost.bytes.length = 0
  · rw [if_pos hosts]
    exact ⟨rfl, no (show (-1 : Int) ≤ 0 by decide), idle⟩
  by_cases ports : args.proxyPort ≤ 0 ∨ 65535 < args.proxyPort ∨ args.targetPort ≤ 0 ∨ 65535 < args.targetPort
  · rw [if_neg hosts, if_pos ports]
    exact ⟨rfl, no (show (-1 : Int) ≤ 0 by decide), idle⟩
  by_cases closed : conn.sockfd < 0
  · rw [if_neg hosts, if_neg ports, if_pos closed]
    exact ⟨rfl, no (show (-1 : Int) ≤ 0 by decide), idle⟩
  rw [if_neg hosts, if_neg ports, if_neg closed,
    connectRequest_eq args.targetHost args.targetPort (by omega) (by omega)]
  have short := io.send.ret_toNat_le (connectText args.targetHost.bytes args.targetPort).length
  generalize taken : io.send.ret (connectText args.targetHost.bytes args.targetPort).length = ret at short
  have sends : (job args request).Trace (.tunnelling 0)
      [.send conn.sockfd ⟨.connectRequest, 0, (connectText args.targetHost.bytes args.targetPort).length⟩ ret]
      (.tunnelling (0 + ret.toNat)) :=
    .single (.request (show 0 + ret.toNat ≤ (connectText args.targetHost.bytes args.targetPort).length by omega))
  dsimp only
  rw [taken]
  by_cases none : ret ≤ 0
  · rw [Int.toNat_of_nonpos none] at sends
    rw [if_pos none]
    split
    · exact ⟨rfl, no (Int.le_refl 0), fun _ => sends⟩
    · exact ⟨rfl, no (show (-1 : Int) ≤ 0 by decide), fun _ => sends⟩
  · rw [if_neg none]
    exact ⟨rfl, fun _ => sends.silent (.skip rfl), fun empty => absurd empty none⟩

/-- CONNECT is sent whole, so between two steps none of it is counted. -/
theorem whenProxyConnect_refines (sys : Sys) (errno : Int) (fds : FdSets) (io : Io)
    (record : Represents (job args request) conn (.tunnelling 0)) :
    Refines (job args request) (.tunnelling 0) (whenProxyConnect args sys errno (ofSizes conn) fds io) := by
  have zero : conn.bytesSent = 0 := record.sent ConnState.noConfusion
  have none : conn.ssl = none := record.ssl ConnState.noConfusion ConnState.noConfusion
  unfold whenProxyConnect
  by_cases ready : fdIsSet (ofSizes conn).sockfd fds.write = true
  · rw [if_pos ready]
    obtain ⟨same, whole, nothing⟩ := sendProxyConnect_spec args request sys errno (ofSizes conn) io
    generalize sendProxyConnect sys errno (ofSizes conn) io _ _ _ _ = sent at same whole nothing
    obtain ⟨ret, conn', sys', calls⟩ := sent
    obtain rfl : conn' = ofSizes conn := same
    dsimp only at whole nothing ⊢
    by_cases some : ret > 0
    · have next : Represents (job args request) { conn with state := .proxyResponse } (.awaitingReply []) :=
        record.enter rfl rfl rfl (fun _ => zero) trivial fun _ _ => none
      rw [if_pos some]
      exact ⟨_, whole some, .of_record next rfl⟩
    · have trace := nothing (Int.not_lt.mp some)
      rw [if_neg some]
      split
      · exact ⟨_, trace, .of_record record rfl⟩
      · exact ⟨_, trace.silent (.fail rfl), .of_record record.toError trivial⟩
  · rw [if_neg ready]
    exact ⟨_, .refl _, .of_record record rfl⟩

/-- The text `handle_proxy_response` searches is what its one `recv` has delivered. -/
theorem cstr_reply {given : Given} (some : 0 < given.ret (bufferSize - 1)) :
    cstr (((CharArray.zeros bufferSize).store 0 (given.chunk (bufferSize - 1))).setNul
      (given.ret (bufferSize - 1)).toNat).toList = cstr (given.chunk (bufferSize - 1)) := by
  have short := given.chunk_length_le (bufferSize - 1)
  have size : bufferSize = 1024 := rfl
  have stored : ((CharArray.zeros bufferSize).store 0 (given.chunk (bufferSize - 1))).toList =
      CharArray.padded bufferSize (given.chunk (bufferSize - 1)) :=
    CharArray.store_padded (CharArray.zeros_toList _) (show 0 + _ ≤ bufferSize by omega)
  have ended := CharArray.setNul_padded stored (i := (given.ret (bufferSize - 1)).toNat) (by
    rw [Given.ret_of_pos some]; rfl)
  rw [ended, CharArray.cstr_padded]

/-- `handle_proxy_response` makes one call and leaves the record alone. -/
theorem handleProxyResponse_spec (job : Job) (sys : Sys) (errno : Int) (conn : Connection) (io : Io) :
    let o := handleProxyResponse sys errno conn io
    ∃ got, o.conn = conn ∧ job.Trace (.awaitingReply []) o.calls (.awaitingReply got) ∧
      (o.ret = 1 → strstr (cstr got) established) ∧ (o.ret = 0 → got = []) := by
  have trace : job.Trace (.awaitingReply []) [.recv conn.sockfd 0 (bufferSize - 1) (io.recv.chunk (bufferSize - 1))]
      (.awaitingReply (io.recv.chunk (bufferSize - 1))) := .single .reply
  have zeroOne : ¬ (0 : Int) = 1 := by decide
  have minusOne : ¬ (-1 : Int) = 1 := by decide
  unfold handleProxyResponse
  dsimp only
  by_cases none : io.recv.ret (bufferSize - 1) ≤ 0
  · have empty := Given.chunk_of_nonpos none
    rw [if_pos none]
    split
    · exact ⟨_, rfl, trace, fun one => absurd one zeroOne, fun _ => empty⟩
    · exact ⟨_, rfl, trace, fun one => absurd one minusOne, fun _ => empty⟩
  · rw [if_neg none, cstr_reply (Int.not_le.mp none)]
    split
    · rename_i found
      exact ⟨_, rfl, trace, fun _ => found, fun zero => absurd zero.symm zeroOne⟩
    · exact ⟨_, rfl, trace, fun one => absurd one minusOne, fun zero => absurd zero (show ¬ (-1 : Int) = 0 by decide)⟩

/-- It accepts exactly when what one `recv` delivers has the phrase in it. -/
theorem handleProxyResponse_ret (sys : Sys) (errno : Int) (conn : Connection) (io : Io) :
    (handleProxyResponse sys errno conn io).ret = 1 ↔ strstr (cstr (io.recv.chunk (bufferSize - 1))) established := by
  unfold handleProxyResponse
  dsimp only
  by_cases none : io.recv.ret (bufferSize - 1) ≤ 0
  · have nothing : ¬ strstr (cstr (io.recv.chunk (bufferSize - 1))) established := by
      rw [Given.chunk_of_nonpos none]
      decide
    rw [if_pos none]
    split
    · exact iff_of_false (show ¬ (0 : Int) = 1 by decide) nothing
    · exact iff_of_false (show ¬ (-1 : Int) = 1 by decide) nothing
  · rw [if_neg none, cstr_reply (Int.not_le.mp none)]
    split
    · rename_i found
      exact iff_of_true rfl found
    · rename_i missing
      exact iff_of_false (show ¬ (-1 : Int) = 1 by decide) missing

/-- A failing `get_global_ssl_ctx` ends the cycle without counting it. -/
theorem whenProxyResponse_refines (sys : Sys) (errno : Int) (fds : FdSets) (io : Io)
    (record : Represents (job args request) conn (.awaitingReply [])) :
    Refines (job args request) (.awaitingReply []) (whenProxyResponse args sys errno (ofSizes conn) fds io) := by
  have zero : conn.bytesSent = 0 := record.sent ConnState.noConfusion
  unfold whenProxyResponse
  by_cases ready : fdIsSet (ofSizes conn).sockfd fds.read = true
  · rw [if_pos ready]
    obtain ⟨got, same, replied, found, empty⟩ := handleProxyResponse_spec (job args request) sys errno (ofSizes conn) io
    generalize handleProxyResponse sys errno (ofSizes conn) io = result at same replied found empty
    obtain ⟨ret, conn', sys', calls⟩ := result
    obtain rfl : conn' = ofSizes conn := same
    dsimp only at replied found empty ⊢
    by_cases opened : ret = 1
    · subst opened
      have tunnel := replied.act (.accepted (found rfl))
      have context := getGlobalSslCtx_trace (job args request) sys' io none
      rw [if_pos rfl]
      generalize getGlobalSslCtx sys' io = global at context ⊢
      obtain ⟨ctx, sys', asked⟩ := global
      have ready := tunnel.trans context
      cases ctx with
      | none =>
        refine ⟨_, ready.silent (.fail rfl), ⟨⟨{ conn with state := .error, sslContext := none }, .failed [], rfl, ?_, rfl,
          fun live => absurd rfl live⟩, trivial⟩⟩
        exact record.enter rfl rfl rfl (fun live => absurd rfl live) trivial fun _ live => absurd rfl live
      | some ctx =>
        dsimp only
        generalize sys'.sslNew io.sslNew = made
        obtain ⟨ssl, sys'⟩ := made
        have bound : (job args request).Trace _ (_ ++ [.sslNew ssl] ++ [.sslSetFd ssl conn.sockfd io.sslSetFd] ++
            [.sslSetHostName ssl args.targetHost.bytes]) _ :=
          ((ready.act .sslNew).act .sslSetFd).act .sslSetHostName
        have next : Represents (job args request)
            { conn with state := .tlsHandshake, sslContext := some ctx, ssl := ssl } (.handshaking ssl) :=
          record.enter rfl rfl rfl (fun _ => zero) trivial fun _ _ => rfl
        simp only [List.append_assoc] at bound ⊢
        exact ⟨_, bound, .of_past next trivial⟩
    · have undecided := replied.act (.undecided opened)
      rw [if_neg opened]
      split
      · rename_i waits
        rw [empty waits] at undecided
        exact ⟨_, undecided, .of_record record rfl⟩
      · exact ⟨_, undecided.silent (.fail rfl), ⟨⟨conn.toError, .failed [], rfl, record.toError, rfl,
          fun live => absurd rfl live⟩, trivial⟩⟩
  · rw [if_neg ready]
    exact ⟨_, .refl _, .of_record record rfl⟩

end Tunnel

/-! ## The functions on one slot -/

section Handler

variable {args : Arguments} {request : HTTPRequest} {conn : Connection} {p : Phase}

/-- **`handle_ready_connection`** on a slot that waits for its descriptor. -/
theorem handle_refines (sys : Sys) (errno : Int) (fds : FdSets) (io : Io)
    (stands : Stands (job args request) conn p) (active : p.active) :
    Refines (job args request) p (handleReadyConnection args sys errno conn fds io) := by
  obtain ⟨⟨sizes, q, rfl, record, -, same⟩, fresh⟩ := stands
  obtain rfl : q = p := same fun failed => by rw [Phase.active, failed] at active; exact Bool.noConfusion active
  unfold handleReadyConnection
  rw [show (ofSizes sizes).state = q.state from record.state]
  cases q with
  | connecting => exact whenConnecting_refines sys fds io record
  | tunnelling k =>
    obtain rfl : k = 0 := fresh
    exact whenProxyConnect_refines sys errno fds io record
  | awaitingReply got =>
    obtain rfl : got = [] := fresh
    exact whenProxyResponse_refines sys errno fds io record
  | handshaking ssl =>
    dsimp only [Phase.state]
    rw [whenTlsHandshake_eq]
    exact .of_past (Poll.whenTlsHandshake_refines sys _ io record) trivial
  | sending ssl k =>
    have count : sizes.bytesSent = k := record.sent ConnState.noConfusion
    have within : k ≤ (job args request).body.length := record.rests
    have length := record.length
    have fits := (job args request).bodyFits
    have size : requestBodySize < 2 ^ 31 := by decide
    dsimp only [Phase.state]
    rw [whenSending_eq sys sizes fds io (by omega) (by omega)]
    exact .of_past (Poll.whenSending_refines sys _ io record) trivial
  | receiving ssl got => exact whenReceiving_refines sys fds io record
  | idle | completed _ | failed _ => exact Bool.noConfusion active

/-- A slot is connecting once it has a descriptor, the descriptor 0 included. -/
theorem allocateSocket_refines (sys : Sys) (addresses : Option (List Address))
    (stands : Stands (job args request) conn .idle) :
    Refines (job args request) .idle (allocateSocket args sys addresses conn) := by
  obtain ⟨⟨sizes, q, rfl, record, -, same⟩, -⟩ := stands
  obtain rfl : q = .idle := same ConnState.noConfusion
  have zero : sizes.bytesSent = 0 := record.sent ConnState.noConfusion
  have none : sizes.ssl = none := record.ssl ConnState.noConfusion ConnState.noConfusion
  have opened (fd : Int) : Represents (job args request) { sizes with sockfd := fd, state := .connecting } .connecting :=
    { record with
      state := rfl
      sent := fun _ => zero
      ssl := fun _ _ => none }
  have trace {host : List Byte} {port : Int} : (job args request).host = host → (job args request).port = port →
      (job args request).Trace .idle (createNonblockingSocket host port addresses sys).2.2 .idle :=
    createNonblockingSocket_trace _ _ addresses sys
  have result (calls : List Call) (fd : Int) (sys : Sys) (trace : (job args request).Trace .idle calls .idle) :
      Refines (job args request) .idle
        (if fd < 0 then ⟨-1, { ofSizes sizes with sockfd := fd }, sys, calls⟩
        else ⟨0, { ofSizes sizes with sockfd := fd, state := .connecting }, sys, calls⟩) := by
    split
    · have kept : Represents (job args request) { sizes with sockfd := fd } .idle := { record with sent := record.sent }
      exact ⟨_, trace, .of_record kept trivial⟩
    · exact ⟨_, trace.silent .opened, .of_record (opened fd) trivial⟩
  unfold allocateSocket
  by_cases through : needConnectProxy args = true
  · rw [if_pos through]
    exact result _ _ _ (trace (if_pos through) (if_pos through))
  · rw [if_neg through]
    exact result _ _ _ (trace (if_neg through) (if_neg through))

/-- The record `init_connection` leaves, with its counts read as `size_t`s. -/
theorem init_represents (args : Arguments) (request : HTTPRequest) :
    Represents (job args request)
      { ConnectionOf.zero 0 with
        sockfd := -1
        isHttps := args.protocol == protocolHttps
        forceFlag := args.force
        request := request
        requestLen := request.body.bytes.length } .idle where
  https := rfl
  force := rfl
  body := rfl
  length := rfl
  state := rfl
  sent := fun _ => rfl
  rests := trivial
  received := rfl
  room := by decide
  buffer := CharArray.zeros_toList _
  ssl := fun _ _ => rfl

/-- The functions of `bench_select.c` run the cycle. -/
theorem follows (args : Arguments) (request : HTTPRequest) :
    driver.Follows args request (job args request) (Stands (job args request)) where
  state := fun _ _ ⟨⟨_, _, made, record, names, _⟩, _⟩ => by rw [made]; exact record.state.trans names
  init := fun _ _ => .of_record (init_represents args request) trivial
  allocate := fun sys addresses _ stands => allocateSocket_refines sys addresses stands
  cleanup := fun _ _ _ ⟨⟨_, _, made, record, _, _⟩, _⟩ => by
    rw [made]
    exact .of_record (record.reset _) trivial
  handle := fun sys errno _ fds io _ stands active => handle_refines sys errno fds io stands active

end Handler

end WebBench.Select
