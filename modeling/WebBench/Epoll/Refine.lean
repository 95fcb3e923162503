import WebBench.Record
import WebBench.Poll.Refine
import WebBench.Epoll.Copy
import WebBench.Epoll.Connect
import WebBench.Epoll.Engine

/-!
# `bench_epoll.c` runs the cycle

The counterpart of `WebBench.Poll.Refine`. A failing `send` makes the count of
the CONNECT request go back or the rest of it be skipped, so the cycle is not an
exact one; in everything else the handler is the one of `bench_poll.c`.
-/

namespace WebBench.Epoll
set_option autoImplicit false
open CLib

/-- The cycle `bench_epoll` runs for its arguments. -/
def job (args : Arguments) (request : HTTPRequest) : Job :=
  .ofArguments args request (needConnectProxy args) false

variable {args : Arguments} {request : HTTPRequest} {conn : Connection}

/-- The call `send_proxy_connect` makes is one of the cycle. -/
theorem send_trace (args : Arguments) (request : HTTPRequest) (k : Nat) (fd ret : Int) {len : Nat}
    (within : k + ret.toNat ≤ len) (whole : (connectText args.targetHost.bytes args.targetPort).length = len) :
    (job args request).Trace (.tunnelling k) [.send fd ⟨.connectRequest, k, len - k⟩ ret]
      (.tunnelling (k + ret.toNat)) := by
  subst whole
  exact .single (.request within)

section Request

variable (accepts : Accepts args.proxyHost.bytes args.proxyPort args.targetHost args.targetPort) (sys : Sys) (errno : Int)
  (io : Io) (socket : 0 < conn.sockfd)
  (left : conn.bytesSent < (connectText args.targetHost.bytes args.targetPort).length)
include accepts socket left

/-- After a failing `send` the `size_t` count reports the request sent if nothing
was, and goes back by one byte otherwise. -/
theorem sendProxyConnect_failed_spec (failed : io.send = .failed) :
    RequestStep (job args request) conn.bytesSent conn (sendProxyConnect sys errno conn io args.proxyHost.bytes
      args.proxyPort args.targetHost.bytes args.targetPort) := by
  have trace := send_trace args request conn.bytesSent conn.sockfd (-1) left.le rfl
  by_cases none : conn.bytesSent = 0
  · have same : { conn with bytesSent := 0 } = conn := by
      cases conn
      cases none
      rfl
    rw [sendProxyConnect_failed_first accepts sys errno conn io socket none failed]
    rw [none] at trace ⊢
    have step : RequestStep _ _ _ ⟨1, { conn with bytesSent := 0 }, sys, _⟩ := .whole (trace.silent (.skip rfl))
    rwa [same] at step
  · rw [sendProxyConnect_failed_later accepts sys errno conn io socket (by omega) left failed]
    exact .part (show _ < (connectText args.targetHost.bytes args.targetPort).length by omega)
      (trace.silent (.slip rfl (show _ < (connectText args.targetHost.bytes args.targetPort).length by omega)))

/-- A `send` that takes nothing leaves the count as it is. -/
theorem sendProxyConnect_empty_spec (empty : io.send = .bytes 0) :
    RequestStep (job args request) conn.bytesSent conn (sendProxyConnect sys errno conn io args.proxyHost.bytes
      args.proxyPort args.targetHost.bytes args.targetPort) := by
  have zero : ∀ len, io.send.ret len = 0 := fun len => by simp [empty, Taken.ret]
  have trace := send_trace args request conn.bytesSent conn.sockfd 0 left.le rfl
  rw [sendProxyConnect_eq accepts sys errno conn io socket left]
  simp only [zero]
  rw [if_pos (by decide)]
  split
  · exact .wait trace
  · exact .error trace

/-- A `send` that takes some bytes is counted. -/
theorem sendProxyConnect_bytes_spec {n : Nat} (took : io.send = .bytes n) (some : n ≠ 0) :
    RequestStep (job args request) conn.bytesSent conn (sendProxyConnect sys errno conn io args.proxyHost.bytes
      args.proxyPort args.targetHost.bytes args.targetPort) := by
  have within : conn.bytesSent +
      ((min n ((connectText args.targetHost.bytes args.targetPort).length - conn.bytesSent) : Nat) : Int).toNat ≤
        (connectText args.targetHost.bytes args.targetPort).length := by
    rw [Int.toNat_natCast]
    omega
  have trace := send_trace args request conn.bytesSent conn.sockfd _ within rfl
  rw [Int.toNat_natCast] at trace
  rw [sendProxyConnect_bytes accepts sys errno conn io socket left took (by omega)]
  by_cases whole : (connectText args.targetHost.bytes args.targetPort).length ≤ conn.bytesSent + n
  · rw [if_pos whole]
    have all : conn.bytesSent +
        min n ((connectText args.targetHost.bytes args.targetPort).length - conn.bytesSent) =
        (job args request).request.length :=
      show _ = (connectText args.targetHost.bytes args.targetPort).length by omega
    rw [all] at trace
    exact .whole (trace.silent .requested)
  · rw [if_neg whole]
    have part : min n ((connectText args.targetHost.bytes args.targetPort).length - conn.bytesSent) = n := by omega
    rw [part] at trace ⊢
    exact .part (show _ < (connectText args.targetHost.bytes args.targetPort).length by omega) trace

end Request

/-- `send_proxy_connect` with its `size_t` count. -/
theorem sendProxyConnect_spec {k : Nat} (sys : Sys) (errno : Int) (io : Io)
    (record : Represents (job args request) conn (.tunnelling k)) :
    RequestStep (job args request) k conn (sendProxyConnect sys errno conn io args.proxyHost.bytes args.proxyPort
      args.targetHost.bytes args.targetPort) := by
  have count : conn.bytesSent = k := record.sent ConnState.noConfusion
  have left : k < (connectText args.targetHost.bytes args.targetPort).length := record.rests
  by_cases hosts : args.proxyHost.bytes.length = 0 ∨ args.targetHost.bytes.length = 0
  · unfold sendProxyConnect
    rw [if_pos hosts]
    exact .error (.refl _)
  by_cases ports : (!isValidPort args.proxyPort || !isValidPort args.targetPort) = true
  · unfold sendProxyConnect
    rw [if_neg hosts, if_pos ports]
    exact .error (.refl _)
  by_cases closed : conn.sockfd ≤ 0
  · unfold sendProxyConnect
    rw [if_neg hosts, if_neg ports, if_pos closed]
    exact .error (.refl _)
  have socket : 0 < conn.sockfd := Int.not_le.mp closed
  have accepts : Accepts args.proxyHost.bytes args.proxyPort args.targetHost args.targetPort := by
    simp only [List.length_eq_zero_iff, not_or] at hosts
    simp only [Bool.or_eq_true, Bool.not_eq_true', not_or, Bool.not_eq_false] at ports
    exact ⟨hosts.1, hosts.2, ports.1, ports.2⟩
  subst count
  cases took : io.send with
  | failed => exact sendProxyConnect_failed_spec accepts sys errno io socket left took
  | bytes n =>
    by_cases none : n = 0
    · exact sendProxyConnect_empty_spec accepts sys errno io socket left (none ▸ took)
    · exact sendProxyConnect_bytes_spec accepts sys errno io socket left took none

/-- The step of `bench_epoll` after the entry has been removed, from the one of `bench_poll`. -/
theorem Agree.refines {job : Job} {p : Phase} {o o' : Outcome Nat} (agree : Agree o o') (step : Refines job p o') :
    Refines job p o := by
  obtain ⟨q, trace, record⟩ := step
  exact ⟨q, agree.calls ▸ trace, agree.conn ▸ record⟩

/-- **`handle_ready_connection`** on a slot that waits for its descriptor. -/
theorem handle_refines {p : Phase} (sys : Sys) (errno : Int) (ev : BitVec 32) (io : Io)
    (record : Represents (job args request) conn p) (active : p.active) :
    Refines (job args request) p (handleReadyConnection args sys errno conn ev io) := by
  unfold handleReadyConnection
  generalize sys.epollDel conn.sockfd = deleted
  obtain ⟨ret, sys⟩ := deleted
  dsimp only
  by_cases missing : ret = -1
  · rw [if_pos missing]
    exact record.stay _ _
  by_cases broken : anyBit ev (epollerr ||| epollhup) = true
  · rw [if_neg missing, if_pos broken]
    exact record.fail active (.refl _) _ _
  rw [if_neg missing, if_neg broken, dispatchState, record.state]
  cases p with
  | connecting =>
    have asked : (job args request).Trace .connecting [.getsockopt conn.sockfd] .connecting := .single .getsockopt
    dsimp only [Phase.state]
    unfold whenConnecting
    split
    · dsimp only
      split
      · exact connected_refines sys io _ args.targetHost.bytes record asked
      · exact record.fail rfl asked _ _
    · exact record.stay _ _
  | tunnelling k =>
    dsimp only [Phase.state]
    unfold whenProxyConnect
    split
    · exact (sendProxyConnect_spec sys errno io record).refines record
    · exact record.stay _ _
  | awaitingReply got =>
    dsimp only [Phase.state]
    unfold whenProxyResponse
    split
    · exact (handleProxyResponse_spec sys errno io record).refines io record
    · exact record.stay _ _
  | handshaking ssl =>
    exact (whenTlsHandshake_agree sys conn ev io).refines
      (Poll.whenTlsHandshake_refines sys (pollMask ev) io record)
  | sending ssl k =>
    dsimp only [Phase.state]
    rw [whenSending_eq]
    exact Poll.whenSending_refines sys (pollMask ev) io record
  | receiving ssl got =>
    dsimp only [Phase.state]
    rw [whenReceiving_eq]
    exact Poll.whenReceiving_refines sys (pollMask ev) io record
  | idle | completed _ | failed _ => exact Bool.noConfusion active

theorem allocateSocket_refines (sys : Sys) (addresses : Option (List Address))
    (record : Represents (job args request) conn .idle) :
    Refines (job args request) .idle (allocateSocket args sys addresses conn) := by
  have trace {host : List Byte} {port : Int} : (job args request).host = host → (job args request).port = port →
      (job args request).Trace .idle (createNonblockingSocket host port addresses sys).2.2 .idle :=
    createNonblockingSocket_trace _ _ addresses sys
  unfold allocateSocket
  by_cases through : needConnectProxy args = true
  · rw [if_pos through]
    exact allocated_refines _ _ record (trace (if_pos through) (if_pos through))
  · rw [if_neg through]
    exact allocated_refines _ _ record (trace (if_neg through) (if_neg through))

/-- The functions of `bench_epoll.c` run the cycle. -/
theorem follows (args : Arguments) (request : HTTPRequest) :
    driver.Follows args request (job args request) (Represents (job args request)) where
  state := fun _ _ record => record.state
  init := by
    rintro _ rfl
    exact {
      https := rfl
      force := rfl
      body := rfl
      length := rfl
      state := rfl
      sent := fun _ => rfl
      rests := trivial
      received := rfl
      room := by decide
      buffer := CharArray.zeros_toList _
      ssl := fun _ _ => rfl }
  allocate := fun sys addresses _ record => allocateSocket_refines sys addresses record
  cleanup := fun _ _ _ record => record.reset _
  handle := fun sys errno _ ev io _ record active => handle_refines sys errno ev io record active

end WebBench.Epoll
