import WebBench.Record
import WebBench.Poll.Engine

/-!
# `bench_poll.c` runs the cycle

Every function of `bench_poll.c` on one slot keeps its record in a phase of the
cycle, and the calls it makes are a trace of the cycle (`handle_refines`). The
CONNECT request is transmitted without loss, so the cycle is an exact one.
-/

namespace WebBench.Poll
set_option autoImplicit false
open CLib

/-- The cycle `bench_poll` runs for its arguments. -/
def job (args : Arguments) (request : HTTPRequest) : Job :=
  .ofArguments args request (needConnectProxy args) true

section Handler

variable {args : Arguments} {request : HTTPRequest} {conn : Connection}

/-- `send_proxy_connect` sends the rest of the request, and keeps count of what was taken. -/
theorem sendProxyConnect_spec {k : Nat} (sys : Sys) (errno : Int) (io : Io)
    (record : Represents (job args request) conn (.tunnelling k)) :
    RequestStep (job args request) k conn (sendProxyConnect sys errno conn io args.proxyHost.bytes args.proxyPort
      args.targetHost.bytes args.targetPort) := by
  have count : conn.bytesSent = k := record.sent ConnState.noConfusion
  have left : k < (connectText args.targetHost.bytes args.targetPort).length := record.rests
  unfold sendProxyConnect
  by_cases hosts : args.proxyHost.bytes.length = 0 ∨ args.targetHost.bytes.length = 0
  · rw [if_pos hosts]
    exact .error (.refl _)
  by_cases ports : args.proxyPort ≤ 0 ∨ 65535 < args.proxyPort ∨ args.targetPort ≤ 0 ∨ 65535 < args.targetPort
  · rw [if_neg hosts, if_pos ports]
    exact .error (.refl _)
  by_cases closed : conn.sockfd ≤ 0
  · rw [if_neg hosts, if_neg ports, if_pos closed]
    exact .error (.refl _)
  have whole := connectRequest_eq args.targetHost args.targetPort (by omega) (by omega)
  have short := connectText_length_lt args.targetHost args.targetPort (by omega) (by omega)
  rw [if_neg hosts, if_neg ports, if_neg closed]
  generalize length : (connectText args.targetHost.bytes args.targetPort).length = len at left short
  unfold bufferSize at short
  simp only [whole, count, length, sizeSub_of_le left.le (show len < 2 ^ 64 by omega)]
  rw [if_neg (by omega)]
  have taken := io.send.ret_toNat_le (len - k)
  have sends : (job args request).Trace (.tunnelling k)
      [.send conn.sockfd ⟨.connectRequest, k, len - k⟩ (io.send.ret (len - k))]
      (.tunnelling (k + (io.send.ret (len - k)).toNat)) := by
    subst length
    exact .single (.request (show _ ≤ (connectText args.targetHost.bytes args.targetPort).length by omega))
  by_cases none : io.send.ret (len - k) ≤ 0
  · rw [if_pos none]
    rw [Int.toNat_of_nonpos none, Nat.add_zero] at sends
    split
    · exact .wait sends
    · exact .error sends
  · have total := taken_eq (k := k) (Int.not_le.mp none) (by omega)
    rw [if_neg none]
    simp only [total]
    by_cases complete : len ≤ k + (io.send.ret (len - k)).toNat
    · rw [if_pos complete]
      rw [show k + (io.send.ret (len - k)).toNat = (job args request).request.length by
        rw [show (job args request).request.length = len from length]; omega] at sends
      exact .whole (sends.silent .requested)
    · rw [if_neg complete]
      exact .part (show _ < (connectText args.targetHost.bytes args.targetPort).length by omega) sends

end Handler

/-! ## The cases that need no argument -/

section Cases

variable {job : Job} {conn : Connection}

theorem whenTlsHandshake_refines {ssl : Option Ptr} (sys : Sys) (revents : BitVec 16) (io : Io)
    (record : Represents job conn (.handshaking ssl)) :
    Refines job (.handshaking ssl) (whenTlsHandshake sys conn revents io) := by
  have object : conn.ssl = ssl := record.ssl ConnState.noConfusion ConnState.noConfusion
  have zero : conn.bytesSent = 0 := record.sent ConnState.noConfusion
  unfold whenTlsHandshake
  rw [object]
  cases ssl with
  | none => exact record.stay _ _
  | some ssl =>
    dsimp only
    by_cases ready : anyBit revents (pollin ||| pollout) = true
    · rw [if_pos ready]
      by_cases shaken : io.sslConnect = 1
      · rw [if_pos shaken, shaken]
        exact ⟨_, .single .shaken, record.enter rfl rfl rfl (fun _ => zero) (Nat.zero_le _) fun _ _ => rfl⟩
      · have trace : job.Trace (.handshaking (some ssl)) [.sslConnect ssl io.sslConnect] (.handshaking (some ssl)) :=
          .single (.unshaken shaken)
        rw [if_neg shaken]
        split
        · exact ⟨_, trace, record⟩
        · exact record.fail rfl trace _ _
    · rw [if_neg ready]
      exact record.stay _ _

/-- The state the handlers choose once the body is sent. -/
theorem afterSending_refines {ssl : Option Ptr} {calls : List Call} {p : Phase} {k : Nat} (ret : Int) (sys : Sys)
    (record : Represents job conn (.sending ssl k)) (all : k = job.body.length)
    (trace : job.Trace p calls (.sending ssl k)) :
    Refines job p ⟨ret, { conn with state := conn.afterSending }, sys, calls⟩ := by
  have count : conn.bytesSent = k := record.sent ConnState.noConfusion
  have object : conn.ssl = ssl := record.ssl ConnState.noConfusion ConnState.noConfusion
  subst all
  cases forced : job.force with
  | true =>
    have next : conn.afterSending = .completed := if_pos (of_decide_eq_true (record.force.trans forced))
    exact ⟨_, trace.silent (.forced forced), record.enter rfl rfl next (fun _ => count) trivial fun done => absurd rfl done⟩
  | false =>
    have next : conn.afterSending = .receiving := if_neg (of_decide_eq_false (record.force.trans forced))
    exact ⟨_, trace.silent (.sent forced), record.enter rfl rfl next (fun _ => count) trivial fun _ _ => object⟩

/-- The handlers after a write that took `n` bytes of the body. -/
theorem written_refines {ssl : Option Ptr} {calls : List Call} {k n : Nat} {written : Int} (sys : Sys)
    (record : Represents job conn (.sending ssl k)) (within : k + n ≤ job.body.length)
    (trace : job.Trace (.sending ssl k) calls (.sending ssl (k + n)))
    (total : sizeAdd conn.bytesSent (sizeOfInt written) = k + n) :
    Refines job (.sending ssl k)
      (let conn := { conn with bytesSent := sizeAdd conn.bytesSent (sizeOfInt written) }
      if conn.requestLen ≤ conn.bytesSent then ⟨0, { conn with state := conn.afterSending }, sys, calls⟩
      else ⟨0, conn, sys, calls⟩) := by
  have object : conn.ssl = ssl := record.ssl ConnState.noConfusion ConnState.noConfusion
  have next : Represents job { conn with bytesSent := sizeAdd conn.bytesSent (sizeOfInt written) }
      (.sending ssl (k + n)) := record.enter rfl rfl record.state (fun _ => total) within fun _ _ => object
  have length := record.length
  dsimp only
  by_cases whole : conn.requestLen ≤ sizeAdd conn.bytesSent (sizeOfInt written)
  · rw [if_pos whole]
    exact afterSending_refines 0 sys next (by omega) trace
  · rw [if_neg whole]
    exact ⟨_, trace, next⟩

/-- The handlers after a write: a part of the body is taken, or it is to be tried again, or it fails. -/
theorem write_refines {ssl : Option Ptr} {calls : List Call} {k : Nat} (taken : Taken) {again : Prop}
    [Decidable again] (sys : Sys) (record : Represents job conn (.sending ssl k))
    (trace : job.Trace (.sending ssl k) calls (.sending ssl (k + (taken.ret (job.body.length - k)).toNat))) :
    let written := taken.ret (job.body.length - k)
    Refines job (.sending ssl k)
      (if written > 0 then
        let conn := { conn with bytesSent := sizeAdd conn.bytesSent (sizeOfInt written) }
        if conn.requestLen ≤ conn.bytesSent then ⟨0, { conn with state := conn.afterSending }, sys, calls⟩
        else ⟨0, conn, sys, calls⟩
      else if again then ⟨0, conn, sys, calls⟩
      else ⟨-1, conn.toError, sys, calls⟩) := by
  have count : conn.bytesSent = k := record.sent ConnState.noConfusion
  have within : k ≤ job.body.length := record.rests
  have fits : job.body.length < 2048 := job.bodyFits
  have short := taken.ret_toNat_le (job.body.length - k)
  dsimp only
  by_cases some : 0 < taken.ret (job.body.length - k)
  · rw [if_pos some]
    exact written_refines sys record (by omega) trace (by rw [count, taken_eq some (by omega)])
  · rw [if_neg some]
    rw [Int.toNat_of_nonpos (Int.not_lt.mp some), Nat.add_zero] at trace
    split
    · exact ⟨_, trace, record⟩
    · exact record.fail rfl trace _ _

theorem whenSending_refines {ssl : Option Ptr} {k : Nat} (sys : Sys) (revents : BitVec 16) (io : Io)
    (record : Represents job conn (.sending ssl k)) :
    Refines job (.sending ssl k) (whenSending sys conn revents io) := by
  have object : conn.ssl = ssl := record.ssl ConnState.noConfusion ConnState.noConfusion
  have count : conn.bytesSent = k := record.sent ConnState.noConfusion
  have within : k ≤ job.body.length := record.rests
  have fits : job.body.length < 2048 := job.bodyFits
  unfold whenSending
  by_cases ready : anyBit revents pollout = true
  · rw [if_pos ready]
    have remaining : intOfSize (sizeSub conn.requestLen conn.bytesSent) = (job.body.length - k : Nat) := by
      rw [record.length, count, sizeSub_of_le within (by omega), intOfSize_of_lt (by omega)]
    have slice : (⟨.body, conn.bytesSent, job.body.length - k⟩ : Slice) = job.rest .body k := by rw [count]; rfl
    have bound : ∀ taken : Taken, k + (taken.ret (job.body.length - k)).toNat ≤ job.body.length := by
      intro taken
      have short := taken.ret_toNat_le (job.body.length - k)
      omega
    rw [remaining]
    dsimp only
    rw [Int.toNat_natCast, slice]
    by_cases done : ((job.body.length - k : Nat) : Int) ≤ 0
    · rw [if_pos done]
      exact afterSending_refines 0 sys record (by omega) (.refl _)
    rw [if_neg done]
    cases secure : job.https with
    | true =>
      rw [if_pos (record.https.trans secure)]
      split
      · rename_i object' present
        obtain rfl : ssl = some object' := object.symm.trans present
        exact write_refines io.sslWrite sys record (.single (.write secure (bound io.sslWrite)))
      · exact record.fail rfl (.refl _) _ _
    | false =>
      rw [if_neg (by rw [record.https, secure]; decide)]
      exact write_refines io.send sys record (.single (.send secure (bound io.send)))
  · rw [if_neg ready]
    exact record.stay _ _

/-- The handlers after a read that delivered a part of the response. -/
theorem read_refines {ssl : Option Ptr} {got : List Byte} {calls : List Call} {given : Given} (speed bytes : Int)
    (sys : Sys) (record : Represents job conn (.receiving ssl got))
    (some : 0 < given.ret (recvBufferSize - 1 - got.length))
    (trace : job.Trace (.receiving ssl got) calls
      (.receiving ssl (got ++ given.chunk (recvBufferSize - 1 - got.length)))) :
    let buffer := conn.receivedResponse.store conn.bytesReceived (given.chunk (recvBufferSize - 1 - got.length))
    let total := sizeAdd conn.bytesReceived (sizeOfInt (given.ret (recvBufferSize - 1 - got.length)))
    let conn := { conn with receivedResponse := buffer.setNul total, bytesReceived := total }
    Refines job (.receiving ssl got)
      (if strstr (cstr conn.receivedResponse.toList) headerEnd then
        ⟨0, { conn with state := .completed, speed := speed, bytes := bytes }, sys, calls⟩
      else ⟨0, conn, sys, calls⟩) := by
  intro buffer total conn'
  have room : got.length < recvBufferSize := record.room
  have count : conn.bytesReceived = got.length := record.received
  have short := given.chunk_length_le (recvBufferSize - 1 - got.length)
  have fits : got.length + (given.chunk (recvBufferSize - 1 - got.length)).length < recvBufferSize := by omega
  have counted : total = got.length + (given.chunk (recvBufferSize - 1 - got.length)).length := by
    simp only [total, count]
    exact total_eq some (by omega)
  have stored : (buffer.setNul total).toList =
      CharArray.padded recvBufferSize (got ++ given.chunk (recvBufferSize - 1 - got.length)) := by
    simp only [counted, buffer, count]
    exact store_received record.buffer fits
  have next : Represents job conn' (.receiving ssl (got ++ given.chunk (recvBufferSize - 1 - got.length))) :=
    record.receive rfl rfl rfl trivial rfl fits stored counted
  split
  · rename_i found
    rw [show conn'.receivedResponse = buffer.setNul total from rfl, stored, CharArray.cstr_padded] at found
    exact ⟨_, trace.silent (.complete (.inl found)), next.complete _ _⟩
  · exact ⟨_, trace, next⟩

/-- The handlers after a read: a part of the response comes, or it is to be tried again, or it fails. -/
theorem given_refines {ssl : Option Ptr} {got : List Byte} {calls : List Call} (speed bytes : Int) (given : Given)
    {again : Prop} [Decidable again] (sys : Sys) (record : Represents job conn (.receiving ssl got))
    (trace : job.Trace (.receiving ssl got) calls
      (.receiving ssl (got ++ given.chunk (recvBufferSize - 1 - got.length)))) :
    let bytesRead := given.ret (recvBufferSize - 1 - got.length)
    Refines job (.receiving ssl got)
      (if bytesRead > 0 then
        let buffer := conn.receivedResponse.store conn.bytesReceived (given.chunk (recvBufferSize - 1 - got.length))
        let total := sizeAdd conn.bytesReceived (sizeOfInt bytesRead)
        let conn := { conn with receivedResponse := buffer.setNul total, bytesReceived := total }
        if strstr (cstr conn.receivedResponse.toList) headerEnd then
          ⟨0, { conn with state := .completed, speed := speed, bytes := bytes }, sys, calls⟩
        else ⟨0, conn, sys, calls⟩
      else if again then ⟨0, conn, sys, calls⟩
      else ⟨-1, conn.toError, sys, calls⟩) := by
  intro bytesRead
  by_cases some : 0 < given.ret (recvBufferSize - 1 - got.length)
  · rw [if_pos some]
    exact read_refines speed bytes sys record some trace
  · rw [Given.chunk_of_nonpos (Int.not_lt.mp some), List.append_nil] at trace
    rw [if_neg some]
    split
    · exact ⟨_, trace, record⟩
    · exact record.fail rfl trace _ _

theorem whenReceiving_refines {ssl : Option Ptr} {got : List Byte} (sys : Sys) (revents : BitVec 16) (io : Io)
    (record : Represents job conn (.receiving ssl got)) :
    Refines job (.receiving ssl got) (whenReceiving sys conn revents io) := by
  have object : conn.ssl = ssl := record.ssl ConnState.noConfusion ConnState.noConfusion
  have count : conn.bytesReceived = got.length := record.received
  have room : got.length < recvBufferSize := record.room
  unfold whenReceiving
  by_cases ready : anyBit revents pollin = true
  · rw [if_pos ready]
    have remaining : intOfSize (sizeSub (sizeSub recvBufferSize conn.bytesReceived) 1) =
        (recvBufferSize - 1 - got.length : Nat) := by
      rw [count, room_eq room, intOfSize_of_lt (by have : recvBufferSize = 8096 := rfl; omega)]
    rw [remaining]
    dsimp only
    rw [Int.toNat_natCast]
    by_cases full : ((recvBufferSize - 1 - got.length : Nat) : Int) ≤ 0
    · rw [if_pos full]
      exact ⟨_, (Trace.refl _).silent (.complete (.inr (by omega))), record.complete _ _⟩
    rw [if_neg full]
    cases secure : job.https with
    | true =>
      rw [if_pos (record.https.trans secure)]
      have trace : job.Trace (.receiving ssl got)
          [.sslRead conn.ssl conn.bytesReceived (recvBufferSize - 1 - got.length)
            (io.sslRead.chunk (recvBufferSize - 1 - got.length))]
          (.receiving ssl (got ++ io.sslRead.chunk (recvBufferSize - 1 - got.length))) := by
        rw [object]
        exact .single (.sslRead secure)
      exact given_refines _ _ io.sslRead sys record trace
    | false =>
      rw [if_neg (by rw [record.https, secure]; decide)]
      have trace : job.Trace (.receiving ssl got)
          [.read conn.sockfd conn.bytesReceived (recvBufferSize - 1 - got.length)
            (io.read.chunk (recvBufferSize - 1 - got.length))]
          (.receiving ssl (got ++ io.read.chunk (recvBufferSize - 1 - got.length))) := .single (.read secure)
      exact given_refines _ _ io.read sys record trace
  · rw [if_neg ready]
    exact record.stay _ _

end Cases

/-! ## The engine's functions -/

variable {args : Arguments} {request : HTTPRequest} {conn : Connection}

theorem whenConnecting_refines (sys : Sys) (revents : BitVec 16) (io : Io)
    (record : Represents (job args request) conn .connecting) :
    Refines (job args request) .connecting (whenConnecting args sys conn revents io) := by
  have asked : (job args request).Trace .connecting [.getsockopt conn.sockfd] .connecting := .single .getsockopt
  unfold whenConnecting
  split
  · dsimp only
    split
    · exact connected_refines sys io _ args.targetHost.bytes record asked
    · exact record.fail rfl asked _ _
  · exact record.stay _ _

/-- **`handle_ready_connection`** on a slot that waits for its descriptor. -/
theorem handle_refines {p : Phase} (sys : Sys) (errno : Int) (revents : BitVec 16) (io : Io)
    (record : Represents (job args request) conn p) (active : p.active) :
    Refines (job args request) p (handleReadyConnection args sys errno conn revents io) := by
  unfold handleReadyConnection
  by_cases broken : anyBit revents (pollerr ||| pollhup ||| pollnval) = true
  · rw [if_pos broken]
    exact record.fail active (.refl _) _ _
  rw [if_neg broken, record.state]
  cases p with
  | connecting => exact whenConnecting_refines sys revents io record
  | tunnelling k =>
    dsimp only [Phase.state]
    unfold whenProxyConnect
    split
    · exact (sendProxyConnect_spec sys errno io record).refines record
    · exact record.stay _ _
  | awaitingReply got =>
    dsimp only [Phase.state]
    unfold whenProxyResponse
    split
    · exact (handleProxyResponse_spec sys errno io record).refines io record
    · exact record.stay _ _
  | handshaking ssl => exact whenTlsHandshake_refines sys revents io record
  | sending ssl k => exact whenSending_refines sys revents io record
  | receiving ssl got => exact whenReceiving_refines sys revents io record
  | idle | completed _ | failed _ => exact Bool.noConfusion active

theorem allocateSocket_refines (sys : Sys) (addresses : Option (List Address))
    (record : Represents (job args request) conn .idle) :
    Refines (job args request) .idle (allocateSocket args sys addresses conn) := by
  have trace {host : List Byte} {port : Int} : (job args request).host = host → (job args request).port = port →
      (job args request).Trace .idle (createNonblockingSocket host port addresses sys).2.2 .idle :=
    createNonblockingSocket_trace _ _ addresses sys
  unfold allocateSocket
  by_cases through : needConnectProxy args = true
  · rw [if_pos through]
    exact allocated_refines _ _ record (trace (if_pos through) (if_pos through))
  · rw [if_neg through]
    exact allocated_refines _ _ record (trace (if_neg through) (if_neg through))

/-- The functions of `bench_poll.c` run the cycle. -/
theorem follows (args : Arguments) (request : HTTPRequest) :
    driver.Follows args request (job args request) (Represents (job args request)) where
  state := fun _ _ record => record.state
  init := fun _ _ => {
    https := rfl
    force := rfl
    body := rfl
    length := rfl
    state := rfl
    sent := fun _ => rfl
    rests := trivial
    received := rfl
    room := by decide
    buffer := CharArray.zeros_toList _
    ssl := fun _ _ => rfl }
  allocate := fun sys addresses _ record => allocateSocket_refines sys addresses record
  cleanup := fun _ _ _ record => record.reset _
  handle := fun sys errno _ revents io _ record active => handle_refines sys errno revents io record active

end WebBench.Poll
