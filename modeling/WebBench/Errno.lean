import WebBench.Handshake

/-!
# `errno` between the slots

`errno` outlives the call that set it. While the proxy tunnel is built the engines
look at it whenever `send` or `recv` moved no bytes, also after a result of 0,
which leaves it as an earlier call, mostly on another slot, has set it. The later
states test for the result -1 first.
-/

namespace WebBench
set_option autoImplicit false
open CLib

/-! ## After one call -/

/-- Only a call that fails sets `errno`. -/
theorem errnoAfter_failed (stale fresh : Int) : errnoAfter (-1) stale fresh = fresh := if_pos rfl

/-- A result of 0 leaves the old one. -/
theorem errnoAfter_zero (stale fresh : Int) : errnoAfter 0 stale fresh = stale := if_neg (by decide)

/-- A result that is not positive is a failure or 0. -/
theorem Taken.failed_of_nonpos {len : Nat} {taken : Taken} (none : taken.ret len ≤ 0) (some : taken.ret len ≠ 0) :
    taken.ret len = -1 := by
  cases taken with
  | bytes n => simp only [Taken.ret] at *; omega
  | failed => rfl

/-- Nothing, but not a result of 0: the call has failed. -/
theorem Given.failed_of_nonpos {room : Nat} {given : Given} (none : given.ret room ≤ 0) (some : given.ret room ≠ 0) :
    given.ret room = -1 := by
  cases given with
  | bytes data => simp only [Given.ret] at *; omega
  | failed => rfl

/-! ## Two executions -/

section TwoRuns
variable {κ : Type}

/-- What becomes of a slot whose call returned 0: it waits, or it is given up. -/
def ConnectionOf.onNothing (conn : ConnectionOf κ) (errno : Int) : ConnectionOf κ :=
  if tryAgain errno then conn else conn.toError

/-- A slot that is given up is not as it was. -/
theorem ConnectionOf.toError_ne (conn : ConnectionOf κ) : conn.toError ≠ conn := by
  intro same
  have failed : conn.failed + 1 = conn.failed := congrArg ConnectionOf.failed same
  omega

/-- `EAGAIN` and 0 tell the two apart. -/
theorem ConnectionOf.onNothing_differs (conn : ConnectionOf κ) : conn.onNothing eagain ≠ conn.onNothing 0 := by
  rw [ConnectionOf.onNothing, ConnectionOf.onNothing, if_pos (by decide), if_neg (by decide)]
  exact conn.toError_ne.symm

/-- A step that either looks at the errno it found or does not read it at all. -/
theorem ConnectionOf.independent_iff {after : Int → ConnectionOf κ} {conn : ConnectionOf κ} {stale : Prop}
    (reads : stale → ∀ errno, after errno = conn.onNothing errno)
    (ignores : ¬ stale → ∀ errno errno', after errno = after errno') :
    (∀ errno errno', after errno = after errno') ↔ ¬ stale := by
  refine ⟨fun same found => ?_, ignores⟩
  apply conn.onNothing_differs
  rw [← reads found, ← reads found]
  exact same _ _

end TwoRuns

/-! ## The calls that build the tunnel -/

/-- `send_proxy_connect` of `bench_poll.c` and `bench_epoll.c` gets as far as `send`, and `send` takes nothing. -/
def Unsent (legalPorts : Prop) (args : Arguments) (conn : Connection) (io : Io) : Prop :=
  ¬ (args.proxyHost.bytes.length = 0 ∨ args.targetHost.bytes.length = 0) ∧ legalPorts ∧ 0 < conn.sockfd ∧
    sizeSub (connectRequest args.targetHost.bytes args.targetPort).length conn.bytesSent ≠ 0 ∧
      io.send.ret (sizeSub (connectRequest args.targetHost.bytes args.targetPort).length conn.bytesSent) = 0

/-- `handle_proxy_response` gets as far as `recv`, and the proxy has closed. -/
def ReplyEnds (noSocket : Int → Bool) (conn : Connection) (io : Io) : Prop :=
  noSocket conn.sockfd = false ∧ sizeSub (sizeSub recvBufferSize conn.bytesReceived) 1 ≠ 0 ∧
    io.recv.ret (sizeSub (sizeSub recvBufferSize conn.bytesReceived) 1) = 0

section Reply
variable {noSocket : Int → Bool} {conn : Connection} {io : Io}

/-- Where the proxy has closed, the stale `errno` decides between waiting and giving up. -/
theorem handleProxyResponse_of_ends (ends : ReplyEnds noSocket conn io) (sys : Sys) (errno : Int) :
    (handleProxyResponse noSocket sys errno conn io).ret = (if tryAgain errno then 0 else -1) ∧
      (handleProxyResponse noSocket sys errno conn io).conn = conn := by
  obtain ⟨socket, room, nothing⟩ := ends
  simp only [handleProxyResponse, socket, room, nothing, errnoAfter_zero]
  cases tryAgain errno with
  | true => simp
  | false => simp

/-- Everywhere else it has no part in the result. -/
theorem handleProxyResponse_ignores (goes : ¬ ReplyEnds noSocket conn io) (sys : Sys) (errno errno' : Int) :
    handleProxyResponse noSocket sys errno conn io = handleProxyResponse noSocket sys errno' conn io := by
  by_cases missing : noSocket conn.sockfd = true
  · simp only [handleProxyResponse, missing, if_true]
  · by_cases full : sizeSub (sizeSub recvBufferSize conn.bytesReceived) 1 = 0
    · simp only [handleProxyResponse, missing, full, if_true]
    · by_cases some : io.recv.ret (sizeSub (sizeSub recvBufferSize conn.bytesReceived) 1) > 0
      · simp only [handleProxyResponse, some, if_true]
      · have failed := Given.failed_of_nonpos (by omega) fun zero => goes ⟨by simpa using missing, full, zero⟩
        simp only [handleProxyResponse, failed, errnoAfter_failed]

end Reply

end WebBench

/-! ## `bench_poll.c` -/

namespace WebBench.Poll
open CLib
variable {args : Arguments} {conn : Connection} {revents : BitVec 16} {io : Io}

/-- The ports `send_proxy_connect` accepts. -/
def LegalPorts (args : Arguments) : Prop :=
  ¬ (args.proxyPort ≤ 0 ∨ 65535 < args.proxyPort ∨ args.targetPort ≤ 0 ∨ 65535 < args.targetPort)

/-- The step tests an `errno` that none of its own calls has set. -/
def StaleErrno (args : Arguments) (conn : Connection) (revents : BitVec 16) (io : Io) : Prop :=
  anyBit revents (pollerr ||| pollhup ||| pollnval) = false ∧
    (conn.state = .proxyConnect ∧ anyBit revents pollout = true ∧ Unsent (LegalPorts args) args conn io ∨
      conn.state = .proxyResponse ∧ anyBit revents pollin = true ∧ ReplyEnds (· ≤ 0) conn io)

/-- Where `send` takes nothing, the stale `errno` decides between waiting and giving up. -/
theorem sendProxyConnect_of_unsent (unsent : Unsent (LegalPorts args) args conn io) (sys : Sys) (errno : Int) :
    let sent := sendProxyConnect sys errno conn io args.proxyHost.bytes args.proxyPort args.targetHost.bytes
      args.targetPort
    sent.ret = (if tryAgain errno then 0 else -1) ∧ sent.conn = conn := by
  obtain ⟨hosts, ports, socket, left, nothing⟩ := unsent
  simp only [sendProxyConnect, if_neg hosts, if_neg ports, if_neg (not_le.mpr socket), if_neg left, nothing,
    errnoAfter_zero, le_refl, if_true]
  cases tryAgain errno with
  | true => simp
  | false => simp

/-- Everywhere else it has no part in the result. -/
theorem sendProxyConnect_ignores (goes : ¬ Unsent (LegalPorts args) args conn io) (sys : Sys) (errno errno' : Int) :
    sendProxyConnect sys errno conn io args.proxyHost.bytes args.proxyPort args.targetHost.bytes args.targetPort =
      sendProxyConnect sys errno' conn io args.proxyHost.bytes args.proxyPort args.targetHost.bytes
        args.targetPort := by
  by_cases hosts : args.proxyHost.bytes.length = 0 ∨ args.targetHost.bytes.length = 0
  · simp only [sendProxyConnect, if_pos hosts]
  · by_cases ports : args.proxyPort ≤ 0 ∨ 65535 < args.proxyPort ∨ args.targetPort ≤ 0 ∨ 65535 < args.targetPort
    · simp only [sendProxyConnect, if_pos ports]
    · by_cases socket : conn.sockfd ≤ 0
      · simp only [sendProxyConnect, if_pos socket]
      · by_cases left : sizeSub (connectRequest args.targetHost.bytes args.targetPort).length conn.bytesSent = 0
        · simp only [sendProxyConnect, if_pos left]
        · by_cases none : io.send.ret
              (sizeSub (connectRequest args.targetHost.bytes args.targetPort).length conn.bytesSent) ≤ 0
          · have failed := Taken.failed_of_nonpos none fun zero =>
              goes ⟨hosts, ports, not_le.mp socket, left, zero⟩
            simp only [sendProxyConnect, failed, errnoAfter_failed]
          · simp only [sendProxyConnect, if_neg none]

/-- On a stale `errno`, the handler waits or gives up as that `errno` has it. -/
theorem handleReadyConnection_of_stale (stale : StaleErrno args conn revents io) (sys : Sys) (errno : Int) :
    (handleReadyConnection args sys errno conn revents io).conn = conn.onNothing errno := by
  obtain ⟨fine, ⟨state, ready, unsent⟩ | ⟨state, ready, ends⟩⟩ := stale
  · obtain ⟨ret, same⟩ := sendProxyConnect_of_unsent unsent sys errno
    simp only [handleReadyConnection, fine, state, whenProxyConnect, ready, ret, same, ConnectionOf.onNothing]
    cases tryAgain errno with
    | true => rfl
    | false => rfl
  · obtain ⟨ret, same⟩ := handleProxyResponse_of_ends ends sys errno
    simp only [handleReadyConnection, fine, state, whenProxyResponse, ready, handleProxyResponse, ret, same,
      ConnectionOf.onNothing]
    cases tryAgain errno with
    | true => rfl
    | false => rfl

/-- Without one, the handler does the same for every `errno`. -/
theorem handleReadyConnection_ignores (fresh : ¬ StaleErrno args conn revents io) (sys : Sys) (errno errno' : Int) :
    handleReadyConnection args sys errno conn revents io = handleReadyConnection args sys errno' conn revents io := by
  unfold handleReadyConnection
  by_cases trouble : anyBit revents (pollerr ||| pollhup ||| pollnval) = true
  · rw [if_pos trouble, if_pos trouble]
  rw [if_neg trouble, if_neg trouble]
  have fine : anyBit revents (pollerr ||| pollhup ||| pollnval) = false := by simpa using trouble
  cases state : conn.state with
  | proxyConnect =>
    simp only [whenProxyConnect]
    by_cases ready : anyBit revents pollout = true
    · rw [sendProxyConnect_ignores (fun unsent => fresh ⟨fine, .inl ⟨state, ready, unsent⟩⟩) sys errno errno']
    · rw [if_neg ready, if_neg ready]
  | proxyResponse =>
    simp only [whenProxyResponse]
    by_cases ready : anyBit revents pollin = true
    · have same : handleProxyResponse sys errno conn io = handleProxyResponse sys errno' conn io :=
        handleProxyResponse_ignores (fun ends => fresh ⟨fine, .inr ⟨state, ready, ends⟩⟩) sys errno errno'
      rw [same]
    · rw [if_neg ready, if_neg ready]
  | idle | connecting | tlsHandshake | sending | receiving | completed | error => rfl

end WebBench.Poll

/-! ## `bench_epoll.c` -/

namespace WebBench.Epoll
open CLib
variable {args : Arguments} {sys : Sys} {conn : Connection} {ev : BitVec 32} {io : Io}

/-- The ports `send_proxy_connect` accepts. -/
def LegalPorts (args : Arguments) : Prop :=
  ¬ (!isValidPort args.proxyPort || !isValidPort args.targetPort) = true

/-- The step tests an `errno` that none of its own calls has set. -/
def StaleErrno (args : Arguments) (sys : Sys) (conn : Connection) (ev : BitVec 32) (io : Io) : Prop :=
  (sys.epollDel conn.sockfd).1 ≠ -1 ∧ anyBit ev (epollerr ||| epollhup) = false ∧
    (conn.state = .proxyConnect ∧ anyBit ev epollout = true ∧ Unsent (LegalPorts args) args conn io ∨
      conn.state = .proxyResponse ∧ anyBit ev epollin = true ∧ ReplyEnds (· < 0) conn io)

/-- A positive count stays positive in the `size_t`. -/
theorem sizeOfInt_sent_ne_zero {size sent : Nat} {taken : Taken} (some : 0 < taken.ret (sizeSub size sent)) :
    sizeOfInt (taken.ret (sizeSub size sent)) ≠ 0 := by
  have atMost := taken.ret_toNat_le (sizeSub size sent)
  have fits : sizeSub size sent < 2 ^ 64 := Nat.mod_lt _ (by decide)
  rw [sizeOfInt_of_nonneg (by omega) (by omega)]
  omega

/-- Where `send` of `bench_epoll` takes nothing, the stale `errno` decides too. -/
theorem sendProxyConnect_of_unsent (unsent : Unsent (LegalPorts args) args conn io) (sys : Sys) (errno : Int) :
    let sent := sendProxyConnect sys errno conn io args.proxyHost.bytes args.proxyPort args.targetHost.bytes
      args.targetPort
    sent.ret = (if tryAgain errno then 0 else -1) ∧ sent.conn = conn := by
  obtain ⟨hosts, ports, socket, left, nothing⟩ := unsent
  have none : sizeOfInt 0 = 0 := by decide
  simp only [sendProxyConnect, if_neg hosts, if_neg ports, if_neg (not_le.mpr socket), if_neg left, nothing,
    errnoAfter_zero, none, if_true]
  cases tryAgain errno with
  | true => simp
  | false => simp

theorem sendProxyConnect_ignores (goes : ¬ Unsent (LegalPorts args) args conn io) (sys : Sys) (errno errno' : Int) :
    sendProxyConnect sys errno conn io args.proxyHost.bytes args.proxyPort args.targetHost.bytes args.targetPort =
      sendProxyConnect sys errno' conn io args.proxyHost.bytes args.proxyPort args.targetHost.bytes
        args.targetPort := by
  by_cases hosts : args.proxyHost.bytes.length = 0 ∨ args.targetHost.bytes.length = 0
  · simp only [sendProxyConnect, if_pos hosts]
  · by_cases ports : (!isValidPort args.proxyPort || !isValidPort args.targetPort) = true
    · simp only [sendProxyConnect, if_pos ports]
    · by_cases socket : conn.sockfd ≤ 0
      · simp only [sendProxyConnect, if_pos socket]
      · by_cases left : sizeSub (connectRequest args.targetHost.bytes args.targetPort).length conn.bytesSent = 0
        · simp only [sendProxyConnect, if_pos left]
        · by_cases none : io.send.ret
              (sizeSub (connectRequest args.targetHost.bytes args.targetPort).length conn.bytesSent) ≤ 0
          · have failed := Taken.failed_of_nonpos none fun zero =>
              goes ⟨hosts, ports, not_le.mp socket, left, zero⟩
            simp only [sendProxyConnect, failed, errnoAfter_failed]
          · have some := sizeOfInt_sent_ne_zero (not_le.mp none)
            simp only [sendProxyConnect, if_neg some]

/-- On a stale `errno`, the handler of `bench_epoll` waits or gives up as that `errno` has it. -/
theorem handleReadyConnection_of_stale (stale : StaleErrno args sys conn ev io) (errno : Int) :
    (handleReadyConnection args sys errno conn ev io).conn = conn.onNothing errno := by
  obtain ⟨present, fine, ⟨state, ready, unsent⟩ | ⟨state, ready, ends⟩⟩ := stale
  · obtain ⟨ret, same⟩ := sendProxyConnect_of_unsent unsent (sys.epollDel conn.sockfd).2 errno
    simp only [handleReadyConnection, if_neg present, fine, dispatchState, state, whenProxyConnect, ready, ret, same,
      ConnectionOf.onNothing]
    cases tryAgain errno with
    | true => rfl
    | false => rfl
  · obtain ⟨ret, same⟩ := handleProxyResponse_of_ends ends (sys.epollDel conn.sockfd).2 errno
    simp only [handleReadyConnection, if_neg present, fine, dispatchState, state, whenProxyResponse, ready,
      handleProxyResponse, ret, same, ConnectionOf.onNothing]
    cases tryAgain errno with
    | true => rfl
    | false => rfl

/-- Without one, it does the same for every `errno`. -/
theorem handleReadyConnection_ignores (fresh : ¬ StaleErrno args sys conn ev io) (errno errno' : Int) :
    handleReadyConnection args sys errno conn ev io = handleReadyConnection args sys errno' conn ev io := by
  simp only [handleReadyConnection]
  by_cases absent : (sys.epollDel conn.sockfd).1 = -1
  · rw [if_pos absent, if_pos absent]
  rw [if_neg absent, if_neg absent]
  by_cases trouble : anyBit ev (epollerr ||| epollhup) = true
  · rw [if_pos trouble, if_pos trouble]
  rw [if_neg trouble, if_neg trouble]
  have fine : anyBit ev (epollerr ||| epollhup) = false := by simpa using trouble
  unfold dispatchState
  cases state : conn.state with
  | proxyConnect =>
    simp only [whenProxyConnect]
    by_cases ready : anyBit ev epollout = true
    · rw [sendProxyConnect_ignores (fun unsent => fresh ⟨absent, fine, .inl ⟨state, ready, unsent⟩⟩) _ errno errno']
    · rw [if_neg ready, if_neg ready]
  | proxyResponse =>
    simp only [whenProxyResponse]
    by_cases ready : anyBit ev epollin = true
    · have same (sys : Sys) : handleProxyResponse sys errno conn io = handleProxyResponse sys errno' conn io :=
        handleProxyResponse_ignores (fun ends => fresh ⟨absent, fine, .inr ⟨state, ready, ends⟩⟩) sys errno errno'
      rw [same]
    · rw [if_neg ready, if_neg ready]
  | idle | connecting | tlsHandshake | sending | receiving | completed | error => rfl

end WebBench.Epoll

/-! ## `bench_select.c` -/

namespace WebBench.Select
open CLib
variable {args : Arguments} {conn : Connection} {fds : FdSets} {io : Io}

/-- `send_proxy_connect` gets as far as `send`, and `send` takes nothing. -/
def Unsent (args : Arguments) (conn : Connection) (io : Io) : Prop :=
  ¬ (args.proxyHost.bytes.length = 0 ∨ args.targetHost.bytes.length = 0) ∧
    ¬ (args.proxyPort ≤ 0 ∨ 65535 < args.proxyPort ∨ args.targetPort ≤ 0 ∨ 65535 < args.targetPort) ∧
      0 ≤ conn.sockfd ∧ io.send.ret (connectRequest args.targetHost.bytes args.targetPort).length = 0

/-- The step tests an `errno` that none of its own calls has set. -/
def StaleErrno (args : Arguments) (conn : Connection) (fds : FdSets) (io : Io) : Prop :=
  conn.state = .proxyConnect ∧ fdIsSet conn.sockfd fds.write = true ∧ Unsent args conn io ∨
    conn.state = .proxyResponse ∧ fdIsSet conn.sockfd fds.read = true ∧ io.recv.ret (bufferSize - 1) = 0

/-- Where `send` of `bench_select` takes nothing, the stale `errno` decides too. -/
theorem sendProxyConnect_of_unsent (unsent : Unsent args conn io) (sys : Sys) (errno : Int) :
    let sent := sendProxyConnect sys errno conn io args.proxyHost.bytes args.proxyPort args.targetHost.bytes
      args.targetPort
    sent.ret = (if tryAgain errno then 0 else -1) ∧ sent.conn = conn := by
  obtain ⟨hosts, ports, socket, nothing⟩ := unsent
  simp only [sendProxyConnect, if_neg hosts, if_neg ports, if_neg (not_lt.mpr socket), nothing, errnoAfter_zero,
    le_refl, if_true]
  cases tryAgain errno with
  | true => simp
  | false => simp

theorem sendProxyConnect_ignores (goes : ¬ Unsent args conn io) (sys : Sys) (errno errno' : Int) :
    sendProxyConnect sys errno conn io args.proxyHost.bytes args.proxyPort args.targetHost.bytes args.targetPort =
      sendProxyConnect sys errno' conn io args.proxyHost.bytes args.proxyPort args.targetHost.bytes
        args.targetPort := by
  by_cases hosts : args.proxyHost.bytes.length = 0 ∨ args.targetHost.bytes.length = 0
  · simp only [sendProxyConnect, if_pos hosts]
  · by_cases ports : args.proxyPort ≤ 0 ∨ 65535 < args.proxyPort ∨ args.targetPort ≤ 0 ∨ 65535 < args.targetPort
    · simp only [sendProxyConnect, if_pos ports]
    · by_cases socket : conn.sockfd < 0
      · simp only [sendProxyConnect, if_pos socket]
      · by_cases none : io.send.ret (connectRequest args.targetHost.bytes args.targetPort).length ≤ 0
        · have failed := Taken.failed_of_nonpos none fun zero => goes ⟨hosts, ports, not_lt.mp socket, zero⟩
          simp only [sendProxyConnect, failed, errnoAfter_failed]
        · simp only [sendProxyConnect, if_neg none]

/-- And so it does where the proxy of `bench_select` has closed. -/
theorem handleProxyResponse_of_closed (closed : io.recv.ret (bufferSize - 1) = 0) (sys : Sys) (errno : Int)
    (conn : Connection) :
    (handleProxyResponse sys errno conn io).ret = (if tryAgain errno then 0 else -1) ∧
      (handleProxyResponse sys errno conn io).conn = conn := by
  simp only [handleProxyResponse, closed, errnoAfter_zero, le_refl, if_true]
  cases tryAgain errno with
  | true => simp
  | false => simp

theorem handleProxyResponse_ignores (goes : io.recv.ret (bufferSize - 1) ≠ 0) (sys : Sys) (errno errno' : Int) :
    handleProxyResponse sys errno conn io = handleProxyResponse sys errno' conn io := by
  by_cases none : io.recv.ret (bufferSize - 1) ≤ 0
  · have failed := Given.failed_of_nonpos none goes
    simp only [handleProxyResponse, failed, errnoAfter_failed]
  · simp only [handleProxyResponse, if_neg none]

/-- On a stale `errno`, the handler of `bench_select` waits or gives up as that `errno` has it. -/
theorem handleReadyConnection_of_stale (stale : StaleErrno args conn fds io) (sys : Sys) (errno : Int) :
    (handleReadyConnection args sys errno conn fds io).conn = conn.onNothing errno := by
  obtain ⟨state, ready, unsent⟩ | ⟨state, ready, closed⟩ := stale
  · obtain ⟨ret, same⟩ := sendProxyConnect_of_unsent unsent sys errno
    simp only [handleReadyConnection, state, whenProxyConnect, ready, ret, same, ConnectionOf.onNothing]
    cases tryAgain errno with
    | true => rfl
    | false => rfl
  · obtain ⟨ret, same⟩ := handleProxyResponse_of_closed closed sys errno conn
    simp only [handleReadyConnection, state, whenProxyResponse, ready, ret, same, ConnectionOf.onNothing]
    cases tryAgain errno with
    | true => rfl
    | false => rfl

/-- Without one, it does the same for every `errno`. -/
theorem handleReadyConnection_ignores (fresh : ¬ StaleErrno args conn fds io) (sys : Sys) (errno errno' : Int) :
    handleReadyConnection args sys errno conn fds io = handleReadyConnection args sys errno' conn fds io := by
  unfold handleReadyConnection
  cases state : conn.state with
  | proxyConnect =>
    simp only [whenProxyConnect]
    by_cases ready : fdIsSet conn.sockfd fds.write = true
    · rw [sendProxyConnect_ignores (fun unsent => fresh (.inl ⟨state, ready, unsent⟩)) sys errno errno']
    · rw [if_neg ready, if_neg ready]
  | proxyResponse =>
    simp only [whenProxyResponse]
    by_cases ready : fdIsSet conn.sockfd fds.read = true
    · rw [handleProxyResponse_ignores (fun closed => fresh (.inr ⟨state, ready, closed⟩)) sys errno errno']
    · rw [if_neg ready, if_neg ready]
  | idle | connecting | tlsHandshake | sending | receiving | completed | error => rfl

end WebBench.Select

/-! ## The three engines -/

namespace WebBench
open CLib

/-- **Independence of `errno`.** The record a step leaves does not depend on the `errno` before it exactly when
no `send` of the CONNECT request and no `recv` of the reply returns 0 in the step. -/
theorem independent_of_errno_iff (args : Arguments) (sys : Sys) (conn : Connection) (slot : Select.Connection)
    (revents : BitVec 16) (ev : BitVec 32) (fds : Select.FdSets) (io : Io) :
    ((∀ errno errno', (Poll.handleReadyConnection args sys errno conn revents io).conn =
        (Poll.handleReadyConnection args sys errno' conn revents io).conn) ↔
      ¬ Poll.StaleErrno args conn revents io) ∧
    ((∀ errno errno', (Epoll.handleReadyConnection args sys errno conn ev io).conn =
        (Epoll.handleReadyConnection args sys errno' conn ev io).conn) ↔
      ¬ Epoll.StaleErrno args sys conn ev io) ∧
    ((∀ errno errno', (Select.handleReadyConnection args sys errno slot fds io).conn =
        (Select.handleReadyConnection args sys errno' slot fds io).conn) ↔
      ¬ Select.StaleErrno args slot fds io) := by
  refine ⟨?_, ?_, ?_⟩
  · apply ConnectionOf.independent_iff
    · intro stale errno
      exact Poll.handleReadyConnection_of_stale stale sys errno
    · intro fresh errno errno'
      rw [Poll.handleReadyConnection_ignores fresh sys errno errno']
  · apply ConnectionOf.independent_iff
    · intro stale errno
      exact Epoll.handleReadyConnection_of_stale stale errno
    · intro fresh errno errno'
      rw [Epoll.handleReadyConnection_ignores fresh errno errno']
  · apply ConnectionOf.independent_iff
    · intro stale errno
      exact Select.handleReadyConnection_of_stale stale sys errno
    · intro fresh errno errno'
      rw [Select.handleReadyConnection_ignores fresh sys errno errno']

/-- The proxy has closed the connection. -/
def closedIo : Io := { Io.retry with recv := .bytes [] }

/-- A slot on descriptor 3 that waits for the proxy's reply. -/
def awaitingReply {κ : Type} (nil : κ) : ConnectionOf κ :=
  { ConnectionOf.zero nil with state := .proxyResponse, sockfd := 3 }

/-- The instance holds descriptor 3. -/
def registeredSys : Sys :=
  { Sys.initial with opened := [3], epoll := fun fd => if fd = 3 then some ⟨epollin, 0, false⟩ else none }

/-- A reply that ends early gives the slot up after a clean start, and is waited for after an `EAGAIN`. -/
theorem closed_reply_reads_errno :
    (Poll.handleReadyConnection proxyArguments .initial eagain (awaitingReply 0) pollin closedIo).conn ≠
      (Poll.handleReadyConnection proxyArguments .initial 0 (awaitingReply 0) pollin closedIo).conn ∧
    (Epoll.handleReadyConnection proxyArguments registeredSys eagain (awaitingReply 0) epollin closedIo).conn ≠
      (Epoll.handleReadyConnection proxyArguments registeredSys 0 (awaitingReply 0) epollin closedIo).conn ∧
    (Select.handleReadyConnection proxyArguments .initial eagain (awaitingReply 0) ⟨[3], []⟩ closedIo).conn ≠
      (Select.handleReadyConnection proxyArguments .initial 0 (awaitingReply 0) ⟨[3], []⟩ closedIo).conn := by
  have poll : Poll.StaleErrno proxyArguments (awaitingReply 0) pollin closedIo :=
    ⟨by decide, .inr ⟨rfl, by decide, by decide, by decide, by decide⟩⟩
  have epoll : Epoll.StaleErrno proxyArguments registeredSys (awaitingReply 0) epollin closedIo :=
    ⟨by decide, by decide, .inr ⟨rfl, by decide, by decide, by decide, by decide⟩⟩
  have select : Select.StaleErrno proxyArguments (awaitingReply 0) ⟨[3], []⟩ closedIo :=
    .inr ⟨rfl, by decide, by decide⟩
  refine ⟨?_, ?_, ?_⟩
  · rw [Poll.handleReadyConnection_of_stale poll, Poll.handleReadyConnection_of_stale poll]
    exact ConnectionOf.onNothing_differs _
  · rw [Epoll.handleReadyConnection_of_stale epoll, Epoll.handleReadyConnection_of_stale epoll]
    exact ConnectionOf.onNothing_differs _
  · rw [Select.handleReadyConnection_of_stale select, Select.handleReadyConnection_of_stale select]
    exact ConnectionOf.onNothing_differs _

end WebBench
