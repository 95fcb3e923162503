import WebBench.Arguments
import WebBench.System

/-!
# Connection slots

The record each engine keeps per connection, and the functions on it that the
engines write alike. `bench_poll.c` and `bench_epoll.c` declare the same record
with `size_t` counts; `bench_select.c` declares it with `int` counts.
-/

namespace WebBench
set_option autoImplicit false
open CLib

/-- `RECV_BUFFER_SIZE`. -/
abbrev recvBufferSize : Nat := 8096

/-- `BUFFER_SIZE`. -/
def bufferSize : Nat := 1024

/-- `connection_state`. -/
inductive ConnState where
  | idle | connecting | proxyConnect | proxyResponse | tlsHandshake | sending | receiving | completed | error
  deriving DecidableEq, Repr

/-- The states in which a slot waits for its descriptor. -/
def ConnState.pollable : ConnState → Bool
  | .connecting | .proxyConnect | .proxyResponse | .tlsHandshake | .sending | .receiving => true
  | .idle | .completed | .error => false

/-- A slot that neither waits nor is idle has finished its cycle. -/
theorem ConnState.finished_of_free {state : ConnState} (free : state.pollable = false) (busy : state ≠ .idle) :
    state = .completed ∨ state = .error := by
  cases state <;> simp_all [ConnState.pollable]

/-- `connection`, with counts of type `κ`. The request pointer is the record it points to. -/
structure ConnectionOf (κ : Type) where
  state : ConnState
  sockfd : Int
  sslContext : Option Ptr
  ssl : Option Ptr
  isHttps : Bool
  request : HTTPRequest
  receivedResponse : CharArray recvBufferSize
  requestLen : κ
  forceFlag : Int
  bytesSent : κ
  bytesReceived : κ
  speed : Int
  failed : Int
  bytes : Int

/-- `connection` of `bench_poll.c` and `bench_epoll.c`. -/
abbrev Connection := ConnectionOf Nat

/-- The all-zero record. -/
def ConnectionOf.zero {κ : Type} (nil : κ) : ConnectionOf κ where
  state := .idle
  sockfd := 0
  sslContext := none
  ssl := none
  isHttps := false
  request := .zero
  receivedResponse := .zeros _
  requestLen := nil
  forceFlag := 0
  bytesSent := nil
  bytesReceived := nil
  speed := 0
  failed := 0
  bytes := 0

/-- `conn->state = CONN_ERROR; conn->failed++;` -/
def ConnectionOf.toError {κ : Type} (conn : ConnectionOf κ) : ConnectionOf κ :=
  { conn with state := .error, failed := conn.failed + 1 }

/-- The state after the whole request has been sent. -/
def ConnectionOf.afterSending {κ : Type} (conn : ConnectionOf κ) : ConnState :=
  if conn.forceFlag ≠ 0 then .completed else .receiving

/-- What a step leaves behind: its return value, the record, the shared state and the calls it made. -/
structure Outcome (κ : Type) where
  ret : Int
  conn : ConnectionOf κ
  sys : Sys
  calls : List Call

/-! ## The CONNECT request -/

/-- The CONNECT request in full. -/
def connectText (targetHost : List Byte) (targetPort : Int) : List Byte :=
  text "CONNECT " ++ targetHost ++ text ":" ++ decimal targetPort ++ text " HTTP/1.1\r\n" ++
    text "Host: " ++ targetHost ++ text ":" ++ decimal targetPort ++ text "\r\n" ++
    text "Connection: close\r\n\r\n"

/-- `connect_request`, as `snprintf` leaves it. -/
def connectRequest (targetHost : List Byte) (targetPort : Int) : List Byte :=
  snprintf bufferSize (connectText targetHost targetPort)

theorem connectText_length_pos (targetHost : List Byte) (targetPort : Int) :
    0 < (connectText targetHost targetPort).length := by
  simp only [connectText, List.length_append]
  have head : (text "CONNECT ").length = 8 := by decide
  omega

/-- A host of an `Arguments` record and a port number never fill the buffer. -/
theorem connectText_length_lt (host : CString hostnameLen) (port : Int) (positive : 0 < port)
    (bound : port ≤ 65535) : (connectText host.bytes port).length < bufferSize := by
  have short : host.bytes.length < 128 := host.fits
  have digits := decimal_length_le positive bound
  have literals : (text "CONNECT ").length = 8 ∧ (text ":").length = 1 ∧ (text " HTTP/1.1\r\n").length = 11 ∧
      (text "Host: ").length = 6 ∧ (text "\r\n").length = 2 ∧
      (text "Connection: close\r\n\r\n").length = 21 := by decide
  obtain ⟨a, b, c, d, e, f⟩ := literals
  simp only [connectText, List.length_append, a, b, c, d, e, f, bufferSize]
  omega

/-- **No truncation.** The buffer holds the CONNECT request in full. -/
theorem connectRequest_eq (host : CString hostnameLen) (port : Int) (positive : 0 < port)
    (bound : port ≤ 65535) : connectRequest host.bytes port = connectText host.bytes port :=
  snprintf_of_lt (connectText_length_lt host port positive bound)

/-- The status line that announces the tunnel. -/
def established : List Byte := text "HTTP/1.1 200 Connection established"

/-- The end of a header block. -/
def headerEnd : List Byte := text "\r\n\r\n"

/-! ## Sockets -/

/-- One address of `getaddrinfo`'s list: the descriptor `socket()` would give, what `connect()` returns and its `errno`. -/
structure Address where
  socket : Int
  connect : Int
  errno : Int
  deriving DecidableEq, Repr

/-- The loop over the address list; `none` is a failing `getaddrinfo`. -/
def connectLoop (noSocket : Int → Bool) : List Address → Sys → Int × Sys × List Call
  | [], sys => (-1, sys, [])
  | address :: next, sys =>
    let (sockfd, sys) := sys.socket address.socket
    if noSocket sockfd then
      let (result, sys, calls) := connectLoop noSocket next sys
      (result, sys, .socket sockfd :: calls)
    else if address.connect = -1 ∧ address.errno ≠ einprogress then
      let (result, sys, calls) := connectLoop noSocket next (sys.close sockfd)
      (result, sys, .socket sockfd :: .connect sockfd address.connect :: calls)
    else
      (sockfd, sys, [.socket sockfd, .connect sockfd address.connect])

/-- `create_nonblocking_socket`, with the engine's tests for an illegal port and for a failed `socket()`. -/
def createNonblockingSocket (illegalPort noSocket : Int → Bool) (host : List Byte) (port : Int)
    (addresses : Option (List Address)) (sys : Sys) : Int × Sys × List Call :=
  if illegalPort port then (-1, sys, [])
  else match addresses with
    | none => (-1, sys, [.getaddrinfo host port])
    | some list =>
      let (sockfd, sys, calls) := connectLoop noSocket list sys
      (sockfd, sys, .getaddrinfo host port :: calls)

/-! ## SSL set-up -/

/-- `get_global_ssl_ctx`. -/
def getGlobalSslCtx (sys : Sys) (io : Io) : Option Ptr × Sys × List Call :=
  match sys.globalSslCtx with
  | none => (io.sslCtxNew, { sys with globalSslCtx := io.sslCtxNew }, [.sslCtxNew io.sslCtxNew])
  | some ctx => (some ctx, sys, [])

/-- `setup_ssl_context`. -/
def setupSslContext (sys : Sys) (io : Io) (conn : Connection) : Outcome Nat :=
  let (ctx, sys, calls) := getGlobalSslCtx sys io
  let conn := { conn with sslContext := ctx }
  match ctx with
  | none => ⟨-1, conn, sys, calls⟩
  | some _ =>
    let (ssl, sys) := sys.sslNew io.sslNew
    let conn := { conn with ssl := ssl }
    let calls := calls ++ [.sslNew ssl]
    match ssl with
    | none => ⟨-1, conn, sys, calls⟩
    | some _ =>
      let calls := calls ++ [.sslSetFd ssl conn.sockfd io.sslSetFd]
      if io.sslSetFd = 0 then ⟨-1, conn, sys, calls⟩ else ⟨1, conn, sys, calls⟩

/-! ## The proxy's reply -/

/-- `handle_proxy_response`, with the engine's test for a missing socket. -/
def handleProxyResponse (noSocket : Int → Bool) (sys : Sys) (errno : Int) (conn : Connection) (io : Io) :
    Outcome Nat :=
  if noSocket conn.sockfd then ⟨-1, conn, sys, []⟩
  else
    let remaining := sizeSub (sizeSub recvBufferSize conn.bytesReceived) 1
    if remaining = 0 then
      let conn := { conn with receivedResponse := conn.receivedResponse.setNul (recvBufferSize - 1) }
      if strstr (cstr conn.receivedResponse.toList) established then
        ⟨1, { conn with receivedResponse := .zeros _, bytesReceived := 0 }, sys, []⟩
      else ⟨-1, conn, sys, []⟩
    else
      let received := io.recv.ret remaining
      let calls := [Call.recv conn.sockfd conn.bytesReceived remaining (io.recv.chunk remaining)]
      if received > 0 then
        let buffer := conn.receivedResponse.store conn.bytesReceived (io.recv.chunk remaining)
        let total := sizeAdd conn.bytesReceived (sizeOfInt received)
        let conn := { conn with receivedResponse := buffer.setNul total, bytesReceived := total }
        if strstr (cstr conn.receivedResponse.toList) established then
          ⟨1, { conn with receivedResponse := .zeros _, bytesReceived := 0 }, sys, calls⟩
        else if recvBufferSize ≤ total then ⟨-1, conn, sys, calls⟩
        else ⟨0, conn, sys, calls⟩
      else if tryAgain (errnoAfter received errno io.errno) then ⟨0, conn, sys, calls⟩
      else ⟨-1, conn, sys, calls⟩

end WebBench
