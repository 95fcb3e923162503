import WebBench.Connection

/-!
# `bench_epoll.c`: the functions on one slot

The counterpart of `WebBench.Poll.Handler`. The two differ in what
`init_connection` clears, in the port test (`IS_VALID_PORT` excludes port 1), in
the type that holds the result of `send` while the CONNECT request goes out, and
in the removal from the epoll instance that starts `handle_ready_connection`.
-/

namespace WebBench.Epoll
set_option autoImplicit false
open CLib

/-- `IS_VALID_PORT`. -/
def isValidPort (port : Int) : Bool := 1 < port && port ≤ 65535

/-- `need_connect_proxy`. -/
def needConnectProxy (args : Arguments) : Bool :=
  args.proxyHost.bytes.length ≠ 0 && (0 < args.proxyPort && isValidPort args.proxyPort)

/-- `create_nonblocking_socket`. -/
def createNonblockingSocket (host : List Byte) (port : Int) (addresses : Option (List Address)) (sys : Sys) :
    Int × Sys × List Call :=
  WebBench.createNonblockingSocket (fun port => !isValidPort port) (· ≤ 0) host port addresses sys

/-- `init_connection`. -/
def initConnection (args : Arguments) (request : HTTPRequest) (raw : Connection) : Connection :=
  { raw with
    sockfd := -1
    ssl := none
    isHttps := args.protocol == protocolHttps
    state := .idle
    forceFlag := args.force
    speed := 0
    failed := 0
    bytes := 0
    request := request
    requestLen := request.body.bytes.length
    bytesSent := 0
    bytesReceived := 0 }

/-- `allocate_socket`. -/
def allocateSocket (args : Arguments) (sys : Sys) (addresses : Option (List Address)) (conn : Connection) :
    Outcome Nat :=
  let (sockfd, sys, calls) :=
    if needConnectProxy args then createNonblockingSocket args.proxyHost.bytes args.proxyPort addresses sys
    else createNonblockingSocket args.targetHost.bytes args.targetPort addresses sys
  let conn := { conn with sockfd := sockfd }
  if conn.sockfd ≤ 0 then ⟨-1, conn, sys, calls⟩
  else ⟨1, { conn with state := .connecting }, sys, calls⟩

/-- `cleanup_connection`. -/
def cleanupConnection (conn : Connection) (sys : Sys) : Connection × Sys :=
  let sys := match conn.ssl with
    | some ssl => sys.sslFree ssl
    | none => sys
  let sys := if 0 < conn.sockfd then sys.close conn.sockfd else sys
  ({ conn with
      ssl := none
      sockfd := if 0 < conn.sockfd then -1 else conn.sockfd
      sslContext := none
      state := .idle
      bytesSent := 0
      bytesReceived := 0
      receivedResponse := .zeros _ }, sys)

/-- `send_proxy_connect`. The result of `send` is held in a `size_t`. -/
def sendProxyConnect (sys : Sys) (errno : Int) (conn : Connection) (io : Io) (proxyHost : List Byte)
    (proxyPort : Int) (targetHost : List Byte) (targetPort : Int) : Outcome Nat :=
  if proxyHost.length = 0 ∨ targetHost.length = 0 then ⟨-1, conn, sys, []⟩
  else if !isValidPort proxyPort || !isValidPort targetPort then ⟨-1, conn, sys, []⟩
  else if conn.sockfd ≤ 0 then ⟨-1, conn, sys, []⟩
  else
    let request := connectRequest targetHost targetPort
    let remaining := sizeSub request.length conn.bytesSent
    if remaining = 0 then ⟨1, conn, sys, []⟩
    else
      let sent := io.send.ret remaining
      let bytesSent : Nat := sizeOfInt sent
      let calls := [Call.send conn.sockfd ⟨.connectRequest, conn.bytesSent, remaining⟩ sent]
      if bytesSent = 0 then
        if tryAgain (errnoAfter sent errno io.errno) then ⟨0, conn, sys, calls⟩
        else ⟨-1, conn, sys, calls⟩
      else
        let conn := { conn with bytesSent := sizeAdd conn.bytesSent bytesSent }
        if request.length ≤ conn.bytesSent then ⟨1, { conn with bytesSent := 0 }, sys, calls⟩
        else ⟨0, conn, sys, calls⟩

/-- `handle_proxy_response`. -/
def handleProxyResponse (sys : Sys) (errno : Int) (conn : Connection) (io : Io) : Outcome Nat :=
  WebBench.handleProxyResponse (· < 0) sys errno conn io

/-! ## `handle_ready_connection` -/

/-- `case CONN_CONNECTING`. -/
def whenConnecting (args : Arguments) (sys : Sys) (conn : Connection) (ev : BitVec 32) (io : Io) :
    Outcome Nat :=
  if anyBit ev epollout then
    let asked := [Call.getsockopt conn.sockfd]
    if io.getsockopt = 0 ∧ io.soError = 0 then
      if needConnectProxy args && conn.isHttps then
        ⟨0, { conn with state := .proxyConnect }, sys, asked⟩
      else
        let conn := { conn with state := if conn.isHttps then .tlsHandshake else .sending }
        if conn.isHttps then
          let setup := setupSslContext sys io conn
          if setup.ret > 0 then
            ⟨0, setup.conn, setup.sys,
              asked ++ setup.calls ++ [.sslSetHostName setup.conn.ssl args.targetHost.bytes]⟩
          else ⟨-1, setup.conn.toError, setup.sys, asked ++ setup.calls⟩
        else ⟨0, conn, sys, asked⟩
    else ⟨-1, conn.toError, sys, asked⟩
  else ⟨0, conn, sys, []⟩

/-- `case CONN_PROXY_CONNECT`. -/
def whenProxyConnect (args : Arguments) (sys : Sys) (errno : Int) (conn : Connection) (ev : BitVec 32)
    (io : Io) : Outcome Nat :=
  if anyBit ev epollout then
    let sent := sendProxyConnect sys errno conn io args.proxyHost.bytes args.proxyPort args.targetHost.bytes
      args.targetPort
    if sent.ret > 0 then ⟨0, { sent.conn with state := .proxyResponse }, sent.sys, sent.calls⟩
    else if sent.ret = 0 then ⟨0, sent.conn, sent.sys, sent.calls⟩
    else ⟨-1, sent.conn.toError, sent.sys, sent.calls⟩
  else ⟨0, conn, sys, []⟩

/-- `case CONN_PROXY_RESPONSE`. -/
def whenProxyResponse (sys : Sys) (errno : Int) (conn : Connection) (ev : BitVec 32) (io : Io) :
    Outcome Nat :=
  if anyBit ev epollin then
    let recv := handleProxyResponse sys errno conn io
    let calls := recv.calls ++ [.proxyReply recv.ret]
    if recv.ret = 1 then
      -- the result of `setup_ssl_context` is ignored here
      let setup := setupSslContext recv.sys io recv.conn
      ⟨0, { setup.conn with state := .tlsHandshake }, setup.sys, calls ++ setup.calls⟩
    else if recv.ret = 0 then ⟨0, recv.conn, recv.sys, calls⟩
    else ⟨0, recv.conn.toError, recv.sys, calls⟩
  else ⟨0, conn, sys, []⟩

/-- `case CONN_TLS_HANDSHAKE`. -/
def whenTlsHandshake (sys : Sys) (conn : Connection) (ev : BitVec 32) (io : Io) : Outcome Nat :=
  match conn.ssl with
  | some ssl =>
    if anyBit ev (epollin ||| epollout) then
      let calls := [Call.sslConnect ssl io.sslConnect]
      if io.sslConnect = 1 then ⟨1, { conn with state := .sending }, sys, calls⟩
      else if io.sslGetError.wants then ⟨0, conn, sys, calls⟩
      else ⟨-1, conn.toError, sys, calls⟩
    else ⟨0, conn, sys, []⟩
  | none => ⟨0, conn, sys, []⟩

/-- `case CONN_SENDING`. -/
def whenSending (sys : Sys) (conn : Connection) (ev : BitVec 32) (io : Io) : Outcome Nat :=
  if anyBit ev epollout then
    let remaining := intOfSize (sizeSub conn.requestLen conn.bytesSent)
    if remaining ≤ 0 then ⟨0, { conn with state := conn.afterSending }, sys, []⟩
    else
      let slice : Slice := ⟨.body, conn.bytesSent, remaining.toNat⟩
      if conn.isHttps then
        match conn.ssl with
        | some ssl =>
          let written := io.sslWrite.ret remaining.toNat
          let calls := [Call.sslWrite ssl slice written io.sslGetError]
          if written > 0 then
            let conn := { conn with bytesSent := sizeAdd conn.bytesSent (sizeOfInt written) }
            if conn.requestLen ≤ conn.bytesSent then ⟨0, { conn with state := conn.afterSending }, sys, calls⟩
            else ⟨0, conn, sys, calls⟩
          else if io.sslGetError.wants then ⟨0, conn, sys, calls⟩
          else ⟨-1, conn.toError, sys, calls⟩
        | none => ⟨-1, conn.toError, sys, []⟩
      else
        let written := io.send.ret remaining.toNat
        let calls := [Call.send conn.sockfd slice written]
        if written > 0 then
          let conn := { conn with bytesSent := sizeAdd conn.bytesSent (sizeOfInt written) }
          if conn.requestLen ≤ conn.bytesSent then ⟨0, { conn with state := conn.afterSending }, sys, calls⟩
          else ⟨0, conn, sys, calls⟩
        else if written = -1 ∧ tryAgain io.errno then ⟨0, conn, sys, calls⟩
        else ⟨-1, conn.toError, sys, calls⟩
  else ⟨0, conn, sys, []⟩

/-- `case CONN_RECEIVING`. -/
def whenReceiving (sys : Sys) (conn : Connection) (ev : BitVec 32) (io : Io) : Outcome Nat :=
  if anyBit ev epollin then
    let remaining := intOfSize (sizeSub (sizeSub recvBufferSize conn.bytesReceived) 1)
    if remaining ≤ 0 then
      ⟨0, { conn with
        state := .completed, speed := conn.speed + 1, bytes := conn.bytes + conn.bytesReceived }, sys, []⟩
    else
      let room := remaining.toNat
      if conn.isHttps then
        let calls := [Call.sslRead conn.ssl conn.bytesReceived room (io.sslRead.chunk room)]
        let bytesRead := io.sslRead.ret room
        if bytesRead > 0 then
          let buffer := conn.receivedResponse.store conn.bytesReceived (io.sslRead.chunk room)
          let total := sizeAdd conn.bytesReceived (sizeOfInt bytesRead)
          let conn := { conn with receivedResponse := buffer.setNul total, bytesReceived := total }
          if strstr (cstr conn.receivedResponse.toList) headerEnd then
            ⟨0, { conn with
              state := .completed, bytes := conn.bytes + conn.bytesReceived, speed := conn.speed + 1 }, sys, calls⟩
          else ⟨0, conn, sys, calls⟩
        else if io.sslGetError.wants then ⟨0, conn, sys, calls⟩
        else ⟨-1, conn.toError, sys, calls⟩
      else
        let calls := [Call.read conn.sockfd conn.bytesReceived room (io.read.chunk room)]
        let bytesRead := io.read.ret room
        if bytesRead > 0 then
          let buffer := conn.receivedResponse.store conn.bytesReceived (io.read.chunk room)
          let total := sizeAdd conn.bytesReceived (sizeOfInt bytesRead)
          let conn := { conn with receivedResponse := buffer.setNul total, bytesReceived := total }
          if strstr (cstr conn.receivedResponse.toList) headerEnd then
            ⟨0, { conn with
              state := .completed, bytes := conn.bytes + conn.bytesReceived, speed := conn.speed + 1 }, sys, calls⟩
          else ⟨0, conn, sys, calls⟩
        else if bytesRead = -1 ∧ tryAgain io.errno then ⟨0, conn, sys, calls⟩
        else ⟨-1, conn.toError, sys, calls⟩
  else ⟨0, conn, sys, []⟩

/-- The switch of `handle_ready_connection`. -/
def dispatchState (args : Arguments) (sys : Sys) (errno : Int) (conn : Connection) (ev : BitVec 32) (io : Io) :
    Outcome Nat :=
  match conn.state with
  | .connecting => whenConnecting args sys conn ev io
  | .proxyConnect => whenProxyConnect args sys errno conn ev io
  | .proxyResponse => whenProxyResponse sys errno conn ev io
  | .tlsHandshake => whenTlsHandshake sys conn ev io
  | .sending => whenSending sys conn ev io
  | .receiving => whenReceiving sys conn ev io
  | .idle | .completed | .error => ⟨0, conn, sys, []⟩

/-- `handle_ready_connection`. -/
def handleReadyConnection (args : Arguments) (sys : Sys) (errno : Int) (conn : Connection) (ev : BitVec 32)
    (io : Io) : Outcome Nat :=
  let (deleted, sys) := sys.epollDel conn.sockfd
  if deleted = -1 then ⟨-1, conn, sys, []⟩
  else if anyBit ev (epollerr ||| epollhup) then ⟨-1, conn.toError, sys, []⟩
  else dispatchState args sys errno conn ev io

end WebBench.Epoll
