import WebBench.Connection

/-!
# `bench_select.c`: the functions on one slot

The third copy of the handler. Its counts are `int`s, readiness is looked up in
two descriptor sets, the CONNECT request and the proxy's reply get one call each,
and the SSL set-up is written out in both of the cases that need it.
-/

namespace WebBench.Select
set_option autoImplicit false
open CLib

/-- `connection` of `bench_select.c`. -/
abbrev Connection := ConnectionOf Int

/-- `fd_set`: the descriptors it holds. -/
abbrev FdSet := List Int

/-- `FD_ISSET`. -/
def fdIsSet (fd : Int) (set : FdSet) : Bool := decide (fd ∈ set)

/-- `read_fds` and `write_fds`. -/
structure FdSets where
  read : FdSet
  write : FdSet

/-- `need_connect_proxy`. -/
def needConnectProxy (args : Arguments) : Bool :=
  args.proxyHost.bytes.length ≠ 0 && 0 < args.proxyPort && args.proxyPort < 65535

/-- `create_nonblocking_socket`. -/
def createNonblockingSocket (host : List Byte) (port : Int) (addresses : Option (List Address)) (sys : Sys) :
    Int × Sys × List Call :=
  WebBench.createNonblockingSocket (fun port => port ≤ 0 || 65535 < port) (· == -1) host port addresses sys

/-- `init_connection`. -/
def initConnection (args : Arguments) (request : HTTPRequest) (_raw : Connection) : Connection :=
  { ConnectionOf.zero 0 with
    sockfd := -1
    isHttps := args.protocol == protocolHttps
    forceFlag := args.force
    request := request
    requestLen := request.body.bytes.length }

/-- `allocate_socket`; the return value -1 stands for `exit(EXIT_FAILURE)`. -/
def allocateSocket (args : Arguments) (sys : Sys) (addresses : Option (List Address)) (conn : Connection) :
    Outcome Int :=
  let (sockfd, sys, calls) :=
    if needConnectProxy args then createNonblockingSocket args.proxyHost.bytes args.proxyPort addresses sys
    else createNonblockingSocket args.targetHost.bytes args.targetPort addresses sys
  let conn := { conn with sockfd := sockfd }
  if conn.sockfd < 0 then ⟨-1, conn, sys, calls⟩
  else ⟨0, { conn with state := .connecting }, sys, calls⟩

/-- `cleanup_connection`. -/
def cleanupConnection (conn : Connection) (sys : Sys) : Connection × Sys :=
  let sys := match conn.ssl with
    | some ssl => sys.sslFree ssl
    | none => sys
  let sys := if 0 < conn.sockfd then sys.close conn.sockfd else sys
  ({ conn with
      ssl := none
      sockfd := if 0 < conn.sockfd then -1 else conn.sockfd
      sslContext := none
      state := .idle
      bytesSent := 0
      bytesReceived := 0
      receivedResponse := .zeros _ }, sys)

/-- `send_proxy_connect`. What `send` does not take is not sent again. -/
def sendProxyConnect (sys : Sys) (errno : Int) (conn : Connection) (io : Io) (proxyHost : List Byte)
    (proxyPort : Int) (targetHost : List Byte) (targetPort : Int) : Outcome Int :=
  if proxyHost.length = 0 ∨ targetHost.length = 0 then ⟨-1, conn, sys, []⟩
  else if proxyPort ≤ 0 ∨ 65535 < proxyPort ∨ targetPort ≤ 0 ∨ 65535 < targetPort then ⟨-1, conn, sys, []⟩
  else if conn.sockfd < 0 then ⟨-1, conn, sys, []⟩
  else
    let request := connectRequest targetHost targetPort
    let sentBytes : Int := io.send.ret request.length
    let calls := [Call.send conn.sockfd ⟨.connectRequest, 0, request.length⟩ sentBytes]
    if sentBytes ≤ 0 then
      if tryAgain (errnoAfter sentBytes errno io.errno) then ⟨0, conn, sys, calls⟩
      else ⟨-1, conn, sys, calls⟩
    else ⟨sentBytes, conn, sys, calls⟩

/-- `handle_proxy_response`. The reply goes into a buffer of its own. -/
def handleProxyResponse (sys : Sys) (errno : Int) (conn : Connection) (io : Io) : Outcome Int :=
  let room := bufferSize - 1
  let received := io.recv.ret room
  let calls := [Call.recv conn.sockfd 0 room (io.recv.chunk room)]
  if received ≤ 0 then
    if tryAgain (errnoAfter received errno io.errno) then ⟨0, conn, sys, calls⟩
    else ⟨-1, conn, sys, calls⟩
  else
    let response := ((CharArray.zeros bufferSize).store 0 (io.recv.chunk room)).setNul received.toNat
    if strstr (cstr response.toList) established then ⟨1, conn, sys, calls⟩
    else ⟨-1, conn, sys, calls⟩

/-! ## `handle_ready_connection` -/

/-- `case CONN_CONNECTING`. -/
def whenConnecting (args : Arguments) (sys : Sys) (conn : Connection) (fds : FdSets) (io : Io) : Outcome Int :=
  if fdIsSet conn.sockfd fds.write then
    let asked := [Call.getsockopt conn.sockfd]
    if io.getsockopt = 0 ∧ io.soError = 0 then
      if needConnectProxy args && args.protocol == protocolHttps then
        ⟨0, { conn with state := .proxyConnect }, sys, asked⟩
      else
        let conn := { conn with state := if conn.isHttps then .tlsHandshake else .sending }
        if conn.isHttps then
          let (ctx, sys, calls) := getGlobalSslCtx sys io
          let conn := { conn with sslContext := ctx }
          match ctx with
          | none => ⟨-1, conn.toError, sys, asked ++ calls⟩
          | some _ =>
            let (ssl, sys) := sys.sslNew io.sslNew
            let conn := { conn with ssl := ssl }
            let calls := asked ++ calls ++ [.sslNew ssl]
            match ssl with
            | none => ⟨-1, conn.toError, sys, calls⟩
            | some _ =>
              let calls := calls ++ [.sslSetFd ssl conn.sockfd io.sslSetFd]
              if io.sslSetFd = 0 then ⟨-1, conn.toError, sys, calls⟩
              else ⟨0, conn, sys, calls ++ [.sslSetHostName ssl args.targetHost.bytes]⟩
        else ⟨0, conn, sys, asked⟩
    else ⟨-1, conn.toError, sys, asked⟩
  else ⟨0, conn, sys, []⟩

/-- `case CONN_PROXY_CONNECT`. -/
def whenProxyConnect (args : Arguments) (sys : Sys) (errno : Int) (conn : Connection) (fds : FdSets) (io : Io) :
    Outcome Int :=
  if fdIsSet conn.sockfd fds.write then
    let sent := sendProxyConnect sys errno conn io args.proxyHost.bytes args.proxyPort args.targetHost.bytes
      args.targetPort
    if sent.ret > 0 then ⟨0, { sent.conn with state := .proxyResponse }, sent.sys, sent.calls⟩
    else if sent.ret = 0 then ⟨0, sent.conn, sent.sys, sent.calls⟩
    else ⟨-1, sent.conn.toError, sent.sys, sent.calls⟩
  else ⟨0, conn, sys, []⟩

/-- `case CONN_PROXY_RESPONSE`. -/
def whenProxyResponse (args : Arguments) (sys : Sys) (errno : Int) (conn : Connection) (fds : FdSets) (io : Io) :
    Outcome Int :=
  if fdIsSet conn.sockfd fds.read then
    let result := handleProxyResponse sys errno conn io
    let replied := result.calls ++ [.proxyReply result.ret]
    if result.ret = 1 then
      let conn := { result.conn with state := .tlsHandshake }
      let (ctx, sys, calls) := getGlobalSslCtx result.sys io
      let conn := { conn with sslContext := ctx }
      match ctx with
      | none =>
        -- this error is not counted
        ⟨-1, { conn with state := .error }, sys, replied ++ calls⟩
      | some _ =>
        -- the results of `SSL_new` and `SSL_set_fd` are ignored here
        let (ssl, sys) := sys.sslNew io.sslNew
        ⟨0, { conn with ssl := ssl }, sys,
          replied ++ calls ++ [.sslNew ssl, .sslSetFd ssl conn.sockfd io.sslSetFd,
            .sslSetHostName ssl args.targetHost.bytes]⟩
    else if result.ret = 0 then ⟨0, result.conn, result.sys, replied⟩
    else ⟨-1, result.conn.toError, result.sys, replied⟩
  else ⟨0, conn, sys, []⟩

/-- `case CONN_TLS_HANDSHAKE`. -/
def whenTlsHandshake (sys : Sys) (conn : Connection) (fds : FdSets) (io : Io) : Outcome Int :=
  match conn.ssl with
  | some ssl =>
    if fdIsSet conn.sockfd fds.read || fdIsSet conn.sockfd fds.write then
      let calls := [Call.sslConnect ssl io.sslConnect]
      if io.sslConnect = 1 then ⟨0, { conn with state := .sending }, sys, calls⟩
      else if io.sslGetError.wants then ⟨0, conn, sys, calls⟩
      else ⟨-1, conn.toError, sys, calls⟩
    else ⟨0, conn, sys, []⟩
  | none => ⟨0, conn, sys, []⟩

/-- `case CONN_SENDING`. -/
def whenSending (sys : Sys) (conn : Connection) (fds : FdSets) (io : Io) : Outcome Int :=
  if fdIsSet conn.sockfd fds.write then
    let remaining := conn.requestLen - conn.bytesSent
    if remaining ≤ 0 then ⟨0, { conn with state := conn.afterSending }, sys, []⟩
    else
      let slice : Slice := ⟨.body, conn.bytesSent.toNat, remaining.toNat⟩
      if conn.isHttps then
        match conn.ssl with
        | some ssl =>
          let written := io.sslWrite.ret remaining.toNat
          let calls := [Call.sslWrite ssl slice written io.sslGetError]
          if written > 0 then
            let conn := { conn with bytesSent := conn.bytesSent + written }
            if conn.requestLen ≤ conn.bytesSent then ⟨0, { conn with state := conn.afterSending }, sys, calls⟩
            else ⟨0, conn, sys, calls⟩
          else if io.sslGetError.wants then ⟨0, conn, sys, calls⟩
          else ⟨-1, conn.toError, sys, calls⟩
        | none => ⟨-1, conn.toError, sys, []⟩
      else
        let written := io.send.ret remaining.toNat
        let calls := [Call.send conn.sockfd slice written]
        if written > 0 then
          let conn := { conn with bytesSent := conn.bytesSent + written }
          if conn.requestLen ≤ conn.bytesSent then ⟨0, { conn with state := conn.afterSending }, sys, calls⟩
          else ⟨0, conn, sys, calls⟩
        else if written = -1 ∧ tryAgain io.errno then ⟨0, conn, sys, calls⟩
        else ⟨-1, conn.toError, sys, calls⟩
  else ⟨0, conn, sys, []⟩

/-- `case CONN_RECEIVING`. -/
def whenReceiving (sys : Sys) (conn : Connection) (fds : FdSets) (io : Io) : Outcome Int :=
  if fdIsSet conn.sockfd fds.read then
    let remaining := intOfSize (sizeSub (sizeSub recvBufferSize (sizeOfInt conn.bytesReceived)) 1)
    if remaining ≤ 0 then
      -- the response counts, its bytes do not
      ⟨0, { conn with state := .completed, speed := conn.speed + 1 }, sys, []⟩
    else
      let room := remaining.toNat
      if conn.isHttps then
        match conn.ssl with
        | some ssl =>
          let calls := [Call.sslRead (some ssl) conn.bytesReceived.toNat room (io.sslRead.chunk room)]
          let bytesRead := io.sslRead.ret room
          if bytesRead > 0 then
            let buffer := conn.receivedResponse.store conn.bytesReceived.toNat (io.sslRead.chunk room)
            let total := conn.bytesReceived + bytesRead
            let conn := { conn with receivedResponse := buffer.setNul total.toNat, bytesReceived := total }
            if strstr (cstr conn.receivedResponse.toList) headerEnd then
              ⟨0, { conn with
                state := .completed, bytes := conn.bytes + conn.bytesReceived, speed := conn.speed + 1 }, sys, calls⟩
            else ⟨0, conn, sys, calls⟩
          else if io.sslGetError.wants then ⟨0, conn, sys, calls⟩
          else ⟨-1, conn.toError, sys, calls⟩
        | none => ⟨-1, conn.toError, sys, []⟩
      else
        let calls := [Call.read conn.sockfd conn.bytesReceived.toNat room (io.read.chunk room)]
        let bytesRead := io.read.ret room
        if bytesRead > 0 then
          let buffer := conn.receivedResponse.store conn.bytesReceived.toNat (io.read.chunk room)
          let total := conn.bytesReceived + bytesRead
          let conn := { conn with receivedResponse := buffer.setNul total.toNat, bytesReceived := total }
          if strstr (cstr conn.receivedResponse.toList) headerEnd then
            ⟨0, { conn with
              state := .completed, bytes := conn.bytes + conn.bytesReceived, speed := conn.speed + 1 }, sys, calls⟩
          else ⟨0, conn, sys, calls⟩
        else if bytesRead = -1 ∧ tryAgain io.errno then ⟨0, conn, sys, calls⟩
        else ⟨-1, conn.toError, sys, calls⟩
  else ⟨0, conn, sys, []⟩

/-- `handle_ready_connection`. -/
def handleReadyConnection (args : Arguments) (sys : Sys) (errno : Int) (conn : Connection) (fds : FdSets)
    (io : Io) : Outcome Int :=
  match conn.state with
  | .idle | .completed | .error => ⟨0, conn, sys, []⟩
  | .connecting => whenConnecting args sys conn fds io
  | .proxyConnect => whenProxyConnect args sys errno conn fds io
  | .proxyResponse => whenProxyResponse args sys errno conn fds io
  | .tlsHandshake => whenTlsHandshake sys conn fds io
  | .sending => whenSending sys conn fds io
  | .receiving => whenReceiving sys conn fds io

end WebBench.Select
