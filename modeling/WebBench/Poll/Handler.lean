import WebBench.Connection

/-!
# `bench_poll.c`: the functions on one slot

`handle_ready_connection` is written state by state, one function for each case
of its switch.
-/

namespace WebBench.Poll
set_option autoImplicit false
open CLib

/-- `need_connect_proxy`. -/
def needConnectProxy (args : Arguments) : Bool :=
  args.proxyHost.bytes.length ≠ 0 && 0 < args.proxyPort && args.proxyPort ≤ 65535

/-- `create_nonblocking_socket`. -/
def createNonblockingSocket (host : List Byte) (port : Int) (addresses : Option (List Address)) (sys : Sys) :
    Int × Sys × List Call :=
  WebBench.createNonblockingSocket (fun port => port ≤ 0 || 65535 < port) (· ≤ 0) host port addresses sys

/-- `init_connection`. -/
def initConnection (args : Arguments) (request : HTTPRequest) (_raw : Connection) : Connection :=
  { ConnectionOf.zero 0 with
    sockfd := -1
    isHttps := args.protocol == protocolHttps
    forceFlag := args.force
    request := request
    requestLen := request.body.bytes.length }

/-- `allocate_socket`. -/
def allocateSocket (args : Arguments) (sys : Sys) (addresses : Option (List Address)) (conn : Connection) :
    Outcome Nat :=
  let (sockfd, sys, calls) :=
    if needConnectProxy args then createNonblockingSocket args.proxyHost.bytes args.proxyPort addresses sys
    else createNonblockingSocket args.targetHost.bytes args.targetPort addresses sys
  let conn := { conn with sockfd := sockfd }
  if conn.sockfd ≤ 0 then ⟨-1, conn, sys, calls⟩
  else ⟨1, { conn with state := .connecting }, sys, calls⟩

/-- `cleanup_connection`. -/
def cleanupConnection (conn : Connection) (sys : Sys) : Connection × Sys :=
  let sys := match conn.ssl with
    | some ssl => sys.sslFree ssl
    | none => sys
  let sys := if conn.sockfd ≠ 0 then sys.close conn.sockfd else sys
  ({ conn with
      ssl := none
      sockfd := if conn.sockfd ≠ 0 then -1 else conn.sockfd
      sslContext := none
      state := .idle
      bytesSent := 0
      bytesReceived := 0
      receivedResponse := .zeros _ }, sys)

/-- `send_proxy_connect`. -/
def sendProxyConnect (sys : Sys) (errno : Int) (conn : Connection) (io : Io) (proxyHost : List Byte)
    (proxyPort : Int) (targetHost : List Byte) (targetPort : Int) : Outcome Nat :=
  if proxyHost.length = 0 ∨ targetHost.length = 0 then ⟨-1, conn, sys, []⟩
  else if proxyPort ≤ 0 ∨ 65535 < proxyPort ∨ targetPort ≤ 0 ∨ 65535 < targetPort then ⟨-1, conn, sys, []⟩
  else if conn.sockfd ≤ 0 then ⟨-1, conn, sys, []⟩
  else
    let request := connectRequest targetHost targetPort
    let remaining := sizeSub request.length conn.bytesSent
    if remaining = 0 then ⟨1, conn, sys, []⟩
    else
      let bytesSent : Int := io.send.ret remaining
      let calls := [Call.send conn.sockfd ⟨.connectRequest, conn.bytesSent, remaining⟩ bytesSent]
      if bytesSent ≤ 0 then
        if tryAgain (errnoAfter bytesSent errno io.errno) then ⟨0, conn, sys, calls⟩
        else ⟨-1, conn, sys, calls⟩
      else
        let conn := { conn with bytesSent := sizeAdd conn.bytesSent (sizeOfInt bytesSent) }
        if request.length ≤ conn.bytesSent then ⟨1, { conn with bytesSent := 0 }, sys, calls⟩
        else ⟨0, conn, sys, calls⟩

/-- `handle_proxy_response`. -/
def handleProxyResponse (sys : Sys) (errno : Int) (conn : Connection) (io : Io) : Outcome Nat :=
  WebBench.handleProxyResponse (· ≤ 0) sys errno conn io

/-! ## `handle_ready_connection` -/

/-- `case CONN_CONNECTING`. -/
def whenConnecting (args : Arguments) (sys : Sys) (conn : Connection) (revents : BitVec 16) (io : Io) :
    Outcome Nat :=
  if anyBit revents pollout then
    let asked := [Call.getsockopt conn.sockfd]
    if io.getsockopt = 0 ∧ io.soError = 0 then
      if needConnectProxy args && conn.isHttps then
        ⟨0, { conn with state := .proxyConnect }, sys, asked⟩
      else
        let conn := { conn with state := if conn.isHttps then .tlsHandshake else .sending }
        if conn.isHttps then
          let setup := setupSslContext sys io conn
          if setup.ret > 0 then
            ⟨0, setup.conn, setup.sys,
              asked ++ setup.calls ++ [.sslSetHostName setup.conn.ssl args.targetHost.bytes]⟩
          else ⟨-1, setup.conn.toError, setup.sys, asked ++ setup.calls⟩
        else ⟨0, conn, sys, asked⟩
    else ⟨-1, conn.toError, sys, asked⟩
  else ⟨0, conn, sys, []⟩

/-- `case CONN_PROXY_CONNECT`. -/
def whenProxyConnect (args : Arguments) (sys : Sys) (errno : Int) (conn : Connection) (revents : BitVec 16)
    (io : Io) : Outcome Nat :=
  if anyBit revents pollout then
    let sent := sendProxyConnect sys errno conn io args.proxyHost.bytes args.proxyPort args.targetHost.bytes
      args.targetPort
    if sent.ret > 0 then ⟨0, { sent.conn with state := .proxyResponse }, sent.sys, sent.calls⟩
    else if sent.ret = 0 then ⟨0, sent.conn, sent.sys, sent.calls⟩
    else ⟨-1, sent.conn.toError, sent.sys, sent.calls⟩
  else ⟨0, conn, sys, []⟩

/-- `case CONN_PROXY_RESPONSE`. -/
def whenProxyResponse (sys : Sys) (errno : Int) (conn : Connection) (revents : BitVec 16) (io : Io) :
    Outcome Nat :=
  if anyBit revents pollin then
    let recv := handleProxyResponse sys errno conn io
    let calls := recv.calls ++ [.proxyReply recv.ret]
    if recv.ret = 1 then
      -- the result of `setup_ssl_context` is ignored here
      let setup := setupSslContext recv.sys io recv.conn
      ⟨0, { setup.conn with state := .tlsHandshake }, setup.sys, calls ++ setup.calls⟩
    else if recv.ret = 0 then ⟨0, recv.conn, recv.sys, calls⟩
    else ⟨0, recv.conn.toError, recv.sys, calls⟩
  else ⟨0, conn, sys, []⟩

/-- `case CONN_TLS_HANDSHAKE`. -/
def whenTlsHandshake (sys : Sys) (conn : Connection) (revents : BitVec 16) (io : Io) : Outcome Nat :=
  match conn.ssl with
  | some ssl =>
    if anyBit revents (pollin ||| pollout) then
      let calls := [Call.sslConnect ssl io.sslConnect]
      if io.sslConnect = 1 then ⟨0, { conn with state := .sending }, sys, calls⟩
      else if io.sslGetError.wants then ⟨0, conn, sys, calls⟩
      else ⟨-1, conn.toError, sys, calls⟩
    else ⟨0, conn, sys, []⟩
  | none => ⟨0, conn, sys, []⟩

/-- `case CONN_SENDING`. -/
def whenSending (sys : Sys) (conn : Connection) (revents : BitVec 16) (io : Io) : Outcome Nat :=
  if anyBit revents pollout then
    let remaining := intOfSize (sizeSub conn.requestLen conn.bytesSent)
    if remaining ≤ 0 then ⟨0, { conn with state := conn.afterSending }, sys, []⟩
    else
      let slice : Slice := ⟨.body, conn.bytesSent, remaining.toNat⟩
      if conn.isHttps then
        match conn.ssl with
        | some ssl =>
          let written := io.sslWrite.ret remaining.toNat
          let calls := [Call.sslWrite ssl slice written io.sslGetError]
          if written > 0 then
            let conn := { conn with bytesSent := sizeAdd conn.bytesSent (sizeOfInt written) }
            if conn.requestLen ≤ conn.bytesSent then ⟨0, { conn with state := conn.afterSending }, sys, calls⟩
            else ⟨0, conn, sys, calls⟩
          else if io.sslGetError.wants then ⟨0, conn, sys, calls⟩
          else ⟨-1, conn.toError, sys, calls⟩
        | none => ⟨-1, conn.toError, sys, []⟩
      else
        let written := io.send.ret remaining.toNat
        let calls := [Call.send conn.sockfd slice written]
        if written > 0 then
          let conn := { conn with bytesSent := sizeAdd conn.bytesSent (sizeOfInt written) }
          if conn.requestLen ≤ conn.bytesSent then ⟨0, { conn with state := conn.afterSending }, sys, calls⟩
          else ⟨0, conn, sys, calls⟩
        else if written = -1 ∧ tryAgain io.errno then ⟨0, conn, sys, calls⟩
        else ⟨-1, conn.toError, sys, calls⟩
  else ⟨0, conn, sys, []⟩

/-- `case CONN_RECEIVING`. -/
def whenReceiving (sys : Sys) (conn : Connection) (revents : BitVec 16) (io : Io) : Outcome Nat :=
  if anyBit revents pollin then
    let remaining := intOfSize (sizeSub (sizeSub recvBufferSize conn.bytesReceived) 1)
    if remaining ≤ 0 then
      ⟨0, { conn with
        state := .completed, speed := conn.speed + 1, bytes := conn.bytes + conn.bytesReceived }, sys, []⟩
    else
      let room := remaining.toNat
      if conn.isHttps then
        let calls := [Call.sslRead conn.ssl conn.bytesReceived room (io.sslRead.chunk room)]
        let bytesRead := io.sslRead.ret room
        if bytesRead > 0 then
          let buffer := conn.receivedResponse.store conn.bytesReceived (io.sslRead.chunk room)
          let total := sizeAdd conn.bytesReceived (sizeOfInt bytesRead)
          let conn := { conn with receivedResponse := buffer.setNul total, bytesReceived := total }
          if strstr (cstr conn.receivedResponse.toList) headerEnd then
            ⟨0, { conn with
              state := .completed, bytes := conn.bytes + conn.bytesReceived, speed := conn.speed + 1 }, sys, calls⟩
          else ⟨0, conn, sys, calls⟩
        else if io.sslGetError.wants then ⟨0, conn, sys, calls⟩
        else ⟨-1, conn.toError, sys, calls⟩
      else
        let calls := [Call.read conn.sockfd conn.bytesReceived room (io.read.chunk room)]
        let bytesRead := io.read.ret room
        if bytesRead > 0 then
          let buffer := conn.receivedResponse.store conn.bytesReceived (io.read.chunk room)
          let total := sizeAdd conn.bytesReceived (sizeOfInt bytesRead)
          let conn := { conn with receivedResponse := buffer.setNul total, bytesReceived := total }
          if strstr (cstr conn.receivedResponse.toList) headerEnd then
            ⟨0, { conn with
              state := .completed, speed := conn.speed + 1, bytes := conn.bytes + conn.bytesReceived }, sys, calls⟩
          else ⟨0, conn, sys, calls⟩
        else if bytesRead = -1 ∧ tryAgain io.errno then ⟨0, conn, sys, calls⟩
        else ⟨-1, conn.toError, sys, calls⟩
  else ⟨0, conn, sys, []⟩

/-- `handle_ready_connection`. -/
def handleReadyConnection (args : Arguments) (sys : Sys) (errno : Int) (conn : Connection) (revents : BitVec 16)
    (io : Io) : Outcome Nat :=
  if anyBit revents (pollerr ||| pollhup ||| pollnval) then ⟨-1, conn.toError, sys, []⟩
  else match conn.state with
    | .connecting => whenConnecting args sys conn revents io
    | .proxyConnect => whenProxyConnect args sys errno conn revents io
    | .proxyResponse => whenProxyResponse sys errno conn revents io
    | .tlsHandshake => whenTlsHandshake sys conn revents io
    | .sending => whenSending sys conn revents io
    | .receiving => whenReceiving sys conn revents io
    | .idle | .completed | .error => ⟨0, conn, sys, []⟩

end WebBench.Poll
