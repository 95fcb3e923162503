import WebBench.Connection

/-!
# `communicator.c`

One exchange with the server at a time, over blocking calls. The answers of the
kernel and of OpenSSL are inputs: a loop reads one answer for each call it
makes, and has not returned (`none`) when they run out. Each function gives its
return value and the calls it has made.
-/

namespace WebBench.Communicator
set_option autoImplicit false
open CLib

/-- `sizeof(received_buf)` and `sizeof(received_buffer)`. -/
def receivedBufSize : Nat := 8192

/-- One entry of `getaddrinfo`'s list. -/
structure AddrInfo where
  family : Int
  socktype : Int
  protocol : Int
  addr : List Byte
  deriving DecidableEq, Repr

/-- The calls of `communicator.c`. The bytes sent are named by a slice of their buffer. -/
inductive Act where
  | getaddrinfo (host : List Byte) (port : Int)
  | socket (address : AddrInfo) (fd : Int)
  | connect (fd : Int) (address : AddrInfo) (ret : Int)
  | close (fd : Int)
  | send (fd : Int) (slice : Slice) (ret : Int)
  | recv (fd : Int) (offset room : Nat) (chunk : List Byte)
  | sslCtxNew (ctx : Option Ptr)
  | sslCtxFree (ctx : Ptr)
  | sslNew (ctx : Ptr) (ssl : Option Ptr)
  | sslSetFd (ssl : Option Ptr) (fd : Int)
  | sslSetHostName (ssl : Option Ptr) (host : List Byte)
  | sslConnect (ssl : Option Ptr) (ret : Int)
  | sslWrite (ssl : Option Ptr) (slice : Slice) (ret : Int) (error : SslError)
  | sslRead (ssl : Option Ptr) (offset room : Nat) (chunk : List Byte)
  | sslShutdown (ssl : Option Ptr)
  | sslFree (ssl : Option Ptr)
  deriving DecidableEq, Repr

/-! ## TLS -/

/-- What an `SSL_write` does, and the code `SSL_get_error` has for it. -/
structure WriteAnswer where
  taken : Taken
  error : SslError
  deriving DecidableEq, Repr

/-- What an `SSL_read` does, and the code `SSL_get_error` has for it. -/
structure ReadAnswer where
  given : Given
  error : SslError
  deriving DecidableEq, Repr

/-- The loop of `send_tls_data`. -/
def sendTlsLoop (ssl : Option Ptr) (len : Int) : Int → List WriteAnswer → Option (Int × List Act)
  | totalSent, [] => if totalSent < len then none else some (totalSent, [])
  | totalSent, answer :: answers =>
    if totalSent < len then
      let bytesSent := answer.taken.ret (len - totalSent).toNat
      let act := Act.sslWrite ssl ⟨.body, totalSent.toNat, (len - totalSent).toNat⟩ bytesSent answer.error
      if bytesSent ≤ 0 then
        -- every case of the switch continues or returns, so what comes after it is not reached
        match answer.error with
        | .wantWrite | .wantRead =>
          (sendTlsLoop ssl len totalSent answers).map fun (ret, acts) => (ret, act :: acts)
        | .syscall | .zeroReturn | .ssl | .none | .wantX509Lookup | .wantConnect | .wantAccept => some (-1, [act])
      else (sendTlsLoop ssl len (totalSent + bytesSent) answers).map fun (ret, acts) => (ret, act :: acts)
    else some (totalSent, [])

/-- `send_tls_data`. -/
def sendTlsData (ssl : Option Ptr) (data : Option (List Byte)) (len : Int) (answers : List WriteAnswer) :
    Option (Int × List Act) :=
  if ssl = none ∨ data = none ∨ len ≤ 0 then some (-1, []) else sendTlsLoop ssl len 0 answers

/-- The loop of `recv_tls_data`. -/
def recvTlsLoop {size : Nat} (ssl : Option Ptr) (bufferSize : Int) :
    Int → CharArray size → List ReadAnswer → Option (Int × CharArray size × List Act)
  | totalReceived, buffer, [] =>
    if totalReceived < bufferSize - 1 then none else some (totalReceived, buffer, [])
  | totalReceived, buffer, answer :: answers =>
    if totalReceived < bufferSize - 1 then
      let room := (bufferSize - totalReceived - 1).toNat
      let bytesReceived := answer.given.ret room
      let act := Act.sslRead ssl totalReceived.toNat room (answer.given.chunk room)
      if bytesReceived ≤ 0 then
        if answer.error = .wantRead then
          (recvTlsLoop ssl bufferSize totalReceived buffer answers).map fun (ret, buffer, acts) => (ret, buffer, act :: acts)
        else some (-1, buffer, [act])
      else
        let buffer := buffer.store totalReceived.toNat (answer.given.chunk room)
        let totalReceived := totalReceived + bytesReceived
        let buffer := buffer.setNul totalReceived.toNat
        if strstr (cstr buffer.toList) headerEnd then some (totalReceived, buffer, [act])
        else
          (recvTlsLoop ssl bufferSize totalReceived buffer answers).map fun (ret, buffer, acts) => (ret, buffer, act :: acts)
    else some (totalReceived, buffer, [])

/-- `recv_tls_data`. -/
def recvTlsData {size : Nat} (ssl : Option Ptr) (buffer : CharArray size) (bufferSize : Int) (answers : List ReadAnswer) :
    Option (Int × CharArray size × List Act) :=
  recvTlsLoop ssl bufferSize 0 buffer answers

/-! ## Sockets -/

/-- What `socket` and `connect` return in one iteration of `Socket`'s loop. -/
structure SocketAnswer where
  socket : Int
  connect : Int
  deriving DecidableEq, Repr

/-- How an iteration ends: with `break`, or with a cursor for the next one. -/
inductive Turn where
  | stop (sockfd : Int)
  | next (rp : List AddrInfo)
  deriving DecidableEq, Repr

/-- One iteration of `Socket`'s loop, at the head of a list. -/
def socketTurn (address : AddrInfo) (rest : List AddrInfo) (answer : SocketAnswer) : Turn × List Act :=
  let sockfd := answer.socket
  if sockfd = -1 then
    -- `continue` without `rp = rp->ai_next`
    (.next (address :: rest), [.socket address sockfd])
  else if answer.connect = -1 then
    (.next rest, [.socket address sockfd, .connect sockfd address answer.connect, .close sockfd])
  else (.stop sockfd, [.socket address sockfd, .connect sockfd address answer.connect])

/-- The loop of `Socket`, and the test of the cursor after it. -/
def socketLoop : List AddrInfo → List SocketAnswer → Option (Int × List Act)
  | [], _ => some (-1, [])
  | _ :: _, [] => none
  | address :: rest, answer :: answers =>
    match socketTurn address rest answer with
    | (.stop sockfd, acts) => some (sockfd, acts)
    | (.next rp, acts) => (socketLoop rp answers).map fun (ret, later) => (ret, acts ++ later)

/-- The answers to the calls of one `communicate`. -/
structure Env where
  addresses : Option (List AddrInfo)
  sockets : List SocketAnswer
  connectSend : Taken
  connectRecv : Given
  send : Taken
  recvs : List Given
  sslCtxNew : Option Ptr
  sslNew : Option Ptr
  sslConnect : Int
  writes : List WriteAnswer
  reads : List ReadAnswer
  deriving DecidableEq, Repr

/-- `Socket`. -/
def socket (host : List Byte) (port : Int) (env : Env) : Option (Int × List Act) :=
  if port ≤ 0 then some (-1, [])
  else match env.addresses with
    | none => some (-1, [.getaddrinfo host port])
    | some list => (socketLoop list env.sockets).map fun (ret, acts) => (ret, .getaddrinfo host port :: acts)

/-- `handle_proxy_connect`. -/
def handleProxyConnect (proxyHost : List Byte) (proxyPort : Int) (targetHost : List Byte) (targetPort : Int) (env : Env) :
    Option (Int × List Act) :=
  if proxyHost.length = 0 ∨ targetHost.length = 0 ∨ proxyPort ≤ 0 ∨ targetPort ≤ 0 then some (-1, [])
  else match socket proxyHost proxyPort env with
    | none => none
    | some (proxySockfd, acts) =>
      if proxySockfd < 0 then some (-1, acts)
      else
        let request := connectRequest targetHost targetPort
        let sent := env.connectSend.ret request.length
        let acts := acts ++ [.send proxySockfd ⟨.connectRequest, 0, request.length⟩ sent]
        if sent < 0 then some (-1, acts ++ [.close proxySockfd])
        else
          let room := bufferSize - 1
          let received := env.connectRecv.ret room
          let acts := acts ++ [.recv proxySockfd 0 room (env.connectRecv.chunk room)]
          if received < 0 then some (-1, acts ++ [.close proxySockfd])
          else
            let response := ((CharArray.zeros bufferSize).store 0 (env.connectRecv.chunk room)).setNul received.toNat
            if strstr (cstr response.toList) established then some (proxySockfd, acts)
            else some (-1, acts ++ [.close proxySockfd])

/-! ## The exchange -/

/-- The loop that receives a response over a plain connection. -/
def recvLoop (sockfd : Int) : Nat → List Given → Option (Nat × List Act)
  | _, [] => none
  | totalReceived, given :: answers =>
    let room := sizeSub (sizeSub receivedBufSize totalReceived) 1
    let received := given.ret room
    let act := Act.recv sockfd totalReceived room (given.chunk room)
    if received > 0 then
      let totalReceived := totalReceived + received.toNat
      if receivedBufSize - 1 ≤ totalReceived then some (totalReceived, [act])
      else (recvLoop sockfd totalReceived answers).map fun (total, acts) => (total, act :: acts)
    else some (totalReceived, [act])

/-- `communicate_through_http`. A `send` that takes part of the request is not followed by another. -/
def communicateThroughHttp (host : List Byte) (port : Int) (request : HTTPRequest) (force : Int) (env : Env) :
    Option (Int × List Act) :=
  if port ≤ 0 then some (-1, [])
  else match socket host port env with
    | none => none
    | some (sockfd, acts) =>
      if sockfd < 0 then some (-1, acts)
      else
        let body := request.body.bytes
        let sent := env.send.ret body.length
        let acts := acts ++ [.send sockfd ⟨.body, 0, body.length⟩ sent]
        if sent < 0 then some (-1, acts ++ [.close sockfd])
        else if force = 1 then some (0, acts ++ [.close sockfd])
        else
          (recvLoop sockfd 0 env.recvs).map fun (totalReceived, received) =>
            (totalReceived, acts ++ received ++ [.close sockfd])

/-- `communicate_through_https`. It goes on without a socket. -/
def communicateThroughHttps (proxyHost : List Byte) (proxyPort : Int) (targetHost : List Byte) (targetPort : Int)
    (request : HTTPRequest) (force : Int) (env : Env) : Option (Int × List Act) :=
  match (if proxyHost.length ≠ 0 then handleProxyConnect proxyHost proxyPort targetHost targetPort env
      else socket targetHost targetPort env) with
  | none => none
  | some (sockfd, acts) =>
    let acts := acts ++ [.sslCtxNew env.sslCtxNew]
    match env.sslCtxNew with
    | none => some (-1, acts ++ [.close sockfd])
    | some ctx =>
      let ssl := env.sslNew
      let acts := acts ++ [.sslNew ctx ssl, .sslSetFd ssl sockfd, .sslSetHostName ssl targetHost,
        .sslConnect ssl env.sslConnect]
      let release := [Act.sslFree ssl, .sslCtxFree ctx, .close sockfd]
      if env.sslConnect ≤ 0 then some (-1, acts ++ release)
      else
        let body := request.body.bytes
        match sendTlsData ssl (some body) body.length env.writes with
        | none => none
        | some (sent, writes) =>
          let acts := acts ++ writes
          let release := .sslShutdown ssl :: release
          if sent < 0 then some (-1, acts ++ release)
          else if force = 1 then some (0, acts ++ release)
          else
            (recvTlsData ssl (.zeros receivedBufSize) receivedBufSize env.reads).map fun (received, _, reads) =>
              (if received < 0 then -1 else received, acts ++ reads ++ release)

/-- `communicate`. -/
def communicate (args : Arguments) (request : HTTPRequest) (env : Env) : Option (Int × List Act) :=
  if args.protocol = protocolHttp then
    if 0 < args.proxyHost.bytes.length ∧ 0 < args.proxyPort then
      communicateThroughHttp args.proxyHost.bytes args.proxyPort request args.force env
    else communicateThroughHttp args.targetHost.bytes args.targetPort request args.force env
  else if args.protocol = protocolHttps then
    communicateThroughHttps args.proxyHost.bytes args.proxyPort args.targetHost.bytes args.targetPort request args.force env
  else some (0, [])

end WebBench.Communicator
