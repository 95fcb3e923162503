import WebBench.Communicator.Functions

/-!
# The ends of an exchange

Every function of an exchange is a row of calls that any of them can cut short.
What such a function returns, and the calls it has made by then, are listed here
once, with the answers that lead there.
-/

namespace WebBench.Communicator
set_option autoImplicit false
open CLib

/-- The ends of `handle_proxy_connect`: without a descriptor, with one that is closed again, and with one for the tunnel. -/
inductive ProxyRun (proxyHost : List Byte) (proxyPort : Int) (env : Env) : Int → List Act → Prop
  | refused : ProxyRun proxyHost proxyPort env (-1) []
  | unreached {fd : Int} {acts : List Act} (found : socket proxyHost proxyPort env = some (fd, acts)) (none' : fd < 0) :
      ProxyRun proxyHost proxyPort env (-1) acts
  | unsent {fd : Int} {acts : List Act} (found : socket proxyHost proxyPort env = some (fd, acts)) (length : Nat)
      (sent : Int) :
      ProxyRun proxyHost proxyPort env (-1) (acts ++ [.send fd ⟨.connectRequest, 0, length⟩ sent] ++ [.close fd])
  | rejected {fd : Int} {acts : List Act} (found : socket proxyHost proxyPort env = some (fd, acts)) (length : Nat)
      (sent : Int) (room : Nat) (chunk : List Byte) :
      ProxyRun proxyHost proxyPort env (-1)
        (acts ++ [.send fd ⟨.connectRequest, 0, length⟩ sent] ++ [.recv fd 0 room chunk] ++ [.close fd])
  | established {fd : Int} {acts : List Act} (found : socket proxyHost proxyPort env = some (fd, acts)) (length : Nat)
      (sent : Int) (room : Nat) (chunk : List Byte) :
      ProxyRun proxyHost proxyPort env fd
        (acts ++ [.send fd ⟨.connectRequest, 0, length⟩ sent] ++ [.recv fd 0 room chunk])

theorem proxyRun_of_returns {proxyHost targetHost : List Byte} {proxyPort targetPort : Int} {env : Env} {ret : Int}
    {acts : List Act} (returns : handleProxyConnect proxyHost proxyPort targetHost targetPort env = some (ret, acts)) :
    ProxyRun proxyHost proxyPort env ret acts := by
  unfold handleProxyConnect at returns
  split at returns
  · cases returns
    exact .refused
  cases found : socket proxyHost proxyPort env with
  | none =>
    rw [found] at returns
    cases returns
  | some result =>
    obtain ⟨fd, connecting⟩ := result
    rw [found] at returns
    dsimp only at returns
    split at returns
    · rename_i none'
      cases returns
      exact .unreached found none'
    split at returns
    · cases returns
      exact .unsent found _ _
    split at returns
    · cases returns
      exact .rejected found _ _ _ _
    split at returns
    · cases returns
      exact .established found _ _ _ _
    · cases returns
      exact .rejected found _ _ _ _

/-- The ends of `communicate_through_http`. -/
inductive HttpRun (host : List Byte) (port : Int) (request : HTTPRequest) (force : Int) (env : Env) : Int → List Act → Prop
  | illegal (none' : port ≤ 0) : HttpRun host port request force env (-1) []
  | unreached {fd : Int} {acts : List Act} (found : socket host port env = some (fd, acts)) (none' : fd < 0) :
      HttpRun host port request force env (-1) acts
  | unsent {fd : Int} {acts : List Act} (found : socket host port env = some (fd, acts)) (some' : 0 ≤ fd)
      (failed : env.send.ret request.body.bytes.length < 0) :
      HttpRun host port request force env (-1)
        (acts ++ [.send fd ⟨.body, 0, request.body.bytes.length⟩ (env.send.ret request.body.bytes.length)] ++ [.close fd])
  | forced {fd : Int} {acts : List Act} (found : socket host port env = some (fd, acts)) (some' : 0 ≤ fd)
      (sent : 0 ≤ env.send.ret request.body.bytes.length) (force' : force = 1) :
      HttpRun host port request force env 0
        (acts ++ [.send fd ⟨.body, 0, request.body.bytes.length⟩ (env.send.ret request.body.bytes.length)] ++ [.close fd])
  | received {fd : Int} {acts receiving : List Act} {total : Nat} (found : socket host port env = some (fd, acts))
      (some' : 0 ≤ fd) (sent : 0 ≤ env.send.ret request.body.bytes.length) (wait : force ≠ 1)
      (loop : recvLoop fd 0 env.recvs = some (total, receiving)) :
      HttpRun host port request force env total
        (acts ++ [.send fd ⟨.body, 0, request.body.bytes.length⟩ (env.send.ret request.body.bytes.length)] ++ receiving ++
          [.close fd])

theorem httpRun_of_returns {host : List Byte} {port : Int} {request : HTTPRequest} {force : Int} {env : Env} {ret : Int}
    {acts : List Act} (returns : communicateThroughHttp host port request force env = some (ret, acts)) :
    HttpRun host port request force env ret acts := by
  unfold communicateThroughHttp at returns
  split at returns
  · rename_i none'
    cases returns
    exact .illegal none'
  cases found : socket host port env with
  | none =>
    rw [found] at returns
    cases returns
  | some result =>
    obtain ⟨fd, connecting⟩ := result
    rw [found] at returns
    dsimp only at returns
    split at returns
    · rename_i none'
      cases returns
      exact .unreached found none'
    rename_i some'
    split at returns
    · rename_i failed
      cases returns
      exact .unsent found (Int.not_lt.mp some') failed
    rename_i sent
    split at returns
    · rename_i force'
      cases returns
      exact .forced found (Int.not_lt.mp some') (Int.not_lt.mp sent) force'
    · rename_i wait
      obtain ⟨⟨total, receiving⟩, loop, made⟩ := Option.map_eq_some_iff.mp returns
      cases made
      exact .received found (Int.not_lt.mp some') (Int.not_lt.mp sent) wait loop

/-! ## Over TLS -/

/-- How `communicate_through_https` gets its descriptor. -/
def tunnelOrSocket (proxyHost : List Byte) (proxyPort : Int) (targetHost : List Byte) (targetPort : Int) (env : Env) :
    Option (Int × List Act) :=
  if proxyHost.length ≠ 0 then handleProxyConnect proxyHost proxyPort targetHost targetPort env
  else socket targetHost targetPort env

/-- The set-up of a session. -/
def setUpActs (env : Env) (ctx : Ptr) (fd : Int) (host : List Byte) : List Act :=
  [.sslNew ctx env.sslNew, .sslSetFd env.sslNew fd, .sslSetHostName env.sslNew host, .sslConnect env.sslNew env.sslConnect]

/-- The releases at its end. -/
def releaseActs (env : Env) (ctx : Ptr) (fd : Int) : List Act := [.sslFree env.sslNew, .sslCtxFree ctx, .close fd]

/-- The ends of `communicate_through_https`, by how the descriptor is got. -/
inductive HttpsRun (found : Option (Int × List Act)) (host : List Byte) (request : HTTPRequest) (force : Int) (env : Env) :
    Int → List Act → Prop
  | noContext {fd : Int} {acts : List Act} (got : found = some (fd, acts)) (none' : env.sslCtxNew = none) :
      HttpsRun found host request force env (-1) (acts ++ [.sslCtxNew none] ++ [.close fd])
  | unshaken {fd : Int} {acts : List Act} {ctx : Ptr} (got : found = some (fd, acts)) (made : env.sslCtxNew = some ctx) :
      HttpsRun found host request force env (-1)
        (acts ++ [.sslCtxNew (some ctx)] ++ setUpActs env ctx fd host ++ releaseActs env ctx fd)
  | unsent {fd sent : Int} {acts writes : List Act} {ctx : Ptr} (got : found = some (fd, acts))
      (made : env.sslCtxNew = some ctx)
      (sending : sendTlsData env.sslNew (some request.body.bytes) request.body.bytes.length env.writes = some (sent, writes)) :
      HttpsRun found host request force env (-1)
        (acts ++ [.sslCtxNew (some ctx)] ++ setUpActs env ctx fd host ++ writes ++
          .sslShutdown env.sslNew :: releaseActs env ctx fd)
  | forced {fd sent : Int} {acts writes : List Act} {ctx : Ptr} (got : found = some (fd, acts))
      (made : env.sslCtxNew = some ctx)
      (sending : sendTlsData env.sslNew (some request.body.bytes) request.body.bytes.length env.writes = some (sent, writes))
      (all : 0 ≤ sent) (force' : force = 1) :
      HttpsRun found host request force env 0
        (acts ++ [.sslCtxNew (some ctx)] ++ setUpActs env ctx fd host ++ writes ++
          .sslShutdown env.sslNew :: releaseActs env ctx fd)
  | received {fd sent total : Int} {acts writes reads : List Act} {ctx : Ptr} {buffer : CharArray receivedBufSize}
      (got : found = some (fd, acts)) (made : env.sslCtxNew = some ctx)
      (sending : sendTlsData env.sslNew (some request.body.bytes) request.body.bytes.length env.writes = some (sent, writes))
      (all : 0 ≤ sent) (wait : force ≠ 1)
      (receiving : recvTlsData env.sslNew (.zeros receivedBufSize) receivedBufSize env.reads = some (total, buffer, reads)) :
      HttpsRun found host request force env (if total < 0 then -1 else total)
        (acts ++ [.sslCtxNew (some ctx)] ++ setUpActs env ctx fd host ++ writes ++ reads ++
          .sslShutdown env.sslNew :: releaseActs env ctx fd)

theorem httpsRun_of_returns {proxyHost targetHost : List Byte} {proxyPort targetPort : Int} {request : HTTPRequest}
    {force : Int} {env : Env} {ret : Int} {acts : List Act}
    (returns : communicateThroughHttps proxyHost proxyPort targetHost targetPort request force env = some (ret, acts)) :
    HttpsRun (tunnelOrSocket proxyHost proxyPort targetHost targetPort env) targetHost request force env ret acts := by
  unfold communicateThroughHttps at returns
  rw [← tunnelOrSocket] at returns
  cases got : tunnelOrSocket proxyHost proxyPort targetHost targetPort env with
  | none =>
    rw [got] at returns
    cases returns
  | some result =>
    obtain ⟨fd, connecting⟩ := result
    rw [got] at returns
    dsimp only at returns
    cases made : env.sslCtxNew with
    | none =>
      rw [made] at returns
      cases returns
      exact .noContext rfl made
    | some ctx =>
      rw [made] at returns
      dsimp only at returns
      split at returns
      · cases returns
        exact .unshaken rfl made
      cases sending : sendTlsData env.sslNew (some request.body.bytes) request.body.bytes.length env.writes with
      | none =>
        rw [sending] at returns
        cases returns
      | some result =>
        obtain ⟨sent, writes⟩ := result
        rw [sending] at returns
        dsimp only at returns
        split at returns
        · cases returns
          exact .unsent rfl made sending
        rename_i all
        split at returns
        · rename_i force'
          cases returns
          exact .forced rfl made sending (Int.not_lt.mp all) force'
        · rename_i wait
          obtain ⟨⟨total, buffer, reads⟩, receiving, made'⟩ := Option.map_eq_some_iff.mp returns
          cases made'
          exact .received rfl made sending (Int.not_lt.mp all) wait receiving

end WebBench.Communicator
