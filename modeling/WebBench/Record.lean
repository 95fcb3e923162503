import WebBench.Cycle
import WebBench.Slot

/-!
# The record of a cycle

`Represents` ties a connection record with `size_t` counts to the phase of its
cycle: which counts are in use, what the buffer holds, and that neither count
ever leaves its array. `Refines` is what an engine's handler must do to a record
that represents a phase: make calls that are a trace of the cycle.
-/

namespace WebBench
set_option autoImplicit false
open CLib

/-- The cycle a slot runs for its arguments, through the proxy or not. -/
def Job.ofArguments (args : Arguments) (request : HTTPRequest) (through exact : Bool) : Job where
  host := if through then args.proxyHost.bytes else args.targetHost.bytes
  port := if through then args.proxyPort else args.targetPort
  https := args.protocol == protocolHttps
  tunnel := through
  force := decide (args.force ≠ 0)
  exact := exact
  request := connectText args.targetHost.bytes args.targetPort
  body := request.body.bytes
  someRequest := connectText_length_pos _ _
  bodyFits := request.body.fits

/-- The value of `bytes_sent` in a phase. -/
def Job.sent (job : Job) : Phase → Nat
  | .tunnelling k | .sending _ k => k
  | .receiving _ _ | .completed _ => job.body.length
  | _ => 0

/-- Where a step can come to rest: with part of the CONNECT request to send, or of the body. -/
def Job.Rests (job : Job) : Phase → Prop
  | .tunnelling k => k < job.request.length
  | .sending _ k => k ≤ job.body.length
  | _ => True

/-- The record of a slot in a phase of its cycle. -/
structure Represents (job : Job) (conn : Connection) (p : Phase) : Prop where
  https : conn.isHttps = job.https
  force : decide (conn.forceFlag ≠ 0) = job.force
  body : conn.request.body.bytes = job.body
  length : conn.requestLen = job.body.length
  state : conn.state = p.state
  sent : p.state ≠ .error → conn.bytesSent = job.sent p
  rests : job.Rests p
  received : conn.bytesReceived = p.got.length
  room : p.got.length < recvBufferSize
  buffer : conn.receivedResponse.toList = CharArray.padded recvBufferSize p.got
  ssl : p.state ≠ .completed → p.state ≠ .error → conn.ssl = p.ssl

/-- The step makes calls of the cycle and leaves a record of the phase they lead to. -/
def Refines (job : Job) (p : Phase) (o : Outcome Nat) : Prop :=
  ∃ q, job.Trace p o.calls q ∧ Represents job o.conn q

variable {job : Job} {conn : Connection} {p : Phase} {o : Outcome Nat}

/-- A step that leaves the record alone and makes no call. -/
theorem Represents.stay (record : Represents job conn p) (ret : Int) (sys : Sys) :
    Refines job p ⟨ret, conn, sys, []⟩ :=
  ⟨p, .refl p, record⟩

/-- `conn->state = CONN_ERROR; conn->failed++;` ends any phase in which the slot waits. -/
theorem Represents.toError (record : Represents job conn p) : Represents job conn.toError (.failed p.got) where
  https := record.https
  force := record.force
  body := record.body
  length := record.length
  state := rfl
  sent := fun live => absurd rfl live
  rests := trivial
  received := record.received
  room := record.room
  buffer := record.buffer
  ssl := fun _ live => absurd rfl live

/-- The response is complete, whatever the counters become. -/
theorem Represents.complete {ssl : Option Ptr} {got : List Byte} (record : Represents job conn (.receiving ssl got))
    (speed bytes : Int) :
    Represents job { conn with state := .completed, speed := speed, bytes := bytes } (.completed got) where
  https := record.https
  force := record.force
  body := record.body
  length := record.length
  state := rfl
  sent := fun _ => record.sent ConnState.noConfusion
  rests := trivial
  received := record.received
  room := record.room
  buffer := record.buffer
  ssl := fun live => absurd rfl live

/-- A step fails after calls that lead to a phase in which the slot waits. -/
theorem Represents.fail {calls : List Call} {q : Phase} (record : Represents job conn q) (active : q.active)
    (trace : job.Trace p calls q) (ret : Int) (sys : Sys) : Refines job p ⟨ret, conn.toError, sys, calls⟩ :=
  ⟨.failed q.got, trace.silent (.fail active), record.toError⟩

/-- The record enters a phase in which nothing has been received yet. -/
theorem Represents.enter {q : Phase} {state : ConnState} {sent : Nat} {ctx ssl : Option Ptr}
    (record : Represents job conn p) (empty : p.got = []) (clear : q.got = [])
    (names : state = q.state) (counts : q.state ≠ .error → sent = job.sent q) (rests : job.Rests q)
    (object : q.state ≠ .completed → q.state ≠ .error → ssl = q.ssl) :
    Represents job { conn with state := state, bytesSent := sent, sslContext := ctx, ssl := ssl } q where
  https := record.https
  force := record.force
  body := record.body
  length := record.length
  state := names
  sent := counts
  rests := rests
  received := by rw [clear, ← empty]; exact record.received
  room := by rw [clear]; decide
  buffer := by rw [clear, ← empty]; exact record.buffer
  ssl := object

/-- The buffer is cleared when the tunnel is open. -/
theorem Represents.clear {got : List Byte} (record : Represents job conn (.awaitingReply got)) :
    Represents job { conn with receivedResponse := .zeros _, bytesReceived := 0 } (.awaitingReply []) where
  https := record.https
  force := record.force
  body := record.body
  length := record.length
  state := record.state
  sent := record.sent
  rests := trivial
  received := rfl
  room := by decide
  buffer := CharArray.zeros_toList _
  ssl := record.ssl

/-! ## SSL set-up -/

/-- `get_global_ssl_ctx` makes at most one call. -/
theorem getGlobalSslCtx_trace (job : Job) (sys : Sys) (io : Io) (ssl : Option Ptr) :
    job.Trace (.handshaking ssl) (getGlobalSslCtx sys io).2.2 (.handshaking ssl) := by
  unfold getGlobalSslCtx
  cases sys.globalSslCtx with
  | none => exact .single .sslCtxNew
  | some _ => exact .refl _

/-- What `setup_ssl_context` changes, and the calls it makes. -/
theorem setupSslContext_spec (job : Job) (sys : Sys) (io : Io) (conn : Connection) {old : Option Ptr}
    (before : conn.ssl = old) :
    ∃ ctx ssl, (setupSslContext sys io conn).conn = { conn with sslContext := ctx, ssl := ssl } ∧
      job.Trace (.handshaking old) (setupSslContext sys io conn).calls (.handshaking ssl) := by
  subst before
  have context := getGlobalSslCtx_trace job sys io conn.ssl
  unfold setupSslContext
  generalize getGlobalSslCtx sys io = got at context ⊢
  obtain ⟨ctx, sys, calls⟩ := got
  cases ctx with
  | none => exact ⟨none, conn.ssl, rfl, context⟩
  | some ctx =>
    dsimp only
    generalize sys.sslNew io.sslNew = made
    obtain ⟨ssl, sys⟩ := made
    cases ssl with
    | none => exact ⟨some ctx, none, rfl, context.act .sslNew⟩
    | some ssl =>
      have bound : job.Trace _ (calls ++ [.sslNew (some ssl)] ++ [.sslSetFd (some ssl) conn.sockfd io.sslSetFd]) _ :=
        (context.act .sslNew).act .sslSetFd
      dsimp only
      split
      · exact ⟨some ctx, some ssl, rfl, bound⟩
      · exact ⟨some ctx, some ssl, rfl, bound⟩

/-! ## Sending -/

/-- The count of a write that takes something. -/
theorem taken_eq {k len : Nat} {taken : Taken} (some : 0 < taken.ret len) (fits : k + len < 2 ^ 64) :
    sizeAdd k (sizeOfInt (taken.ret len)) = k + (taken.ret len).toNat := by
  have short := taken.ret_toNat_le len
  rw [sizeOfInt_of_nonneg some.le (by omega), sizeAdd_of_lt (by omega)]

/-! ## Receiving -/

/-- The room left in the buffer, computed in `size_t`. -/
theorem room_eq {n : Nat} (room : n < recvBufferSize) :
    sizeSub (sizeSub recvBufferSize n) 1 = recvBufferSize - 1 - n := by
  have size : recvBufferSize = 8096 := rfl
  rw [sizeSub_of_le room.le (by decide), sizeSub_of_le (by omega) (by omega)]
  omega

/-- The counts of a read that delivers something. -/
theorem total_eq {n room : Nat} {given : Given} (some : 0 < given.ret room) (fits : n + room < recvBufferSize) :
    sizeAdd n (sizeOfInt (given.ret room)) = n + (given.chunk room).length := by
  have short := given.chunk_length_le room
  have size : recvBufferSize = 8096 := rfl
  rw [Given.ret_of_pos some, sizeOfInt_natCast (by omega), sizeAdd_of_lt (by omega)]

/-- A read appends its chunk, and the terminator after it is inside the array. -/
theorem store_received {a : CharArray recvBufferSize} {got chunk : List Byte}
    (holds : a.toList = CharArray.padded recvBufferSize got) (fits : got.length + chunk.length < recvBufferSize) :
    ((a.store got.length chunk).setNul (got.length + chunk.length)).toList =
      CharArray.padded recvBufferSize (got ++ chunk) :=
  CharArray.setNul_padded (CharArray.store_padded holds fits.le) List.length_append.symm

/-- The record after a read that delivers something, in either dialogue. -/
theorem Represents.receive {q : Phase} {chunk : List Byte} {buffer : CharArray recvBufferSize} {total : Nat}
    (record : Represents job conn p) (more : q.got = p.got ++ chunk) (state : q.state = p.state)
    (sent : job.sent q = job.sent p) (rests : job.Rests q) (ssl : q.ssl = p.ssl)
    (fits : p.got.length + chunk.length < recvBufferSize)
    (stored : buffer.toList = CharArray.padded recvBufferSize (p.got ++ chunk))
    (counted : total = p.got.length + chunk.length) :
    Represents job { conn with receivedResponse := buffer, bytesReceived := total } q where
  https := record.https
  force := record.force
  body := record.body
  length := record.length
  state := record.state.trans state.symm
  sent := fun live => (record.sent (state ▸ live)).trans sent.symm
  rests := rests
  received := by rw [more, List.length_append]; exact counted
  room := by rw [more, List.length_append]; exact fits
  buffer := by rw [more]; exact stored
  ssl := fun live unfailed => (record.ssl (state ▸ live) (state ▸ unfailed)).trans ssl.symm

/-- What `handle_proxy_response` may do: return 1 once the announcement of the
tunnel has been received, or go on waiting, or give up. -/
inductive ReplyStep (job : Job) (got : List Byte) (conn : Connection) : Outcome Nat → Prop
  | announced {got' : List Byte} {sys : Sys} {calls : List Call}
      (trace : job.Trace (.awaitingReply got) calls (.awaitingReply got')) (found : strstr (cstr got') established) :
      ReplyStep job got conn ⟨1, { conn with receivedResponse := .zeros _, bytesReceived := 0 }, sys, calls⟩
  | other {got' : List Byte} {ret : Int} {conn' : Connection} {sys : Sys} {calls : List Call} (open' : ret ≠ 1)
      (trace : job.Trace (.awaitingReply got) calls (.awaitingReply got'))
      (record : Represents job conn' (.awaitingReply got')) : ReplyStep job got conn ⟨ret, conn', sys, calls⟩

theorem handleProxyResponse_spec {noSocket : Int → Bool} {got : List Byte} (sys : Sys) (errno : Int) (io : Io)
    (record : Represents job conn (.awaitingReply got)) :
    ReplyStep job got conn (handleProxyResponse noSocket sys errno conn io) := by
  have count : conn.bytesReceived = got.length := record.received
  have room : got.length < recvBufferSize := record.room
  have holds : conn.receivedResponse.toList = CharArray.padded recvBufferSize got := record.buffer
  unfold handleProxyResponse
  by_cases closed : noSocket conn.sockfd = true
  · rw [if_pos closed]
    exact .other (by decide) (.refl _) record
  simp only [if_neg closed, count, room_eq room]
  by_cases full : recvBufferSize - 1 - got.length = 0
  · rw [if_pos full]
    have last : (conn.receivedResponse.setNul (recvBufferSize - 1)).toList = CharArray.padded recvBufferSize got :=
      CharArray.setNul_padded holds (by omega)
    rw [last, CharArray.cstr_padded]
    split
    · rename_i found
      exact .announced (.refl _) found
    · exact .other (by decide) (.refl _)
        (record.receive (List.append_nil _).symm rfl rfl trivial rfl room (last.trans (by rw [List.append_nil]; rfl)) rfl)
  · rw [if_neg full]
    have trace : job.Trace (.awaitingReply got)
        [.recv conn.sockfd got.length (recvBufferSize - 1 - got.length)
          (io.recv.chunk (recvBufferSize - 1 - got.length))]
        (.awaitingReply (got ++ io.recv.chunk (recvBufferSize - 1 - got.length))) := .single .reply
    have short := io.recv.chunk_length_le (recvBufferSize - 1 - got.length)
    by_cases some : 0 < io.recv.ret (recvBufferSize - 1 - got.length)
    · have fits : got.length + (io.recv.chunk (recvBufferSize - 1 - got.length)).length < recvBufferSize := by omega
      have stored := store_received holds fits
      rw [if_pos some]
      simp only [total_eq some (show got.length + (recvBufferSize - 1 - got.length) < recvBufferSize by omega), stored,
        CharArray.cstr_padded]
      split
      · rename_i found
        exact .announced trace found
      · split
        · exact .other (by decide) trace (record.receive rfl rfl rfl trivial rfl fits stored rfl)
        · exact .other (by decide) trace (record.receive rfl rfl rfl trivial rfl fits stored rfl)
    · rw [Given.chunk_of_nonpos (Int.not_lt.mp some), List.append_nil] at trace
      rw [if_neg some, Given.chunk_of_nonpos (Int.not_lt.mp some)]
      split
      · exact .other (by decide) trace record
      · exact .other (by decide) trace record

/-- The reaction of the handlers to the proxy's reply. -/
theorem ReplyStep.refines {got : List Byte} {recv : Outcome Nat} (io : Io)
    (record : Represents job conn (.awaitingReply got)) (step : ReplyStep job got conn recv) :
    let calls := recv.calls ++ [.proxyReply recv.ret]
    Refines job (.awaitingReply got)
      (if recv.ret = 1 then
        let setup := setupSslContext recv.sys io recv.conn
        ⟨0, { setup.conn with state := .tlsHandshake }, setup.sys, calls ++ setup.calls⟩
      else if recv.ret = 0 then ⟨0, recv.conn, recv.sys, calls⟩
      else ⟨0, recv.conn.toError, recv.sys, calls⟩) := by
  dsimp only
  cases step with
  | @announced got' sys calls trace found =>
    have none : conn.ssl = none := record.ssl ConnState.noConfusion ConnState.noConfusion
    have tunnel := trace.act (.accepted found)
    have clear := record.clear
    rw [if_pos rfl]
    obtain ⟨ctx, ssl, made, setup⟩ := setupSslContext_spec job sys io
      { conn with receivedResponse := .zeros _, bytesReceived := 0 } none
    refine ⟨_, tunnel.trans setup, ?_⟩
    dsimp only
    rw [made]
    exact clear.enter (q := .handshaking ssl) rfl rfl rfl (fun _ => record.sent ConnState.noConfusion) trivial fun _ _ => rfl
  | @other got' ret conn' sys calls open' trace next =>
    have undecided := trace.act (.undecided open')
    rw [if_neg open']
    dsimp only
    split
    · exact ⟨_, undecided, next⟩
    · exact next.fail rfl undecided _ _

/-! ## Asking for the tunnel -/

/-- What `send_proxy_connect` may do: report the request sent, wait for room, keep a part for later, or fail. -/
inductive RequestStep (job : Job) (k : Nat) (conn : Connection) : Outcome Nat → Prop
  | whole {sys : Sys} {calls : List Call} (trace : job.Trace (.tunnelling k) calls (.awaitingReply [])) :
      RequestStep job k conn ⟨1, { conn with bytesSent := 0 }, sys, calls⟩
  | part {k' : Nat} {sys : Sys} {calls : List Call} (left : k' < job.request.length)
      (trace : job.Trace (.tunnelling k) calls (.tunnelling k')) :
      RequestStep job k conn ⟨0, { conn with bytesSent := k' }, sys, calls⟩
  | wait {sys : Sys} {calls : List Call} (trace : job.Trace (.tunnelling k) calls (.tunnelling k)) :
      RequestStep job k conn ⟨0, conn, sys, calls⟩
  | error {sys : Sys} {calls : List Call} (trace : job.Trace (.tunnelling k) calls (.tunnelling k)) :
      RequestStep job k conn ⟨-1, conn, sys, calls⟩

/-- The reaction of the handlers to it. -/
theorem RequestStep.refines {k : Nat} {sent : Outcome Nat} (record : Represents job conn (.tunnelling k))
    (step : RequestStep job k conn sent) :
    Refines job (.tunnelling k)
      (if sent.ret > 0 then ⟨0, { sent.conn with state := .proxyResponse }, sent.sys, sent.calls⟩
      else if sent.ret = 0 then ⟨0, sent.conn, sent.sys, sent.calls⟩
      else ⟨-1, sent.conn.toError, sent.sys, sent.calls⟩) := by
  have ssl : conn.ssl = none := record.ssl ConnState.noConfusion ConnState.noConfusion
  cases step with
  | whole trace =>
    rw [if_pos (show (1 : Int) > 0 by decide)]
    exact ⟨_, trace, record.enter rfl rfl rfl (fun _ => rfl) trivial fun _ _ => ssl⟩
  | part left trace =>
    rw [if_neg (show ¬ (0 : Int) > 0 by decide), if_pos rfl]
    exact ⟨_, trace, record.enter rfl rfl record.state (fun _ => rfl) left fun _ _ => ssl⟩
  | wait trace =>
    rw [if_neg (show ¬ (0 : Int) > 0 by decide), if_pos rfl]
    exact ⟨_, trace, record⟩
  | error trace =>
    rw [if_neg (show ¬ (-1 : Int) > 0 by decide), if_neg (show ¬ (-1 : Int) = 0 by decide)]
    exact record.fail rfl trace _ _

/-! ## Connecting -/

/-- The handlers set up SSL on a socket that is connected. -/
theorem secured_refines (sys : Sys) (io : Io) (asked : List Call) (host : List Byte)
    (record : Represents job conn (.handshaking none)) (trace : job.Trace p asked (.handshaking none)) :
    Refines job p
      (let setup := setupSslContext sys io conn
      if setup.ret > 0 then ⟨0, setup.conn, setup.sys, asked ++ setup.calls ++ [.sslSetHostName setup.conn.ssl host]⟩
      else ⟨-1, setup.conn.toError, setup.sys, asked ++ setup.calls⟩) := by
  have none : conn.ssl = none := record.ssl ConnState.noConfusion ConnState.noConfusion
  have zero : conn.bytesSent = 0 := record.sent ConnState.noConfusion
  obtain ⟨ctx, ssl, made, setup⟩ := setupSslContext_spec job sys io conn none
  have after := trace.trans setup
  have next : Represents job (setupSslContext sys io conn).conn (.handshaking ssl) := by
    rw [made]
    exact record.enter rfl rfl record.state (fun _ => zero) trivial fun _ _ => rfl
  dsimp only
  split
  · rw [show (setupSslContext sys io conn).conn.ssl = ssl by rw [made]]
    exact ⟨_, after.act .sslSetHostName, next⟩
  · exact next.fail rfl after _ _

/-- The handlers once the socket is connected: the tunnel, the SSL set-up or the request comes next. -/
theorem connected_refines (sys : Sys) (io : Io) (asked : List Call) (host : List Byte)
    (record : Represents job conn .connecting) (trace : job.Trace .connecting asked .connecting) :
    Refines job .connecting
      (if job.tunnel && conn.isHttps then ⟨0, { conn with state := .proxyConnect }, sys, asked⟩
      else
        let conn := { conn with state := if conn.isHttps then .tlsHandshake else .sending }
        if conn.isHttps then
          let setup := setupSslContext sys io conn
          if setup.ret > 0 then
            ⟨0, setup.conn, setup.sys, asked ++ setup.calls ++ [.sslSetHostName setup.conn.ssl host]⟩
          else ⟨-1, setup.conn.toError, setup.sys, asked ++ setup.calls⟩
        else ⟨0, conn, sys, asked⟩) := by
  have none : conn.ssl = none := record.ssl ConnState.noConfusion ConnState.noConfusion
  have zero : conn.bytesSent = 0 := record.sent ConnState.noConfusion
  have same := record.https
  cases secure : job.https with
  | false =>
    have plain : ¬ conn.isHttps = true := by rw [same, secure]; decide
    rw [if_neg fun both => plain (Bool.and_eq_true_iff.mp both).2]
    dsimp only
    rw [if_neg plain, if_neg plain]
    exact ⟨_, trace.silent (.plain secure), record.enter rfl rfl rfl (fun _ => zero) (Nat.zero_le _) fun _ _ => none⟩
  | true =>
    have secure' : conn.isHttps = true := same.trans secure
    cases through : job.tunnel with
    | true =>
      rw [if_pos (Bool.and_eq_true_iff.mpr ⟨rfl, secure'⟩)]
      exact ⟨_, trace.silent (.tunnel secure through),
        record.enter rfl rfl rfl (fun _ => zero) job.someRequest fun _ _ => none⟩
    | false =>
      rw [Bool.false_and, if_neg Bool.false_ne_true]
      dsimp only
      rw [if_pos secure', if_pos secure']
      have next : Represents job { conn with state := .tlsHandshake } (.handshaking Option.none) :=
        record.enter rfl rfl rfl (fun _ => zero) trivial fun _ _ => none
      exact secured_refines sys io asked host next (trace.silent (.secure secure through))

/-! ## Opening a socket -/

theorem connectLoop_trace (job : Job) (noSocket : Int → Bool) (addresses : List Address) (sys : Sys) :
    job.Trace .idle (connectLoop noSocket addresses sys).2.2 .idle := by
  induction addresses generalizing sys with
  | nil => exact .refl _
  | cons address next ih =>
    unfold connectLoop
    dsimp only
    have tried : job.Trace .idle [.socket (sys.socket address.socket).1] .idle := .single .socket
    split
    · exact tried.trans (ih _)
    · have connected : job.Trace .idle [.socket (sys.socket address.socket).1,
          .connect (sys.socket address.socket).1 address.connect] .idle := tried.act .connect
      split
      · exact connected.trans (ih _)
      · exact connected

theorem createNonblockingSocket_trace (illegalPort noSocket : Int → Bool) {host : List Byte} {port : Int}
    (addresses : Option (List Address)) (sys : Sys) (name : job.host = host) (service : job.port = port) :
    job.Trace .idle (createNonblockingSocket illegalPort noSocket host port addresses sys).2.2 .idle := by
  subst name service
  have asked : job.Trace .idle [.getaddrinfo job.host job.port] .idle := .single .getaddrinfo
  unfold createNonblockingSocket
  split
  · exact .refl _
  · cases addresses with
    | none => exact asked
    | some list => exact asked.trans (connectLoop_trace job noSocket list sys)

/-- The record after `allocate_socket` has asked for a descriptor. -/
theorem allocated_refines {calls : List Call} (sockfd : Int) (sys : Sys) (record : Represents job conn .idle)
    (trace : job.Trace .idle calls .idle) :
    Refines job .idle
      (let conn := { conn with sockfd := sockfd }
      if conn.sockfd ≤ 0 then ⟨-1, conn, sys, calls⟩ else ⟨1, { conn with state := .connecting }, sys, calls⟩) := by
  dsimp only
  by_cases closed : sockfd ≤ 0
  · rw [if_pos closed]
    exact ⟨.idle, trace, { record with sent := record.sent }⟩
  · rw [if_neg closed]
    exact ⟨.connecting, trace.silent .opened, { record with
      state := rfl
      sent := fun _ => record.sent ConnState.noConfusion
      ssl := fun _ _ => record.ssl ConnState.noConfusion ConnState.noConfusion }⟩

/-- The record `cleanup_connection` leaves, whatever was going on. -/
theorem Represents.reset (record : Represents job conn p) (sockfd : Int) :
    Represents job { conn with
      ssl := none
      sockfd := sockfd
      sslContext := none
      state := .idle
      bytesSent := 0
      bytesReceived := 0
      receivedResponse := .zeros _ } .idle where
  https := record.https
  force := record.force
  body := record.body
  length := record.length
  state := rfl
  sent := fun _ => rfl
  rests := trivial
  received := rfl
  room := by decide
  buffer := CharArray.zeros_toList _
  ssl := fun _ _ => rfl

/-! ## Whole runs of a slot -/

/-- What an engine's functions must do for their slots to run the cycle; `rep`
says which records stand for a phase. -/
structure Driver.Follows {κ ρ : Type} (d : Driver κ ρ) (args : Arguments) (request : HTTPRequest) (job : Job)
    (rep : ConnectionOf κ → Phase → Prop) : Prop where
  state : ∀ conn p, rep conn p → conn.state = p.state
  init : ∀ raw, d.raw raw → rep (d.initConnection args request raw) .idle
  allocate : ∀ sys addresses conn, rep conn .idle →
    ∃ q, job.Trace .idle (d.allocateSocket args sys addresses conn).calls q ∧
      rep (d.allocateSocket args sys addresses conn).conn q
  cleanup : ∀ conn p sys, rep conn p → rep (d.cleanupConnection conn sys).1 .idle
  handle : ∀ sys errno conn mask io p, rep conn p → p.active →
    ∃ q, job.Trace p (d.handleReadyConnection args sys errno conn mask io).calls q ∧
      rep (d.handleReadyConnection args sys errno conn mask io).conn q

/-- **Every slot runs the cycle.** The calls since its last `allocate_socket`
are a trace of the cycle, and its record is that of the phase they lead to. -/
theorem Driver.Follows.tracks {κ ρ : Type} {d : Driver κ ρ} {args : Arguments} {request : HTTPRequest} {job : Job}
    {rep : ConnectionOf κ → Phase → Prop} {slot : Slot κ} (follows : d.Follows args request job rep)
    (reached : d.SlotReachable args request slot) : ∃ p, job.Trace .idle slot.cycle p ∧ rep slot.conn p := by
  refine reached.invariant (motive := fun slot => ∃ p, job.Trace .idle slot.cycle p ∧ rep slot.conn p) ?_ ?_
  · rintro _ ⟨sys, addresses, raw, allowed⟩
    exact follows.allocate sys addresses _ (follows.init raw allowed)
  · rintro _ _ ⟨p, trace, record⟩ step
    cases step with
    | recycle finished sys addresses =>
      exact follows.allocate _ addresses _ (follows.cleanup _ p sys record)
    | ready pollable sys errno mask io =>
      obtain ⟨q, calls, next⟩ := follows.handle sys errno _ mask io p record
        ((congrArg ConnState.pollable (follows.state _ _ record)).symm.trans pollable)
      exact ⟨q, trace.trans calls, next⟩

end WebBench
