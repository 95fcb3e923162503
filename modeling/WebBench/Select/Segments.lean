import WebBench.Tunnel
import WebBench.Select.Counters

/-!
# Where the network cuts the tunnel's set-up

`send_proxy_connect` and `handle_proxy_response` of `bench_select.c` carry
nothing from one readiness event to the next. So the first piece of the CONNECT
request that `send` takes, and the first piece of the reply that `recv` finds,
decide: what `send` leaves is never sent, and a reply that comes in pieces is an
error unless its first piece has the phrase in it.
-/

namespace WebBench
set_option autoImplicit false
open CLib

/-- The answers when `send` has room for the bytes of the wake. -/
def Wake.accepts {ρ : Type} (wake : Wake ρ) : Io :=
  match wake.arrived with
  | some n => { wake.io with send := .bytes n }
  | none => { wake.io with send := .failed, errno := eagain }

/-- The first piece that is not put off. -/
def firstPiece (pieces : List (Option Nat)) : Option Nat := pieces.findSome? id

namespace Select

variable {args : Arguments} {conn : Connection}

/-! ## The CONNECT request -/

/-- The handler runs of a slot that sends its CONNECT request, up to the one
that leaves `CONN_PROXY_CONNECT`: the record and the calls made. -/
def requested (args : Arguments) : Connection → List (Wake FdSets) → Connection × List Call
  | conn, [] => (conn, [])
  | conn, wake :: rest =>
    let o := handleReadyConnection args wake.sys wake.errno conn wake.mask wake.accepts
    if o.conn.state = .proxyConnect then
      let (conn, calls) := requested args o.conn rest
      (conn, o.calls ++ calls)
    else (o.conn, o.calls)

/-- The reply is only awaited once `send` has taken the whole request, in order and once. -/
def RequestedWhole (args : Arguments) (after : Connection × List Call) : Prop :=
  after.1.state = .proxyResponse →
    plainSent (buffersOf args .zero) after.2 = connectText args.targetHost.bytes args.targetPort

/-- What `send_proxy_connect` checks before it sends. -/
structure CanConnect (args : Arguments) (conn : Connection) : Prop where
  proxyHost : args.proxyHost.bytes.length ≠ 0
  targetHost : args.targetHost.bytes.length ≠ 0
  proxyPort : 0 < args.proxyPort ∧ args.proxyPort ≤ 65535
  targetPort : 0 < args.targetPort ∧ args.targetPort ≤ 65535
  socket : 0 ≤ conn.sockfd

/-- The one `send` of `send_proxy_connect` is offered the whole request. -/
theorem sendProxyConnect_eq (legal : CanConnect args conn) (sys : Sys) (errno : Int) (io : Io) :
    let request := connectText args.targetHost.bytes args.targetPort
    let sent := io.send.ret request.length
    let calls := [Call.send conn.sockfd ⟨.connectRequest, 0, request.length⟩ sent]
    sendProxyConnect sys errno conn io args.proxyHost.bytes args.proxyPort args.targetHost.bytes args.targetPort =
      if sent ≤ 0 then
        if tryAgain (errnoAfter sent errno io.errno) then ⟨0, conn, sys, calls⟩ else ⟨-1, conn, sys, calls⟩
      else ⟨sent, conn, sys, calls⟩ := by
  obtain ⟨proxyHost, targetHost, proxyPort, targetPort, socket⟩ := legal
  unfold sendProxyConnect
  rw [if_neg (by simp [proxyHost, targetHost]), if_neg (by omega), if_neg (by omega),
    connectRequest_eq args.targetHost args.targetPort targetPort.1 targetPort.2]

/-- `send` would block: nothing happens. -/
theorem handle_request_retry (state : conn.state = .proxyConnect) (legal : CanConnect args conn) {wake : Wake FdSets}
    (writable : fdIsSet conn.sockfd wake.mask.write = true) (later : wake.arrived = none) :
    let o := handleReadyConnection args wake.sys wake.errno conn wake.mask wake.accepts
    o.conn = conn ∧ plainSent (buffersOf args .zero) o.calls = [] := by
  have failed : ∀ n, wake.accepts.send.ret n = -1 := fun _ => by simp only [Wake.accepts, later]; rfl
  have again : wake.accepts.errno = eagain := by simp only [Wake.accepts, later]
  have sent := sendProxyConnect_eq legal wake.sys wake.errno wake.accepts
  dsimp only at sent
  rw [failed, again, if_pos (show (-1 : Int) ≤ 0 by decide),
    if_pos (show tryAgain (errnoAfter (-1) wake.errno eagain) = true from rfl)] at sent
  unfold handleReadyConnection
  rw [state]
  dsimp only
  unfold whenProxyConnect
  rw [if_pos writable, sent]
  exact ⟨rfl, rfl⟩

/-- `send` takes something: the slot goes on to wait for the reply. -/
theorem handle_request_taken (state : conn.state = .proxyConnect) (legal : CanConnect args conn) {wake : Wake FdSets}
    (writable : fdIsSet conn.sockfd wake.mask.write = true) {n : Nat} (room : wake.arrived = some n) (some : n ≠ 0) :
    let o := handleReadyConnection args wake.sys wake.errno conn wake.mask wake.accepts
    o.conn.state = .proxyResponse ∧
      plainSent (buffersOf args .zero) o.calls = (connectText args.targetHost.bytes args.targetPort).take n := by
  generalize long : (connectText args.targetHost.bytes args.targetPort).length = length
  have positive : 0 < length := long ▸ connectText_length_pos args.targetHost.bytes args.targetPort
  have taken : wake.accepts.send.ret length = (min n length : Nat) := by
    simp only [Wake.accepts, room]
    rfl
  have more : (0 : Int) < (min n length : Nat) := by omega
  have sent := sendProxyConnect_eq legal wake.sys wake.errno wake.accepts
  dsimp only at sent
  rw [long, taken, if_neg (Int.not_le.mpr more)] at sent
  unfold handleReadyConnection
  rw [state]
  dsimp only
  unfold whenProxyConnect
  rw [if_pos writable, sent]
  dsimp only
  rw [if_pos more]
  refine ⟨rfl, ?_⟩
  have whole : (connectText args.targetHost.bytes args.targetPort).take length = connectText args.targetHost.bytes args.targetPort :=
    List.take_of_length_le long.le
  simp only [plainSent_cons, plainSent_nil, List.append_nil, Call.plain, Slice.bytes, buffersOf, List.drop_zero, whole,
    Int.toNat_natCast]
  rw [← List.take_take, whole]

/-- **What decides about the request** is the first piece that `send` takes. -/
theorem requestedWhole_iff (legal : CanConnect args conn) (state : conn.state = .proxyConnect) :
    ∀ wakes : List (Wake FdSets),
      (∀ wake ∈ wakes, fdIsSet conn.sockfd wake.mask.write = true ∧ wake.arrived ≠ some 0) →
      (RequestedWhole args (requested args conn wakes) ↔
        ∀ n ∈ firstPiece (wakes.map (·.arrived)), (connectText args.targetHost.bytes args.targetPort).length ≤ n) := by
  intro wakes
  induction wakes with
  | nil =>
    intro _
    refine iff_of_true (fun awaits => ?_) nofun
    exact ConnState.noConfusion (state.symm.trans awaits)
  | cons wake rest ih =>
    intro ready
    obtain ⟨writable, some⟩ := ready wake List.mem_cons_self
    unfold requested
    dsimp only
    rw [List.map_cons]
    cases room : wake.arrived with
    | none =>
      obtain ⟨same, nothing⟩ := handle_request_retry state legal writable room
      have later := ih fun wake member => ready wake (List.mem_cons_of_mem _ member)
      rw [same, if_pos state]
      unfold RequestedWhole at later ⊢
      rw [plainSent_append, nothing, List.nil_append]
      exact later
    | some n =>
      have positive : n ≠ 0 := fun zero => some (zero ▸ room)
      obtain ⟨awaits, sent⟩ := handle_request_taken state legal writable room positive
      rw [awaits, if_neg ConnState.noConfusion]
      unfold RequestedWhole
      rw [sent, List.take_eq_self_iff]
      exact ⟨fun whole _ first => Option.some.inj first ▸ whole awaits, fun long _ => long n rfl⟩

/-! ## The reply -/

/-- The handler runs of a slot that waits for the proxy's reply, `cut` bytes of
which have been read, up to the one that leaves `CONN_PROXY_RESPONSE`. -/
def replied (args : Arguments) (reply : List Byte) : Connection → Nat → List (Wake FdSets) → Connection
  | conn, _, [] => conn
  | conn, cut, wake :: rest =>
    let o := handleReadyConnection args wake.sys wake.errno conn wake.mask (wake.answers reply cut)
    if o.conn.state = .proxyResponse then replied args reply o.conn (cut + (replyBytes o.calls).length) rest
    else o.conn

/-- The socket can be read, and there is an SSL context to be had. -/
def Listening (conn : Connection) (wake : Wake FdSets) : Prop :=
  fdIsSet conn.sockfd wake.mask.read = true ∧ (wake.sys.globalSslCtx ≠ none ∨ wake.io.sslCtxNew ≠ none)

/-- A `recv` that delivers something is decided about at once. -/
theorem handleProxyResponse_decides (sys : Sys) (errno : Int) (conn : Connection) {io : Io}
    (some : 0 < io.recv.ret (bufferSize - 1)) : (handleProxyResponse sys errno conn io).ret ≠ 0 := by
  unfold handleProxyResponse
  dsimp only
  rw [if_neg (Int.not_le.mpr some)]
  split
  · exact show (1 : Int) ≠ 0 by decide
  · exact show (-1 : Int) ≠ 0 by decide

/-- `recv` would block: nothing happens. -/
theorem handle_reply_retry (state : conn.state = .proxyResponse) {wake : Wake FdSets} (reply : List Byte) (cut : Nat)
    (readable : fdIsSet conn.sockfd wake.mask.read = true) (later : wake.arrived = none) :
    let o := handleReadyConnection args wake.sys wake.errno conn wake.mask (wake.answers reply cut)
    o.conn = conn ∧ replyBytes o.calls = [] := by
  have failed : (wake.answers reply cut).recv = .failed := by simp only [Wake.answers, later]
  have again : (wake.answers reply cut).errno = eagain := by simp only [Wake.answers, later]
  have result : handleProxyResponse wake.sys wake.errno conn (wake.answers reply cut) =
      ⟨0, conn, wake.sys, [.recv conn.sockfd 0 (bufferSize - 1) []]⟩ := by
    unfold handleProxyResponse
    rw [failed, again]
    rfl
  unfold handleReadyConnection
  rw [state]
  dsimp only
  unfold whenProxyResponse
  rw [if_pos readable, result]
  exact ⟨rfl, rfl⟩

/-- `recv` finds something: the slot goes on if the phrase is in it, and fails if not. -/
theorem handle_reply_found (state : conn.state = .proxyResponse) {wake : Wake FdSets} {io : Io} {data : List Byte}
    (listening : Listening conn wake) (context : io.sslCtxNew = wake.io.sslCtxNew) (found : io.recv = .bytes data)
    (some : data ≠ []) (short : data.length < bufferSize) (noNul : ∀ b ∈ data, b ≠ 0) :
    (handleReadyConnection args wake.sys wake.errno conn wake.mask io).conn.state =
      if strstr data established then .tlsHandshake else .error := by
  obtain ⟨readable, available⟩ := listening
  have chunk : io.recv.chunk (bufferSize - 1) = data := by
    rw [found]
    exact List.take_of_length_le (by omega)
  have positive : 0 < io.recv.ret (bufferSize - 1) := by
    have whole : io.recv.ret (bufferSize - 1) = data.length := by
      rw [found]
      exact congrArg (fun list : List Byte => (list.length : Int)) (List.take_of_length_le (by omega))
    have length := List.length_pos_of_ne_nil some
    omega
  obtain ⟨_, same, -⟩ := handleProxyResponse_spec (job args .zero) wake.sys wake.errno conn io
  have shared := handleProxyResponse_sys wake.sys io conn wake.errno
  have accepts := handleProxyResponse_ret wake.sys wake.errno conn io
  have decides := handleProxyResponse_decides wake.sys wake.errno conn positive
  rw [chunk, cstr_of_noNul noNul] at accepts
  unfold handleReadyConnection
  rw [state]
  dsimp only
  unfold whenProxyResponse
  rw [if_pos readable]
  generalize handleProxyResponse wake.sys wake.errno conn io = result at same shared accepts decides
  obtain ⟨ret, conn', sys', calls⟩ := result
  dsimp only at same shared accepts decides ⊢
  by_cases phrase : strstr data established
  · have missing := getGlobalSslCtx_eq_none sys' io
    rw [if_pos (accepts.mpr phrase), if_pos phrase]
    generalize getGlobalSslCtx sys' io = got at missing
    obtain ⟨ctx, sys'', asked⟩ := got
    cases ctx with
    | none =>
      obtain ⟨unset, refused⟩ := missing.mp rfl
      rw [shared] at unset
      rw [context] at refused
      exact absurd unset (available.resolve_right (not_not_intro refused))
    | some ctx => rfl
  · rw [if_neg (mt accepts.mp phrase), if_neg decides, if_neg phrase]
    rfl

/-- **What decides about the reply** is the first piece that `recv` finds. -/
theorem replied_iff {reply : List Byte} (noNul : ∀ b ∈ reply, b ≠ 0) (short : reply.length < bufferSize)
    (nonempty : reply ≠ []) (state : conn.state = .proxyResponse) :
    ∀ wakes : List (Wake FdSets), (∀ wake ∈ wakes, Listening conn wake ∧ wake.arrived ≠ some 0) →
      ((replied args reply conn 0 wakes).state = .tlsHandshake ↔
        ∃ n ∈ firstPiece (wakes.map (·.arrived)), strstr (reply.take n) established) := by
  intro wakes
  induction wakes with
  | nil =>
    intro _
    exact iff_of_false (fun shaking => ConnState.noConfusion (state.symm.trans shaking)) nofun
  | cons wake rest ih =>
    intro ready
    obtain ⟨listening, given⟩ := ready wake List.mem_cons_self
    unfold replied
    dsimp only
    rw [List.map_cons]
    cases arrived : wake.arrived with
    | none =>
      obtain ⟨same, nothing⟩ := handle_reply_retry state reply 0 listening.1 arrived
      rw [same, if_pos state, nothing]
      exact ih fun wake member => ready wake (List.mem_cons_of_mem _ member)
    | some n =>
      have positive : n ≠ 0 := fun zero => given (zero ▸ arrived)
      have found : (wake.answers reply 0).recv = .bytes (reply.take n) := by
        simp only [Wake.answers, arrived, List.drop_zero]
      have context : (wake.answers reply 0).sslCtxNew = wake.io.sslCtxNew := by
        simp only [Wake.answers, arrived]
      have piece : reply.take n ≠ [] := by simp [positive, nonempty]
      have fits : (reply.take n).length < bufferSize := by
        rw [List.length_take]
        omega
      have next : (handleReadyConnection args wake.sys wake.errno conn wake.mask (wake.answers reply 0)).conn.state = _ :=
        handle_reply_found state listening context found piece fits fun b member => noNul b (List.mem_of_mem_take member)
      have first : (∃ m ∈ firstPiece (some n :: rest.map (·.arrived)), strstr (reply.take m) established) ↔
          strstr (reply.take n) established := by
        constructor
        · rintro ⟨m, first, phrase⟩
          cases first
          exact phrase
        · intro phrase
          exact ⟨n, rfl, phrase⟩
      rw [first]
      by_cases phrase : strstr (reply.take n) established
      · rw [if_pos phrase] at next
        rw [next, if_neg ConnState.noConfusion, next]
        exact iff_of_true rfl phrase
      · rw [if_neg phrase] at next
        rw [next, if_neg ConnState.noConfusion, next]
        exact iff_of_false ConnState.noConfusion phrase

/-! ## The tunnel -/

/-- **The tunnel depends on where the network cuts.** However `send` takes the
CONNECT request, the slot waits for the reply with the whole of it sent if and
only if the first piece taken is the whole. However the reply comes, the slot
goes on to its handshake if and only if the first piece has the phrase in it. -/
theorem tunnel_iff_first_piece (args : Arguments) (conn : Connection) :
    (conn.state = .proxyConnect → CanConnect args conn → ∀ wakes : List (Wake FdSets),
      (∀ wake ∈ wakes, fdIsSet conn.sockfd wake.mask.write = true ∧ wake.arrived ≠ some 0) →
      (RequestedWhole args (requested args conn wakes) ↔
        ∀ n ∈ firstPiece (wakes.map (·.arrived)), (connectText args.targetHost.bytes args.targetPort).length ≤ n)) ∧
    (conn.state = .proxyResponse → ∀ reply : List Byte, (∀ b ∈ reply, b ≠ 0) → reply.length < bufferSize →
      strstr reply established → ∀ wakes : List (Wake FdSets),
      (∀ wake ∈ wakes, Listening conn wake ∧ wake.arrived ≠ some 0) →
      ((replied args reply conn 0 wakes).state = .tlsHandshake ↔
        ∃ n ∈ firstPiece (wakes.map (·.arrived)), strstr (reply.take n) established)) := by
  refine ⟨fun state legal => requestedWhole_iff legal state, fun state reply noNul short phrase => ?_⟩
  have nonempty : reply ≠ [] := by
    rintro rfl
    exact absurd phrase (by decide)
  exact replied_iff noNul short nonempty state

/-- A slot in `state`, on descriptor 3. -/
def on3 (state : ConnState) : Connection := { ConnectionOf.zero 0 with state := state, sockfd := 3 }

/-- Descriptor 3 is ready for `n` bytes, and SSL can be set up. -/
def wakeFor (n : Nat) : Wake FdSets := ⟨.initial, 0, ⟨[3], [3]⟩, shakingIo (some 7), some n⟩

theorem wakeFor_listening (state : ConnState) (n : Nat) : Listening (on3 state) (wakeFor n) :=
  ⟨show fdIsSet 3 [3] = true by decide, .inr nofun⟩

theorem wakeFor_writable (state : ConnState) (n : Nat) : fdIsSet (on3 state).sockfd (wakeFor n).mask.write = true :=
  show fdIsSet 3 [3] = true by decide

theorem canConnect_on3 (state : ConnState) : CanConnect proxyArguments (on3 state) :=
  ⟨by decide, by decide, by decide, by decide, show (0 : Int) ≤ 3 by decide⟩

/-- Both come in one piece. -/
theorem tunnel_iff_first_piece_whole :
    RequestedWhole proxyArguments (requested proxyArguments (on3 .proxyConnect) [wakeFor bufferSize]) ∧
      (replied proxyArguments established (on3 .proxyResponse) 0 [wakeFor bufferSize]).state = .tlsHandshake := by
  have one : ∀ state, ∀ wake ∈ [wakeFor bufferSize],
      fdIsSet (on3 state).sockfd wake.mask.write = true ∧ wake.arrived ≠ some 0 :=
    fun state => List.forall_mem_singleton.mpr ⟨wakeFor_writable state _, by decide⟩
  have whole : ∀ n ∈ firstPiece [some bufferSize],
      (connectText proxyArguments.targetHost.bytes proxyArguments.targetPort).length ≤ n := by decide +kernel
  refine ⟨((tunnel_iff_first_piece proxyArguments (on3 .proxyConnect)).1 rfl (canConnect_on3 _) _ (one _)).mpr whole, ?_⟩
  refine ((tunnel_iff_first_piece proxyArguments (on3 .proxyResponse)).2 rfl established established_noNul (by decide)
    List.infix_rfl _ ?_).mpr ⟨bufferSize, rfl, by decide +kernel⟩
  exact List.forall_mem_singleton.mpr ⟨wakeFor_listening _ _, by decide⟩

/-- Ten bytes of the request are taken, and the reply comes in two pieces. -/
theorem pieces_break_tunnel :
    (¬ ∀ wakes : List (Wake FdSets),
      (∀ wake ∈ wakes, fdIsSet (on3 .proxyConnect).sockfd wake.mask.write = true ∧ wake.arrived ≠ some 0) →
        RequestedWhole proxyArguments (requested proxyArguments (on3 .proxyConnect) wakes)) ∧
    ¬ ∀ wakes : List (Wake FdSets),
      (∀ wake ∈ wakes, Listening (on3 .proxyResponse) wake ∧ wake.arrived ≠ some 0) →
        bytesIn (wakes.map (·.arrived)) = established.length →
          (replied proxyArguments established (on3 .proxyResponse) 0 wakes).state = .tlsHandshake := by
  constructor
  · intro each
    have whole := each [wakeFor 10] (List.forall_mem_singleton.mpr ⟨wakeFor_writable _ _, by decide⟩)
    exact absurd (whole (by decide +kernel)) (by decide +kernel)
  · intro each
    have reached := each [wakeFor 17, wakeFor 18]
      (List.forall_mem_cons.mpr ⟨⟨wakeFor_listening _ _, by decide⟩,
        List.forall_mem_singleton.mpr ⟨wakeFor_listening _ _, by decide⟩⟩) (by decide)
    exact absurd reached (by decide +kernel)

end Select

end WebBench
