import WebBench.Account
import WebBench.Handshake
import WebBench.Select.Runs

/-!
# The counters of `bench_select`

Two branches of the third handler do not obey the law of the counters: the one
that gets no SSL context behind the proxy, and the one that finds the receive
buffer full. Every other branch obeys it, so a history counts right exactly when
its handler calls have taken neither.
-/

namespace WebBench.Select
set_option autoImplicit false
open CLib

/-- A step obeys the law; the counts of `bench_select.c` are `int`s. -/
def Counted (conn : Connection) (o : Outcome Int) : Prop := Accounted id ⟨conn, o.conn⟩

/-- The proxy accepts while no SSL context can be made. -/
structure ContextLost (sys : Sys) (conn : Connection) (fds : FdSets) (io : Io) : Prop where
  state : conn.state = .proxyResponse
  readable : fdIsSet conn.sockfd fds.read = true
  accepted : strstr (cstr (io.recv.chunk (bufferSize - 1))) established
  missing : sys.globalSslCtx = none
  refused : io.sslCtxNew = none

/-- The response fills the buffer without having shown the end of its header. -/
structure BufferFull (conn : Connection) (fds : FdSets) : Prop where
  state : conn.state = .receiving
  readable : fdIsSet conn.sockfd fds.read = true
  full : conn.bytesReceived = (recvBufferSize - 1 : Nat)

theorem getGlobalSslCtx_eq_none (sys : Sys) (io : Io) :
    (getGlobalSslCtx sys io).1 = none ↔ sys.globalSslCtx = none ∧ io.sslCtxNew = none := by
  unfold getGlobalSslCtx
  cases sys.globalSslCtx with
  | none => exact ⟨fun refused => ⟨rfl, refused⟩, fun both => both.2⟩
  | some ctx => exact ⟨nofun, nofun⟩

/-! ## The branches that obey the law -/

section Branches

variable {args : Arguments} {conn : Connection} (sys : Sys) (fds : FdSets) (io : Io)

theorem whenConnecting_counted (state : conn.state = .connecting) :
    Counted conn (whenConnecting args sys conn fds io) := by
  have waits : conn.state.pollable = true := by rw [state]; rfl
  unfold whenConnecting
  split
  · dsimp only
    split
    · split
      · exact .quiet rfl ConnState.noConfusion fun _ => ConnState.noConfusion
      · split
        · generalize getGlobalSslCtx sys io = got
          obtain ⟨ctx, sys', calls⟩ := got
          cases ctx with
          | none => exact .toError rfl waits
          | some ctx =>
            dsimp only
            generalize sys'.sslNew io.sslNew = made
            obtain ⟨ssl, sys''⟩ := made
            cases ssl with
            | none => exact .toError rfl waits
            | some ssl =>
              dsimp only
              split
              · exact .toError rfl waits
              · exact .quiet rfl ConnState.noConfusion fun _ => ConnState.noConfusion
        · exact .quiet rfl ConnState.noConfusion fun _ => ConnState.noConfusion
    · exact .toError rfl waits
  · exact .stay rfl rfl waits

theorem whenProxyConnect_counted (errno : Int) (state : conn.state = .proxyConnect) :
    Counted conn (whenProxyConnect args sys errno conn fds io) := by
  have waits : conn.state.pollable = true := by rw [state]; rfl
  unfold whenProxyConnect
  split
  · have same := (sendProxyConnect_spec args .zero sys errno conn io).1
    dsimp only
    rw [same]
    split
    · exact .quiet rfl ConnState.noConfusion fun _ => ConnState.noConfusion
    · split
      · exact .stay rfl rfl waits
      · exact .toError rfl waits
  · exact .stay rfl rfl waits

theorem whenTlsHandshake_counted (state : conn.state = .tlsHandshake) :
    Counted conn (whenTlsHandshake sys conn fds io) := by
  have waits : conn.state.pollable = true := by rw [state]; rfl
  unfold whenTlsHandshake
  split
  · split
    · dsimp only
      split
      · exact .quiet rfl ConnState.noConfusion fun _ => ConnState.noConfusion
      · split
        · exact .stay rfl rfl waits
        · exact .toError rfl waits
    · exact .stay rfl rfl waits
  · exact .stay rfl rfl waits

theorem whenSending_counted (state : conn.state = .sending) : Counted conn (whenSending sys conn fds io) := by
  have waits : conn.state.pollable = true := by rw [state]; rfl
  unfold whenSending
  split
  · dsimp only
    split
    · exact .afterSending state rfl rfl
    · split
      · split
        · split
          · split
            · exact .afterSending state rfl rfl
            · exact .stay rfl rfl waits
          · split
            · exact .stay rfl rfl waits
            · exact .toError rfl waits
        · exact .toError rfl waits
      · split
        · split
          · exact .afterSending state rfl rfl
          · exact .stay rfl rfl waits
        · split
          · exact .stay rfl rfl waits
          · exact .toError rfl waits
  · exact .stay rfl rfl waits

end Branches

/-! ## The branches that do not -/

section Branches

variable {args : Arguments} {conn : Connection} (sys : Sys) (fds : FdSets) (io : Io)

/-- An error that nothing counts breaks the law. -/
theorem not_accounted_of_uncounted {conn' : Connection} (live : conn.state ≠ .error) (failed : conn'.state = .error)
    (same : conn'.failed = conn.failed) : ¬ Accounted id ⟨conn, conn'⟩ := by
  intro law
  have fails : Move.fails ⟨conn, conn'⟩ = true := by simp [Move.fails, live, failed]
  have counted := law.failed
  rw [fails, if_pos rfl] at counted
  have counted : conn'.failed = conn.failed + 1 := counted
  omega

theorem handleProxyResponse_sys (conn : Connection) (errno : Int) :
    (handleProxyResponse sys errno conn io).sys = sys := by
  unfold handleProxyResponse
  dsimp only
  repeat' split
  all_goals rfl

/-- What a lost context leaves of the record. -/
theorem ContextLost.replied (lost : ContextLost sys conn fds io) (args : Arguments) (errno : Int) :
    (whenProxyResponse args sys errno conn fds io).conn = { conn with state := .error, sslContext := none } := by
  obtain ⟨_, same, -⟩ := handleProxyResponse_spec (job args .zero) sys errno conn io
  have accepts := (handleProxyResponse_ret sys errno conn io).mpr lost.accepted
  have shared := handleProxyResponse_sys sys io conn errno
  have context := (getGlobalSslCtx_eq_none sys io).mpr ⟨lost.missing, lost.refused⟩
  unfold whenProxyResponse
  rw [if_pos lost.readable]
  generalize handleProxyResponse sys errno conn io = result at same shared accepts
  obtain ⟨ret, conn', sys', calls⟩ := result
  obtain rfl : conn' = conn := same
  obtain rfl : sys' = sys := shared
  dsimp only
  rw [if_pos accepts]
  generalize getGlobalSslCtx sys' io = got at context
  obtain ⟨ctx, sys'', asked⟩ := got
  obtain rfl : ctx = none := context
  rfl

theorem ContextLost.handled (lost : ContextLost sys conn fds io) (args : Arguments) (errno : Int) :
    (handleReadyConnection args sys errno conn fds io).conn = { conn with state := .error, sslContext := none } := by
  unfold handleReadyConnection
  rw [lost.state]
  exact lost.replied sys fds io args errno

/-- `CONN_PROXY_RESPONSE` counts right unless the context is lost. -/
theorem whenProxyResponse_counted (errno : Int) (state : conn.state = .proxyResponse)
    (kept : ¬ ContextLost sys conn fds io) : Counted conn (whenProxyResponse args sys errno conn fds io) := by
  have waits : conn.state.pollable = true := by rw [state]; rfl
  unfold whenProxyResponse
  by_cases readable : fdIsSet conn.sockfd fds.read = true
  · obtain ⟨_, same, -⟩ := handleProxyResponse_spec (job args .zero) sys errno conn io
    have shared := handleProxyResponse_sys sys io conn errno
    have accepts := handleProxyResponse_ret sys errno conn io
    rw [if_pos readable]
    generalize handleProxyResponse sys errno conn io = result at same shared accepts
    obtain ⟨ret, conn', sys', calls⟩ := result
    obtain rfl : conn' = conn := same
    obtain rfl : sys' = sys := shared
    dsimp only at accepts ⊢
    by_cases accepted : ret = 1
    · have context := getGlobalSslCtx_eq_none sys' io
      rw [if_pos accepted]
      generalize getGlobalSslCtx sys' io = got at context
      obtain ⟨ctx, sys'', asked⟩ := got
      cases ctx with
      | none =>
        obtain ⟨missing, refused⟩ := context.mp rfl
        exact absurd ⟨state, readable, accepts.mp accepted, missing, refused⟩ kept
      | some ctx => exact .quiet rfl ConnState.noConfusion fun _ => ConnState.noConfusion
    · rw [if_neg accepted]
      split
      · exact .stay rfl rfl waits
      · exact .toError rfl waits
  · rw [if_neg readable]
    exact .stay rfl rfl waits

/-- `CONN_RECEIVING` counts right unless the buffer is full. -/
theorem whenReceiving_counted_iff {got : List Byte} (state : conn.state = .receiving)
    (count : conn.bytesReceived = got.length) (room : got.length < recvBufferSize) :
    Counted conn (whenReceiving sys conn fds io) ↔ ¬ BufferFull conn fds := by
  have waits : conn.state.pollable = true := by rw [state]; rfl
  have size : recvBufferSize = 8096 := rfl
  have remaining : intOfSize (sizeSub (sizeSub recvBufferSize (sizeOfInt conn.bytesReceived)) 1) =
      (recvBufferSize - 1 - got.length : Nat) := by
    rw [count, sizeOfInt_natCast (by omega), room_eq room, intOfSize_of_lt (by omega)]
  unfold whenReceiving
  by_cases readable : fdIsSet conn.sockfd fds.read = true
  · rw [if_pos readable, remaining]
    by_cases full : ((recvBufferSize - 1 - got.length : Nat) : Int) ≤ 0
    · have filled : conn.bytesReceived = (recvBufferSize - 1 : Nat) := by omega
      rw [if_pos full]
      refine iff_of_false (fun law => ?_) (not_not_intro ⟨state, readable, filled⟩)
      have completes : Move.completes ⟨conn, { conn with state := .completed, speed := conn.speed + 1 }⟩ = true := by
        simp [Move.completes, state]
      have counted := Accounted.bytes law
      rw [completes, if_pos rfl] at counted
      have counted : conn.bytes = conn.bytes + conn.bytesReceived := counted
      omega
    · rw [if_neg full]
      refine iff_of_true ?_ fun filled => full (by have whole := filled.full; omega)
      dsimp only
      split
      · split
        · split
          · split
            · exact .response state rfl rfl
            · exact .stay rfl rfl waits
          · split
            · exact .stay rfl rfl waits
            · exact .toError rfl waits
        · exact .toError rfl waits
      · split
        · split
          · exact .response state rfl rfl
          · exact .stay rfl rfl waits
        · split
          · exact .stay rfl rfl waits
          · exact .toError rfl waits
  · rw [if_neg readable]
    exact iff_of_true (.stay rfl rfl waits) fun filled => readable filled.readable

end Branches

/-! ## Whole runs -/

variable {args : Arguments} {request : HTTPRequest}

/-- **The handler** counts right unless the context is lost or the buffer is full. -/
theorem handle_counted_iff {slot : Slot Int} (reached : driver.SlotReachable args request slot) (sys : Sys)
    (errno : Int) (fds : FdSets) (io : Io) :
    Counted slot.conn (handleReadyConnection args sys errno slot.conn fds io) ↔
      ¬ (ContextLost sys slot.conn fds io ∨ BufferFull slot.conn fds) := by
  obtain ⟨p, -, ⟨sizes, q, made, record, names, same⟩, -⟩ := (follows args request).tracks reached
  have state : slot.conn.state = q.state := by rw [made]; exact record.state
  have unlike {now : ConnState} (here : slot.conn.state = now) (other : now ≠ .proxyResponse ∧ now ≠ .receiving) :
      ¬ (ContextLost sys slot.conn fds io ∨ BufferFull slot.conn fds) := by
    rintro (lost | filled)
    · exact other.1 (here.symm.trans lost.state)
    · exact other.2 (here.symm.trans filled.state)
  unfold handleReadyConnection
  split
  case _ here => exact iff_of_true (.unmoved _) (unlike here (by decide))
  case _ here => exact iff_of_true (.unmoved _) (unlike here (by decide))
  case _ here => exact iff_of_true (.unmoved _) (unlike here (by decide))
  case _ here => exact iff_of_true (whenConnecting_counted sys fds io here) (unlike here (by decide))
  case _ here => exact iff_of_true (whenProxyConnect_counted sys fds io errno here) (unlike here (by decide))
  case _ here =>
    have lost_iff : ContextLost sys slot.conn fds io ∨ BufferFull slot.conn fds ↔ ContextLost sys slot.conn fds io :=
      or_iff_left fun filled => ConnState.noConfusion (here.symm.trans filled.state)
    rw [lost_iff]
    refine ⟨fun law lost => ?_, whenProxyResponse_counted sys fds io errno here⟩
    have replied := lost.replied sys fds io args errno
    have live : slot.conn.state ≠ .error := here ▸ nofun
    exact not_accounted_of_uncounted live (by rw [replied]) (by rw [replied]) law
  case _ here => exact iff_of_true (whenTlsHandshake_counted sys fds io here) (unlike here (by decide))
  case _ here => exact iff_of_true (whenSending_counted sys fds io here) (unlike here (by decide))
  case _ here =>
    have receiving : q.state = .receiving := state.symm.trans here
    have count : slot.conn.bytesReceived = q.got.length := by
      rw [made]
      exact congrArg Nat.cast record.received
    refine (whenReceiving_counted_iff sys fds io here count record.room).trans (not_congr (or_iff_right fun lost => ?_).symm)
    exact ConnState.noConfusion (here.symm.trans lost.state)

/-- Around the handler nothing touches the counters. -/
theorem countersKept (args : Arguments) : driver.CountersKept args where
  init := fun _ _ _ => rfl
  allocate := fun sys addresses conn => by
    show (allocateSocket args sys addresses conn).conn.counters = conn.counters
    unfold allocateSocket
    generalize (if needConnectProxy args then _ else _ : Int × Sys × List Call) = opened
    dsimp only
    split
    · rfl
    · rfl
  cleanup := fun _ _ => rfl

/-- **Exact accounting, and its two gaps.** Nothing but the handler touches the
counters, one handler call obeys their law exactly when the context is not lost
and the buffer is not full, and the history of a slot in any run does exactly
when the slot has got there by such calls. -/
theorem accounted_iff_of_run (args : Arguments) (request : HTTPRequest) :
    driver.CountersKept args ∧
      (∀ slot, driver.SlotReachable args request slot → ∀ sys errno fds io,
        Accounted id ⟨slot.conn, (handleReadyConnection args sys errno slot.conn fds io).conn⟩ ↔
          ¬ (ContextLost sys slot.conn fds io ∨ BufferFull slot.conn fds)) ∧
      ∀ w, Run args request w → ∀ slot ∈ w.slots,
        (∀ move ∈ slot.moves, Accounted id move) ↔
          driver.SlotReachableWhere args request
            (fun sys _ conn fds io => ¬ (ContextLost sys conn fds io ∨ BufferFull conn fds)) slot :=
  ⟨countersKept args, fun _ reached => handle_counted_iff reached, fun _ run slot member =>
    (run_slot run slot member).each_move_iff fun _ reached _ => handle_counted_iff reached⟩

/-- The client whose proxy accepts, where `ctx` is what `SSL_CTX_new` returns. -/
def tunnelled (ctx : Option Ptr) : World :=
  let w := (opened proxyArguments .zero).get (by decide +kernel)
  ((w.woken proxyArguments (shakingIo ctx)).woken proxyArguments (shakingIo ctx)).woken proxyArguments (shakingIo ctx)

theorem tunnelled_run : ∀ ctx ∈ [none, some 7], Run proxyArguments .zero (tunnelled ctx) := by
  have start : Run proxyArguments .zero ((opened proxyArguments .zero).get (by decide +kernel)) :=
    opened_run (Option.some_get _).symm
  simp only [List.mem_cons, List.not_mem_nil, or_false]
  rintro _ (rfl | rfl)
  · have asked := World.woken_run (shakingIo none) start (by decide +kernel)
    have sent := World.woken_run (shakingIo none) asked (by decide +kernel)
    exact World.woken_run (shakingIo none) sent (by decide +kernel)
  · have asked := World.woken_run (shakingIo (some 7)) start (by decide +kernel)
    have sent := World.woken_run (shakingIo (some 7)) asked (by decide +kernel)
    exact World.woken_run (shakingIo (some 7)) sent (by decide +kernel)

/-- With a context the client has got to its handshake by calls that all count right. -/
theorem accounted_iff_of_run_tunnelled : ∃ slot ∈ (tunnelled (some 7)).slots, slot.conn.state = .tlsHandshake ∧
    driver.SlotReachableWhere proxyArguments .zero
      (fun sys _ conn fds io => ¬ (ContextLost sys conn fds io ∨ BufferFull conn fds)) slot := by
  have counted : ∃ slot ∈ (tunnelled (some 7)).slots, slot.conn.state = .tlsHandshake ∧
      ∀ move ∈ slot.moves, Accounted id move := by decide +kernel
  obtain ⟨slot, member, shaking, right⟩ := counted
  have run := tunnelled_run (some 7) (by decide)
  exact ⟨slot, member, shaking, ((accounted_iff_of_run proxyArguments .zero).2.2 _ run slot member).mp right⟩

/-- Without one the proxy's acceptance ends in an error that nothing counts. -/
theorem lost_context_uncounted : ¬ ∀ w, Run proxyArguments .zero w → ∀ slot ∈ w.slots, ∀ move ∈ slot.moves,
    Accounted id move := by
  intro each
  have wrong : ∃ slot ∈ (tunnelled none).slots, ∃ move ∈ slot.moves, ¬ Accounted id move := by decide +kernel
  obtain ⟨slot, member, move, taken, uncounted⟩ := wrong
  exact uncounted (each _ (tunnelled_run none (by decide)) slot member move taken)

end WebBench.Select
