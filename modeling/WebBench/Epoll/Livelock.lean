import WebBench.Handshake
import WebBench.Progress

/-!
# A CONNECT request that is sent for ever

A failing `send` takes one byte off the count of the CONNECT request, so a proxy
that accepts a byte at a time, with a full buffer in between, keeps `bench_epoll`
in `CONN_PROXY_CONNECT` for as long as the run lasts.
-/

namespace WebBench.Epoll
set_option autoImplicit false
open CLib

theorem Accepts.through {args : Arguments}
    (accepts : Accepts args.proxyHost.bytes args.proxyPort args.targetHost args.targetPort) :
    needConnectProxy args = true := by
  have host := accepts.proxyHost
  have port := accepts.proxyPort
  have positive : 0 < args.proxyPort := by
    simp only [isValidPort, Bool.and_eq_true, decide_eq_true_eq] at port
    omega
  simp [needConnectProxy, host, port, positive]

/-- The slot has the socket 3, which is open and not in the epoll instance. -/
structure Alone (conn : Connection) (sys : Sys) : Prop where
  socket : conn.sockfd = 3
  opened : 3 ∈ sys.opened
  absent : sys.epoll 3 = none

section Round

variable {args : Arguments} {request : HTTPRequest} {slot : Slot Nat} {sys : Sys}

/-- The epoll instance with the slot's entry, not reported yet. -/
def watched (events : BitVec 32) (sys : Sys) : Sys :=
  { sys with epoll := fun d => if d = 3 then some ⟨events, 0, true⟩ else sys.epoll d }

theorem setup_alone (alone : Alone slot.conn sys) {events : BitVec 32}
    (waits : registration slot.conn.state = some events) :
    setupConnectionToEpollInstance args (fun _ => none) (fun _ => false) [slot] sys = ⟨1, [slot], watched events sys⟩ := by
  obtain ⟨socket, opened, absent⟩ := alone
  simp [setupConnectionToEpollInstance, setupLoop, waits, socket, Sys.epollAdd, opened, absent, Setup.after, watched]

/-- **One iteration** of the main loop on a table of one slot. -/
theorem round (alone : Alone slot.conn sys) {events : BitVec 32} (waits : registration slot.conn.state = some events)
    (run : Run args request ⟨[slot], sys, .pass⟩) (ev : BitVec 32) (io : Io) :
    let ready := driver.ready args ((watched events sys).disarm [3]) 0 ev io slot
    Run args request ⟨[ready.1], ready.2, .pass⟩ := by
  have passed := run.next (.pass [slot] sys (fun _ => none) fun _ => false)
  rw [setup_alone alone waits] at passed
  have reported : List.Forall₂ (Reports (watched events sys)) [3] [⟨0, ev⟩] :=
    .cons ⟨⟨events, 0, true⟩, by simp [watched], rfl, rfl⟩ .nil
  have woken := passed.next (.wait _ _ 1 [3] [⟨0, ev⟩] (List.nodup_singleton 3) reported (by simp))
  exact (woken.next (.handle [slot] _ ⟨0, ev⟩ [] slot rfl ⟨0, io⟩)).next (.again _ _)

/-- The entry the handler finds, and removes. -/
theorem watched_del (events : BitVec 32) (sys : Sys) :
    ∃ after, ((watched events sys).disarm [3]).epollDel 3 = (0, after) ∧ after.opened = sys.opened ∧
      after.epoll 3 = none := by
  refine ⟨_, if_pos ?_, rfl, ?_⟩
  · simp [Sys.disarm, watched]
  · simp

/-- The handler of a writable slot whose step leaves the shared state alone. -/
theorem ready_alone (alone : Alone slot.conn sys) (events : BitVec 32) {io : Io} {conn : Connection}
    (kept : conn.sockfd = slot.conn.sockfd)
    (step : ∀ sys, ∃ ret calls, dispatchState args sys 0 slot.conn epollout io = ⟨ret, conn, sys, calls⟩) :
    let ready := driver.ready args ((watched events sys).disarm [3]) 0 epollout io slot
    ready.1.conn = conn ∧ ready.1.moves = slot.moves ++ [⟨slot.conn, conn⟩] ∧ Alone ready.1.conn ready.2 := by
  obtain ⟨after, deleted, opened, absent⟩ := watched_del events sys
  obtain ⟨ret, calls, dispatched⟩ := step after
  have handled : handleReadyConnection args ((watched events sys).disarm [3]) 0 slot.conn epollout io =
      ⟨ret, conn, after, calls⟩ := by
    unfold handleReadyConnection
    rw [alone.socket, deleted]
    dsimp only
    rw [if_neg (by decide), if_neg (by decide), dispatched]
  intro ready
  have made : ready = (⟨conn, slot.cycle ++ calls, slot.moves ++ [⟨slot.conn, conn⟩]⟩, after) := by
    simp only [ready, Driver.ready, driver, handled]
  rw [made]
  exact ⟨rfl, rfl, kept.trans alone.socket, opened ▸ alone.opened, absent⟩

/-- More of the CONNECT request is to be sent. -/
theorem tunnelling_step {conn : Connection} {io : Io} {k : Nat} {calls : List Call} (state : conn.state = .proxyConnect)
    (part : ∀ sys, sendProxyConnect sys 0 conn io args.proxyHost.bytes args.proxyPort args.targetHost.bytes
      args.targetPort = ⟨0, { conn with bytesSent := k }, sys, calls⟩) (sys : Sys) :
    ∃ ret calls, dispatchState args sys 0 conn epollout io = ⟨ret, { conn with bytesSent := k }, sys, calls⟩ := by
  refine ⟨0, calls, ?_⟩
  rw [dispatchState, state]
  dsimp only
  rw [whenProxyConnect, if_pos (by decide), part]
  simp [state]

end Round

/-! ## The run -/

/-- Two bytes of the CONNECT request are counted as sent, and no cycle has ended. -/
structure Stuck (slot : Slot Nat) (sys : Sys) : Prop where
  alone : Alone slot.conn sys
  state : slot.conn.state = .proxyConnect
  sent : slot.conn.bytesSent = 2
  unended : slot.moves.countP Move.ends = 0

section Run

variable {args : Arguments} {request : HTTPRequest} {slot : Slot Nat} {sys : Sys}

theorem connectText_length_gt (host : List Byte) (port : Int) : 3 < (connectText host port).length := by
  have head : (text "CONNECT ").length = 8 := by decide
  simp only [connectText, List.length_append]
  omega

/-- What the handler of the next event leaves of a slot in `CONN_PROXY_CONNECT` that goes on sending. -/
theorem send_again (alone : Alone slot.conn sys) (state : slot.conn.state = .proxyConnect)
    (run : Run args request ⟨[slot], sys, .pass⟩) {io : Io} {k : Nat} {calls : List Call} (moved : k ≠ slot.conn.bytesSent)
    (part : ∀ sys, sendProxyConnect sys 0 slot.conn io args.proxyHost.bytes args.proxyPort args.targetHost.bytes
      args.targetPort = ⟨0, { slot.conn with bytesSent := k }, sys, calls⟩) :
    ∃ slot' sys', Run args request ⟨[slot'], sys', .pass⟩ ∧ Alone slot'.conn sys' ∧
      slot'.conn = { slot.conn with bytesSent := k } ∧
      slot'.moves.countP Move.ends = slot.moves.countP Move.ends ∧
      slot'.moves.countP Move.productive = slot.moves.countP Move.productive + 1 := by
  have waits : registration slot.conn.state = some (epollout ||| epollet) := by rw [state]; rfl
  have next := round alone waits run epollout io
  have kept : { slot.conn with bytesSent := k }.sockfd = slot.conn.sockfd := rfl
  obtain ⟨conn, moves, alone'⟩ := ready_alone alone (epollout ||| epollet) kept (tunnelling_step state part)
  refine ⟨_, _, next, alone', conn, ?_, ?_⟩
  · simp [moves, Move.ends, Move.finishes, Move.fails, state]
  · simp [moves, Move.productive, moved]

/-- **One byte forward and one byte back.** -/
theorem stuck_next (accepts : Accepts args.proxyHost.bytes args.proxyPort args.targetHost args.targetPort)
    (stuck : Stuck slot sys) (run : Run args request ⟨[slot], sys, .pass⟩) :
    ∃ slot' sys', Run args request ⟨[slot'], sys', .pass⟩ ∧ Stuck slot' sys' ∧
      slot.moves.countP Move.productive < slot'.moves.countP Move.productive := by
  obtain ⟨alone, state, sent, unended⟩ := stuck
  have long := connectText_length_gt args.targetHost.bytes args.targetPort
  have socket : 0 < slot.conn.sockfd := by rw [alone.socket]; decide
  have failed : ∀ sys, sendProxyConnect sys 0 slot.conn .retry args.proxyHost.bytes args.proxyPort
      args.targetHost.bytes args.targetPort = ⟨0, { slot.conn with bytesSent := slot.conn.bytesSent - 1 }, sys, _⟩ :=
    fun sys => sendProxyConnect_failed_later accepts sys 0 slot.conn .retry socket (by omega) (by omega) rfl
  obtain ⟨slot₁, sys₁, run₁, alone₁, conn₁, ends₁, moved₁⟩ := send_again alone state run (by omega) failed
  have state₁ : slot₁.conn.state = .proxyConnect := by rw [conn₁]; exact state
  have socket₁ : 0 < slot₁.conn.sockfd := by rw [alone₁.socket]; decide
  have sent₁ : slot₁.conn.bytesSent = 1 := by rw [conn₁]; simp [sent]
  have byte : ∀ sys, sendProxyConnect sys 0 slot₁.conn { Io.retry with send := .bytes 1 } args.proxyHost.bytes
      args.proxyPort args.targetHost.bytes args.targetPort =
        ⟨0, { slot₁.conn with bytesSent := slot₁.conn.bytesSent + 1 }, sys, _⟩ := fun sys =>
    (sendProxyConnect_bytes accepts sys 0 slot₁.conn { Io.retry with send := .bytes 1 } socket₁ (by omega) rfl
      Nat.one_pos).trans (if_neg (by omega))
  obtain ⟨slot₂, sys₂, run₂, alone₂, conn₂, ends₂, moved₂⟩ := send_again alone₁ state₁ run₁ (by omega) byte
  refine ⟨slot₂, sys₂, run₂, ⟨alone₂, ?_, ?_, ?_⟩, by omega⟩
  · rw [conn₂]
    exact state₁
  · rw [conn₂]
    simp [sent₁]
  · rw [ends₂, ends₁, unended]

/-- The only client has opened its socket. -/
theorem opened_alone (request : HTTPRequest) (secure : args.protocol = protocolHttps) (one : args.clients = 1)
    (accepts : Accepts args.proxyHost.bytes args.proxyPort args.targetHost args.targetPort) :
    ∃ slot sys, opened args request = ⟨[slot], sys, .pass⟩ ∧ Alone slot.conn sys ∧ slot.conn.state = .connecting ∧
      slot.conn.isHttps = true ∧ slot.conn.bytesSent = 0 ∧ slot.moves = [] := by
  have count : numConnections args = 1 := by rw [numConnections, one]; rfl
  have asked : createNonblockingSocket args.proxyHost.bytes args.proxyPort (some [⟨3, 0, 0⟩]) .initial =
      (3, { Sys.initial with opened := [3] }, [.getaddrinfo args.proxyHost.bytes args.proxyPort, .socket 3, .connect 3 0]) := by
    simp [createNonblockingSocket, WebBench.createNonblockingSocket, accepts.proxyPort, connectLoop, Sys.socket, Sys.initial]
  have allocated : ∀ conn, allocateSocket args .initial (some [⟨3, 0, 0⟩]) conn =
      ⟨1, { conn with sockfd := 3, state := .connecting }, { Sys.initial with opened := [3] },
        [.getaddrinfo args.proxyHost.bytes args.proxyPort, .socket 3, .connect 3 0]⟩ := by
    intro conn
    rw [allocateSocket, if_pos accepts.through, asked]
    rfl
  refine ⟨(driver.fresh args request .initial (some [⟨3, 0, 0⟩]) (.zero 0)).1, { Sys.initial with opened := [3] }, ?_⟩
  simp only [opened, count, openAll, Driver.fresh, driver, Int.natCast_zero, Int.add_zero, allocated]
  refine ⟨trivial, ⟨rfl, List.mem_singleton_self 3, rfl⟩, trivial, ?_, rfl, trivial⟩
  simp [initConnection, secure]

/-- A client whose connection is up and whose first `send` has taken two bytes. -/
theorem stuck_first (secure : args.protocol = protocolHttps) (one : args.clients = 1)
    (accepts : Accepts args.proxyHost.bytes args.proxyPort args.targetHost args.targetPort) :
    ∃ slot sys, Run args request ⟨[slot], sys, .pass⟩ ∧ Stuck slot sys := by
  have long := connectText_length_gt args.targetHost.bytes args.targetPort
  obtain ⟨slot, sys, table, alone, state, https, none, unmoved⟩ := opened_alone request secure one accepts
  have run : Run args request ⟨[slot], sys, .pass⟩ := table ▸ opened_run args request
  have waits : registration slot.conn.state = some (epollout ||| epollet) := by rw [state]; rfl
  let connected : Io := { Io.retry with getsockopt := 0 }
  have step : ∀ sys, ∃ ret calls, dispatchState args sys 0 slot.conn epollout connected =
      ⟨ret, { slot.conn with state := .proxyConnect }, sys, calls⟩ := by
    intro sys
    refine ⟨0, [.getsockopt slot.conn.sockfd], ?_⟩
    simp [dispatchState, state, whenConnecting, show anyBit epollout epollout = true by decide, connected, Io.retry,
      accepts.through, https]
  have kept : { slot.conn with state := ConnState.proxyConnect }.sockfd = slot.conn.sockfd := rfl
  have next := round alone waits run epollout connected
  obtain ⟨conn₁, moves₁, alone₁⟩ := ready_alone alone (epollout ||| epollet) kept step
  generalize driver.ready args _ 0 epollout connected slot = ready at next conn₁ moves₁ alone₁
  obtain ⟨slot₁, sys₁⟩ := ready
  dsimp only at next conn₁ moves₁ alone₁
  have state₁ : slot₁.conn.state = .proxyConnect := by rw [conn₁]
  have socket₁ : 0 < slot₁.conn.sockfd := by rw [alone₁.socket]; decide
  have sent₁ : slot₁.conn.bytesSent = 0 := by rw [conn₁]; exact none
  have bytes : ∀ sys, sendProxyConnect sys 0 slot₁.conn { Io.retry with send := .bytes 2 } args.proxyHost.bytes
      args.proxyPort args.targetHost.bytes args.targetPort =
        ⟨0, { slot₁.conn with bytesSent := slot₁.conn.bytesSent + 2 }, sys, _⟩ := fun sys =>
    (sendProxyConnect_bytes accepts sys 0 slot₁.conn { Io.retry with send := .bytes 2 } socket₁ (by omega) rfl
      Nat.two_pos).trans (if_neg (by omega))
  obtain ⟨slot₂, sys₂, run₂, alone₂, conn₂, ends₂, -⟩ := send_again alone₁ state₁ next (by omega) bytes
  refine ⟨slot₂, sys₂, run₂, ⟨alone₂, ?_, ?_, ?_⟩⟩
  · rw [conn₂]
    exact state₁
  · rw [conn₂]
    simp [sent₁]
  · rw [ends₂, moves₁, unmoved]
    simp [Move.ends, Move.finishes, Move.fails, state]

/-- **The CONNECT request may be sent for ever.** For all arguments with HTTPS and a
proxy, and any number of handler calls, there is a run of `bench_epoll` in which
that many calls have changed the only slot, and its first cycle has not ended. -/
theorem livelock (secure : args.protocol = protocolHttps) (one : args.clients = 1)
    (accepts : Accepts args.proxyHost.bytes args.proxyPort args.targetHost args.targetPort) (n : Nat) :
    ∃ w, Run args request w ∧ ∃ slot ∈ w.slots, slot.conn.state = .proxyConnect ∧
      slot.moves.countP Move.ends = 0 ∧ n ≤ slot.moves.countP Move.productive := by
  have runs : ∃ slot sys, Run args request ⟨[slot], sys, .pass⟩ ∧ Stuck slot sys ∧
      n ≤ slot.moves.countP Move.productive := by
    induction n with
    | zero =>
      obtain ⟨slot, sys, run, stuck⟩ := stuck_first secure one accepts
      exact ⟨slot, sys, run, stuck, Nat.zero_le _⟩
    | succ n ih =>
      obtain ⟨slot, sys, run, stuck, most⟩ := ih
      obtain ⟨slot', sys', run', stuck', more⟩ := stuck_next accepts stuck run
      exact ⟨slot', sys', run', stuck', by omega⟩
  obtain ⟨slot, sys, run, stuck, most⟩ := runs
  exact ⟨_, run, slot, List.mem_singleton_self slot, stuck.state, stuck.unended, most⟩

/-- A client of a proxy that makes a hundred handler calls without leaving `CONN_PROXY_CONNECT`. -/
theorem livelock_hundred :
    ∃ w, Run proxyArguments .zero w ∧ ∃ slot ∈ w.slots, slot.conn.state = .proxyConnect ∧
      slot.moves.countP Move.ends = 0 ∧ 100 ≤ slot.moves.countP Move.productive :=
  livelock rfl rfl ⟨by decide, by decide, by decide, by decide⟩ 100

end Run

end WebBench.Epoll
