import WebBench.IntRuns

/-!
# A client that is served again and again

Four iterations of `bench_poll` take a client through one cycle: its socket is
connected, the request goes out, a response that fills the buffer comes in, and
the next pass connects anew. A run can repeat them as often as time allows.
-/

namespace WebBench.Poll
set_option autoImplicit false
open CLib

variable {args : Arguments} {request : HTTPRequest}

/-! ## The response -/

/-- A response of `RECV_BUFFER_SIZE - 1` bytes. -/
def page : List Byte := text "HTTP/1.1 200 OK\r\n\r\n" ++ List.replicate 8076 97

/-- The page leaves room for the terminator only. -/
theorem page_length : page.length = 8095 := by
  have line : (text "HTTP/1.1 200 OK\r\n\r\n").length = 19 := rfl
  rw [page, List.length_append, line, List.length_replicate]

/-- No byte of it ends the string. -/
theorem page_noNul : ∀ b ∈ page, b ≠ 0 := by
  have line : ∀ b ∈ text "HTTP/1.1 200 OK\r\n\r\n", b ≠ 0 := by simp [text]
  exact append_noNul line (replicate_noNul 8076 (by decide))

theorem page_headers : strstr page headerEnd :=
  ⟨text "HTTP/1.1 200 OK", List.replicate 8076 97, by rw [page]; congr 1⟩

/-- The page read into an empty buffer, as a string. -/
theorem cstr_page {buffer : CharArray recvBufferSize} (empty : buffer = .zeros _) :
    cstr ((buffer.store 0 page).setNul 8095).toList = page := by
  have holds : buffer.toList = CharArray.padded recvBufferSize [] := by rw [empty, CharArray.zeros_toList]
  have fits : ([] : List Byte).length + page.length ≤ recvBufferSize := by rw [page_length]; decide
  have stored : (buffer.store 0 page).toList = CharArray.padded recvBufferSize page :=
    CharArray.store_padded holds fits
  rw [CharArray.setNul_padded stored page_length.symm, CharArray.cstr_padded]
  exact cstr_of_noNul page_noNul

/-! ## The handler -/

/-- The socket is connected, the request of `len` bytes goes out, and a page comes in. -/
def servedIo (len : Nat) : Io := { Io.retry with getsockopt := 0, send := .bytes len, read := .bytes page }

section Handler
variable (args : Arguments) (sys : Sys) (errno : Int) {conn : Connection}

/-- A plain connection that is up goes on to sending. -/
theorem connecting_conn (len : Nat) (state : conn.state = .connecting) (plain : conn.isHttps = false) :
    (handleReadyConnection args sys errno conn pollout (servedIo len)).conn = { conn with state := .sending } := by
  have fine : anyBit pollout (pollerr ||| pollhup ||| pollnval) = false := by decide
  have ready : anyBit pollout pollout = true := by decide
  simp [handleReadyConnection, fine, state, whenConnecting, ready, plain, servedIo, Io.retry]

/-- The request goes out in one piece, and the client waits for the response. -/
theorem sending_conn (state : conn.state = .sending) (plain : conn.isHttps = false) (waits : conn.forceFlag = 0)
    (unsent : conn.bytesSent = 0) (short : conn.requestLen < 2 ^ 31) :
    ∃ sent, (handleReadyConnection args sys errno conn pollout (servedIo conn.requestLen)).conn =
      { conn with state := .receiving, bytesSent := sent } := by
  have fine : anyBit pollout (pollerr ||| pollhup ||| pollnval) = false := by decide
  have ready : anyBit pollout pollout = true := by decide
  have remaining : intOfSize (sizeSub conn.requestLen conn.bytesSent) = conn.requestLen := by
    rw [unsent, sizeSub_of_le (Nat.zero_le _) (by omega), Nat.sub_zero, intOfSize_of_lt short]
  have next : conn.afterSending = .receiving := if_neg (not_not.mpr waits)
  by_cases none : conn.requestLen = 0
  · refine ⟨conn.bytesSent, ?_⟩
    simp only [handleReadyConnection, fine, state, whenSending, ready, remaining, if_true, Bool.false_eq_true, if_false]
    rw [if_pos (by omega), next]
  · have written : (servedIo conn.requestLen).send.ret conn.requestLen = conn.requestLen := by
      simp [servedIo, Taken.ret]
    have total : sizeAdd conn.bytesSent (sizeOfInt conn.requestLen) = conn.requestLen := by
      rw [unsent, sizeOfInt_natCast (by omega), sizeAdd_of_lt (by omega), Nat.zero_add]
    refine ⟨conn.requestLen, ?_⟩
    simp only [handleReadyConnection, fine, state, whenSending, ready, remaining, plain, Int.toNat_natCast, written,
      total, if_true, Bool.false_eq_true, if_false]
    rw [if_neg (by omega), if_pos (by omega), if_pos le_rfl]
    simp only [ConnectionOf.afterSending, waits]
    rfl

/-- The page comes in whole and ends the cycle. -/
theorem receiving_conn (len : Nat) (state : conn.state = .receiving) (plain : conn.isHttps = false)
    (unread : conn.bytesReceived = 0) (empty : conn.receivedResponse = .zeros _) :
    (handleReadyConnection args sys errno conn pollin (servedIo len)).conn =
      { conn with
        state := .completed
        speed := conn.speed + 1
        bytes := conn.bytes + (8095 : Nat)
        bytesReceived := 8095
        receivedResponse := (conn.receivedResponse.store 0 page).setNul 8095 } := by
  have fine : anyBit pollin (pollerr ||| pollhup ||| pollnval) = false := by decide
  have ready : anyBit pollin pollin = true := by decide
  have remaining : intOfSize (sizeSub (sizeSub recvBufferSize conn.bytesReceived) 1) = 8095 := by
    rw [unread]
    decide
  have read : (servedIo len).read = .bytes page := rfl
  have chunk : Given.chunk 8095 (.bytes page) = page := List.take_of_length_le page_length.le
  have count : Given.ret 8095 (.bytes page) = 8095 := by
    show ((page.take 8095).length : Int) = 8095
    rw [List.take_of_length_le page_length.le, page_length]
    rfl
  have total : sizeAdd conn.bytesReceived (sizeOfInt 8095) = 8095 := by
    rw [unread]
    decide
  have whole : strstr (cstr ((conn.receivedResponse.store conn.bytesReceived page).setNul 8095).toList) headerEnd := by
    rw [unread, cstr_page empty]
    exact page_headers
  have room : (8095 : Int).toNat = 8095 := rfl
  simp only [handleReadyConnection, fine, state, whenReceiving, ready, remaining, plain, room, read, chunk, count,
    total, if_true, Bool.false_eq_true, if_false]
  rw [if_neg (by decide), if_pos (by decide), if_pos whole, unread]

end Handler

/-! ## One cycle of the client -/

/-- The client after `n` pages. -/
structure Served (state : ConnState) (n : Nat) (slot : Slot Nat) : Prop where
  state : slot.conn.state = state
  sockfd : slot.conn.sockfd = 3
  plain : slot.conn.isHttps = false
  waits : slot.conn.forceFlag = 0
  short : slot.conn.requestLen < 2 ^ 31
  failures : failures slot.moves = 0
  responses : responses slot.moves = n
  sizes : responseSizes sizeOfCount slot.moves = 8095 * n

/-- Nothing has gone out or come in during this cycle. -/
structure Unused (conn : Connection) : Prop where
  sent : conn.bytesSent = 0
  received : conn.bytesReceived = 0
  buffer : conn.receivedResponse = .zeros _

namespace Served

variable {state : ConnState} {n : Nat} {slot : Slot Nat}

/-- Storing the counters in `int` fields makes no difference to it. -/
theorem wrapped (served : Served state n slot) : Served state n slot.wrapped := by
  obtain ⟨state, sockfd, plain, waits, short, failures, responses, sizes⟩ := served
  exact ⟨state, sockfd, plain, waits, short, failures, responses, sizes⟩

/-- A handler call that neither fails nor ends the cycle. -/
theorem goesOn {conn' : Connection} {cycle : List Call} {next : ConnState} (served : Served state n slot)
    (live : next ≠ .error) (going : next ≠ .completed) (now : conn'.state = next)
    (same : (conn'.sockfd, conn'.isHttps, conn'.forceFlag, conn'.requestLen) =
      (slot.conn.sockfd, slot.conn.isHttps, slot.conn.forceFlag, slot.conn.requestLen)) :
    Served next n ⟨conn', cycle, slot.moves ++ [⟨slot.conn, conn'⟩]⟩ := by
  simp only [Prod.mk.injEq] at same
  obtain ⟨sockfd, plain, waits, short⟩ := same
  have fails : Move.fails ⟨slot.conn, conn'⟩ = false := by simp [Move.fails, now, live]
  have completes : Move.completes ⟨slot.conn, conn'⟩ = false := by simp [Move.completes, now, going]
  constructor
  · exact now
  · exact sockfd.trans served.sockfd
  · exact plain.trans served.plain
  · exact waits.trans served.waits
  · exact short ▸ served.short
  · simp [failures_concat, fails, served.failures]
  · simp [responses_concat, completes, served.responses]
  · simp [responseSizes_concat, completes, served.sizes]

/-- The client that is served connects. -/
theorem connects (served : Served .connecting n slot) (unused : Unused slot.conn) (args : Arguments) (sys : Sys) :
    Served .sending n (driver.ready args sys 0 pollout (servedIo slot.conn.requestLen) slot).1 ∧
      Unused (driver.ready args sys 0 pollout (servedIo slot.conn.requestLen) slot).1.conn := by
  have conn := connecting_conn args sys 0 slot.conn.requestLen served.state served.plain
  simp only [Driver.ready, driver, conn]
  exact ⟨served.goesOn (by decide) (by decide) rfl rfl, unused.sent, unused.received, unused.buffer⟩

/-- It sends its request. -/
theorem sends (served : Served .sending n slot) (unused : Unused slot.conn) (args : Arguments) (sys : Sys) :
    let sent := (driver.ready args sys 0 pollout (servedIo slot.conn.requestLen) slot).1
    Served .receiving n sent ∧ sent.conn.bytesReceived = 0 ∧ sent.conn.receivedResponse = .zeros _ := by
  obtain ⟨sent, conn⟩ := sending_conn args sys 0 served.state served.plain served.waits unused.sent
    served.short
  simp only [Driver.ready, driver, conn]
  exact ⟨served.goesOn (by decide) (by decide) rfl rfl, unused.received, unused.buffer⟩

/-- It receives one page more. -/
theorem receives (served : Served .receiving n slot) (unread : slot.conn.bytesReceived = 0)
    (empty : slot.conn.receivedResponse = .zeros _) (args : Arguments) (sys : Sys) (len : Nat) :
    Served .completed (n + 1) (driver.ready args sys 0 pollin (servedIo len) slot).1 := by
  have conn := receiving_conn args sys 0 len served.state served.plain unread empty
  simp only [Driver.ready, driver, conn]
  constructor
  · rfl
  · exact served.sockfd
  · exact served.plain
  · exact served.waits
  · exact served.short
  · simp [failures_concat, Move.fails, served.failures]
  · simp [responses_concat, Move.completes, served.state, served.responses]
  · simp only [responseSizes_concat, Move.completes, served.state, served.sizes, sizeOfCount]
    push_cast
    simp
    omega

end Served

/-! ## Connecting -/

/-- One client that talks HTTP to the target itself and waits for the responses. -/
structure Plain (args : Arguments) : Prop where
  one : numConnections args = 1
  plain : (args.protocol == protocolHttps) = false
  waits : args.force = 0
  direct : needConnectProxy args = false
  port : 0 < args.targetPort ∧ args.targetPort ≤ 65535

/-- The target's only address, on descriptor 3. -/
def address : Option (List Address) := some [⟨3, 0, 0⟩]

/-- Whenever descriptor 3 is free, the target is on it. -/
theorem allocateSocket_three (ok : Plain args) {sys : Sys} (free : 3 ∉ sys.opened) (conn : Connection) :
    (allocateSocket args sys address conn).conn = { conn with sockfd := 3, state := .connecting } := by
  have legal : (args.targetPort ≤ 0 || 65535 < args.targetPort) = false := by
    simp [not_le.mpr ok.port.1, not_lt.mpr ok.port.2]
  simp [allocateSocket, ok.direct, createNonblockingSocket, WebBench.createNonblockingSocket, legal, address,
    connectLoop, Sys.socket, free]

/-- At the start no page has come. -/
theorem fresh_served (ok : Plain args) (request : HTTPRequest) (raw : Connection) :
    Served .connecting 0 (driver.fresh args request .initial address raw).1 ∧
      Unused (driver.fresh args request .initial address raw).1.conn := by
  have free : 3 ∉ Sys.initial.opened := List.not_mem_nil
  have short := request.body.fits
  simp only [Driver.fresh, driver, allocateSocket_three ok free]
  refine ⟨⟨rfl, rfl, ok.plain, ok.waits, ?_, rfl, rfl, rfl⟩, rfl, rfl, rfl⟩
  show request.body.bytes.length < 2 ^ 31
  unfold requestBodySize at short
  omega

/-- The next cycle starts with the pages of those before. -/
theorem recycle_served (ok : Plain args) {n : Nat} {slot : Slot Nat} (served : Served .completed n slot) (sys : Sys) :
    Served .connecting n (driver.recycle args sys address slot).1 ∧
      Unused (driver.recycle args sys address slot).1.conn := by
  have free : 3 ∉ (cleanupConnection slot.conn sys).2.opened := by
    simp [cleanupConnection, served.sockfd, Sys.close]
  simp only [Driver.recycle, driver, allocateSocket_three ok free]
  exact ⟨⟨rfl, rfl, served.plain, served.waits, served.short, served.failures, served.responses, served.sizes⟩,
    rfl, rfl, rfl⟩

/-! ## Runs of one client -/

section OneSlot
variable {slot : Slot Nat} {sys : Sys}

/-- The pass registers a slot that waits. -/
theorem setupPass_waiting {events : BitVec 16} (args : Arguments) (sys : Sys) (addresses : Nat → Option (List Address))
    (asks : registration 1 slot.conn.state = some (events, 1)) (socket : slot.conn.sockfd = 3) :
    setupPass args addresses ⟨[slot], sys⟩ = ⟨1, [slot], sys, [⟨3, events, 0⟩], [128#8]⟩ := by
  have marked : setBitmap charSigned (ushort 0) [0#8] 1 = (0, [128#8]) := by decide
  simp [setupPass, setupConnectionFdsets, setupLoop, bitmapSizeOf, asks, socket, marked, Setup.after]

/-- The pass opens the next connection of a slot that has completed one. -/
theorem setupPass_completed (addresses : Nat → Option (List Address)) (completed : slot.conn.state = .completed)
    (socket : slot.conn.sockfd = 3) :
    (setupPass args addresses ⟨[slot], sys⟩).slots = [(driver.recycle args sys (addresses 0) slot).1] := by
  simp [setupPass, setupConnectionFdsets, setupLoop, bitmapSizeOf, registration, completed, socket, Setup.after]

/-- The dispatch loop handles the one entry. -/
theorem dispatchPass_one (answers : Nat → Answers) (revents : Nat → BitVec 16) (fd : PollFd) :
    (dispatchPass args answers revents ⟨1, [slot], sys, [fd], [128#8]⟩).slots =
      [(driver.ready args sys (answers 0).errno (revents 0) (answers 0).io slot).1] := by
  have marked : getBitmap charSigned (ushort 0) [128#8] 1 ≠ 0 := by decide
  simp [dispatchPass, dispatch, bitmapSizeOf, marked, written]

end OneSlot

/-- An iteration that wakes the client. -/
theorem IntRun.wakes {w : World} {slot : Slot Nat} {events : BitVec 16} (run : IntRun args request w)
    (alone : w.slots = [slot]) (asks : registration 1 slot.conn.state = some (events, 1))
    (socket : slot.conn.sockfd = 3) (revents : BitVec 16) (io : Io) :
    ∃ w', IntRun args request w' ∧ w'.slots = [(driver.ready args w.sys 0 revents io slot).1.wrapped] := by
  obtain ⟨slots, sys⟩ := w
  obtain rfl : slots = [slot] := alone
  have pass := setupPass_waiting args sys (fun _ => none) asks socket
  refine ⟨_, run.next (.wrap (.ready _ (fun _ => none) (fun _ => ⟨0, io⟩) (fun _ => revents) ?_)), ?_⟩
  · rw [pass]
    exact Int.zero_lt_one
  · show (dispatchPass args _ _ _).slots.map _ = _
    rw [pass, dispatchPass_one]
    rfl

/-- An iteration that connects the client anew. -/
theorem IntRun.reconnects {w : World} {slot : Slot Nat} (run : IntRun args request w) (alone : w.slots = [slot])
    (completed : slot.conn.state = .completed) (socket : slot.conn.sockfd = 3) :
    ∃ w', IntRun args request w' ∧ w'.slots = [(driver.recycle args w.sys address slot).1.wrapped] := by
  obtain ⟨slots, sys⟩ := w
  obtain rfl : slots = [slot] := alone
  refine ⟨_, run.next (.wrap (.quiet _ fun _ => address)), ?_⟩
  show (setupPass args _ _).slots.map _ = _
  rw [setupPass_completed _ completed socket]
  rfl

/-- **One cycle.** Four iterations serve the client one more page. -/
theorem IntRun.cycle (ok : Plain args) {w : World} {slot : Slot Nat} {n : Nat} (run : IntRun args request w)
    (alone : w.slots = [slot]) (served : Served .connecting n slot) (unused : Unused slot.conn) :
    ∃ w' slot', IntRun args request w' ∧ w'.slots = [slot'] ∧ Served .connecting (n + 1) slot' ∧
      Unused slot'.conn := by
  have asks : ∀ {state : ConnState} {events : BitVec 16} {slot : Slot Nat} {n : Nat}, Served state n slot →
      registration 1 state = some (events, 1) → registration 1 slot.conn.state = some (events, 1) :=
    fun served asks => served.state ▸ asks
  obtain ⟨connected, unused⟩ := served.connects unused args w.sys
  obtain ⟨w, run, alone⟩ := run.wakes alone (asks served rfl) served.sockfd pollout (servedIo slot.conn.requestLen)
  obtain ⟨requested, unread, empty⟩ := connected.wrapped.sends ⟨unused.sent, unused.received, unused.buffer⟩ args
    w.sys
  obtain ⟨w, run, alone⟩ := run.wakes alone (asks connected.wrapped rfl) connected.wrapped.sockfd pollout (servedIo _)
  have completed := requested.wrapped.receives unread empty args w.sys 0
  obtain ⟨w, run, alone⟩ := run.wakes alone (asks requested.wrapped rfl) requested.wrapped.sockfd pollin (servedIo 0)
  obtain ⟨again, unused⟩ := recycle_served ok completed.wrapped w.sys
  obtain ⟨w, run, alone⟩ := run.reconnects alone completed.wrapped.state completed.wrapped.sockfd
  exact ⟨w, _, run, alone, again.wrapped, unused.sent, unused.received, unused.buffer⟩

/-- **Any number of cycles.** -/
theorem served_run (ok : Plain args) (request : HTTPRequest) (n : Nat) :
    ∃ w slot, IntRun args request w ∧ w.slots = [slot] ∧ Served .connecting n slot ∧ Unused slot.conn := by
  induction n with
  | zero =>
    have first : Init args request _ := .openAll (fun _ => address) fun _ => .zero 0
    obtain ⟨served, unused⟩ := fresh_served ok request (.zero 0)
    refine ⟨_, _, .start first, ?_, served, unused⟩
    rw [ok.one]
    rfl
  | succ n ih =>
    obtain ⟨w, slot, run, alone, served, unused⟩ := ih
    exact run.cycle ok alone served unused

end WebBench.Poll
