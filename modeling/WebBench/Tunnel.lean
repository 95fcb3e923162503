import WebBench.Record
import WebBench.Epoll.Registration
import WebBench.Poll.Engine

/-!
# Where the TLS stream starts

`handle_proxy_response` returns 1 at the first `recv` after which the status
line has arrived, and the slot starts its handshake there. `tlsStart` runs the
handler on a stream that the network has cut into pieces and says how much of
the stream has been read by then.
-/

namespace WebBench
set_option autoImplicit false
open CLib

/-- A reply that opens the tunnel: the status line, header lines and a blank line. -/
structure ProxyReply where
  headers : List (List Byte)
  lines : ∀ line ∈ headers, line ≠ [] ∧ ¬ strstr line crlf

namespace ProxyReply

def bytes (reply : ProxyReply) : List Byte :=
  established ++ crlf ++ reply.headers.flatMap (· ++ crlf) ++ crlf

/-- The stream starts with the status line. -/
theorem established_prefix (reply : ProxyReply) (trailing : List Byte) : established <+: reply.bytes ++ trailing := by
  simp only [bytes, List.append_assoc]
  exact List.prefix_append _ _

/-- The reply goes on behind it. -/
theorem established_lt (reply : ProxyReply) : established.length < reply.bytes.length := by
  have line : crlf.length = 2 := by decide
  simp only [bytes, List.length_append]
  omega

end ProxyReply

/-! ## The pieces of a stream -/

/-- One run of the handler: the shared state, `errno`, the reported mask, the
answers of the other calls, and how many bytes `recv` finds, or `send` has room
for; `none` is `EAGAIN`. -/
structure Wake (ρ : Type) where
  sys : Sys
  errno : Int
  mask : ρ
  io : Io
  arrived : Option Nat

variable {ρ : Type}

/-- The answers when `cut` bytes of the stream have been read before. -/
def Wake.answers (wake : Wake ρ) (stream : List Byte) (cut : Nat) : Io :=
  match wake.arrived with
  | some n => { wake.io with recv := .bytes ((stream.drop cut).take n) }
  | none => { wake.io with recv := .failed, errno := eagain }

/-- The handler runs of a slot that waits for the proxy's reply: how much of the
stream has been read when it goes to `CONN_TLS_HANDSHAKE`. -/
def Driver.tlsStart (d : Driver Nat ρ) (args : Arguments) (stream : List Byte) :
    Connection → Nat → List (Wake ρ) → Option Nat
  | _, _, [] => none
  | conn, cut, wake :: rest =>
    let o := d.handleReadyConnection args wake.sys wake.errno conn wake.mask (wake.answers stream cut)
    let cut := cut + (replyBytes o.calls).length
    if o.conn.state = .tlsHandshake then some cut
    else if o.conn.state = .proxyResponse then d.tlsStart args stream o.conn cut rest
    else none

/-- The slot waits for the proxy's reply and holds what has come of it. -/
structure Holding (conn : Connection) (got : List Byte) : Prop where
  state : conn.state = .proxyResponse
  socket : 0 < conn.sockfd
  received : conn.bytesReceived = got.length
  room : got.length < recvBufferSize
  buffer : conn.receivedResponse.toList = CharArray.padded recvBufferSize got

/-! ## One run of the handler -/

/-- `recv` finds nothing. -/
theorem handleProxyResponse_retry {noSocket : Int → Bool} {conn : Connection} {got : List Byte} (sys : Sys)
    (errno : Int) {io : Io} (holds : Holding conn got) (socket : noSocket conn.sockfd = false)
    (left : got.length < recvBufferSize - 1) (failed : io.recv = .failed) (again : io.errno = eagain) :
    handleProxyResponse noSocket sys errno conn io =
      ⟨0, conn, sys, [.recv conn.sockfd got.length (recvBufferSize - 1 - got.length) []]⟩ := by
  have room := room_eq holds.room
  have some : recvBufferSize - 1 - got.length ≠ 0 := by omega
  have ret : ∀ n, io.recv.ret n = -1 := fun _ => by rw [failed]; rfl
  have chunk : ∀ n, io.recv.chunk n = [] := fun _ => by rw [failed]; rfl
  unfold handleProxyResponse
  simp only [socket, Bool.false_eq_true, if_false, holds.received, room, some, ret, chunk]
  rw [if_neg (show ¬ (-1 : Int) > 0 by decide), if_pos (show tryAgain (errnoAfter (-1) errno io.errno) = true by rw [again]; rfl)]

/-- `recv` finds `data`. -/
theorem handleProxyResponse_chunk {noSocket : Int → Bool} {conn : Connection} {got data : List Byte} (sys : Sys)
    (errno : Int) {io : Io} (holds : Holding conn got) (socket : noSocket conn.sockfd = false)
    (left : got.length < recvBufferSize - 1) (found : io.recv = .bytes data) (some : data ≠ []) :
    let chunk := data.take (recvBufferSize - 1 - got.length)
    let calls := [Call.recv conn.sockfd got.length (recvBufferSize - 1 - got.length) chunk]
    ∃ buffer : CharArray recvBufferSize, buffer.toList = CharArray.padded recvBufferSize (got ++ chunk) ∧
      handleProxyResponse noSocket sys errno conn io =
        if strstr (cstr (got ++ chunk)) established then
          ⟨1, { conn with receivedResponse := .zeros _, bytesReceived := 0 }, sys, calls⟩
        else ⟨0, { conn with receivedResponse := buffer, bytesReceived := (got ++ chunk).length }, sys, calls⟩ := by
  intro chunk calls
  have room := room_eq holds.room
  have more : recvBufferSize - 1 - got.length ≠ 0 := by omega
  have size : recvBufferSize = 8096 := rfl
  have ret : io.recv.ret (recvBufferSize - 1 - got.length) = chunk.length := by rw [found]; rfl
  have taken : io.recv.chunk (recvBufferSize - 1 - got.length) = chunk := by rw [found]; rfl
  have short : chunk.length ≤ recvBufferSize - 1 - got.length := List.length_take_le _ _
  have positive : 0 < chunk.length := by
    have := List.length_pos_of_ne_nil some
    simp only [chunk, List.length_take]
    omega
  have total : sizeAdd got.length (sizeOfInt chunk.length) = got.length + chunk.length := by
    rw [sizeOfInt_natCast (by omega), sizeAdd_of_lt (by omega)]
  have stored := store_received holds.buffer (show got.length + chunk.length < recvBufferSize by omega)
  refine ⟨_, stored, ?_⟩
  unfold handleProxyResponse
  simp only [socket, Bool.false_eq_true, if_false, holds.received, room, more, ret, taken, total, stored,
    CharArray.cstr_padded]
  rw [if_pos (show (chunk.length : Int) > 0 by omega), if_neg (show ¬ recvBufferSize ≤ got.length + chunk.length by omega),
    List.length_append]

/-- The set-up of TLS reads nothing of the stream. -/
theorem setupSslContext_reply (sys : Sys) (io : Io) (conn : Connection) :
    replyBytes (setupSslContext sys io conn).calls = [] := by
  have context : replyBytes (getGlobalSslCtx sys io).2.2 = [] := by
    unfold getGlobalSslCtx
    split
    · rfl
    · rfl
  unfold setupSslContext
  generalize getGlobalSslCtx sys io = got at context ⊢
  obtain ⟨ctx, sys', calls⟩ := got
  cases ctx with
  | none => exact context
  | some ctx =>
    dsimp only at context ⊢
    generalize sys'.sslNew io.sslNew = made
    obtain ⟨ssl, sys''⟩ := made
    cases ssl with
    | none => simp [context, Call.reply]
    | some ssl =>
      dsimp only
      split
      · simp [context, Call.reply]
      · simp [context, Call.reply]

/-- What a run of the handler does with a piece of the reply. -/
structure Handled (conn : Connection) (got chunk : List Byte) (o : Outcome Nat) : Prop where
  reply : replyBytes o.calls = chunk
  announced : strstr (cstr (got ++ chunk)) established → o.conn.state = .tlsHandshake
  waiting : ¬ strstr (cstr (got ++ chunk)) established →
    Holding o.conn (got ++ chunk) ∧ o.conn.sockfd = conn.sockfd

section Reaction

variable {conn : Connection} {got data : List Byte} {noSocket : Int → Bool} (sys : Sys) (errno : Int) {io : Io}

/-- The handlers' reaction to a `recv` that finds something. -/
theorem reply_handled (holds : Holding conn got) (socket : noSocket conn.sockfd = false)
    (left : got.length < recvBufferSize - 1) (found : io.recv = .bytes data) (some : data ≠ []) :
    let recv := handleProxyResponse noSocket sys errno conn io
    let calls := recv.calls ++ [.proxyReply recv.ret]
    Handled conn got (data.take (recvBufferSize - 1 - got.length))
      (if recv.ret = 1 then
        let setup := setupSslContext recv.sys io recv.conn
        ⟨0, { setup.conn with state := .tlsHandshake }, setup.sys, calls ++ setup.calls⟩
      else if recv.ret = 0 then ⟨0, recv.conn, recv.sys, calls⟩
      else ⟨0, recv.conn.toError, recv.sys, calls⟩) := by
  obtain ⟨buffer, stored, result⟩ := handleProxyResponse_chunk sys errno holds socket left found some
  dsimp only at result ⊢
  rw [result]
  by_cases phrase : strstr (cstr (got ++ data.take (recvBufferSize - 1 - got.length))) established
  · rw [if_pos phrase, if_pos rfl]
    refine ⟨?_, fun _ => rfl, fun none => absurd phrase none⟩
    simp [setupSslContext_reply, Call.reply]
  · rw [if_neg phrase, if_neg (show ¬ (0 : Int) = 1 by decide), if_pos rfl]
    refine ⟨by simp [Call.reply], fun some => absurd some phrase, fun _ => ⟨?_, rfl⟩⟩
    have short : (data.take (recvBufferSize - 1 - got.length)).length ≤ recvBufferSize - 1 - got.length :=
      List.length_take_le _ _
    exact {
      state := holds.state
      socket := holds.socket
      received := rfl
      room := by rw [List.length_append]; omega
      buffer := stored }

/-- The handlers' reaction to a `recv` that finds nothing. -/
theorem retry_handled (holds : Holding conn got) (socket : noSocket conn.sockfd = false)
    (left : got.length < recvBufferSize - 1) (failed : io.recv = .failed) (again : io.errno = eagain) :
    let recv := handleProxyResponse noSocket sys errno conn io
    let calls := recv.calls ++ [.proxyReply recv.ret]
    let o : Outcome Nat :=
      if recv.ret = 1 then
        let setup := setupSslContext recv.sys io recv.conn
        ⟨0, { setup.conn with state := .tlsHandshake }, setup.sys, calls ++ setup.calls⟩
      else if recv.ret = 0 then ⟨0, recv.conn, recv.sys, calls⟩
      else ⟨0, recv.conn.toError, recv.sys, calls⟩
    o.conn = conn ∧ replyBytes o.calls = [] := by
  rw [handleProxyResponse_retry sys errno holds socket left failed again]
  exact ⟨rfl, rfl⟩

end Reaction

/-- What an engine's handler must do with a slot that waits for the proxy's
reply, in a run it is `ready` for. -/
structure Driver.Listens (d : Driver Nat ρ) (args : Arguments) (ready : Int → Wake ρ → Prop) : Prop where
  retry : ∀ conn got wake io, Holding conn got → ready conn.sockfd wake → got.length < recvBufferSize - 1 →
    io.recv = .failed → io.errno = eagain →
    (d.handleReadyConnection args wake.sys wake.errno conn wake.mask io).conn = conn ∧
      replyBytes (d.handleReadyConnection args wake.sys wake.errno conn wake.mask io).calls = []
  chunk : ∀ conn got wake io data, Holding conn got → ready conn.sockfd wake → got.length < recvBufferSize - 1 →
    io.recv = .bytes data → data ≠ [] →
    Handled conn got (data.take (recvBufferSize - 1 - got.length))
      (d.handleReadyConnection args wake.sys wake.errno conn wake.mask io)

/-- `poll` reports data and no error. -/
def Poll.Readable (_sockfd : Int) (wake : Wake (BitVec 16)) : Prop :=
  anyBit wake.mask pollin = true ∧ anyBit wake.mask (pollerr ||| pollhup ||| pollnval) = false

/-- `epoll_wait` reports data and no error, and the descriptor is in the epoll instance. -/
def Epoll.Readable (sockfd : Int) (wake : Wake (BitVec 32)) : Prop :=
  anyBit wake.mask epollin = true ∧ anyBit wake.mask (epollerr ||| epollhup) = false ∧
    (wake.sys.epollDel sockfd).1 ≠ -1

/-- `bench_poll` deals with a piece as it should. -/
theorem Poll.listens (args : Arguments) : Poll.driver.Listens args Poll.Readable where
  retry := by
    intro conn got wake io holds ready left failed again
    have state := holds.state
    have socket := holds.socket
    simp only [Poll.driver, Poll.handleReadyConnection, ready.2, Bool.false_eq_true, if_false, state,
      Poll.whenProxyResponse, ready.1, if_true]
    exact retry_handled _ _ holds (decide_eq_false (by omega)) left failed again
  chunk := by
    intro conn got wake io data holds ready left found some
    have state := holds.state
    have socket := holds.socket
    simp only [Poll.driver, Poll.handleReadyConnection, ready.2, Bool.false_eq_true, if_false, state,
      Poll.whenProxyResponse, ready.1, if_true]
    exact reply_handled _ _ holds (decide_eq_false (by omega)) left found some

/-- So does `bench_epoll`. -/
theorem Epoll.listens (args : Arguments) : Epoll.driver.Listens args Epoll.Readable where
  retry := by
    intro conn got wake io holds ready left failed again
    have state := holds.state
    have socket := holds.socket
    simp only [Epoll.driver, Epoll.handleReadyConnection, ready.2.1, ready.2.2, Bool.false_eq_true, if_false, state,
      Epoll.dispatchState, Epoll.whenProxyResponse, ready.1, if_true]
    exact retry_handled _ _ holds (decide_eq_false (by omega)) left failed again
  chunk := by
    intro conn got wake io data holds ready left found some
    have state := holds.state
    have socket := holds.socket
    simp only [Epoll.driver, Epoll.handleReadyConnection, ready.2.1, ready.2.2, Bool.false_eq_true, if_false, state,
      Epoll.dispatchState, Epoll.whenProxyResponse, ready.1, if_true]
    exact reply_handled _ _ holds (decide_eq_false (by omega)) left found some

/-! ## The announcement -/

theorem established_length : established.length = 35 := by decide

theorem established_noNul : ∀ b ∈ established, b ≠ 0 := by
  have data : established.all (· != 0) = true := by decide
  exact fun b member => bne_iff_ne.mp (List.all_eq_true.mp data b member)

/-- The C string of data that starts with a text without NUL. -/
theorem cstr_append_of_noNul {data : List Byte} (noNul : ∀ b ∈ data, b ≠ 0) (rest : List Byte) :
    cstr (data ++ rest) = data ++ cstr rest := by
  induction data with
  | nil => rfl
  | cons b data ih =>
    rw [List.cons_append, cstr_cons (noNul b List.mem_cons_self), ih fun b member => noNul b (List.mem_cons_of_mem _ member)]
    rfl

theorem cstr_length_le (data : List Byte) : (cstr data).length ≤ data.length :=
  (List.takeWhile_prefix _).length_le

/-- The status line is found once it has arrived whole. -/
theorem strstr_established_iff {stream : List Byte} (starts : established <+: stream) (total : Nat) :
    strstr (cstr (stream.take total)) established ↔ established.length ≤ total := by
  constructor
  · intro found
    have fits := found.length_le.trans (cstr_length_le _)
    rw [List.length_take] at fits
    omega
  · intro whole
    obtain ⟨rest, rfl⟩ := starts
    obtain ⟨more, rfl⟩ := Nat.exists_eq_add_of_le whole
    rw [List.take_length_add_append, cstr_append_of_noNul established_noNul]
    exact (List.prefix_append _ _).isInfix

/-- Where the first `recv` that completes the status line leaves off, after
`cut` bytes: it takes what is there, up to the room left in the buffer. -/
def announcedAt (whole : Nat) : Nat → List (Option Nat) → Option Nat
  | _, [] => none
  | cut, none :: rest => announcedAt whole cut rest
  | cut, some n :: rest =>
    let total := min (cut + n) (min (recvBufferSize - 1) whole)
    if established.length ≤ total then some total else announcedAt whole total rest

/-- **The handshake starts at the announcement.** -/
theorem tlsStart_eq_announcedAt {d : Driver Nat ρ} {args : Arguments} {ready : Int → Wake ρ → Prop}
    (listens : d.Listens args ready) {stream : List Byte} (starts : established <+: stream) :
    ∀ (wakes : List (Wake ρ)) (conn : Connection) (cut : Nat), Holding conn (stream.take cut) →
      cut < established.length → (∀ wake ∈ wakes, ready conn.sockfd wake ∧ wake.arrived ≠ some 0) →
      d.tlsStart args stream conn cut wakes = announcedAt stream.length cut (wakes.map (·.arrived)) := by
  have fits := starts.length_le
  have line := established_length
  have size : recvBufferSize = 8096 := rfl
  intro wakes
  induction wakes with
  | nil => intro _ _ _ _ _; rfl
  | cons wake rest ih =>
    intro conn cut holds early ready
    obtain ⟨readable, some⟩ := ready wake List.mem_cons_self
    have later : ∀ wake ∈ rest, _ := fun wake member => ready wake (List.mem_cons_of_mem _ member)
    have got : (stream.take cut).length = cut := by rw [List.length_take]; omega
    have left : (stream.take cut).length < recvBufferSize - 1 := by omega
    unfold Driver.tlsStart
    cases arrived : wake.arrived with
    | none =>
      obtain ⟨kept, nothing⟩ := listens.retry conn _ wake (wake.answers stream cut) holds readable left
        (by simp only [Wake.answers, arrived]) (by simp only [Wake.answers, arrived])
      dsimp only
      rw [kept, nothing, holds.state, if_neg ConnState.noConfusion, if_pos rfl]
      rw [List.map_cons, arrived, announcedAt]
      exact ih conn cut holds early later
    | some n =>
      have positive : 0 < n := Nat.pos_of_ne_zero fun zero => some (zero ▸ arrived)
      have found : (wake.answers stream cut).recv = .bytes ((stream.drop cut).take n) := by
        simp only [Wake.answers, arrived]
      have data : (stream.drop cut).take n ≠ [] := by
        apply List.ne_nil_of_length_pos
        rw [List.length_take, List.length_drop]
        omega
      have handled := listens.chunk conn _ wake _ _ holds readable left found data
      have taken : stream.take cut ++ ((stream.drop cut).take n).take (recvBufferSize - 1 - (stream.take cut).length) =
          stream.take (cut + min (recvBufferSize - 1 - cut) n) := by
        rw [got, List.take_take, List.take_add]
      have count : cut + (((stream.drop cut).take n).take (recvBufferSize - 1 - (stream.take cut).length)).length =
          min (cut + n) (min (recvBufferSize - 1) stream.length) := by
        simp only [List.length_take, List.length_drop]
        omega
      have phrase := strstr_established_iff starts (cut + min (recvBufferSize - 1 - cut) n)
      rw [← taken] at phrase
      rw [List.map_cons, arrived, announcedAt]
      dsimp only
      rw [handled.reply, count]
      by_cases announced : established.length ≤ min (cut + n) (min (recvBufferSize - 1) stream.length)
      · rw [handled.announced (phrase.mpr (by omega)), if_pos rfl, if_pos announced]
      · obtain ⟨next, socket⟩ := handled.waiting fun found => announced (by have := phrase.mp found; omega)
        rw [next.state, if_neg ConnState.noConfusion, if_pos rfl, if_neg announced]
        rw [taken, show cut + min (recvBufferSize - 1 - cut) n = min (cut + n) (min (recvBufferSize - 1) stream.length) by omega]
          at next
        exact ih _ _ next (by omega) (socket ▸ later)

/-- The bytes of the stream that have arrived. -/
def bytesIn (arrived : List (Option Nat)) : Nat := (arrived.map (·.getD 0)).sum

/-- The piece that completes the status line, `cut` bytes having come before,
ends where the reply of `size` bytes does. -/
def EndsWithReply (size whole cut : Nat) (arrived : List (Option Nat)) : Prop :=
  ∀ before n after, arrived = before ++ some n :: after → cut + bytesIn before < established.length →
    established.length ≤ cut + bytesIn before + n →
    min (cut + bytesIn before + n) (min (recvBufferSize - 1) whole) = size

/-- A piece that does not complete the status line puts the decision off. -/
theorem endsWithReply_cons {size whole cut : Nat} (piece : Option Nat) {rest : List (Option Nat)}
    (short : cut + piece.getD 0 < established.length) :
    EndsWithReply size whole cut (piece :: rest) ↔ EndsWithReply size whole (cut + piece.getD 0) rest := by
  have bytes : ∀ before, cut + bytesIn (piece :: before) = cut + piece.getD 0 + bytesIn before := by
    intro before
    rw [bytesIn, List.map_cons, List.sum_cons, ← Nat.add_assoc, bytesIn]
  constructor
  · intro ends before n after split early done
    have := ends (piece :: before) n after (by rw [split, List.cons_append])
    rw [bytes] at this
    exact this early done
  · intro ends before n after split early done
    cases before with
    | nil =>
      obtain ⟨rfl, -⟩ := List.cons_eq_cons.mp split
      exact absurd done (Nat.not_le.mpr short)
    | cons head before =>
      obtain ⟨rfl, tail⟩ := List.cons_eq_cons.mp split
      rw [bytes] at early done ⊢
      exact ends before n after tail early done

/-- What decides is the piece that completes the status line. -/
theorem announcedAt_iff_endsWithReply {size whole : Nat} (fits : established.length ≤ min (recvBufferSize - 1) whole) :
    ∀ (arrived : List (Option Nat)) (cut : Nat), cut < established.length →
      ((∀ total, announcedAt whole cut arrived = some total → total = size) ↔ EndsWithReply size whole cut arrived) := by
  intro arrived
  induction arrived with
  | nil =>
    intro cut early
    exact iff_of_true (fun _ none => by cases none) fun before n after split => by simp at split
  | cons piece rest ih =>
    intro cut early
    cases piece with
    | none =>
      rw [announcedAt, ih cut early, endsWithReply_cons none early]
      rfl
    | some n =>
      rw [announcedAt]
      by_cases announced : established.length ≤ min (cut + n) (min (recvBufferSize - 1) whole)
      · rw [if_pos announced]
        constructor
        · intro same before n' after split early' done
          cases before with
          | nil =>
            obtain ⟨first, -⟩ := List.cons_eq_cons.mp split
            obtain rfl : n = n' := Option.some.inj first
            exact same _ rfl
          | cons head before =>
            obtain ⟨rfl, -⟩ := List.cons_eq_cons.mp split
            rw [bytesIn, List.map_cons, List.sum_cons, Option.getD_some] at early'
            omega
        · intro ends total reached
          rw [← Option.some.inj reached]
          exact ends [] n rest rfl early (by simp only [bytesIn, List.map_nil, List.sum_nil]; omega)
      · have same : min (cut + n) (min (recvBufferSize - 1) whole) = cut + n := by omega
        rw [if_neg announced, same, ih (cut + n) (by omega)]
        exact (endsWithReply_cons (some n) (by rw [Option.getD_some]; omega)).symm

/-- **The TLS stream starts after the reply**: what `SSL_connect` finds in the
socket is what the proxy has sent after its blank line. -/
def StartsAfterReply (reply : ProxyReply) (trailing : List Byte) (start : Option Nat) : Prop :=
  ∀ cut, start = some cut → (reply.bytes ++ trailing).drop cut = trailing

section Streams

variable {args : Arguments} {conn : Connection} {reply : ProxyReply} {trailing : List Byte}

/-- No more is read than there is. -/
theorem announcedAt_le {whole total : Nat} : ∀ (arrived : List (Option Nat)) (cut : Nat),
    announcedAt whole cut arrived = some total → total ≤ whole := by
  intro arrived
  induction arrived with
  | nil => intro cut reached; cases reached
  | cons piece rest ih =>
    intro cut reached
    cases piece with
    | none => exact ih cut reached
    | some n =>
      rw [announcedAt] at reached
      split at reached
      · rw [← Option.some.inj reached]
        omega
      · exact ih _ reached

/-- For an engine that deals with pieces so: the stream starts after the reply exactly where a piece
ends with it. -/
theorem startsAfterReply_iff {ready : Int → Wake ρ → Prop} {d : Driver Nat ρ} (listens : d.Listens args ready)
    (state : conn.state = .proxyResponse) (socket : 0 < conn.sockfd) (none : conn.bytesReceived = 0)
    (clear : conn.receivedResponse = .zeros _) (wakes : List (Wake ρ))
    (readable : ∀ wake ∈ wakes, ready conn.sockfd wake ∧ wake.arrived ≠ some 0) :
    StartsAfterReply reply trailing (d.tlsStart args (reply.bytes ++ trailing) conn 0 wakes) ↔
      EndsWithReply reply.bytes.length (reply.bytes ++ trailing).length 0 (wakes.map (·.arrived)) := by
  have line := established_length
  have long := reply.established_lt
  have fits : established.length ≤ min (recvBufferSize - 1) (reply.bytes ++ trailing).length := by
    have size : recvBufferSize = 8096 := rfl
    rw [List.length_append, line]
    omega
  have holds : Holding conn ((reply.bytes ++ trailing).take 0) :=
    ⟨state, socket, none, Nat.zero_lt_of_lt (Nat.lt_succ_self 8095), by rw [clear]; exact CharArray.zeros_toList _⟩
  rw [tlsStart_eq_announcedAt listens (reply.established_prefix trailing) wakes conn 0 holds (by omega) readable,
    ← announcedAt_iff_endsWithReply fits _ 0 (by omega)]
  apply forall₂_congr
  intro total reached
  have within := announcedAt_le _ _ reached
  constructor
  · intro same
    have lengths := congrArg List.length same
    rw [List.length_drop, List.length_append] at lengths
    rw [List.length_append] at within
    omega
  · rintro rfl
    exact List.drop_left

/-- **When the TLS stream starts after the reply.** For a slot that has just
begun to wait, in either engine: if and only if the piece that completes the
status line is also the last of the reply. -/
theorem startsAfterReply_iff_endsWithReply (args : Arguments) (conn : Connection) (reply : ProxyReply)
    (trailing : List Byte) (state : conn.state = .proxyResponse) (socket : 0 < conn.sockfd)
    (none : conn.bytesReceived = 0) (clear : conn.receivedResponse = .zeros _) :
    (∀ wakes : List (Wake (BitVec 16)),
      (∀ wake ∈ wakes, Poll.Readable conn.sockfd wake ∧ wake.arrived ≠ some 0) →
      (StartsAfterReply reply trailing (Poll.driver.tlsStart args (reply.bytes ++ trailing) conn 0 wakes) ↔
        EndsWithReply reply.bytes.length (reply.bytes ++ trailing).length 0 (wakes.map (·.arrived)))) ∧
    (∀ wakes : List (Wake (BitVec 32)),
      (∀ wake ∈ wakes, Epoll.Readable conn.sockfd wake ∧ wake.arrived ≠ some 0) →
      (StartsAfterReply reply trailing (Epoll.driver.tlsStart args (reply.bytes ++ trailing) conn 0 wakes) ↔
        EndsWithReply reply.bytes.length (reply.bytes ++ trailing).length 0 (wakes.map (·.arrived)))) :=
  ⟨fun wakes readable => startsAfterReply_iff (Poll.listens args) state socket none clear wakes readable,
    fun wakes readable => startsAfterReply_iff (Epoll.listens args) state socket none clear wakes readable⟩

end Streams

/-- A slot that has just begun to wait for the proxy's reply. -/
def awaiting : Connection := { ConnectionOf.zero 0 with state := .proxyResponse, sockfd := 3 }

/-- A reply without header lines. -/
def bareReply : ProxyReply := ⟨[], fun _ none => absurd none List.not_mem_nil⟩

/-- `poll` reports data and `recv` finds `n` bytes. -/
def pollWake (n : Nat) : Wake (BitVec 16) := ⟨.initial, 0, pollin, .retry, some n⟩

/-- `epoll_wait` reports data and `recv` finds `n` bytes. -/
def epollWake (n : Nat) : Wake (BitVec 32) :=
  ⟨{ Sys.initial with epoll := fun fd => if fd = 3 then some ⟨epollin, 0, false⟩ else none }, 0, epollin, .retry, some n⟩

theorem pollWake_readable (n : Nat) : Poll.Readable awaiting.sockfd (pollWake n) :=
  ⟨show anyBit pollin pollin = true by decide, show anyBit pollin (pollerr ||| pollhup ||| pollnval) = false by decide⟩

theorem epollWake_readable (n : Nat) : Epoll.Readable awaiting.sockfd (epollWake n) :=
  ⟨show anyBit epollin epollin = true by decide, show anyBit epollin (epollerr ||| epollhup) = false by decide,
    show ((epollWake 0).sys.epollDel 3).1 ≠ -1 by decide⟩

/-- The whole reply in one piece. -/
theorem startsAfterReply_one_piece :
    StartsAfterReply bareReply []
        (Poll.driver.tlsStart createDefaultArguments (bareReply.bytes ++ []) awaiting 0 [pollWake 39]) ∧
      StartsAfterReply bareReply []
        (Epoll.driver.tlsStart createDefaultArguments (bareReply.bytes ++ []) awaiting 0 [epollWake 39]) := by
  have ends : EndsWithReply bareReply.bytes.length (bareReply.bytes ++ []).length 0 [some 39] := by
    intro before n after split _ _
    cases before with
    | nil =>
      obtain ⟨first, -⟩ := List.cons_eq_cons.mp split
      obtain rfl : 39 = n := Option.some.inj first
      decide
    | cons head before =>
      obtain ⟨-, tail⟩ := List.cons_eq_cons.mp split
      simp at tail
  have both := startsAfterReply_iff_endsWithReply createDefaultArguments awaiting bareReply [] rfl (by decide) rfl rfl
  exact ⟨(both.1 [pollWake 39] (List.forall_mem_singleton.mpr ⟨pollWake_readable _, by decide⟩)).mpr ends,
    (both.2 [epollWake 39] (List.forall_mem_singleton.mpr ⟨epollWake_readable _, by decide⟩)).mpr ends⟩

theorem awaiting_holding : Holding awaiting (bareReply.bytes.take 0) where
  state := rfl
  socket := by decide
  received := rfl
  room := by decide
  buffer := CharArray.zeros_toList _

/-- The status line comes in a piece of its own, and the blank line is left in the socket. -/
theorem startsAfterReply_fails_on_status_line :
    ¬ StartsAfterReply bareReply []
        (Poll.driver.tlsStart createDefaultArguments (bareReply.bytes ++ []) awaiting 0 [pollWake 35]) ∧
      ¬ StartsAfterReply bareReply []
        (Epoll.driver.tlsStart createDefaultArguments (bareReply.bytes ++ []) awaiting 0 [epollWake 35]) := by
  have starts := bareReply.established_prefix []
  have left : (bareReply.bytes ++ []).drop 35 ≠ [] := by decide
  have poll := tlsStart_eq_announcedAt (Poll.listens createDefaultArguments) starts [pollWake 35] awaiting 0
    awaiting_holding (by decide) (List.forall_mem_singleton.mpr ⟨pollWake_readable _, by decide⟩)
  have epoll := tlsStart_eq_announcedAt (Epoll.listens createDefaultArguments) starts [epollWake 35] awaiting 0
    awaiting_holding (by decide) (List.forall_mem_singleton.mpr ⟨epollWake_readable _, by decide⟩)
  exact ⟨fun after => left (after 35 (poll.trans (by decide))), fun after => left (after 35 (epoll.trans (by decide)))⟩

end WebBench
