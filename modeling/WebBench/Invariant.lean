import WebBench.Poll.Wire
import WebBench.Epoll.Runs

/-!
# The per-cycle invariant of `bench_poll` and `bench_epoll`

The same counts and the same buffer serve the proxy dialogue and the benchmark
dialogue. In every reachable state they are those of the current phase of the
current cycle, and no count leaves its array.
-/

namespace WebBench
set_option autoImplicit false
open CLib

/-- What holds of a slot whatever its state, and state by state. -/
structure CycleInvariant (args : Arguments) (slot : Slot Nat) : Prop where
  room : slot.conn.bytesReceived ≤ recvBufferSize - 1
  terminated : slot.conn.receivedResponse.toList[slot.conn.bytesReceived]? = some 0
  /-- The room left, computed in `size_t`, does not wrap. -/
  sizeRoom : sizeSub (sizeSub recvBufferSize slot.conn.bytesReceived) 1 =
    recvBufferSize - 1 - slot.conn.bytesReceived
  /-- Neither does it when stored in an `int`. -/
  intRoom : intOfSize (sizeSub (sizeSub recvBufferSize slot.conn.bytesReceived) 1) =
    ((recvBufferSize - 1 - slot.conn.bytesReceived : Nat) : Int)
  /-- The terminator stored after any read that delivers something is inside the array. -/
  store : ∀ given : Given, 0 < given.ret (recvBufferSize - 1 - slot.conn.bytesReceived) →
    sizeAdd slot.conn.bytesReceived (sizeOfInt (given.ret (recvBufferSize - 1 - slot.conn.bytesReceived))) <
      recvBufferSize
  connecting : slot.conn.state = .connecting → slot.conn.bytesSent = 0 ∧ slot.conn.bytesReceived = 0 ∧
    slot.conn.receivedResponse = .zeros _ ∧ slot.conn.ssl = none
  handshaking : slot.conn.state = .tlsHandshake → slot.conn.bytesSent = 0 ∧ slot.conn.bytesReceived = 0
  tunnelling : slot.conn.state = .proxyConnect →
    slot.conn.bytesSent < (connectText args.targetHost.bytes args.targetPort).length ∧ slot.conn.bytesReceived = 0
  sending : slot.conn.state = .sending →
    slot.conn.bytesSent ≤ slot.conn.requestLen ∧ slot.conn.bytesReceived = 0
  receiving : slot.conn.state = .receiving → slot.conn.bytesSent = slot.conn.requestLen
  /-- The buffer holds what the current dialogue of the current cycle has received, and zeros. -/
  visible : slot.conn.receivedResponse.toList = CharArray.padded recvBufferSize
      (match slot.conn.state with
      | .proxyResponse => replyBytes slot.cycle
      | .receiving | .completed => responseBytes slot.cycle
      | .error => slot.conn.receivedResponse.toList.take slot.conn.bytesReceived
      | _ => [])
  /-- After an error it still holds what the dialogue that failed had received. -/
  failed : slot.conn.state = .error →
    slot.conn.receivedResponse.toList.take slot.conn.bytesReceived = [] ∨
    slot.conn.receivedResponse.toList.take slot.conn.bytesReceived = replyBytes slot.cycle ∨
    slot.conn.receivedResponse.toList.take slot.conn.bytesReceived = responseBytes slot.cycle

theorem CharArray.take_padded (n : Nat) (data : List Byte) : (CharArray.padded n data).take data.length = data := by
  simp [CharArray.padded]

variable {args : Arguments} {job : Job} {slot : Slot Nat} {p : Phase}

/-- The record shows the data of its phase and nothing else. -/
theorem Represents.taken (record : Represents job slot.conn p) :
    slot.conn.receivedResponse.toList.take slot.conn.bytesReceived = p.got := by
  rw [record.buffer, record.received]
  exact CharArray.take_padded _ _

/-- A phase without data leaves the buffer as `memset` does. -/
theorem Represents.cleared (record : Represents job slot.conn p) (empty : p.got = []) :
    slot.conn.bytesReceived = 0 ∧ slot.conn.receivedResponse = .zeros _ := by
  refine ⟨record.received.trans (congrArg List.length empty), List.Vector.toList_injective ?_⟩
  rw [record.buffer, empty, CharArray.zeros_toList]

theorem visible_of_seen (seen : Job.Seen slot.cycle p) :
    p.got = match p.state with
      | .proxyResponse => replyBytes slot.cycle
      | .receiving | .completed => responseBytes slot.cycle
      | .error => p.got
      | _ => [] := by
  cases p with
  | awaitingReply got => exact seen.1
  | receiving ssl got => exact seen
  | completed got => exact seen
  | _ => rfl

/-- A slot that runs the cycle keeps the invariant. -/
theorem CycleInvariant.of_trace (request : job.request = connectText args.targetHost.bytes args.targetPort)
    (trace : job.Trace .idle slot.cycle p) (record : Represents job slot.conn p) : CycleInvariant args slot := by
  have seen := Job.seen_of_trace trace
  have room := record.room
  have size : recvBufferSize = 8096 := rfl
  have sizeRoom := room_eq (record.received ▸ room)
  have state := record.state
  have sent := record.sent
  have rests := record.rests
  constructor
  case room =>
    rw [record.received]
    omega
  case terminated =>
    rw [record.buffer, record.received]
    exact CharArray.padded_terminator room
  case sizeRoom => exact sizeRoom
  case intRoom => rw [sizeRoom, intOfSize_of_lt (by omega)]
  case store =>
    intro given some
    have short := given.chunk_length_le (recvBufferSize - 1 - slot.conn.bytesReceived)
    have bound := record.received ▸ room
    rw [total_eq some (by omega)]
    omega
  case connecting =>
    intro now
    cases p <;> try exact ConnState.noConfusion (state.symm.trans now)
    obtain ⟨none, zeros⟩ := record.cleared rfl
    exact ⟨sent ConnState.noConfusion, none, zeros, record.ssl ConnState.noConfusion ConnState.noConfusion⟩
  case handshaking =>
    intro now
    cases p <;> try exact ConnState.noConfusion (state.symm.trans now)
    exact ⟨sent ConnState.noConfusion, (record.cleared rfl).1⟩
  case tunnelling =>
    intro now
    cases p <;> try exact ConnState.noConfusion (state.symm.trans now)
    rw [← request, sent ConnState.noConfusion]
    exact ⟨rests, (record.cleared rfl).1⟩
  case sending =>
    intro now
    cases p <;> try exact ConnState.noConfusion (state.symm.trans now)
    rw [record.length, sent ConnState.noConfusion]
    exact ⟨rests, (record.cleared rfl).1⟩
  case receiving =>
    intro now
    cases p <;> try exact ConnState.noConfusion (state.symm.trans now)
    exact (sent ConnState.noConfusion).trans record.length.symm
  case visible =>
    rw [record.taken, record.buffer, state]
    exact congrArg _ (visible_of_seen seen)
  case failed =>
    intro now
    cases p <;> try exact ConnState.noConfusion (state.symm.trans now)
    rw [record.taken]
    exact seen

/-- **The per-cycle invariant.** In every run of either engine, every slot of
the table keeps it. -/
theorem cycleInvariant_of_run (args : Arguments) (request : HTTPRequest) :
    (∀ w, Poll.Run args request w → ∀ slot ∈ w.slots, CycleInvariant args slot) ∧
      ∀ w, Epoll.Run args request w → ∀ slot ∈ w.slots, CycleInvariant args slot := by
  refine ⟨fun w run slot member => ?_, fun w run slot member => ?_⟩
  · obtain ⟨p, trace, record⟩ := (Poll.follows args request).tracks (Poll.run_slot run slot member)
    exact .of_trace rfl trace record
  · obtain ⟨p, trace, record⟩ := (Epoll.follows args request).tracks (Epoll.run_slot run slot member)
    exact .of_trace rfl trace record

/-- One client of `bench_epoll` that has sent its request and received `chunk`. -/
def Epoll.answered (chunk : List Byte) : Epoll.World :=
  (Epoll.opened createDefaultArguments Poll.shortRequest).turns createDefaultArguments
    [([⟨0, epollout⟩], Poll.answeringIo chunk), ([⟨0, epollout⟩], Poll.answeringIo chunk),
      ([⟨0, epollin⟩], Poll.answeringIo chunk)]

theorem Epoll.answered_run (chunk : List Byte) : Epoll.Run createDefaultArguments Poll.shortRequest (Epoll.answered chunk) :=
  World.turns_run _ (opened_run _ _)

/-- A client of each engine that has received five bytes of its response. -/
theorem cycleInvariant_of_run_answered :
    (∃ slot ∈ (Poll.answered (text "HTTP/")).slots, (slot.conn.state = .receiving ∧ slot.conn.bytesReceived = 5) ∧
      CycleInvariant createDefaultArguments slot) ∧
    ∃ slot ∈ (Epoll.answered (text "HTTP/")).slots, (slot.conn.state = .receiving ∧ slot.conn.bytesReceived = 5) ∧
      CycleInvariant createDefaultArguments slot := by
  obtain ⟨poll, epoll⟩ := cycleInvariant_of_run createDefaultArguments Poll.shortRequest
  have first : ∃ slot ∈ (Poll.answered (text "HTTP/")).slots, slot.conn.state = .receiving ∧
      slot.conn.bytesReceived = 5 := by decide +kernel
  have second : ∃ slot ∈ (Epoll.answered (text "HTTP/")).slots, slot.conn.state = .receiving ∧
      slot.conn.bytesReceived = 5 := by decide +kernel
  obtain ⟨slot, member, received⟩ := first
  obtain ⟨slot', member', received'⟩ := second
  exact ⟨⟨slot, member, received, poll _ (Poll.answered_run _) slot member⟩,
    slot', member', received', epoll _ (Epoll.answered_run _) slot' member'⟩

end WebBench
