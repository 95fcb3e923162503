import WebBench.Handshake
import WebBench.Invariant
import WebBench.Select.FdBound

/-!
# The per-cycle invariant of `bench_select`

The counts are `int`s here, and the proxy's reply goes into a buffer of its own.
In every reachable state a slot has a descriptor, and an SSL object when its state
needs one; no count is negative or leaves its array, nothing is left over from the
dialogue with the proxy, and the buffer holds the response of the current cycle.
-/

namespace WebBench.Select
set_option autoImplicit false
open CLib

/-- What holds of a slot whatever its state, and state by state. -/
structure CycleInvariant (args : Arguments) (slot : Slot Int) : Prop where
  /-- Its cycle has begun, and it has a descriptor: where a slot gets none the process ends. -/
  begun : slot.conn.state ≠ .idle
  socket : 0 ≤ slot.conn.sockfd
  counts : 0 ≤ slot.conn.bytesSent ∧ 0 ≤ slot.conn.bytesReceived
  room : slot.conn.bytesReceived ≤ recvBufferSize - 1
  terminated : slot.conn.receivedResponse.toList[slot.conn.bytesReceived.toNat]? = some 0
  /-- The room left is computed in `size_t` from an `int`, and stored in an `int`. -/
  remaining : intOfSize (sizeSub (sizeSub recvBufferSize (sizeOfInt slot.conn.bytesReceived)) 1) =
    recvBufferSize - 1 - slot.conn.bytesReceived
  /-- The terminator stored after any read that delivers something is inside the array. -/
  store : ∀ given : Given, 0 < given.ret (recvBufferSize - 1 - slot.conn.bytesReceived).toNat →
    slot.conn.bytesReceived + given.ret (recvBufferSize - 1 - slot.conn.bytesReceived).toNat < recvBufferSize
  /-- Nothing is counted before the request is sent, not even in the dialogue with the proxy. -/
  untouched : slot.conn.state = .connecting ∨ slot.conn.state = .proxyConnect ∨ slot.conn.state = .proxyResponse ∨
    slot.conn.state = .tlsHandshake →
      slot.conn.bytesSent = 0 ∧ slot.conn.bytesReceived = 0 ∧ slot.conn.receivedResponse = .zeros _
  bare : slot.conn.state = .connecting ∨ slot.conn.state = .proxyConnect ∨ slot.conn.state = .proxyResponse →
    slot.conn.ssl = none
  /-- Only a secure connection shakes hands; one that goes to the target directly has its object by then. -/
  handshaking : slot.conn.state = .tlsHandshake →
    slot.conn.isHttps = true ∧ (needConnectProxy args = false → slot.conn.ssl.isSome = true)
  /-- A secure connection sends and receives through its object. -/
  secured : slot.conn.state = .sending ∨ slot.conn.state = .receiving → slot.conn.isHttps = true →
    slot.conn.ssl.isSome = true
  /-- Any other has none as long as its cycle goes on. -/
  plain : slot.conn.isHttps = false → slot.conn.state.pollable = true → slot.conn.ssl = none
  sending : slot.conn.state = .sending →
    slot.conn.bytesSent ≤ slot.conn.requestLen ∧ slot.conn.bytesReceived = 0 ∧ slot.conn.receivedResponse = .zeros _
  receiving : slot.conn.state = .receiving → slot.conn.bytesSent = slot.conn.requestLen
  /-- The buffer holds the response of the current cycle, and zeros. -/
  visible : slot.conn.state = .receiving ∨ slot.conn.state = .completed →
    slot.conn.bytesReceived = (responseBytes slot.cycle).length ∧
      slot.conn.receivedResponse.toList = CharArray.padded recvBufferSize (responseBytes slot.cycle)

variable {args : Arguments} {request : HTTPRequest} {job : Job} {slot : Slot Int} {p : Phase}

/-- A slot without a descriptor is idle. -/
theorem socket_of_reachable (reached : driver.SlotReachable args request slot) (begun : slot.conn.state ≠ .idle) :
    0 ≤ slot.conn.sockfd := by
  have opened (sys : Sys) (addresses : Option (List Address)) {conn : Connection} (idle : conn.state = .idle)
      (begun : (allocateSocket args sys addresses conn).conn.state ≠ .idle) :
      0 ≤ (allocateSocket args sys addresses conn).conn.sockfd := by
    by_contra closed
    refine begun ?_
    unfold allocateSocket at closed ⊢
    generalize (if needConnectProxy args then _ else _ : Int × Sys × List Call) = result at closed ⊢
    obtain ⟨sockfd, sys', calls⟩ := result
    dsimp only at closed ⊢
    by_cases negative : sockfd < 0
    · rw [if_pos negative]
      exact idle
    · rw [if_neg negative] at closed
      exact absurd (Int.not_lt.mp negative) closed
  induction reached with
  | start first =>
    obtain ⟨sys, addresses, raw, allowed⟩ := first
    exact opened sys addresses rfl begun
  | next before step ih =>
    cases step with
    | recycle finished sys addresses => exact opened _ addresses rfl begun
    | ready pollable sys errno mask io =>
      have busy := ih fun idle => by rw [idle] at pollable; exact Bool.noConfusion pollable
      rwa [← (handle_keeps args sys errno _ mask io).sockfd] at busy

section Object

/-- Only a secure connection shakes hands. -/
theorem secure_of_handshaking (trace : job.Trace .idle slot.cycle p) (stands : Stands job slot.conn p)
    (now : slot.conn.state = .tlsHandshake) : slot.conn.isHttps = true := by
  have sound := (Job.wire_of_trace trace).sound
  rw [stands.state] at now
  rw [stands.https]
  cases p with
  | handshaking ssl => exact sound
  | _ => exact ConnState.noConfusion now

/-- A set-up that goes to the target directly leaves an object. -/
theorem object_of_direct {host : List Byte} {named : Prop}
    (history : SslHistory host (needConnectProxy args = false) named slot) (now : slot.conn.state = .tlsHandshake)
    (direct : needConnectProxy args = false) : slot.conn.ssl.isSome = true := by
  have setUp := history.late (.inl now)
  obtain ⟨ssl, ret, object, -⟩ := setUp.bound.mpr (setUp.sure direct)
  rw [object]
  rfl

/-- The handshake has succeeded with an object, and what follows keeps it. -/
theorem object_of_secure (trace : job.Trace .idle slot.cycle p) (stands : Stands job slot.conn p)
    (now : slot.conn.state = .sending ∨ slot.conn.state = .receiving) (https : slot.conn.isHttps = true) :
    slot.conn.ssl.isSome = true := by
  have waits : slot.conn.state.pollable = true := by rcases now with now | now <;> rw [now] <;> rfl
  have has := Job.hasObject_of_trace trace trivial
  rw [stands.ssl waits]
  rw [stands.state] at now
  cases p with
  | sending ssl k | receiving ssl got => exact has (stands.https ▸ https)
  | _ => rcases now with now | now <;> cases now

/-- Before the handshake there is none. -/
theorem bare_of_early (stands : Stands job slot.conn p)
    (early : slot.conn.state = .connecting ∨ slot.conn.state = .proxyConnect ∨ slot.conn.state = .proxyResponse) :
    slot.conn.ssl = none := by
  have waits : slot.conn.state.pollable = true := by rcases early with now | now | now <;> rw [now] <;> rfl
  rw [stands.ssl waits]
  rw [stands.state] at early
  cases p with
  | connecting | tunnelling _ | awaitingReply _ => rfl
  | _ => rcases early with now | now | now <;> cases now

end Object

/-- A slot that runs the cycle keeps the invariant. -/
theorem CycleInvariant.of_trace {host : List Byte} {named : Prop} (begun : slot.conn.state ≠ .idle)
    (socket : 0 ≤ slot.conn.sockfd) (history : SslHistory host (needConnectProxy args = false) named slot)
    (trace : job.Trace .idle slot.cycle p) (stands : Stands job slot.conn p) : CycleInvariant args slot := by
  have state := stands.state
  have object := stands.ssl
  have plainly := stands.https
  have shakes := secure_of_handshaking trace stands
  have secured := object_of_secure trace stands
  have bare := bare_of_early stands
  obtain ⟨⟨sizes, q, made, record, names, same⟩, fresh⟩ := stands
  have seen := Job.seen_of_trace trace
  have size : recvBufferSize = 8096 := rfl
  have room := record.room
  have received : slot.conn.bytesReceived = q.got.length := by
    rw [made]
    exact congrArg Int.ofNat record.received
  have buffer : slot.conn.receivedResponse.toList = CharArray.padded recvBufferSize q.got := by rw [made]; exact record.buffer
  have cleared (empty : q.got = []) : slot.conn.bytesReceived = 0 ∧ slot.conn.receivedResponse = .zeros _ := by
    refine ⟨by rw [received, empty]; rfl, List.Vector.toList_injective ?_⟩
    rw [buffer, empty, CharArray.zeros_toList]
  have sent (live : q.state ≠ .error) : slot.conn.bytesSent = (job.sent q : Nat) := by
    rw [made]
    exact congrArg Int.ofNat (record.sent live)
  have left : intOfSize (sizeSub (sizeSub recvBufferSize (sizeOfInt slot.conn.bytesReceived)) 1) =
      recvBufferSize - 1 - slot.conn.bytesReceived := by
    rw [received, sizeOfInt_natCast (by omega), room_eq room, intOfSize_of_lt (by omega)]
    omega
  constructor
  case begun => exact begun
  case socket => exact socket
  case handshaking => exact fun now => ⟨shakes now, object_of_direct history now⟩
  case secured => exact secured
  case plain => exact fun plain waits => (object waits).trans (Job.bare_of_trace (plainly ▸ plain) trace)
  case counts =>
    rw [made]
    exact ⟨Int.natCast_nonneg _, Int.natCast_nonneg _⟩
  case room => omega
  case terminated =>
    rw [buffer, received, Int.toNat_natCast]
    exact CharArray.padded_terminator room
  case remaining => exact left
  case store =>
    intro given some
    have short := given.chunk_length_le (recvBufferSize - 1 - slot.conn.bytesReceived).toNat
    rw [Given.ret_of_pos some]
    omega
  case untouched =>
    intro early
    rw [state] at early
    have live : p.state ≠ .error := by rcases early with now | now | now | now <;> rw [now] <;> exact ConnState.noConfusion
    obtain rfl : q = p := same live
    have none := sent live
    cases q with
    | connecting | handshaking _ => exact ⟨none, cleared rfl⟩
    | tunnelling k =>
      obtain rfl : k = 0 := fresh
      exact ⟨none, cleared rfl⟩
    | awaitingReply got => exact ⟨none, cleared fresh⟩
    | _ => rcases early with now | now | now | now <;> cases now
  case bare => exact bare
  case sending =>
    intro now
    rw [state] at now
    have live : p.state ≠ .error := by rw [now]; exact ConnState.noConfusion
    obtain rfl : q = p := same live
    have length : slot.conn.requestLen = job.body.length := by rw [made]; exact congrArg Int.ofNat record.length
    have count := sent live
    have rests := record.rests
    cases q with
    | sending ssl k =>
      have within : k ≤ job.body.length := rests
      refine ⟨?_, cleared rfl⟩
      rw [count, length]
      exact Int.ofNat_le.mpr within
    | _ => cases now
  case receiving =>
    intro now
    rw [state] at now
    have live : p.state ≠ .error := by rw [now]; exact ConnState.noConfusion
    obtain rfl : q = p := same live
    have length : slot.conn.requestLen = job.body.length := by rw [made]; exact congrArg Int.ofNat record.length
    have count := sent live
    cases q with
    | receiving ssl got => exact count.trans length.symm
    | _ => cases now
  case visible =>
    intro now
    rw [state] at now
    have live : p.state ≠ .error := by rcases now with now | now <;> rw [now] <;> exact ConnState.noConfusion
    obtain rfl : q = p := same live
    rw [received, buffer]
    cases q with
    | receiving ssl got | completed got =>
      obtain rfl : got = responseBytes slot.cycle := seen
      exact ⟨rfl, rfl⟩
    | _ => rcases now with now | now <;> cases now

/-- **The per-cycle invariant.** In every run of `bench_select`, every slot of the table keeps it. -/
theorem cycleInvariant_of_selectRun (args : Arguments) (request : HTTPRequest) {w : World} (run : Run args request w) :
    ∀ slot ∈ w.slots, CycleInvariant args slot := by
  intro slot member
  obtain ⟨reached, begun⟩ := run_begun run slot member
  obtain ⟨p, trace, stands⟩ := (follows args request).tracks reached
  exact .of_trace begun (socket_of_reachable reached begun) (run_history run slot member) trace stands

/-- One client that has sent its request and received `chunk`. -/
def answered (chunk : List Byte) : Option World :=
  (opened createDefaultArguments Poll.shortRequest).map (·.turns createDefaultArguments
    [Poll.answeringIo chunk, Poll.answeringIo chunk, Poll.answeringIo chunk])

theorem answered_run (chunk : List Byte) : ∀ w ∈ answered chunk, Run createDefaultArguments Poll.shortRequest w := by
  intro w made
  obtain ⟨first, opens, rfl⟩ := Option.map_eq_some_iff.mp made
  exact World.turns_run _ (opened_run opens)

/-- A client that has received five bytes of its response. -/
theorem cycleInvariant_of_selectRun_answered : ∃ w ∈ answered (text "HTTP/"), ∃ slot ∈ w.slots,
    (slot.conn.state = .receiving ∧ slot.conn.bytesReceived = 5) ∧ CycleInvariant createDefaultArguments slot := by
  have received : ∃ w ∈ answered (text "HTTP/"), ∃ slot ∈ w.slots, slot.conn.state = .receiving ∧
      slot.conn.bytesReceived = 5 := by decide +kernel
  obtain ⟨w, made, slot, member, received⟩ := received
  exact ⟨w, made, slot, member, received, cycleInvariant_of_selectRun _ _ (answered_run _ w made) slot member⟩

end WebBench.Select
