import WebBench.Poll.Wire
import WebBench.Epoll.Runs
import WebBench.Select.Runs

/-!
# What `bench_epoll` and `bench_select` put on the wire

Neither engine sends its CONNECT request without loss, but the request itself
goes out exactly once a cycle comes to it: what has been accepted of it is its
first `bytes_sent` bytes, in the clear or through `SSL_write`, and a retried
`SSL_write` repeats the call it retries.
-/

namespace WebBench
set_option autoImplicit false
open CLib

variable {κ : Type}

/-- What a cycle has sent of its body. -/
def Job.sentBody (job : Job) (calls : List Call) : List Byte :=
  if job.https then tlsSent job.buffers calls else plainSent job.buffers calls

theorem Job.sentBody_prefix {job : Job} {p : Phase} {calls : List Call} (wire : job.Wire calls p) (live : p.state ≠ .error) :
    job.sentBody calls <+: job.body := by
  obtain ⟨sound, encrypted, plain⟩ := wire
  unfold Job.sentBody
  cases https : job.https with
  | true =>
    rw [if_pos rfl, encrypted live]
    cases p with
    | sending | receiving | completed => simp [Job.encrypted, https, List.take_prefix]
    | _ => exact List.nil_prefix
  | false =>
    rw [if_neg Bool.false_ne_true, plain live (.inr https)]
    cases p with
    | tunnelling | awaitingReply => exact Bool.noConfusion (https.symm.trans sound.1)
    | handshaking => exact Bool.noConfusion (https.symm.trans sound)
    | sending | receiving | completed => simp [Job.plain, https, List.take_prefix]
    | _ => exact List.nil_prefix

/-- Whatever becomes of a cycle, it has sent the beginning of its body. -/
theorem Job.sentBody_of_trace {job : Job} {p : Phase} {calls : List Call} (trace : job.Trace .idle calls p) :
    job.sentBody calls <+: job.body := by
  have both : job.Wire calls p ∧ job.sentBody calls <+: job.body := by
    refine trace.invariant (motive := fun calls p => job.Wire calls p ∧ job.sentBody calls <+: job.body)
      ⟨⟨trivial, fun _ => rfl, fun _ _ => rfl⟩, ?_⟩ ?_ ?_
    · unfold Job.sentBody
      split <;> exact List.nil_prefix
    · rintro calls p q ⟨wire, front⟩ move
      exact ⟨wire.silent move, front⟩
    · rintro calls p c q ⟨wire, -⟩ move
      refine ⟨wire.act move, Job.sentBody_prefix (wire.act move) ?_⟩
      cases move <;> exact ConnState.noConfusion
  exact both.2

/-- What a cycle has sent of its request: through `SSL_write` with HTTPS, by `send` without. -/
def Slot.bodySent (args : Arguments) (request : HTTPRequest) (slot : Slot κ) : List Byte :=
  if slot.conn.isHttps then tlsSent (buffersOf args request) slot.cycle
  else plainSent (buffersOf args request) slot.cycle

theorem Slot.bodySent_eq {args : Arguments} {request : HTTPRequest} {job : Job} {slot : Slot κ}
    (buffers : job.buffers = buffersOf args request) (secure : slot.conn.isHttps = job.https) :
    slot.bodySent args request = job.sentBody slot.cycle := by
  rw [Slot.bodySent, Job.sentBody, secure, buffers]

/-- The bytes of the request accepted since the slot's last `allocate_socket`; `count` reads a count as a number. -/
structure BodyWire (count : κ → Nat) (args : Arguments) (request : HTTPRequest) (slot : Slot κ) : Prop where
  /-- The beginning of the request, whatever has become of the cycle. -/
  front : slot.bodySent args request <+: request.body.bytes
  /-- None before the slot comes to send it. -/
  unsent : slot.conn.state = .connecting ∨ slot.conn.state = .proxyConnect ∨ slot.conn.state = .proxyResponse ∨
    slot.conn.state = .tlsHandshake → slot.bodySent args request = []
  /-- A prefix while it is being sent. -/
  sending : slot.conn.state = .sending →
    slot.bodySent args request = request.body.bytes.take (count slot.conn.bytesSent)
  /-- All of it once the response is awaited, or the cycle is complete. -/
  sent : slot.conn.state = .receiving ∨ slot.conn.state = .completed → slot.bodySent args request = request.body.bytes
  /-- Without HTTPS nothing is encrypted. -/
  clear : slot.conn.state ≠ .error → slot.conn.isHttps = false → tlsSent (buffersOf args request) slot.cycle = []
  /-- Every `SSL_write` offers all that is left of the request. -/
  offered : ∀ before after ssl slice ret error, slot.cycle = before ++ .sslWrite ssl slice ret error :: after →
    slice = ⟨.body, (tlsSent (buffersOf args request) before).length,
      request.body.bytes.length - (tlsSent (buffersOf args request) before).length⟩
  /-- After an `SSL_write` that took nothing the next one has the same object, pointer and length. -/
  retried : ∀ before between after ssl ssl' slice slice' ret ret' error error',
    slot.cycle = before ++ .sslWrite ssl slice ret error :: between ++ .sslWrite ssl' slice' ret' error' :: after →
    ret ≤ 0 → (∀ c ∈ between, ∀ ssl slice ret error, c ≠ .sslWrite ssl slice ret error) →
    ssl' = ssl ∧ slice' = slice

namespace BodyWire

variable {count : κ → Nat} {args : Arguments} {request : HTTPRequest} {job : Job} {slot : Slot κ} {p : Phase}

/-- What the phases say of the bytes sent. -/
theorem bodySent_eq (buffers : job.buffers = buffersOf args request) (secure : slot.conn.isHttps = job.https)
    (trace : job.Trace .idle slot.cycle p) (live : p.state ≠ .error) :
    slot.bodySent args request = if job.https then job.encrypted p else job.plain p := by
  obtain ⟨-, encrypted, plain⟩ := Job.wire_of_trace trace
  rw [buffers] at encrypted plain
  unfold Slot.bodySent
  rw [secure]
  cases https : job.https with
  | true => simpa using encrypted live
  | false => simpa using plain live (.inr https)

theorem of_trace (buffers : job.buffers = buffersOf args request) (secure : slot.conn.isHttps = job.https)
    (trace : job.Trace .idle slot.cycle p) (state : slot.conn.state = p.state)
    (counted : p.state ≠ .error → count slot.conn.bytesSent = job.sent p) : BodyWire count args request slot := by
  have bodySent := bodySent_eq buffers secure trace
  obtain ⟨sound, encrypted, -⟩ := Job.wire_of_trace trace
  have body : job.body = request.body.bytes := congrFun buffers .body
  rw [buffers] at encrypted
  constructor
  case front =>
    rw [Slot.bodySent_eq buffers secure, ← body]
    exact Job.sentBody_of_trace trace
  case unsent =>
    intro early
    rw [state] at early
    have live : p.state ≠ .error := by rcases early with now | now | now | now <;> rw [now] <;> exact ConnState.noConfusion
    rw [bodySent live]
    cases p with
    | connecting => cases https : job.https <;> simp [Job.encrypted, Job.plain]
    | tunnelling k => simp [Job.encrypted, show job.https = true from sound.1]
    | awaitingReply got => simp [Job.encrypted, show job.https = true from sound.1]
    | handshaking ssl => simp [Job.encrypted, show job.https = true from sound]
    | _ => rcases early with now | now | now | now <;> cases now
  case sending =>
    intro now
    rw [state] at now
    have live : p.state ≠ .error := by rw [now]; exact ConnState.noConfusion
    rw [bodySent live, counted live, ← body]
    cases p with
    | sending ssl k => cases https : job.https <;> simp [Job.encrypted, Job.plain, Job.sent, https]
    | _ => cases now
  case sent =>
    intro now
    rw [state] at now
    have live : p.state ≠ .error := by rcases now with now | now <;> rw [now] <;> exact ConnState.noConfusion
    rw [bodySent live, ← body]
    cases p with
    | receiving _ _ | completed _ => cases https : job.https <;> simp [Job.encrypted, Job.plain, https]
    | _ => rcases now with now | now <;> cases now
  case clear =>
    intro live plain
    rw [state] at live
    rw [encrypted live]
    have https : job.https = false := secure.symm.trans plain
    cases p <;> simp [Job.encrypted, https]
  case offered =>
    intro before after ssl slice ret error calls
    rw [calls] at trace
    rw [← buffers, ← body]
    exact Job.slice_of_write trace
  case retried =>
    intro before between after ssl ssl' slice slice' ret ret' error error' calls nothing next
    rw [calls] at trace
    exact Job.retry_of_write trace nothing (Poll.tlsSent_of_none _ next)

end BodyWire

/-- **The request goes out exactly.** In every run of `bench_epoll` and of
`bench_select`, for every sequence of readiness events and results, what a cycle
has sent of its request is a prefix of it, and all of it once the slot is done sending. -/
theorem bodyWire_of_run (args : Arguments) (request : HTTPRequest) :
    (∀ w, Epoll.Run args request w → ∀ slot ∈ w.slots, BodyWire id args request slot) ∧
      ∀ w, Select.Run args request w → ∀ slot ∈ w.slots, BodyWire Int.toNat args request slot := by
  have buffers (through : Bool) : (Job.ofArguments args request through false).buffers = buffersOf args request := by
    funext source
    cases source <;> rfl
  refine ⟨fun w run slot member => ?_, fun w run slot member => ?_⟩
  · obtain ⟨p, trace, record⟩ := (Epoll.follows args request).tracks (Epoll.run_slot run slot member)
    exact .of_trace (buffers _) record.https trace record.state record.sent
  · obtain ⟨p, trace, stands⟩ := (Select.follows args request).tracks (Select.run_slot run slot member)
    obtain ⟨⟨sizes, q, made, record, names, same⟩, -⟩ := stands
    have secure : slot.conn.isHttps = (Select.job args request).https := by rw [made]; exact record.https
    have state : slot.conn.state = p.state := by rw [made]; exact record.state.trans names
    refine .of_trace (buffers _) secure trace state fun live => ?_
    obtain rfl : q = p := same live
    rw [made]
    exact (Int.toNat_natCast _).trans (record.sent live)

/-- One client of `bench_select` whose connection is up and whose first `send` took three bytes. -/
def Select.threeSent : Option Select.World :=
  (Select.opened createDefaultArguments Poll.shortRequest).map fun w =>
    (w.woken createDefaultArguments { Io.retry with getsockopt := 0 }).woken createDefaultArguments
      { Io.retry with send := .bytes 3 }

/-- The same client of `bench_epoll`. -/
def Epoll.threeSent : Epoll.World :=
  (Epoll.opened createDefaultArguments Poll.shortRequest).turns createDefaultArguments
    [([⟨0, epollout⟩], { Io.retry with getsockopt := 0 }), ([⟨0, epollout⟩], { Io.retry with send := .bytes 3 })]

/-- Three bytes of the request have been accepted. -/
theorem bodyWire_threeSent :
    (∃ slot ∈ Epoll.threeSent.slots, slot.conn.state = .sending ∧
      slot.bodySent createDefaultArguments Poll.shortRequest = text "GET") ∧
      ∃ w, Select.threeSent = some w ∧ ∃ slot ∈ w.slots, slot.conn.state = .sending ∧
        slot.bodySent createDefaultArguments Poll.shortRequest = text "GET" := by
  obtain ⟨epoll, select⟩ := bodyWire_of_run createDefaultArguments Poll.shortRequest
  constructor
  · have three : ∃ slot ∈ Epoll.threeSent.slots, slot.conn.state = .sending ∧ slot.conn.bytesSent = 3 := by decide +kernel
    obtain ⟨slot, member, state, sent⟩ := three
    have wire := epoll _ (Epoll.World.turns_run _ (Epoll.opened_run _ _)) slot member
    exact ⟨slot, member, state, (wire.sending state).trans (by rw [sent]; decide)⟩
  · have run : Select.Run createDefaultArguments Poll.shortRequest _ :=
      Select.World.woken_run { Io.retry with send := .bytes 3 }
        (Select.World.woken_run { Io.retry with getsockopt := 0 } (Select.opened_run rfl) (by decide)) (by decide)
    refine ⟨_, rfl, _, List.mem_cons_self, rfl, ?_⟩
    exact ((select _ run _ List.mem_cons_self).sending rfl).trans (by decide)

end WebBench
