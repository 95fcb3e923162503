import WebBench.Poll.Runs

/-!
# What `bench_poll` puts on the wire

`bytes_sent` counts the bytes of the CONNECT request and then those of the body,
so in every reachable state the bytes accepted since the last `allocate_socket`
are exactly the first `bytes_sent` of the message being sent.
-/

namespace WebBench.Poll
set_option autoImplicit false
open CLib

/-- The bytes accepted since the slot's last `allocate_socket`, state by state. -/
structure ExactWire (args : Arguments) (request : HTTPRequest) (slot : Slot Nat) : Prop where
  /-- A prefix of the untruncated CONNECT request while it is being sent. -/
  tunnelling : slot.conn.state = .proxyConnect →
    plainSent (buffersOf args request) slot.cycle =
      (connectText args.targetHost.bytes args.targetPort).take slot.conn.bytesSent ∧
    tlsSent (buffersOf args request) slot.cycle = []
  /-- All of it once the reply is awaited. -/
  requested : slot.conn.state = .proxyResponse →
    plainSent (buffersOf args request) slot.cycle = connectText args.targetHost.bytes args.targetPort ∧
    tlsSent (buffersOf args request) slot.cycle = []
  /-- A prefix of the body while it is being sent, in the clear or through `SSL_write`. -/
  sending : slot.conn.state = .sending →
    if slot.conn.isHttps then
      plainSent (buffersOf args request) slot.cycle =
        (if needConnectProxy args then connectText args.targetHost.bytes args.targetPort else []) ∧
      tlsSent (buffersOf args request) slot.cycle = request.body.bytes.take slot.conn.bytesSent
    else
      plainSent (buffersOf args request) slot.cycle = request.body.bytes.take slot.conn.bytesSent ∧
      tlsSent (buffersOf args request) slot.cycle = []
  /-- All of it once the response is awaited, or the cycle is complete. -/
  sent : slot.conn.state = .receiving ∨ slot.conn.state = .completed →
    if slot.conn.isHttps then
      plainSent (buffersOf args request) slot.cycle =
        (if needConnectProxy args then connectText args.targetHost.bytes args.targetPort else []) ∧
      tlsSent (buffersOf args request) slot.cycle = request.body.bytes
    else
      plainSent (buffersOf args request) slot.cycle = request.body.bytes ∧
      tlsSent (buffersOf args request) slot.cycle = []
  /-- After an `SSL_write` that took nothing the next one has the same object, pointer and length. -/
  retried : ∀ before between after ssl ssl' slice slice' ret ret' error error',
    slot.cycle = before ++ .sslWrite ssl slice ret error :: between ++ .sslWrite ssl' slice' ret' error' :: after →
    ret ≤ 0 → (∀ c ∈ between, ∀ ssl slice ret error, c ≠ .sslWrite ssl slice ret error) →
    ssl' = ssl ∧ slice' = slice

theorem buffers_job (args : Arguments) (request : HTTPRequest) :
    (job args request).buffers = buffersOf args request := by
  funext source
  cases source <;> rfl

/-- Calls that are no `SSL_write` send nothing encrypted. -/
theorem tlsSent_of_none (buffers : Source → List Byte) {calls : List Call}
    (none : ∀ c ∈ calls, ∀ ssl slice ret error, c ≠ .sslWrite ssl slice ret error) : tlsSent buffers calls = [] := by
  apply List.flatMap_eq_nil_iff.mpr
  intro c member
  cases c with
  | sslWrite ssl slice ret error => exact absurd rfl (none _ member ssl slice ret error)
  | _ => rfl

/-- **Exact wire output.** In every run of `bench_poll`, for every sequence of
readiness events and results, the bytes accepted in a cycle are those of the
messages it sends, in order and without loss or repetition. -/
theorem exactWire_of_run (args : Arguments) (request : HTTPRequest) {w : World} (run : Run args request w) :
    ∀ slot ∈ w.slots, ExactWire args request slot := by
  intro slot member
  obtain ⟨p, trace, record⟩ := (follows args request).tracks (run_slot run slot member)
  obtain ⟨sound, encrypted, plain⟩ := Job.wire_of_trace trace
  rw [buffers_job] at encrypted plain
  have state := record.state
  have secure : slot.conn.isHttps = (job args request).https := record.https
  constructor
  · intro here
    rw [here] at state
    cases p with
    | tunnelling k =>
      rw [show slot.conn.bytesSent = k from record.sent ConnState.noConfusion]
      exact ⟨plain ConnState.noConfusion (.inl rfl), encrypted ConnState.noConfusion⟩
    | _ => cases state
  · intro here
    rw [here] at state
    cases p with
    | awaitingReply got => exact ⟨plain ConnState.noConfusion (.inl rfl), encrypted ConnState.noConfusion⟩
    | _ => cases state
  · intro here
    rw [here] at state
    cases p with
    | sending object k =>
      have plain := plain ConnState.noConfusion (.inl rfl)
      have encrypted := encrypted ConnState.noConfusion
      rw [show slot.conn.bytesSent = k from record.sent ConnState.noConfusion, secure]
      simp only [Job.plain, Job.encrypted] at plain encrypted
      split <;> rename_i https <;> simp only [https, if_true, if_false, Bool.false_eq_true] at plain encrypted
      · exact ⟨plain, encrypted⟩
      · exact ⟨plain, encrypted⟩
    | _ => cases state
  · intro here
    have wire : plainSent (buffersOf args request) slot.cycle =
          (if (job args request).https then (job args request).tunnelText else (job args request).body) ∧
        tlsSent (buffersOf args request) slot.cycle =
          (if (job args request).https then (job args request).body else []) := by
      rw [state] at here
      cases p with
      | receiving _ _ | completed _ => exact ⟨plain ConnState.noConfusion (.inl rfl), encrypted ConnState.noConfusion⟩
      | _ => rcases here with here | here <;> cases here
    rw [secure]
    split <;> rename_i https <;> simp only [https, if_true, if_false, Bool.false_eq_true] at wire
    · exact wire
    · exact wire
  · intro before between after ssl ssl' slice slice' ret ret' error error' calls nothing next
    rw [calls] at trace
    exact Job.retry_of_write trace nothing (tlsSent_of_none _ next)

theorem text_get : (∀ b ∈ text "GET ", b ≠ 0) ∧ (text "GET ").length < requestBodySize := by decide

/-- A request of four bytes. -/
def shortRequest : HTTPRequest := { HTTPRequest.zero with body := ⟨text "GET ", text_get.1, text_get.2⟩ }

/-- One client whose connection is up and whose first `send` took three bytes. -/
def threeSent : World :=
  ((opened createDefaultArguments shortRequest).woken createDefaultArguments pollout { Io.retry with getsockopt := 0 }).woken
    createDefaultArguments pollout { Io.retry with send := .bytes 3 }

/-- Three bytes of the body have been accepted. -/
theorem exactWire_threeSent :
    ∃ slot ∈ threeSent.slots, slot.conn.state = .sending ∧
      plainSent (buffersOf createDefaultArguments shortRequest) slot.cycle = text "GET" := by
  have run : Run createDefaultArguments shortRequest threeSent :=
    World.woken_run (World.woken_run (opened_run _ _) (by decide)) (by decide)
  let slot := threeSent.slots.head (by decide)
  have member : slot ∈ threeSent.slots := List.head_mem _
  have state : slot.conn.state = .sending := by decide
  have exact' := (exactWire_of_run _ _ run slot member).sending state
  rw [if_neg (by decide)] at exact'
  exact ⟨slot, member, state, exact'.1.trans (by decide)⟩

/-- The connection is up, `send` takes four bytes, and `chunk` has come. -/
def answeringIo (chunk : List Byte) : Io := { Io.retry with getsockopt := 0, send := .bytes 4, read := .bytes chunk }

/-- One client that has sent its request and received `chunk`. -/
def answered (chunk : List Byte) : World :=
  (opened createDefaultArguments shortRequest).turns createDefaultArguments
    [(pollout, answeringIo chunk), (pollout, answeringIo chunk), (pollin, answeringIo chunk)]

theorem answered_run (chunk : List Byte) : Run createDefaultArguments shortRequest (answered chunk) :=
  World.turns_run _ (opened_run _ _)

end WebBench.Poll
