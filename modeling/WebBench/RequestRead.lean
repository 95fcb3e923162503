import WebBench.BodyWire
import WebBench.ProxyRoute
import WebBench.RequestMessage

/-!
# From the command line to the server

`main` builds one request and hands it to the engine. A server that reads the
bytes of a cycle gets the message of the arguments when the cycle has sent the
whole request, and nothing before, however the bytes were split and whatever
became of the cycle.
-/

namespace WebBench
set_option autoImplicit false
open CLib

variable {κ : Type}

/-! ## What a server reads -/

/-- What a server gets from the bytes a slot has sent of its request. -/
structure MessageRead (args : Arguments) (request : HTTPRequest) (slot : Slot κ) : Prop where
  /-- A message when it has the whole of it, and none before. -/
  read : Http.parse (slot.bodySent args request) =
    if slot.bodySent args request = request.body.bytes then some (requestMessage args, []) else none
  /-- So it has it once the response is awaited, or the cycle is complete. -/
  done : slot.conn.state = .receiving ∨ slot.conn.state = .completed →
    Http.parse (slot.bodySent args request) = some (requestMessage args, [])

theorem MessageRead.of_trace {args : Arguments} {request : HTTPRequest} {job : Job} {slot : Slot κ} {p : Phase}
    (body : request.body.bytes = (requestMessage args).render) (formed : (requestMessage args).Formed)
    (buffers : job.buffers = buffersOf args request) (secure : slot.conn.isHttps = job.https)
    (trace : job.Trace .idle slot.cycle p) (state : slot.conn.state = p.state) : MessageRead args request slot := by
  have same : job.body = request.body.bytes := congrFun buffers .body
  have front : slot.bodySent args request <+: (requestMessage args).render := by
    rw [Slot.bodySent_eq buffers secure, ← body, ← same]
    exact Job.sentBody_of_trace trace
  have read := Http.parse_of_prefix formed front
  rw [← body] at read
  refine ⟨read, fun done => ?_⟩
  have live : p.state ≠ .error := by
    rw [← state]
    rcases done with now | now <;> rw [now] <;> exact ConnState.noConfusion
  have whole : slot.bodySent args request = request.body.bytes := by
    rw [BodyWire.bodySent_eq buffers secure trace live, ← same]
    rw [state] at done
    cases p with
    | receiving | completed => cases https : job.https <;> simp [Job.encrypted, Job.plain, https]
    | _ => rcases done with now | now <;> cases now
  rw [read, if_pos whole]

/-- **The server reads the request, whole or not at all.** For all arguments whose request has headers and is not
forged, in every run of each engine on what `build_request` leaves. -/
theorem messageRead_of_run (args : Arguments) {name : List Byte} (supported : methodText args.method = some name)
    (headers : HasHeaders (adjustVersion args).http10) (unforged : Unforged args) :
    let built := buildRequest args
    (∀ w, Poll.Run built.2.1 built.2.2 w → ∀ slot ∈ w.slots, MessageRead built.2.1 built.2.2 slot) ∧
      (∀ w, Epoll.Run built.2.1 built.2.2 w → ∀ slot ∈ w.slots, MessageRead built.2.1 built.2.2 slot) ∧
      ∀ w, Select.Run built.2.1 built.2.2 w → ∀ slot ∈ w.slots, MessageRead built.2.1 built.2.2 slot := by
  have body := buildRequest_rendered supported headers
  have formed := (formed_iff _).mpr (unforged_built.mpr unforged)
  dsimp only
  generalize (buildRequest args).2.1 = args, (buildRequest args).2.2 = request at body formed ⊢
  have buffers (through exact' : Bool) : (Job.ofArguments args request through exact').buffers = buffersOf args request := by
    funext source
    cases source <;> rfl
  refine ⟨fun w run slot member => ?_, fun w run slot member => ?_, fun w run slot member => ?_⟩
  · obtain ⟨p, trace, record⟩ := (Poll.follows args request).tracks (Poll.run_slot run slot member)
    exact .of_trace body formed (buffers _ _) record.https trace record.state
  · obtain ⟨p, trace, record⟩ := (Epoll.follows args request).tracks (Epoll.run_slot run slot member)
    exact .of_trace body formed (buffers _ _) record.https trace record.state
  · obtain ⟨p, trace, stands⟩ := (Select.follows args request).tracks (Select.run_slot run slot member)
    obtain ⟨⟨sizes, q, made, record, names, same⟩, -⟩ := stands
    refine .of_trace body formed (buffers _ _) ?_ trace ?_
    · rw [made]
      exact record.https
    · rw [made]
      exact record.state.trans names

section Read

variable {args : Arguments} {request : HTTPRequest} {slots : List (Slot κ)}

/-- A server that has `n` bytes of the request, and not the whole, has no message. -/
theorem MessageRead.partly {n : Nat} (reads : ∀ slot ∈ slots, MessageRead args request slot)
    (short : n ≠ request.body.bytes.length) (sent : ∃ slot ∈ slots, (slot.bodySent args request).length = n) :
    ∃ slot ∈ slots, (slot.bodySent args request).length = n ∧ Http.parse (slot.bodySent args request) = none := by
  obtain ⟨slot, member, length⟩ := sent
  have unlike : slot.bodySent args request ≠ request.body.bytes := fun same => short (by rw [← length, same])
  exact ⟨slot, member, length, (reads slot member).read.trans (if_neg unlike)⟩

/-- A server that has the whole of it has the message. -/
theorem MessageRead.wholly (reads : ∀ slot ∈ slots, MessageRead args request slot)
    (sent : ∃ slot ∈ slots, slot.bodySent args request = request.body.bytes) :
    ∃ slot ∈ slots, Http.parse (slot.bodySent args request) = some (requestMessage args, []) := by
  obtain ⟨slot, member, whole⟩ := sent
  exact ⟨slot, member, (reads slot member).read.trans (if_pos whole)⟩

end Read

/-- The connection is up, and `send` takes `n` bytes. -/
def sendingIo (n : Nat) : Io := { Io.retry with getsockopt := 0, send := .bytes n }

/-- One client of each engine that has sent ten bytes of the default request, and then the other 62. -/
theorem messageRead_of_run_sent :
    let built := buildRequest createDefaultArguments
    let poll (rest : List (BitVec 16 × Io)) := (Poll.opened built.2.1 built.2.2).turns built.2.1
      ((pollout, sendingIo 0) :: (pollout, sendingIo 10) :: rest)
    let epoll (rest : List (List Epoll.EpollEvent × Io)) := (Epoll.opened built.2.1 built.2.2).turns built.2.1
      (([⟨0, epollout⟩], sendingIo 0) :: ([⟨0, epollout⟩], sendingIo 10) :: rest)
    let select (rest : List Io) := (Select.opened built.2.1 built.2.2).map (·.turns built.2.1
      (sendingIo 0 :: sendingIo 10 :: rest))
    ((∃ slot ∈ (poll []).slots, (slot.bodySent built.2.1 built.2.2).length = 10 ∧
        Http.parse (slot.bodySent built.2.1 built.2.2) = none) ∧
      ∃ slot ∈ (poll [(pollout, sendingIo 62)]).slots,
        Http.parse (slot.bodySent built.2.1 built.2.2) = some (requestMessage built.2.1, [])) ∧
    ((∃ slot ∈ (epoll []).slots, (slot.bodySent built.2.1 built.2.2).length = 10 ∧
        Http.parse (slot.bodySent built.2.1 built.2.2) = none) ∧
      ∃ slot ∈ (epoll [([⟨0, epollout⟩], sendingIo 62)]).slots,
        Http.parse (slot.bodySent built.2.1 built.2.2) = some (requestMessage built.2.1, [])) ∧
    (∃ w ∈ select [], ∃ slot ∈ w.slots, (slot.bodySent built.2.1 built.2.2).length = 10 ∧
        Http.parse (slot.bodySent built.2.1 built.2.2) = none) ∧
      ∃ w ∈ select [sendingIo 62], ∃ slot ∈ w.slots,
        Http.parse (slot.bodySent built.2.1 built.2.2) = some (requestMessage built.2.1, []) := by
  intro built poll epoll select
  obtain ⟨pollReads, epollReads, selectReads⟩ := messageRead_of_run createDefaultArguments rfl (by decide) (by decide)
  have short : 10 ≠ built.2.2.body.bytes.length := by decide +kernel
  refine ⟨⟨?_, ?_⟩, ⟨?_, ?_⟩, ?_, ?_⟩
  · exact MessageRead.partly (pollReads _ (Poll.World.turns_run _ (Poll.opened_run _ _))) short (by decide +kernel)
  · exact MessageRead.wholly (pollReads _ (Poll.World.turns_run _ (Poll.opened_run _ _))) (by decide +kernel)
  · exact MessageRead.partly (epollReads _ (Epoll.World.turns_run _ (Epoll.opened_run _ _))) short (by decide +kernel)
  · exact MessageRead.wholly (epollReads _ (Epoll.World.turns_run _ (Epoll.opened_run _ _))) (by decide +kernel)
  · have sent : ∃ w ∈ select [], ∃ slot ∈ w.slots, (slot.bodySent built.2.1 built.2.2).length = 10 := by decide +kernel
    obtain ⟨w, made, sent⟩ := sent
    obtain ⟨first, opens, rfl⟩ := Option.map_eq_some_iff.mp made
    exact ⟨_, made, MessageRead.partly (selectReads _ (Select.World.turns_run _ (Select.opened_run opens))) short sent⟩
  · have sent : ∃ w ∈ select [sendingIo 62], ∃ slot ∈ w.slots,
        slot.bodySent built.2.1 built.2.2 = built.2.2.body.bytes := by decide +kernel
    obtain ⟨w, made, sent⟩ := sent
    obtain ⟨first, opens, rfl⟩ := Option.map_eq_some_iff.mp made
    exact ⟨_, made, MessageRead.wholly (selectReads _ (Select.World.turns_run _ (Select.opened_run opens))) sent⟩

/-! ## `main` -/

/-- `main` of `webbench2.c`: the arguments and the request it hands to `bench_epoll`, given `argc` and what
`getopt_long` finds. What `build_request` returns is not looked at. -/
def main (argc : Nat) (opts : List Opt) (url : Option CText) : Ending (Arguments × HTTPRequest) :=
  if argc = 1 then .exited false
  else
    match setArgumentsValues 0 opts url createDefaultArguments with
    | .exited success => .exited success
    | .undefined => .undefined
    | .returned args => .returned (buildRequest args).2

end WebBench
