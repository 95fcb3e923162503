import WebBench.Poll.Wire
import WebBench.Epoll.Runs
import WebBench.Select.Runs

/-!
# Nothing leaks in the clear

With HTTPS the body of the request is only handed to `SSL_write`, only on an
object whose handshake has succeeded, and a handshake through a proxy waits for
the tunnel. The three engines run the cycle, and the cycle has this property.
-/

namespace WebBench
set_option autoImplicit false
open CLib

/-- The calls of a cycle with HTTPS, whose socket goes to the proxy if `through` is set. -/
structure Confidential (args : Arguments) (through : Bool) (calls : List Call) : Prop where
  /-- `send` is given the rest of the CONNECT request, and nothing of the body. -/
  clear : ∀ fd slice ret, .send fd slice ret ∈ calls → slice.source = .connectRequest ∧
    slice.offset + slice.length = (connectText args.targetHost.bytes args.targetPort).length
  /-- `SSL_write` is made on an object on which `SSL_connect` has returned 1. -/
  shaken : ∀ before after ssl slice ret error,
    calls = before ++ .sslWrite ssl slice ret error :: after → .sslConnect ssl 1 ∈ before
  /-- The socket goes to the proxy or to the target. -/
  route : ∀ host port, .getaddrinfo host port ∈ calls →
    (host, port) = if through then (args.proxyHost.bytes, args.proxyPort) else (args.targetHost.bytes, args.targetPort)
  /-- `SSL_connect` through the proxy is called after `handle_proxy_response` has returned 1. -/
  tunnelled : through = true → ∀ before after ssl ret,
    calls = before ++ .sslConnect ssl ret :: after → .proxyReply 1 ∈ before

/-- A trace of a secure cycle is confidential. -/
theorem Confidential.of_trace {args : Arguments} {request : HTTPRequest} {through exact : Bool} {calls : List Call}
    {p : Phase} (secure : args.protocol = protocolHttps)
    (trace : (Job.ofArguments args request through exact).Trace .idle calls p) : Confidential args through calls := by
  have https : (Job.ofArguments args request through exact).https = true := beq_iff_eq.mpr secure
  constructor
  case clear =>
    intro fd slice ret member
    obtain ⟨before, after, rfl⟩ := List.append_of_mem member
    obtain ⟨k, within, rfl⟩ := Job.rest_of_send https trace
    exact ⟨rfl, Nat.add_sub_cancel' within⟩
  case shaken =>
    rintro before after ssl slice ret error rfl
    exact Job.shaken_of_write trace
  case route =>
    intro host port member
    obtain ⟨before, after, rfl⟩ := List.append_of_mem member
    obtain ⟨rfl, rfl⟩ := Job.route_of_getaddrinfo trace
    cases through <;> rfl
  case tunnelled =>
    rintro proxied before after ssl ret rfl
    exact Job.accepted_of_sslConnect proxied trace

/-- **No plaintext leak.** In every run of the three engines with HTTPS, every
cycle of every slot is confidential. -/
theorem confidential_of_run (args : Arguments) (request : HTTPRequest) (secure : args.protocol = protocolHttps) :
    (∀ w, Poll.Run args request w → ∀ slot ∈ w.slots, Confidential args (Poll.needConnectProxy args) slot.cycle) ∧
      (∀ w, Epoll.Run args request w → ∀ slot ∈ w.slots, Confidential args (Epoll.needConnectProxy args) slot.cycle) ∧
      ∀ w, Select.Run args request w → ∀ slot ∈ w.slots, Confidential args (Select.needConnectProxy args) slot.cycle := by
  refine ⟨fun w run slot member => ?_, fun w run slot member => ?_, fun w run slot member => ?_⟩
  · obtain ⟨p, trace, -⟩ := (Poll.follows args request).tracks (Poll.run_slot run slot member)
    exact .of_trace secure trace
  · obtain ⟨p, trace, -⟩ := (Epoll.follows args request).tracks (Epoll.run_slot run slot member)
    exact .of_trace secure trace
  · obtain ⟨p, trace, -⟩ := (Select.follows args request).tracks (Select.run_slot run slot member)
    exact .of_trace secure trace

/-- The default arguments with HTTPS. -/
def secureArguments : Arguments := { createDefaultArguments with protocol := protocolHttps }

/-- The socket is connected, `send` takes everything, the proxy opens the tunnel, and SSL is set up with `ctx`. -/
def shakingIo (ctx : Option Ptr) : Io :=
  { Io.retry with
    getsockopt := 0
    send := .bytes bufferSize
    recv := .bytes established
    sslCtxNew := ctx
    sslNew := some 1
    sslSetFd := 1 }

/-- A host of one letter. -/
def letterHost (letter : Byte) (some : letter ≠ 0) : CString hostnameLen :=
  ⟨[letter], by simpa using some, by simp [hostnameLen]⟩

/-- One client with HTTPS, through a proxy. -/
def proxyArguments : Arguments :=
  { secureArguments with
    proxyHost := letterHost 112 (by decide)
    proxyPort := 8080
    targetHost := letterHost 104 (by decide)
    targetPort := 443 }

/-- The handshake succeeds as well, and `SSL_write` takes three bytes. -/
def speakingIo : Io := { shakingIo (some 7) with sslConnect := 1, sslWrite := .bytes 3 }

/-- A client of each engine that has its tunnel, has shaken hands through it and has sent three bytes of its request. -/
theorem confidential_of_run_tunnelled :
    let toldPoll := (Poll.opened proxyArguments Poll.shortRequest).turns proxyArguments
      [(pollout, speakingIo), (pollout, speakingIo), (pollin, speakingIo), (pollin, speakingIo), (pollout, speakingIo)]
    let toldEpoll := (Epoll.opened proxyArguments Poll.shortRequest).turns proxyArguments
      [([⟨0, epollout⟩], speakingIo), ([⟨0, epollout⟩], speakingIo), ([⟨0, epollin⟩], speakingIo),
        ([⟨0, epollin⟩], speakingIo), ([⟨0, epollout⟩], speakingIo)]
    let toldSelect := (Select.opened proxyArguments Poll.shortRequest).map (·.turns proxyArguments
      [speakingIo, speakingIo, speakingIo, speakingIo, speakingIo])
    (∃ slot ∈ toldPoll.slots, .sslWrite 1 ⟨.body, 0, 4⟩ 3 .wantRead ∈ slot.cycle ∧
      Confidential proxyArguments true slot.cycle) ∧
    (∃ slot ∈ toldEpoll.slots, .sslWrite 1 ⟨.body, 0, 4⟩ 3 .wantRead ∈ slot.cycle ∧
      Confidential proxyArguments true slot.cycle) ∧
    ∃ w ∈ toldSelect, ∃ slot ∈ w.slots, .sslWrite 1 ⟨.body, 0, 4⟩ 3 .wantRead ∈ slot.cycle ∧
      Confidential proxyArguments true slot.cycle := by
  intro toldPoll toldEpoll toldSelect
  obtain ⟨poll, epoll, select⟩ := confidential_of_run proxyArguments Poll.shortRequest rfl
  have first : ∃ slot ∈ toldPoll.slots, .sslWrite 1 ⟨.body, 0, 4⟩ 3 .wantRead ∈ slot.cycle := by decide +kernel
  have second : ∃ slot ∈ toldEpoll.slots, .sslWrite 1 ⟨.body, 0, 4⟩ 3 .wantRead ∈ slot.cycle := by decide +kernel
  have third : ∃ w ∈ toldSelect, ∃ slot ∈ w.slots, .sslWrite 1 ⟨.body, 0, 4⟩ 3 .wantRead ∈ slot.cycle := by decide +kernel
  refine ⟨?_, ?_, ?_⟩
  · obtain ⟨slot, member, written⟩ := first
    exact ⟨slot, member, written, poll _ (Poll.World.turns_run _ (Poll.opened_run _ _)) slot member⟩
  · obtain ⟨slot, member, written⟩ := second
    exact ⟨slot, member, written, epoll _ (Epoll.World.turns_run _ (Epoll.opened_run _ _)) slot member⟩
  · obtain ⟨w, made, slot, member, written⟩ := third
    obtain ⟨start, opens, rfl⟩ := Option.map_eq_some_iff.mp made
    exact ⟨_, made, slot, member, written, select _ (Select.World.turns_run _ (Select.opened_run opens)) slot member⟩

end WebBench
