import WebBench.Lib.Trace
import WebBench.Transcript

/-!
# The cycle of a connection

What a cycle is for, apart from any engine: open a connection, ask a proxy for a
tunnel and await its reply, shake hands, send the request and receive the
response. The calls made since a slot's last `allocate_socket` form a trace of
these moves, and what the traces have in common is proved here once.
-/

namespace WebBench
set_option autoImplicit false
open CLib

/-- What a cycle has to do, and where its socket goes. An `exact` cycle sends the CONNECT request without loss. -/
structure Job where
  host : List Byte
  port : Int
  https : Bool
  tunnel : Bool
  force : Bool
  exact : Bool
  request : List Byte
  body : List Byte
  someRequest : 0 < request.length
  bodyFits : body.length < requestBodySize

/-- How far a cycle has got. -/
inductive Phase where
  | idle
  | connecting
  | tunnelling (sent : Nat)
  | awaitingReply (got : List Byte)
  | handshaking (ssl : Option Ptr)
  | sending (ssl : Option Ptr) (sent : Nat)
  | receiving (ssl : Option Ptr) (got : List Byte)
  | completed (got : List Byte)
  | failed (got : List Byte)

namespace Phase

/-- The state the engines name it by. -/
def state : Phase → ConnState
  | idle => .idle
  | connecting => .connecting
  | tunnelling _ => .proxyConnect
  | awaitingReply _ => .proxyResponse
  | handshaking _ => .tlsHandshake
  | sending _ _ => .sending
  | receiving _ _ => .receiving
  | completed _ => .completed
  | failed _ => .error

/-- The data received in the current dialogue. -/
def got : Phase → List Byte
  | awaitingReply got | receiving _ got | completed got | failed got => got
  | _ => []

/-- The SSL object of the cycle. -/
def ssl : Phase → Option Ptr
  | handshaking ssl | sending ssl _ | receiving ssl _ => ssl
  | _ => none

/-- The cycle goes on. -/
abbrev active (p : Phase) : Prop := p.state.pollable = true

end Phase

namespace Job

/-- The buffers the cycle sends from. -/
def buffers (job : Job) : Source → List Byte
  | .connectRequest => job.request
  | .body => job.body

/-- The whole of the body from `sent` on. -/
def rest (job : Job) (source : Source) (sent : Nat) : Slice :=
  ⟨source, sent, (job.buffers source).length - sent⟩

/-- The moves that no call shows. Where the CONNECT request may be lost, its count may be anything. -/
inductive Silent (job : Job) : Phase → Phase → Prop
  | opened : Silent job .idle .connecting
  | tunnel : job.https = true → job.tunnel = true → Silent job .connecting (.tunnelling 0)
  | secure : job.https = true → job.tunnel = false → Silent job .connecting (.handshaking none)
  | plain : job.https = false → Silent job .connecting (.sending none 0)
  | requested : Silent job (.tunnelling job.request.length) (.awaitingReply [])
  | slip {k k' : Nat} : job.exact = false → k' < job.request.length → Silent job (.tunnelling k) (.tunnelling k')
  | skip {k : Nat} : job.exact = false → Silent job (.tunnelling k) (.awaitingReply [])
  | sent {ssl : Option Ptr} : job.force = false → Silent job (.sending ssl job.body.length) (.receiving ssl [])
  | forced {ssl : Option Ptr} : job.force = true → Silent job (.sending ssl job.body.length) (.completed [])
  | complete {ssl : Option Ptr} {got : List Byte} : strstr (cstr got) headerEnd ∨ got.length = recvBufferSize - 1 →
      Silent job (.receiving ssl got) (.completed got)
  | fail {p : Phase} : p.active → Silent job p (.failed p.got)

/-- The moves a call makes. -/
inductive Act (job : Job) : Phase → Call → Phase → Prop
  | getaddrinfo : Act job .idle (.getaddrinfo job.host job.port) .idle
  | socket {fd : Int} : Act job .idle (.socket fd) .idle
  | connect {fd ret : Int} : Act job .idle (.connect fd ret) .idle
  | getsockopt {fd : Int} : Act job .connecting (.getsockopt fd) .connecting
  | request {fd ret : Int} {k : Nat} : k + ret.toNat ≤ job.request.length →
      Act job (.tunnelling k) (.send fd (job.rest .connectRequest k) ret) (.tunnelling (k + ret.toNat))
  | reply {fd : Int} {offset room : Nat} {got chunk : List Byte} :
      Act job (.awaitingReply got) (.recv fd offset room chunk) (.awaitingReply (got ++ chunk))
  | accepted {got : List Byte} : strstr (cstr got) established →
      Act job (.awaitingReply got) (.proxyReply 1) (.handshaking none)
  | undecided {got : List Byte} {ret : Int} : ret ≠ 1 →
      Act job (.awaitingReply got) (.proxyReply ret) (.awaitingReply got)
  | sslCtxNew {ssl ctx : Option Ptr} : Act job (.handshaking ssl) (.sslCtxNew ctx) (.handshaking ssl)
  | sslNew {old ssl : Option Ptr} : Act job (.handshaking old) (.sslNew ssl) (.handshaking ssl)
  | sslSetFd {ssl : Option Ptr} {fd ret : Int} : Act job (.handshaking ssl) (.sslSetFd ssl fd ret) (.handshaking ssl)
  | sslSetHostName {ssl : Option Ptr} {host : List Byte} :
      Act job (.handshaking ssl) (.sslSetHostName ssl host) (.handshaking ssl)
  | shaken {ssl : Ptr} : Act job (.handshaking (some ssl)) (.sslConnect ssl 1) (.sending (some ssl) 0)
  | unshaken {ssl : Ptr} {ret : Int} : ret ≠ 1 →
      Act job (.handshaking (some ssl)) (.sslConnect ssl ret) (.handshaking (some ssl))
  | write {ssl : Ptr} {k : Nat} {ret : Int} {error : SslError} : job.https = true → k + ret.toNat ≤ job.body.length →
      Act job (.sending (some ssl) k) (.sslWrite ssl (job.rest .body k) ret error)
        (.sending (some ssl) (k + ret.toNat))
  | send {ssl : Option Ptr} {k : Nat} {fd ret : Int} : job.https = false → k + ret.toNat ≤ job.body.length →
      Act job (.sending ssl k) (.send fd (job.rest .body k) ret) (.sending ssl (k + ret.toNat))
  | sslRead {ssl : Option Ptr} {offset room : Nat} {got chunk : List Byte} : job.https = true →
      Act job (.receiving ssl got) (.sslRead ssl offset room chunk) (.receiving ssl (got ++ chunk))
  | read {ssl : Option Ptr} {fd : Int} {offset room : Nat} {got chunk : List Byte} : job.https = false →
      Act job (.receiving ssl got) (.read fd offset room chunk) (.receiving ssl (got ++ chunk))

/-- The calls made on the way from one phase to another. -/
abbrev Trace (job : Job) : Phase → List Call → Phase → Prop := CLib.Trace job.Silent job.Act

/-! ## What every phase knows -/

/-- A phase is only entered by jobs that need it, and counts stay within the buffers. -/
def Sound (job : Job) : Phase → Prop
  | .tunnelling k => job.https = true ∧ job.tunnel = true ∧ k ≤ job.request.length
  | .awaitingReply _ => job.https = true ∧ job.tunnel = true
  | .handshaking _ => job.https = true
  | .sending _ k => k ≤ job.body.length
  | _ => True

theorem Sound.silent {job : Job} {p q : Phase} (sound : job.Sound p) (move : job.Silent p q) : job.Sound q := by
  cases move <;> simp_all [Sound]
  omega

theorem Sound.act {job : Job} {p q : Phase} {c : Call} (sound : job.Sound p) (move : job.Act p c q) :
    job.Sound q := by
  cases move <;> simp_all [Sound]

/-- A cycle that has begun does not become idle. -/
theorem begun_of_trace {job : Job} {calls : List Call} {p q : Phase} (trace : job.Trace p calls q)
    (begun : p.state ≠ .idle) : q.state ≠ .idle := by
  refine trace.invariant (motive := fun _ q => q.state ≠ .idle) begun ?_ ?_
  · intro _ p q begun move
    cases move <;> simp_all [Phase.state]
  · intro _ p c q begun move
    cases move <;> simp_all [Phase.state]

/-- A cycle in force mode does not wait for a response. -/
theorem unreceiving_of_trace {job : Job} {calls : List Call} {p q : Phase} (forced : job.force = true)
    (trace : job.Trace p calls q) (start : p.state ≠ .receiving) : q.state ≠ .receiving := by
  refine trace.invariant (motive := fun _ q => q.state ≠ .receiving) start ?_ ?_
  · intro _ p q before move
    cases move <;> simp_all [Phase.state]
  · intro _ p c q before move
    cases move <;> simp_all [Phase.state]

/-- Along its calls a cycle stays sound. -/
theorem sound_of_trace {job : Job} {calls : List Call} {p q : Phase} (trace : job.Trace p calls q)
    (sound : job.Sound p) : job.Sound q :=
  trace.invariant (motive := fun _ q => job.Sound q) sound (fun _ _ _ sound => sound.silent)
    fun _ _ _ _ sound => sound.act

/-! ## What is on the wire -/

/-- What the tunnel costs. -/
def tunnelText (job : Job) : List Byte := if job.tunnel then job.request else []

/-- What `SSL_write` has accepted in a phase. -/
def encrypted (job : Job) : Phase → List Byte
  | .sending _ k => if job.https then job.body.take k else []
  | .receiving _ _ | .completed _ => if job.https then job.body else []
  | _ => []

/-- What `send` has accepted in a phase. -/
def plain (job : Job) : Phase → List Byte
  | .tunnelling k => job.request.take k
  | .awaitingReply _ => job.request
  | .handshaking _ => job.tunnelText
  | .sending _ k => if job.https then job.tunnelText else job.body.take k
  | .receiving _ _ | .completed _ => if job.https then job.tunnelText else job.body
  | _ => []

/-- The bytes accepted so far are those of the phase. -/
structure Wire (job : Job) (calls : List Call) (p : Phase) : Prop where
  sound : job.Sound p
  encrypted : p.state ≠ .error → tlsSent job.buffers calls = job.encrypted p
  plain : p.state ≠ .error → job.exact = true ∨ job.https = false → plainSent job.buffers calls = job.plain p

/-- What is left of a buffer goes on where the part that was sent ends. -/
theorem take_rest (job : Job) (source : Source) {k n : Nat} (within : k + n ≤ (job.buffers source).length) :
    (job.buffers source).take k ++ ((job.rest source k).bytes job.buffers).take n =
      (job.buffers source).take (k + n) := by
  have fits : n ≤ (job.buffers source).length - k := by omega
  exact take_append_slice fits

theorem Wire.act {job : Job} {calls : List Call} {p q : Phase} {c : Call} (wire : job.Wire calls p)
    (move : job.Act p c q) : job.Wire (calls ++ [c]) q := by
  obtain ⟨before, encrypted, plain⟩ := wire
  refine ⟨before.act move, fun live => ?_, fun live known => ?_⟩
  · rw [tlsSent_append]
    cases move with
    | write secure within =>
      rename_i ssl k ret error
      have more := job.take_rest .body within
      simp_all [Phase.state, Job.encrypted, Call.encrypted, buffers]
    | _ => simp_all [Phase.state, Job.encrypted, Call.encrypted]
  · rw [plainSent_append]
    cases move with
    | request within =>
      have more := job.take_rest .connectRequest within
      simp_all [Phase.state, Job.plain, Call.plain, buffers]
    | send open' within =>
      have more := job.take_rest .body within
      simp_all [Phase.state, Job.plain, Call.plain, buffers]
    | _ => simp_all [Phase.state, Job.plain, Call.plain, Sound, tunnelText]

theorem Wire.silent {job : Job} {calls : List Call} {p q : Phase} (wire : job.Wire calls p)
    (move : job.Silent p q) : job.Wire calls q := by
  obtain ⟨before, encrypted, plain⟩ := wire
  refine ⟨before.silent move, fun live => ?_, fun live known => ?_⟩
  · cases move <;> simp_all [Phase.state, Job.encrypted]
  · cases move <;> simp_all [Phase.state, Job.plain, tunnelText, Sound]

/-- Along the calls of a cycle the bytes accepted are those of its phase. -/
theorem wire_of_trace {job : Job} {calls : List Call} {p : Phase} (trace : job.Trace .idle calls p) :
    job.Wire calls p :=
  trace.invariant ⟨trivial, fun _ => rfl, fun _ _ => rfl⟩ (fun _ _ _ wire => wire.silent)
    fun _ _ _ _ wire => wire.act

/-- **Every `SSL_write` offers the whole rest of the body.** -/
theorem slice_of_write {job : Job} {before after : List Call} {ssl : Ptr} {slice : Slice} {ret : Int}
    {error : SslError} {p : Phase} (trace : job.Trace .idle (before ++ .sslWrite ssl slice ret error :: after) p) :
    slice = job.rest .body (tlsSent job.buffers before).length := by
  obtain ⟨_, _, reach, move, -⟩ := trace.taken
  obtain ⟨sound, encrypted, -⟩ := wire_of_trace reach
  cases move with
  | write secure within =>
    rw [encrypted ConnState.noConfusion]
    simp only [Sound] at sound
    simp [Job.encrypted, secure, sound]

/-- The SSL object of a cycle does not change once the handshake has succeeded. -/
def Bound (ssl : Ptr) : Phase → Prop
  | .sending object _ | .receiving object _ => object = some ssl
  | .completed _ | .failed _ => True
  | _ => False

/-- After the handshake the object stays the same. -/
theorem bound_of_trace {job : Job} {calls : List Call} {ssl : Ptr} {p q : Phase} (trace : job.Trace p calls q)
    (start : Bound ssl p) : Bound ssl q := by
  refine trace.invariant (motive := fun _ q => Bound ssl q) start ?_ ?_
  · intro _ p q bound move
    cases move <;> simp_all [Bound]
  · intro _ p c q bound move
    cases move <;> simp_all [Bound]

/-- A secure cycle that has shaken hands has an SSL object. -/
def HasObject (job : Job) : Phase → Prop
  | .sending ssl _ | .receiving ssl _ => job.https = true → ssl.isSome = true
  | _ => True

theorem hasObject_of_trace {job : Job} {calls : List Call} {p q : Phase} (trace : job.Trace p calls q)
    (start : job.HasObject p) : job.HasObject q := by
  refine trace.invariant (motive := fun _ q => job.HasObject q) start ?_ ?_
  · intro _ p q has move
    cases move <;> simp_all [HasObject]
  · intro _ p c q has move
    cases move <;> simp_all [HasObject]

/-- A cycle without HTTPS never has one. -/
theorem bare_of_trace {job : Job} {calls : List Call} {p : Phase} (plain : job.https = false)
    (trace : job.Trace .idle calls p) : p.ssl = none := by
  have both : job.Sound p ∧ p.ssl = none := by
    refine trace.invariant (motive := fun _ p => job.Sound p ∧ p.ssl = none) ⟨trivial, rfl⟩ ?_ ?_
    · rintro _ p q ⟨sound, bare⟩ move
      refine ⟨sound.silent move, ?_⟩
      cases move <;> simp_all [Phase.ssl]
    · rintro _ p c q ⟨sound, bare⟩ move
      refine ⟨sound.act move, ?_⟩
      cases move <;> simp_all [Phase.ssl, Sound]
  exact both.2

/-- **A retry offers the same slice.** The next `SSL_write` after one that took
nothing has the same object, pointer and length. -/
theorem retry_of_write {job : Job} {before between after : List Call} {ssl ssl' : Ptr} {slice slice' : Slice}
    {ret ret' : Int} {error error' : SslError} {p : Phase}
    (trace : job.Trace .idle
      (before ++ .sslWrite ssl slice ret error :: between ++ .sslWrite ssl' slice' ret' error' :: after) p)
    (nothing : ret ≤ 0) (next : tlsSent job.buffers between = []) : ssl' = ssl ∧ slice' = slice := by
  have second := slice_of_write trace
  rw [List.append_assoc, List.cons_append] at trace
  have first := slice_of_write trace
  have zero : ret.toNat = 0 := Int.toNat_of_nonpos nothing
  refine ⟨?_, ?_⟩
  · obtain ⟨_, _, -, move, rest⟩ := trace.taken
    cases move with
    | write _ _ =>
      obtain ⟨_, _, reach, move', -⟩ := rest.taken
      have kept : Bound ssl _ := bound_of_trace reach rfl
      cases move' with
      | write _ _ => exact Option.some.inj kept
  · rw [first, second]
    simp [Call.encrypted, next, zero]

/-! ## In which order -/

/-- What a phase of a secure cycle has behind it. -/
def Secured (job : Job) (calls : List Call) : Phase → Prop
  | .handshaking _ => job.tunnel = true → .proxyReply 1 ∈ calls
  | .sending ssl _ => job.https = true → ∀ s, ssl = some s → .sslConnect s 1 ∈ calls
  | _ => True

/-- Along its calls a secure cycle has behind it what its phase needs. -/
theorem secured_of_trace {job : Job} {calls : List Call} {p : Phase} (trace : job.Trace .idle calls p) :
    job.Secured calls p := by
  refine trace.invariant trivial ?_ ?_
  · intro calls p q secured move
    cases move <;> simp_all [Secured]
  · intro calls p c q secured move
    cases move <;> simp_all [Secured]

/-- **A secure cycle sends nothing in the clear but the CONNECT request.** -/
theorem rest_of_send {job : Job} {before after : List Call} {fd ret : Int} {slice : Slice} {p : Phase}
    (secure : job.https = true) (trace : job.Trace .idle (before ++ .send fd slice ret :: after) p) :
    ∃ k ≤ job.request.length, slice = job.rest .connectRequest k := by
  obtain ⟨_, _, reach, move, -⟩ := trace.taken
  cases move with
  | request _ =>
    obtain ⟨-, -, within⟩ := (wire_of_trace reach).sound
    exact ⟨_, within, rfl⟩
  | send insecure _ => exact absurd (secure.symm.trans insecure) (by decide)

/-- **A cycle looks up the host its socket goes to.** -/
theorem route_of_getaddrinfo {job : Job} {before after : List Call} {host : List Byte} {port : Int} {p : Phase}
    (trace : job.Trace .idle (before ++ .getaddrinfo host port :: after) p) : host = job.host ∧ port = job.port := by
  obtain ⟨_, _, -, move, -⟩ := trace.taken
  cases move
  exact ⟨rfl, rfl⟩

/-- **Nothing is written before the handshake has succeeded.** -/
theorem shaken_of_write {job : Job} {before after : List Call} {ssl : Ptr} {slice : Slice} {ret : Int}
    {error : SslError} {p : Phase} (trace : job.Trace .idle (before ++ .sslWrite ssl slice ret error :: after) p) :
    .sslConnect ssl 1 ∈ before := by
  obtain ⟨_, _, reach, move, -⟩ := trace.taken
  cases move with
  | write secure _ => exact secured_of_trace reach secure ssl rfl

/-- **No handshake through a proxy before the tunnel is open.** -/
theorem accepted_of_sslConnect {job : Job} {before after : List Call} {ssl : Ptr} {ret : Int} {p : Phase}
    (through : job.tunnel = true) (trace : job.Trace .idle (before ++ .sslConnect ssl ret :: after) p) :
    .proxyReply 1 ∈ before := by
  obtain ⟨_, _, reach, move, -⟩ := trace.taken
  cases move with
  | shaken | unshaken _ => exact secured_of_trace reach through

/-! ## What has been received -/

/-- The data a phase holds is what its own dialogue has received. -/
def Seen (calls : List Call) : Phase → Prop
  | .idle | .connecting | .tunnelling _ => replyBytes calls = [] ∧ responseBytes calls = []
  | .awaitingReply got => got = replyBytes calls ∧ responseBytes calls = []
  | .handshaking _ | .sending _ _ => responseBytes calls = []
  | .receiving _ got | .completed got => got = responseBytes calls
  | .failed got => got = [] ∨ got = replyBytes calls ∨ got = responseBytes calls

/-- What a phase holds has been received on the way to it. -/
theorem seen_of_trace {job : Job} {calls : List Call} {p : Phase} (trace : job.Trace .idle calls p) :
    Seen calls p := by
  refine trace.invariant ⟨rfl, rfl⟩ ?_ ?_
  · intro calls p q seen move
    cases move with
    | fail active => cases p <;> simp_all [Seen, Phase.got]
    | _ => simp_all [Seen]
  · intro calls p c q seen move
    cases move <;> simp_all [Seen, Call.reply, Call.response]

end Job

end WebBench
