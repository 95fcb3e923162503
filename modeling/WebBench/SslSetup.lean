import WebBench.Lib.Ownership
import WebBench.Descriptors
import WebBench.Epoll.Copy

/-!
# SSL set-up

A slot gets its SSL object when its socket is connected, or when the proxy has
opened the tunnel. `SslStep` is what one handler call does about the object:
nothing, a handshake, or a set-up whose calls `SetUp` describes.
-/

namespace WebBench
set_option autoImplicit false
open CLib

/-- The call belongs to an SSL set-up. -/
def Call.setsUp : Call → Bool
  | .sslCtxNew _ | .sslNew _ | .sslSetFd _ _ _ | .sslSetHostName _ _ => true
  | _ => false

/-- The call belongs to an SSL set-up and fails. -/
def Call.setUpFails : Call → Bool
  | .sslCtxNew ctx => ctx.isNone
  | .sslNew ssl => ssl.isNone
  | .sslSetFd _ _ ret => ret == 0
  | _ => false

/-- `SSL_connect`. -/
def Call.handshakes : Call → Bool
  | .sslConnect _ _ => true
  | _ => false

/-- Neither part of a set-up nor a handshake. -/
def Call.plainly (c : Call) : Prop := c.setsUp = false ∧ c.handshakes = false

/-- The states before the SSL object is there. -/
def ConnState.early : ConnState → Bool
  | .idle | .connecting | .proxyConnect | .proxyResponse => true
  | .tlsHandshake | .sending | .receiving | .completed | .error => false

/-- The slot is past the TCP and proxy phase of a secure cycle. -/
def ConnectionOf.late {κ : Type} (conn : ConnectionOf κ) : Prop :=
  conn.state = .tlsHandshake ∨ conn.isHttps = true ∧ (conn.state = .sending ∨ conn.state = .receiving)

/-- No call of a set-up has failed. -/
def Fine (calls : List Call) : Prop := ∀ c ∈ calls, c.setUpFails = false

/-- The calls of an SSL set-up on `fd` that leaves the slot in its cycle, and the
object it leaves: bound to `fd` unless a call has failed, which on a `direct`
path none has, and with the server's name on a path that is `named`. -/
structure SetUp (fd : Int) (host : List Byte) (direct named : Prop) (ssl : Option Ptr) (calls : List Call) : Prop where
  bound : (∃ object ret, ssl = some object ∧ ret ≠ 0 ∧ .sslSetFd (some object) fd ret ∈ calls) ↔ Fine calls
  sure : direct → Fine calls
  name : ∀ object, ssl = some object → (.sslSetHostName (some object) host ∈ calls ↔ named)

/-- What a handler call does about the SSL object of its slot. -/
inductive SslChange {κ : Type} (host : List Byte) (direct named : Prop) (sys : Sys) (conn : ConnectionOf κ)
    (o : Outcome κ) : Prop
  | still (object : o.conn.ssl = conn.ssl) (live : o.sys.liveSsl = sys.liveSsl) (calls : ∀ c ∈ o.calls, c.plainly)
      (early : o.conn.state.early = true → conn.state.early = true) (late : o.conn.late → conn.late)
  | handshake {ssl : Ptr} {ret : Int} (waits : conn.state = .tlsHandshake) (object : conn.ssl = some ssl)
      (kept : o.conn.ssl = some ssl) (live : o.sys.liveSsl = sys.liveSsl) (calls : o.calls = [.sslConnect ssl ret])
      (next : o.conn.state.early = false)
  | setUp (early : conn.state.early = true) (object : Swap sys.liveSsl none o.conn.ssl o.sys.liveSsl)
      (calls : ∀ c ∈ o.calls, c.handshakes = false)
      (next : o.conn.state = .error ∨
        o.conn.state = .tlsHandshake ∧ SetUp conn.sockfd host direct named o.conn.ssl o.calls)

/-- What a handler call leaves of the socket and does about the SSL object. -/
structure SslStep {κ : Type} (host : List Byte) (direct named : Prop) (sys : Sys) (conn : ConnectionOf κ)
    (o : Outcome κ) : Prop where
  sockfd : o.conn.sockfd = conn.sockfd
  https : o.conn.isHttps = conn.isHttps
  opened : o.sys.opened = sys.opened
  change : SslChange host direct named sys conn o

/-- A call that leaves the object, the socket and the state of its slot alone. -/
structure LeavesAlone {κ : Type} (sys : Sys) (conn : ConnectionOf κ) (o : Outcome κ) : Prop where
  state : o.conn.state = conn.state
  object : o.conn.ssl = conn.ssl
  sockfd : o.conn.sockfd = conn.sockfd
  https : o.conn.isHttps = conn.isHttps
  opened : o.sys.opened = sys.opened
  live : o.sys.liveSsl = sys.liveSsl
  calls : ∀ c ∈ o.calls, c.plainly

/-- Nothing happens. -/
theorem SslStep.stay {κ : Type} (host : List Byte) (direct named : Prop) (ret : Int) (sys : Sys)
    (conn : ConnectionOf κ) : SslStep host direct named sys conn ⟨ret, conn, sys, []⟩ :=
  ⟨rfl, rfl, rfl, .still rfl rfl (by simp) id id⟩

/-- The slot fails after calls that have nothing to do with SSL. -/
theorem SslStep.error {κ : Type} (host : List Byte) (direct named : Prop) (ret : Int) (sys : Sys)
    (conn : ConnectionOf κ) {calls : List Call} (plain : ∀ c ∈ calls, c.plainly) :
    SslStep host direct named sys conn ⟨ret, conn.toError, sys, calls⟩ := by
  refine ⟨rfl, rfl, rfl, .still rfl rfl plain ?_ ?_⟩
  · simp [ConnectionOf.toError, ConnState.early]
  · simp [ConnectionOf.toError, ConnectionOf.late]

/-- The slot fails at once. -/
theorem SslStep.fail {κ : Type} (host : List Byte) (direct named : Prop) (ret : Int) (sys : Sys)
    (conn : ConnectionOf κ) : SslStep host direct named sys conn ⟨ret, conn.toError, sys, []⟩ :=
  .error host direct named ret sys conn (by simp)

/-- A change of the shared state before the step that concerns neither sockets nor objects. -/
theorem SslStep.after {κ : Type} {host : List Byte} {direct named : Prop} {sys sys' : Sys} {conn : ConnectionOf κ}
    {o : Outcome κ} (opened : sys'.opened = sys.opened) (live : sys'.liveSsl = sys.liveSsl)
    (step : SslStep host direct named sys' conn o) : SslStep host direct named sys conn o := by
  refine ⟨step.sockfd, step.https, step.opened.trans opened, ?_⟩
  cases step.change with
  | still object same calls early late => exact .still object (same.trans live) calls early late
  | handshake waits object kept same calls next => exact .handshake waits object kept (same.trans live) calls next
  | setUp early object calls next => exact .setUp early (live ▸ object) calls next

/-- Two steps that agree do the same about SSL. -/
theorem SslStep.agree {host : List Byte} {direct named : Prop} {sys : Sys} {conn : Connection} {o o' : Outcome Nat}
    (step : SslStep host direct named sys conn o') (agree : Epoll.Agree o o') :
    SslStep host direct named sys conn o := by
  obtain ⟨ret, conn', sys', calls⟩ := o
  obtain ⟨ret', conn'', sys'', calls'⟩ := o'
  obtain ⟨rfl, rfl, rfl⟩ := agree
  refine ⟨step.sockfd, step.https, step.opened, ?_⟩
  cases step.change with
  | still object live calls early late => exact .still object live calls early late
  | handshake waits object kept live calls next => exact .handshake waits object kept live calls next
  | setUp early object calls next => exact .setUp early object calls next

/-! ## Calls around a set-up -/

namespace SetUp

variable {fd : Int} {host : List Byte} {direct named : Prop} {ssl : Option Ptr} {calls : List Call}

/-- Calls that have nothing to do with the set-up change nothing. -/
theorem among (setUp : SetUp fd host direct named ssl calls) (before after : List Call)
    (first : ∀ c ∈ before, c.setsUp = false) (last : ∀ c ∈ after, c.setsUp = false) :
    SetUp fd host direct named ssl (before ++ calls ++ after) := by
  have outside : ∀ c : Call, c.setsUp = true → (c ∈ before ++ calls ++ after ↔ c ∈ calls) := by
    intro c sets
    simp only [List.mem_append]
    constructor
    · rintro ((early | inside) | later)
      · exact absurd sets (by simp [first c early])
      · exact inside
      · exact absurd sets (by simp [last c later])
    · exact fun inside => .inl (.inr inside)
  have harmless : ∀ c : Call, c.setsUp = false → c.setUpFails = false := by
    intro c plain
    cases c <;> simp_all [Call.setsUp, Call.setUpFails]
  have fine : Fine calls ↔ Fine (before ++ calls ++ after) := by
    constructor
    · intro fine c member
      cases sets : c.setsUp with
      | false => exact harmless c sets
      | true => exact fine c ((outside c sets).mp member)
    · exact fun fine c member => fine c (by simp [member])
  constructor
  · simp only [outside _ (show (Call.sslSetFd _ fd _).setsUp = true from rfl)]
    exact setUp.bound.trans fine
  · exact fun path => fine.mp (setUp.sure path)
  · intro object here
    rw [outside _ rfl]
    exact setUp.name object here

/-- A call has failed before there was an object. -/
theorem failed {c : Call} (path : ¬ direct) (member : c ∈ calls) (fails : c.setUpFails = true) :
    SetUp fd host direct named none calls := by
  constructor
  · constructor
    · rintro ⟨object, ret, here, -⟩
      cases here
    · intro fine
      exact absurd fails (by simp [fine c member])
  · exact fun straight => absurd straight path
  · intro object here
    cases here

end SetUp

/-! ## The functions of the set-up -/

/-- The calls of `get_global_ssl_ctx` with its result. -/
def ContextCalls (ctx : Option Ptr) (calls : List Call) : Prop :=
  calls = [.sslCtxNew ctx] ∨ calls = [] ∧ ctx ≠ none

theorem ContextCalls.fails {calls : List Call} (context : ContextCalls none calls) : Call.sslCtxNew none ∈ calls := by
  rcases context with rfl | ⟨-, some⟩
  · exact List.mem_singleton_self _
  · exact absurd rfl some

theorem ContextCalls.handshakes {ctx : Option Ptr} {calls : List Call} (context : ContextCalls ctx calls) :
    ∀ c ∈ calls, c.handshakes = false := by
  rcases context with rfl | ⟨rfl, -⟩
  · simp [Call.handshakes]
  · simp

/-- The calls of a set-up that has made an object. -/
theorem SetUp.object {ctx ssl : Ptr} {context names : List Call} {fd : Int} (host : List Byte) (ret : Int)
    {direct named : Prop} (known : ContextCalls (some ctx) context) (sure : direct → ret ≠ 0)
    (path : names = [] ∧ ¬ named ∨ names = [.sslSetHostName (some ssl) host] ∧ named) :
    SetUp fd host direct named (some ssl) (context ++ [.sslNew (some ssl), .sslSetFd (some ssl) fd ret] ++ names) := by
  rcases known with rfl | ⟨rfl, -⟩ <;> rcases path with ⟨rfl, path⟩ | ⟨rfl, path⟩
  all_goals constructor
  all_goals first
    | simp [Fine, Call.setUpFails, path]; done
    | simpa [Fine, Call.setUpFails] using sure

section Functions

variable (sys : Sys) (io : Io)

theorem getGlobalSslCtx_calls :
    ContextCalls (getGlobalSslCtx sys io).1 (getGlobalSslCtx sys io).2.2 ∧
      (getGlobalSslCtx sys io).2.1.liveSsl = sys.liveSsl := by
  unfold getGlobalSslCtx
  split
  · exact ⟨.inl rfl, rfl⟩
  · exact ⟨.inr ⟨rfl, Option.some_ne_none _⟩, rfl⟩

/-- `SSL_new` acquires an object or none. -/
theorem sslNew_swap (want : Option Ptr) :
    Swap sys.liveSsl none (sys.sslNew want).1 (sys.sslNew want).2.liveSsl := by
  unfold Sys.sslNew
  split
  · split
    · exact .stay none
    · rename_i fresh
      exact .acquire fresh
  · exact .stay none

end Functions

/-- What `setup_ssl_context` does to a record without an object. -/
structure Sets (host : List Byte) (named : Prop) (sys : Sys) (conn : Connection) (o : Outcome Nat) : Prop where
  sockfd : o.conn.sockfd = conn.sockfd
  https : o.conn.isHttps = conn.isHttps
  state : o.conn.state = conn.state
  opened : o.sys.opened = sys.opened
  object : Swap sys.liveSsl none o.conn.ssl o.sys.liveSsl
  calls : ∀ c ∈ o.calls, c.handshakes = false
  unnamed : ¬ named → SetUp conn.sockfd host named named o.conn.ssl o.calls
  named : 0 < o.ret → named →
    SetUp conn.sockfd host named named o.conn.ssl (o.calls ++ [.sslSetHostName o.conn.ssl host])

theorem setupSslContext_sets (host : List Byte) (named : Prop) (sys : Sys) (io : Io) (conn : Connection)
    (bare : conn.ssl = none) : Sets host named sys conn (setupSslContext sys io conn) := by
  have negative : ¬ (0 : Int) < -1 := by decide
  obtain ⟨context, live⟩ := getGlobalSslCtx_calls sys io
  have opened := (getGlobalSslCtx_still sys io).1
  unfold setupSslContext
  generalize getGlobalSslCtx sys io = got at context live opened ⊢
  obtain ⟨ctx, sys', calls⟩ := got
  dsimp only at context live opened ⊢
  have quiet := context.handshakes
  cases ctx with
  | none =>
    have failed : ¬ named → SetUp conn.sockfd host named named conn.ssl calls := by
      rw [bare]
      exact fun path => .failed path context.fails rfl
    have stay : Swap sys.liveSsl none conn.ssl sys'.liveSsl := by
      rw [bare, live]
      exact .stay none
    exact ⟨rfl, rfl, rfl, opened, stay, quiet, failed, fun positive => absurd positive negative⟩
  | some ctx =>
    have swap := sslNew_swap sys' io.sslNew
    have still := (sslNew_still sys' io.sslNew).1.trans opened
    dsimp only
    generalize sys'.sslNew io.sslNew = made at swap still ⊢
    obtain ⟨ssl, sys''⟩ := made
    dsimp only at swap still ⊢
    rw [live] at swap
    cases ssl with
    | none =>
      have fails : Call.sslNew none ∈ calls ++ [.sslNew none] := List.mem_append_right _ (List.mem_singleton_self _)
      have plain : ∀ c ∈ calls ++ [.sslNew none], c.handshakes = false := by
        simpa [or_imp, forall_and, Call.handshakes] using quiet
      exact ⟨rfl, rfl, rfl, still, swap, plain, fun path => .failed path fails rfl,
        fun positive => absurd positive negative⟩
    | some ssl =>
      have plain : ∀ c ∈ calls ++ [.sslNew (some ssl)] ++ [.sslSetFd (some ssl) conn.sockfd io.sslSetFd],
          c.handshakes = false := by
        simpa [or_imp, forall_and, Call.handshakes] using quiet
      have unnamed : ¬ named → SetUp conn.sockfd host named named (some ssl)
          (calls ++ [.sslNew (some ssl)] ++ [.sslSetFd (some ssl) conn.sockfd io.sslSetFd]) := fun path => by
        simpa using SetUp.object host io.sslSetFd context (absurd · path) (.inl ⟨rfl, path⟩)
      dsimp only
      split
      · exact ⟨rfl, rfl, rfl, still, swap, plain, unnamed, fun positive => absurd positive negative⟩
      · rename_i bound
        have named' : named → SetUp conn.sockfd host named named (some ssl)
            (calls ++ [.sslNew (some ssl)] ++ [.sslSetFd (some ssl) conn.sockfd io.sslSetFd] ++
              [.sslSetHostName (some ssl) host]) := fun path => by
          simpa using SetUp.object host io.sslSetFd context (fun _ => bound) (.inr ⟨rfl, path⟩)
        exact ⟨rfl, rfl, rfl, still, swap, plain, unnamed, fun _ => named'⟩

/-! ## The cases of the handlers -/

section Cases

variable (sys : Sys) (conn : Connection) (io : Io) (host : List Byte)

/-- A case that leaves the object alone, in a state in which there is none yet. -/
theorem SslChange.waiting {κ : Type} {direct named : Prop} {sys : Sys} {conn : ConnectionOf κ} {o : Outcome κ}
    (early : conn.state.early = true) (object : o.conn.ssl = conn.ssl) (live : o.sys.liveSsl = sys.liveSsl)
    (calls : ∀ c ∈ o.calls, c.plainly) (next : ¬ o.conn.late) : SslChange host direct named sys conn o :=
  .still object live calls (fun _ => early) fun late => absurd late next

/-- A case that leaves the object alone while the request or the response is on its way. -/
theorem SslChange.going {κ : Type} {direct named : Prop} {sys : Sys} {conn : ConnectionOf κ} {o : Outcome κ}
    (busy : conn.state = .sending ∨ conn.state = .receiving) (https : o.conn.isHttps = conn.isHttps)
    (object : o.conn.ssl = conn.ssl) (live : o.sys.liveSsl = sys.liveSsl) (calls : ∀ c ∈ o.calls, c.plainly)
    (next : o.conn.state = conn.state ∨ o.conn.state = .receiving ∨ o.conn.state = .completed ∨
      o.conn.state = .error) : SslChange host direct named sys conn o := by
  refine .still object live calls ?_ ?_
  · intro early
    rcases busy with busy | busy <;> rcases next with next | next | next | next <;>
      simp_all [ConnState.early]
  · intro late
    unfold ConnectionOf.late at late ⊢
    rcases busy with busy | busy <;> rcases next with next | next | next | next <;> simp_all

theorem ConnectionOf.afterSending_cases {κ : Type} (conn : ConnectionOf κ) :
    conn.afterSending = .receiving ∨ conn.afterSending = .completed := by
  unfold ConnectionOf.afterSending
  split
  · exact .inr rfl
  · exact .inl rfl

/-- The handlers once the socket is connected. -/
theorem connected_ssl (tunnel : Bool) (asked : List Call) (plain : ∀ c ∈ asked, c.plainly)
    (state : conn.state = .connecting) (bare : conn.ssl = none) :
    SslStep host (tunnel = false) (tunnel = false) sys conn
      (if tunnel && conn.isHttps then ⟨0, { conn with state := .proxyConnect }, sys, asked⟩
      else
        let conn := { conn with state := if conn.isHttps then .tlsHandshake else .sending }
        if conn.isHttps then
          let setup := setupSslContext sys io conn
          if setup.ret > 0 then
            ⟨0, setup.conn, setup.sys, asked ++ setup.calls ++ [.sslSetHostName setup.conn.ssl host]⟩
          else ⟨-1, setup.conn.toError, setup.sys, asked ++ setup.calls⟩
        else ⟨0, conn, sys, asked⟩) := by
  have early : conn.state.early = true := by rw [state]; rfl
  split
  · exact ⟨rfl, rfl, rfl, .waiting host early rfl rfl plain (by simp [ConnectionOf.late])⟩
  · rename_i direct
    dsimp only
    split
    · rename_i secure
      have named : tunnel = false := by simpa [secure] using direct
      have sets := setupSslContext_sets host (tunnel = false) sys io { conn with state := .tlsHandshake } bare
      generalize setupSslContext sys io { conn with state := .tlsHandshake } = setup at sets ⊢
      have quiet : ∀ c ∈ asked ++ setup.calls, c.handshakes = false := fun c member =>
        (List.mem_append.mp member).elim (fun before => (plain c before).2) (sets.calls c)
      split
      · rename_i positive
        have named := (sets.named positive named).among asked [] (fun c member => (plain c member).1) (by simp)
        refine ⟨sets.sockfd, sets.https, sets.opened, .setUp early sets.object ?_ (.inr ⟨sets.state, ?_⟩)⟩
        · simpa [or_imp, forall_and, Call.handshakes] using quiet
        · simpa using named
      · exact ⟨sets.sockfd, sets.https, sets.opened, .setUp early sets.object quiet (.inl rfl)⟩
    · rename_i insecure
      exact ⟨rfl, rfl, rfl, .waiting host early rfl rfl plain (by simp [ConnectionOf.late, insecure])⟩

/-- The handlers' reaction to `handle_proxy_response`. -/
theorem reply_ssl {direct : Prop} {recv : Outcome Nat} (through : ¬ direct) (state : conn.state = .proxyResponse)
    (bare : conn.ssl = none) (kept : LeavesAlone sys conn recv) :
    let calls := recv.calls ++ [.proxyReply recv.ret]
    SslStep host direct direct sys conn
      (if recv.ret = 1 then
        let setup := setupSslContext recv.sys io recv.conn
        ⟨0, { setup.conn with state := .tlsHandshake }, setup.sys, calls ++ setup.calls⟩
      else if recv.ret = 0 then ⟨0, recv.conn, recv.sys, calls⟩
      else ⟨0, recv.conn.toError, recv.sys, calls⟩) := by
  have early : conn.state.early = true := by rw [state]; rfl
  have quiet : ∀ c ∈ recv.calls ++ [.proxyReply recv.ret], c.plainly := by
    simpa [or_imp, forall_and, Call.plainly, Call.setsUp, Call.handshakes] using kept.calls
  dsimp only
  split
  · have sets := setupSslContext_sets host direct recv.sys io recv.conn (kept.object.trans bare)
    have setUp := (sets.unnamed through).among _ [] (fun c member => (quiet c member).1) (by simp)
    rw [kept.sockfd, List.append_nil] at setUp
    refine ⟨sets.sockfd.trans kept.sockfd, sets.https.trans kept.https, sets.opened.trans kept.opened,
      .setUp early (kept.live ▸ sets.object) ?_ (.inr ⟨rfl, setUp⟩)⟩
    intro c member
    rcases List.mem_append.mp member with before | after
    · exact (quiet c before).2
    · exact sets.calls c after
  · split
    · exact ⟨kept.sockfd, kept.https, kept.opened,
        .waiting host early kept.object kept.live quiet (by simp [ConnectionOf.late, kept.state, state])⟩
    · exact ⟨kept.sockfd, kept.https, kept.opened,
        .waiting host early kept.object kept.live quiet (by simp [ConnectionOf.late, ConnectionOf.toError])⟩

/-- The handlers' reaction to `send_proxy_connect`. -/
theorem request_ssl {κ : Type} {direct named : Prop} {conn : ConnectionOf κ} {sent : Outcome κ}
    (state : conn.state = .proxyConnect) (kept : LeavesAlone sys conn sent) :
    SslStep host direct named sys conn
      (if sent.ret > 0 then ⟨0, { sent.conn with state := .proxyResponse }, sent.sys, sent.calls⟩
      else if sent.ret = 0 then ⟨0, sent.conn, sent.sys, sent.calls⟩
      else ⟨-1, sent.conn.toError, sent.sys, sent.calls⟩) := by
  have early : conn.state.early = true := by rw [state]; rfl
  split
  · exact ⟨kept.sockfd, kept.https, kept.opened,
      .waiting host early kept.object kept.live kept.calls (by simp [ConnectionOf.late])⟩
  · split
    · exact ⟨kept.sockfd, kept.https, kept.opened,
        .waiting host early kept.object kept.live kept.calls (by simp [ConnectionOf.late, kept.state, state])⟩
    · exact ⟨kept.sockfd, kept.https, kept.opened,
        .waiting host early kept.object kept.live kept.calls (by simp [ConnectionOf.late, ConnectionOf.toError])⟩

theorem handleProxyResponse_leavesAlone (noSocket : Int → Bool) (errno : Int) :
    LeavesAlone sys conn (handleProxyResponse noSocket sys errno conn io) := by
  unfold handleProxyResponse
  dsimp only
  repeat' split
  all_goals exact ⟨rfl, rfl, rfl, rfl, rfl, rfl, by simp [Call.plainly, Call.setsUp, Call.handshakes]⟩

end Cases

end WebBench
