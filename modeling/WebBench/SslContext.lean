import WebBench.Secrecy

/-!
# The global SSL context

`global_ssl_ctx` is made by the first set-up that finds none and is shared by
every connection after it. `ContextStep` is what one handler call does about it,
shown here for every case of the three handlers.
-/

namespace WebBench
set_option autoImplicit false
open CLib

variable {κ : Type}

/-- The connection is a secure one, or waits for the reply that makes it one. -/
def ConnectionOf.secured (conn : ConnectionOf κ) : Prop := conn.isHttps = true ∨ conn.state = .proxyResponse

/-- What a handler call does about the global context: it leaves it alone, or
asks for it when there is none. -/
structure ContextStep (sys : Sys) (conn : ConnectionOf κ) (o : Outcome κ) : Prop where
  global : o.sys.globalSslCtx = sys.globalSslCtx ∨ sys.globalSslCtx = none ∧ conn.secured
  own : o.conn.sslContext = conn.sslContext ∨ o.conn.sslContext = o.sys.globalSslCtx
  asked : sys.globalSslCtx ≠ none → ∀ ctx, Call.sslCtxNew ctx ∉ o.calls

/-- A call that does nothing about it. -/
structure Contextless (sys : Sys) (conn : ConnectionOf κ) (o : Outcome κ) : Prop where
  global : o.sys.globalSslCtx = sys.globalSslCtx
  own : o.conn.sslContext = conn.sslContext
  asked : ∀ ctx, Call.sslCtxNew ctx ∉ o.calls

/-- A call that does nothing about the context is such a step. -/
theorem ContextStep.still {sys : Sys} {conn : ConnectionOf κ} {o : Outcome κ} (none : Contextless sys conn o) :
    ContextStep sys conn o :=
  ⟨.inl none.global, .inl none.own, fun _ => none.asked⟩

/-! ## The functions of the set-up -/

section Functions

variable (sys : Sys) (io : Io)

/-- `get_global_ssl_ctx` returns what it leaves in the global. -/
theorem getGlobalSslCtx_context :
    (getGlobalSslCtx sys io).2.1.globalSslCtx = (getGlobalSslCtx sys io).1 ∧
      (sys.globalSslCtx ≠ none →
        (getGlobalSslCtx sys io).1 = sys.globalSslCtx ∧ (getGlobalSslCtx sys io).2.2 = []) := by
  unfold getGlobalSslCtx
  cases found : sys.globalSslCtx with
  | none => exact ⟨rfl, fun there => absurd rfl there⟩
  | some ctx => exact ⟨found, fun _ => ⟨rfl, rfl⟩⟩

/-- A new object is not a new context. -/
theorem sslNew_context (want : Option Ptr) : (sys.sslNew want).2.globalSslCtx = sys.globalSslCtx := by
  unfold Sys.sslNew
  repeat' split
  all_goals rfl

/-- What a set-up leaves, whatever the functions around it do with its result. -/
structure Asks (sys sys' : Sys) (context : Option Ptr) (calls : List Call) : Prop where
  global : sys'.globalSslCtx = sys.globalSslCtx ∨ sys.globalSslCtx = none
  own : context = sys'.globalSslCtx
  asked : sys.globalSslCtx ≠ none → ∀ ctx, Call.sslCtxNew ctx ∉ calls

/-- `get_global_ssl_ctx` takes the context, or asks for it where there is none. -/
theorem getGlobalSslCtx_asks :
    Asks sys (getGlobalSslCtx sys io).2.1 (getGlobalSslCtx sys io).1 (getGlobalSslCtx sys io).2.2 := by
  obtain ⟨same, known⟩ := getGlobalSslCtx_context sys io
  refine ⟨?_, same.symm, fun there ctx => ?_⟩
  · by_cases there : sys.globalSslCtx = none
    · exact .inr there
    · exact .inl (same.trans (known there).1)
  · rw [(known there).2]
    exact List.not_mem_nil

/-- Calls around it that ask for no context, and another object. -/
theorem Asks.among {sys sys' sys'' : Sys} {context : Option Ptr} {calls : List Call} (asks : Asks sys sys' context calls)
    (same : sys''.globalSslCtx = sys'.globalSslCtx) (before later : List Call)
    (none : ∀ ctx, Call.sslCtxNew ctx ∉ before ++ later) : Asks sys sys'' context (before ++ calls ++ later) where
  global := same ▸ asks.global
  own := asks.own.trans same.symm
  asked := fun there ctx => by
    have outside := none ctx
    simp only [List.mem_append, not_or] at outside ⊢
    exact ⟨⟨outside.1, asks.asked there ctx⟩, outside.2⟩

/-- A set-up is the step of a secure connection. -/
theorem ContextStep.made {sys : Sys} {conn : ConnectionOf κ} {o : Outcome κ} (asks : Asks sys o.sys o.conn.sslContext o.calls)
    (secured : conn.secured) : ContextStep sys conn o :=
  ⟨asks.global.imp_right fun none => ⟨none, secured⟩, .inr asks.own, asks.asked⟩

/-- `setup_ssl_context` asks for it in the same way, and points the record to it. -/
theorem setupSslContext_asks (conn : Connection) :
    Asks sys (setupSslContext sys io conn).sys (setupSslContext sys io conn).conn.sslContext
      (setupSslContext sys io conn).calls := by
  have asks := getGlobalSslCtx_asks sys io
  unfold setupSslContext
  generalize getGlobalSslCtx sys io = got at asks ⊢
  obtain ⟨ctx, sys', calls⟩ := got
  cases ctx with
  | none => exact asks
  | some ctx =>
    have same := sslNew_context sys' io.sslNew
    dsimp only
    generalize sys'.sslNew io.sslNew = made at same ⊢
    obtain ⟨ssl, sys''⟩ := made
    cases ssl with
    | none => exact asks.among same [] [.sslNew none] (by simp)
    | some ssl =>
      have whole := asks.among same [] [.sslNew (some ssl), .sslSetFd (some ssl) conn.sockfd io.sslSetFd] (by simp)
      dsimp only
      split
      all_goals simpa using whole

end Functions

/-! ## The cases of the handlers -/

section Cases

variable {sys : Sys} {conn : ConnectionOf κ}

/-- The reaction to `send_proxy_connect`. -/
theorem request_context {sent : Outcome κ} (none : Contextless sys conn sent) :
    Contextless sys conn
      (if sent.ret > 0 then ⟨0, { sent.conn with state := .proxyResponse }, sent.sys, sent.calls⟩
      else if sent.ret = 0 then ⟨0, sent.conn, sent.sys, sent.calls⟩
      else ⟨-1, sent.conn.toError, sent.sys, sent.calls⟩) := by
  repeat' split
  all_goals exact ⟨none.global, none.own, none.asked⟩

/-- The reaction to a connected socket. -/
theorem connected_context {conn : Connection} (io : Io) (tunnel : Bool) (host : List Byte) (asked : List Call)
    (plain : ∀ ctx, Call.sslCtxNew ctx ∉ asked) :
    ContextStep sys conn
      (if tunnel && conn.isHttps then ⟨0, { conn with state := .proxyConnect }, sys, asked⟩
      else
        let conn := { conn with state := if conn.isHttps then .tlsHandshake else .sending }
        if conn.isHttps then
          let setup := setupSslContext sys io conn
          if setup.ret > 0 then
            ⟨0, setup.conn, setup.sys, asked ++ setup.calls ++ [.sslSetHostName setup.conn.ssl host]⟩
          else ⟨-1, setup.conn.toError, setup.sys, asked ++ setup.calls⟩
        else ⟨0, conn, sys, asked⟩) := by
  split
  · exact .still ⟨rfl, rfl, plain⟩
  dsimp only
  split
  · rename_i secure
    have asks := setupSslContext_asks sys io { conn with state := .tlsHandshake }
    generalize setupSslContext sys io { conn with state := .tlsHandshake } = setup at asks ⊢
    split
    · exact .made (asks.among rfl asked [.sslSetHostName setup.conn.ssl host] (by simpa using plain)) (.inl secure)
    · have around := asks.among rfl asked [] (by simpa using plain)
      rw [List.append_nil] at around
      exact .made around (.inl secure)
  · exact .still ⟨rfl, rfl, plain⟩

/-- The reaction to `handle_proxy_response`. -/
theorem reply_context {conn : Connection} {recv : Outcome Nat} (io : Io) (state : conn.state = .proxyResponse)
    (none : Contextless sys conn recv) :
    let calls := recv.calls ++ [.proxyReply recv.ret]
    ContextStep sys conn
      (if recv.ret = 1 then
        let setup := setupSslContext recv.sys io recv.conn
        ⟨0, { setup.conn with state := .tlsHandshake }, setup.sys, calls ++ setup.calls⟩
      else if recv.ret = 0 then ⟨0, recv.conn, recv.sys, calls⟩
      else ⟨0, recv.conn.toError, recv.sys, calls⟩) := by
  have plain : ∀ ctx, Call.sslCtxNew ctx ∉ recv.calls ++ [.proxyReply recv.ret] := by simpa using none.asked
  dsimp only
  split
  · have asks := setupSslContext_asks recv.sys io recv.conn
    generalize setupSslContext recv.sys io recv.conn = setup at asks ⊢
    have around := asks.among rfl (recv.calls ++ [.proxyReply recv.ret]) [] (by simpa using plain)
    rw [List.append_nil] at around
    exact .made ⟨none.global ▸ around.global, around.own, none.global ▸ around.asked⟩ (.inr state)
  · split
    · exact .still ⟨none.global, none.own, plain⟩
    · exact .still ⟨none.global, none.own, plain⟩

theorem handleProxyResponse_contextless {conn : Connection} (noSocket : Int → Bool) (errno : Int) (io : Io) :
    Contextless sys conn (handleProxyResponse noSocket sys errno conn io) := by
  unfold handleProxyResponse
  dsimp only
  repeat' split
  all_goals exact ⟨rfl, rfl, by simp⟩

end Cases

namespace Poll

variable (sys : Sys) (errno : Int) (conn : Connection) (revents : BitVec 16) (io : Io)

theorem sendProxyConnect_contextless (proxyHost : List Byte) (proxyPort : Int) (targetHost : List Byte) (targetPort : Int) :
    Contextless sys conn (sendProxyConnect sys errno conn io proxyHost proxyPort targetHost targetPort) := by
  unfold sendProxyConnect
  dsimp only
  repeat' split
  all_goals exact ⟨rfl, rfl, by simp⟩

theorem whenTlsHandshake_contextless : Contextless sys conn (whenTlsHandshake sys conn revents io) := by
  unfold whenTlsHandshake
  dsimp only
  repeat' split
  all_goals exact ⟨rfl, rfl, by simp⟩

theorem whenSending_contextless : Contextless sys conn (whenSending sys conn revents io) := by
  unfold whenSending
  dsimp only
  repeat' split
  all_goals exact ⟨rfl, rfl, by simp⟩

theorem whenReceiving_contextless : Contextless sys conn (whenReceiving sys conn revents io) := by
  unfold whenReceiving
  dsimp only
  repeat' split
  all_goals exact ⟨rfl, rfl, by simp⟩

/-- A handler call of `bench_poll` asks for the context at most, and for a secure connection only.
-/
theorem handle_context (args : Arguments) :
    ContextStep sys conn (handleReadyConnection args sys errno conn revents io) := by
  have stay : ContextStep sys conn ⟨0, conn, sys, []⟩ := .still ⟨rfl, rfl, by simp⟩
  unfold handleReadyConnection
  split
  · exact .still ⟨rfl, rfl, by simp⟩
  cases state : conn.state with
  | connecting =>
    dsimp only
    unfold whenConnecting
    split
    · dsimp only
      split
      · exact connected_context io _ _ _ (by simp)
      · exact .still ⟨rfl, rfl, by simp⟩
    · exact stay
  | proxyConnect =>
    dsimp only
    unfold whenProxyConnect
    split
    · exact .still (request_context (sendProxyConnect_contextless ..))
    · exact stay
  | proxyResponse =>
    dsimp only
    unfold whenProxyResponse
    split
    · exact reply_context io state (handleProxyResponse_contextless ..)
    · exact stay
  | tlsHandshake => exact .still (whenTlsHandshake_contextless sys conn revents io)
  | sending => exact .still (whenSending_contextless sys conn revents io)
  | receiving => exact .still (whenReceiving_contextless sys conn revents io)
  | idle | completed | error => exact stay

end Poll

namespace Epoll

variable (sys : Sys) (errno : Int) (conn : Connection) (ev : BitVec 32) (io : Io)

theorem sendProxyConnect_contextless (proxyHost : List Byte) (proxyPort : Int) (targetHost : List Byte) (targetPort : Int) :
    Contextless sys conn (sendProxyConnect sys errno conn io proxyHost proxyPort targetHost targetPort) := by
  unfold sendProxyConnect
  dsimp only
  repeat' split
  all_goals exact ⟨rfl, rfl, by simp⟩

/-- The switch of `bench_epoll` does as the one of `bench_poll`. -/
theorem dispatchState_context (args : Arguments) : ContextStep sys conn (dispatchState args sys errno conn ev io) := by
  have stay : ContextStep sys conn ⟨0, conn, sys, []⟩ := .still ⟨rfl, rfl, by simp⟩
  unfold dispatchState
  cases state : conn.state with
  | connecting =>
    dsimp only
    unfold whenConnecting
    split
    · dsimp only
      split
      · exact connected_context io _ _ _ (by simp)
      · exact .still ⟨rfl, rfl, by simp⟩
    · exact stay
  | proxyConnect =>
    dsimp only
    unfold whenProxyConnect
    split
    · exact .still (request_context (sendProxyConnect_contextless ..))
    · exact stay
  | proxyResponse =>
    dsimp only
    unfold whenProxyResponse
    split
    · exact reply_context io state (handleProxyResponse_contextless ..)
    · exact stay
  | tlsHandshake =>
    obtain ⟨same, kept, made⟩ := whenTlsHandshake_agree sys conn ev io
    have none := Poll.whenTlsHandshake_contextless sys conn (pollMask ev) io
    exact .still ⟨kept ▸ none.global, same ▸ none.own, made ▸ none.asked⟩
  | sending =>
    dsimp only
    rw [whenSending_eq]
    exact .still (Poll.whenSending_contextless sys conn (pollMask ev) io)
  | receiving =>
    dsimp only
    rw [whenReceiving_eq]
    exact .still (Poll.whenReceiving_contextless sys conn (pollMask ev) io)
  | idle | completed | error => exact .still ⟨rfl, rfl, by simp⟩

/-- And so does the handler around it. -/
theorem handle_context (args : Arguments) : ContextStep sys conn (handleReadyConnection args sys errno conn ev io) := by
  have same : (sys.epollDel conn.sockfd).2.globalSslCtx = sys.globalSslCtx := by
    unfold Sys.epollDel
    split
    all_goals rfl
  unfold handleReadyConnection
  dsimp only
  split
  · exact .still ⟨same, rfl, by simp⟩
  · split
    · exact .still ⟨same, rfl, by simp⟩
    · have step := dispatchState_context (sys.epollDel conn.sockfd).2 errno conn ev io args
      exact ⟨same ▸ step.global, step.own, same ▸ step.asked⟩

end Epoll

namespace Select

variable (sys : Sys) (errno : Int) (conn : Connection) (fds : FdSets) (io : Io)

theorem sendProxyConnect_contextless (proxyHost : List Byte) (proxyPort : Int) (targetHost : List Byte) (targetPort : Int) :
    Contextless sys conn (sendProxyConnect sys errno conn io proxyHost proxyPort targetHost targetPort) := by
  unfold sendProxyConnect
  dsimp only
  repeat' split
  all_goals exact ⟨rfl, rfl, by simp⟩

theorem handleProxyResponse_contextless : Contextless sys conn (handleProxyResponse sys errno conn io) := by
  unfold handleProxyResponse
  dsimp only
  repeat' split
  all_goals exact ⟨rfl, rfl, by simp⟩

theorem whenConnecting_context (args : Arguments) : ContextStep sys conn (whenConnecting args sys conn fds io) := by
  unfold whenConnecting
  dsimp only
  split
  · split
    · split
      · exact .still ⟨rfl, rfl, by simp⟩
      · split
        · rename_i secure
          have asks := getGlobalSslCtx_asks sys io
          generalize getGlobalSslCtx sys io = got at asks ⊢
          obtain ⟨ctx, sys', calls⟩ := got
          cases ctx with
          | none =>
            have around := asks.among rfl [.getsockopt conn.sockfd] [] (by simp)
            rw [List.append_nil] at around
            exact .made around (.inl secure)
          | some ctx =>
            have same := sslNew_context sys' io.sslNew
            dsimp only
            generalize sys'.sslNew io.sslNew = made at same ⊢
            obtain ⟨ssl, sys''⟩ := made
            cases ssl with
            | none => exact .made (asks.among same [.getsockopt conn.sockfd] [.sslNew none] (by simp)) (.inl secure)
            | some ssl =>
              have bound : Asks sys sys'' (some ctx) ([.getsockopt conn.sockfd] ++ calls ++ [.sslNew (some ssl)] ++
                  [.sslSetFd (some ssl) conn.sockfd io.sslSetFd]) := by
                rw [List.append_assoc]
                exact asks.among same [.getsockopt conn.sockfd] _ (by simp)
              dsimp only
              split
              · exact .made bound (.inl secure)
              · exact .made (bound.among rfl [] [.sslSetHostName (some ssl) args.targetHost.bytes] (by simp)) (.inl secure)
        · exact .still ⟨rfl, rfl, by simp⟩
    · exact .still ⟨rfl, rfl, by simp⟩
  · exact .still ⟨rfl, rfl, by simp⟩

/-- In `bench_select` a slot that has its reply sets its TLS up at once. -/
theorem whenProxyResponse_context (args : Arguments) (state : conn.state = .proxyResponse) :
    ContextStep sys conn (whenProxyResponse args sys errno conn fds io) := by
  have none := handleProxyResponse_contextless sys errno conn io
  unfold whenProxyResponse
  generalize handleProxyResponse sys errno conn io = result at none ⊢
  have plain : ∀ ctx, Call.sslCtxNew ctx ∉ result.calls ++ [.proxyReply result.ret] := by simpa using none.asked
  dsimp only
  split
  · split
    · have asks := getGlobalSslCtx_asks result.sys io
      generalize getGlobalSslCtx result.sys io = got at asks ⊢
      obtain ⟨ctx, sys', calls⟩ := got
      cases ctx with
      | none =>
        have around := asks.among rfl (result.calls ++ [.proxyReply result.ret]) [] (by simpa using plain)
        rw [List.append_nil] at around
        exact .made ⟨none.global ▸ around.global, around.own, none.global ▸ around.asked⟩ (.inr state)
      | some ctx =>
        have same := sslNew_context sys' io.sslNew
        dsimp only
        generalize sys'.sslNew io.sslNew = made at same ⊢
        obtain ⟨ssl, sys''⟩ := made
        have around := asks.among same (result.calls ++ [.proxyReply result.ret])
          [.sslNew ssl, .sslSetFd ssl result.conn.sockfd io.sslSetFd, .sslSetHostName ssl args.targetHost.bytes]
          (by simpa using plain)
        exact .made ⟨none.global ▸ around.global, around.own, none.global ▸ around.asked⟩ (.inr state)
    · split
      · exact .still ⟨none.global, none.own, plain⟩
      · exact .still ⟨none.global, none.own, plain⟩
  · exact .still ⟨rfl, rfl, by simp⟩

/-- A handler call of `bench_select` asks for the context at most, and for a secure connection only.
-/
theorem handle_context (args : Arguments) : ContextStep sys conn (handleReadyConnection args sys errno conn fds io) := by
  unfold handleReadyConnection
  cases state : conn.state with
  | connecting => exact whenConnecting_context sys conn fds io args
  | proxyConnect =>
    dsimp only
    unfold whenProxyConnect
    split
    · exact .still (request_context (sendProxyConnect_contextless ..))
    · exact .still ⟨rfl, rfl, by simp⟩
  | proxyResponse => exact whenProxyResponse_context sys errno conn fds io args state
  | tlsHandshake =>
    dsimp only
    unfold whenTlsHandshake
    dsimp only
    repeat' split
    all_goals exact .still ⟨rfl, rfl, by simp⟩
  | sending =>
    dsimp only
    unfold whenSending
    dsimp only
    repeat' split
    all_goals exact .still ⟨rfl, rfl, by simp⟩
  | receiving =>
    dsimp only
    unfold whenReceiving
    dsimp only
    repeat' split
    all_goals exact .still ⟨rfl, rfl, by simp⟩
  | idle | completed | error => exact .still ⟨rfl, rfl, by simp⟩

end Select

end WebBench
