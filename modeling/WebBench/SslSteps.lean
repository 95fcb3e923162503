import WebBench.SslSetup
import WebBench.Select.Handler

/-!
# What the handlers do about SSL

Every case of the three handlers is a step of the SSL set-up. A cycle through
the proxy sets up SSL when the reply has come, any other when its socket is
connected; `bench_select.c` is the only one to name the server on both paths.
-/

namespace WebBench
set_option autoImplicit false
open CLib

namespace Poll

variable (args : Arguments) (sys : Sys) (errno : Int) {conn : Connection} (revents : BitVec 16) (io : Io)
  (host : List Byte) {direct named : Prop}

/-- Sending CONNECT has nothing to do with SSL. -/
theorem sendProxyConnect_leavesAlone (proxyHost : List Byte) (proxyPort : Int) (targetHost : List Byte)
    (targetPort : Int) :
    LeavesAlone sys conn (sendProxyConnect sys errno conn io proxyHost proxyPort targetHost targetPort) := by
  unfold sendProxyConnect
  dsimp only
  repeat' split
  all_goals exact ⟨rfl, rfl, rfl, rfl, rfl, rfl, by simp [Call.plainly, Call.setsUp, Call.handshakes]⟩

/-- A handshake uses the object the slot has. -/
theorem whenTlsHandshake_ssl (state : conn.state = .tlsHandshake) :
    SslStep host direct named sys conn (whenTlsHandshake sys conn revents io) := by
  unfold whenTlsHandshake
  cases object : conn.ssl with
  | none => exact .stay host direct named 0 sys conn
  | some ssl =>
    dsimp only
    repeat' split
    · exact ⟨rfl, rfl, rfl, .handshake state object rfl rfl rfl rfl⟩
    · exact ⟨rfl, rfl, rfl, .handshake state object object rfl rfl (by rw [state]; rfl)⟩
    · exact ⟨rfl, rfl, rfl, .handshake state object object rfl rfl rfl⟩
    · exact .stay host direct named 0 sys conn

/-- Sending uses it, or drops it with the slot. -/
theorem whenSending_ssl (state : conn.state = .sending) :
    SslStep host direct named sys conn (whenSending sys conn revents io) := by
  have after := conn.afterSending_cases
  unfold whenSending
  dsimp only
  repeat' split
  all_goals refine ⟨rfl, rfl, rfl, .going host (.inl state) rfl rfl rfl ?_ ?_⟩
  all_goals first
    | exact .inl rfl
    | exact .inr (.inr (.inr rfl))
    | exact after.elim (fun next => .inr (.inl next)) fun next => .inr (.inr (.inl next))
    | simp [Call.plainly, Call.setsUp, Call.handshakes]

/-- So does receiving. -/
theorem whenReceiving_ssl (state : conn.state = .receiving) :
    SslStep host direct named sys conn (whenReceiving sys conn revents io) := by
  unfold whenReceiving
  dsimp only
  repeat' split
  all_goals refine ⟨rfl, rfl, rfl, .going host (.inr state) rfl rfl rfl ?_ ?_⟩
  all_goals first
    | exact .inl rfl
    | exact .inr (.inr (.inl rfl))
    | exact .inr (.inr (.inr rfl))
    | simp [Call.plainly, Call.setsUp, Call.handshakes]

/-- Every handler call of `bench_poll` is such a step, where the states before the set-up have no
object. -/
theorem handle_ssl (waits : conn.state.pollable = true) (bare : conn.state.early = true → conn.ssl = none)
    (through : conn.state = .proxyResponse → needConnectProxy args = true) :
    SslStep args.targetHost.bytes (needConnectProxy args = false) (needConnectProxy args = false) sys conn
      (handleReadyConnection args sys errno conn revents io) := by
  unfold handleReadyConnection
  by_cases hung : anyBit revents (pollerr ||| pollhup ||| pollnval) = true
  · rw [if_pos hung]
    exact .fail args.targetHost.bytes (needConnectProxy args = false) _ (-1) sys conn
  rw [if_neg hung]
  cases state : conn.state with
  | connecting =>
    dsimp only
    unfold whenConnecting
    split
    · dsimp only
      split
      · exact connected_ssl sys conn io _ _ _ (by simp [Call.plainly, Call.setsUp, Call.handshakes]) state
          (bare (by rw [state]; rfl))
      · exact .error args.targetHost.bytes (needConnectProxy args = false) _ (-1) sys conn
          (by simp [Call.plainly, Call.setsUp, Call.handshakes])
    · exact .stay args.targetHost.bytes _ _ 0 sys conn
  | proxyConnect =>
    dsimp only
    unfold whenProxyConnect
    split
    · exact request_ssl sys _ state (sendProxyConnect_leavesAlone ..)
    · exact .stay args.targetHost.bytes _ _ 0 sys conn
  | proxyResponse =>
    dsimp only
    unfold whenProxyResponse
    split
    · exact reply_ssl sys conn io _ (by simp [through state]) state (bare (by rw [state]; rfl))
        (handleProxyResponse_leavesAlone ..)
    · exact .stay args.targetHost.bytes _ _ 0 sys conn
  | tlsHandshake => exact whenTlsHandshake_ssl sys revents io _ state
  | sending => exact whenSending_ssl sys revents io _ state
  | receiving => exact whenReceiving_ssl sys revents io _ state
  | idle | completed | error => rw [state] at waits; exact Bool.noConfusion waits

end Poll

namespace Epoll

variable (args : Arguments) (sys : Sys) (errno : Int) {conn : Connection} (ev : BitVec 32) (io : Io)

theorem sendProxyConnect_leavesAlone (proxyHost : List Byte) (proxyPort : Int) (targetHost : List Byte)
    (targetPort : Int) :
    LeavesAlone sys conn (sendProxyConnect sys errno conn io proxyHost proxyPort targetHost targetPort) := by
  unfold sendProxyConnect
  dsimp only
  repeat' split
  all_goals exact ⟨rfl, rfl, rfl, rfl, rfl, rfl, by simp [Call.plainly, Call.setsUp, Call.handshakes]⟩

/-- So is every call of the switch of `bench_epoll`. -/
theorem dispatchState_ssl (waits : conn.state.pollable = true) (bare : conn.state.early = true → conn.ssl = none)
    (through : conn.state = .proxyResponse → needConnectProxy args = true) :
    SslStep args.targetHost.bytes (needConnectProxy args = false) (needConnectProxy args = false) sys conn
      (dispatchState args sys errno conn ev io) := by
  unfold dispatchState
  cases state : conn.state with
  | connecting =>
    dsimp only
    unfold whenConnecting
    split
    · dsimp only
      split
      · exact connected_ssl sys conn io _ _ _ (by simp [Call.plainly, Call.setsUp, Call.handshakes]) state
          (bare (by rw [state]; rfl))
      · exact .error args.targetHost.bytes (needConnectProxy args = false) _ (-1) sys conn
          (by simp [Call.plainly, Call.setsUp, Call.handshakes])
    · exact .stay args.targetHost.bytes _ _ 0 sys conn
  | proxyConnect =>
    dsimp only
    unfold whenProxyConnect
    split
    · exact request_ssl sys _ state (sendProxyConnect_leavesAlone ..)
    · exact .stay args.targetHost.bytes _ _ 0 sys conn
  | proxyResponse =>
    dsimp only
    unfold whenProxyResponse
    split
    · exact reply_ssl sys conn io _ (by simp [through state]) state (bare (by rw [state]; rfl))
        (handleProxyResponse_leavesAlone ..)
    · exact .stay args.targetHost.bytes _ _ 0 sys conn
  | tlsHandshake =>
    exact (Poll.whenTlsHandshake_ssl sys (pollMask ev) io _ state).agree (whenTlsHandshake_agree sys conn ev io)
  | sending =>
    dsimp only
    rw [whenSending_eq]
    exact Poll.whenSending_ssl sys (pollMask ev) io _ state
  | receiving =>
    dsimp only
    rw [whenReceiving_eq]
    exact Poll.whenReceiving_ssl sys (pollMask ev) io _ state
  | idle | completed | error => rw [state] at waits; exact Bool.noConfusion waits

/-- Every handler call of `bench_epoll` is such a step. -/
theorem handle_ssl (waits : conn.state.pollable = true) (bare : conn.state.early = true → conn.ssl = none)
    (through : conn.state = .proxyResponse → needConnectProxy args = true) :
    SslStep args.targetHost.bytes (needConnectProxy args = false) (needConnectProxy args = false) sys conn
      (handleReadyConnection args sys errno conn ev io) := by
  have same : (sys.epollDel conn.sockfd).2.opened = sys.opened ∧
      (sys.epollDel conn.sockfd).2.liveSsl = sys.liveSsl := by
    unfold Sys.epollDel
    split
    · exact ⟨rfl, rfl⟩
    · exact ⟨rfl, rfl⟩
  apply SslStep.after same.1 same.2
  unfold handleReadyConnection
  dsimp only
  split
  · exact .stay args.targetHost.bytes _ _ (-1) _ conn
  · split
    · exact .fail args.targetHost.bytes (needConnectProxy args = false) _ (-1) _ conn
    · exact dispatchState_ssl args _ errno ev io waits bare through

end Epoll

namespace Select

variable (args : Arguments) (sys : Sys) (errno : Int) {conn : Connection} (fds : FdSets) (io : Io) (host : List Byte)
  {direct : Prop}

/-- The set-up of a direct connection. -/
theorem whenConnecting_ssl (state : conn.state = .connecting) (bare : conn.ssl = none) :
    SslStep args.targetHost.bytes (needConnectProxy args = false) True sys conn
      (whenConnecting args sys conn fds io) := by
  have early : conn.state.early = true := by rw [state]; rfl
  obtain ⟨context, live⟩ := getGlobalSslCtx_calls sys io
  have opened := (getGlobalSslCtx_still sys io).1
  have asked : Call.plainly (.getsockopt conn.sockfd) := ⟨rfl, rfl⟩
  unfold whenConnecting
  dsimp only
  split
  · split
    · split
      · exact ⟨rfl, rfl, rfl, .waiting _ early rfl rfl (by simpa using asked) (by simp [ConnectionOf.late])⟩
      · split
        · generalize getGlobalSslCtx sys io = got at context live opened ⊢
          obtain ⟨ctx, sys', calls⟩ := got
          dsimp only at context live opened ⊢
          have quiet := context.handshakes
          cases ctx with
          | none =>
            have stay : Swap sys.liveSsl none conn.ssl sys'.liveSsl := by
              rw [bare, live]
              exact .stay none
            refine ⟨rfl, rfl, opened, .setUp early stay ?_ (.inl rfl)⟩
            simpa [Call.handshakes] using quiet
          | some ctx =>
            have swap := sslNew_swap sys' io.sslNew
            have still := (sslNew_still sys' io.sslNew).1.trans opened
            dsimp only
            generalize sys'.sslNew io.sslNew = made at swap still ⊢
            obtain ⟨ssl, sys''⟩ := made
            dsimp only at swap still ⊢
            rw [live] at swap
            cases ssl with
            | none =>
              refine ⟨rfl, rfl, still, .setUp early swap ?_ (.inl rfl)⟩
              simpa [or_imp, forall_and, Call.handshakes] using quiet
            | some ssl =>
              dsimp only
              split
              · refine ⟨rfl, rfl, still, .setUp early swap ?_ (.inl rfl)⟩
                simpa [or_imp, forall_and, Call.handshakes] using quiet
              · rename_i bound
                refine ⟨rfl, rfl, still, .setUp early swap ?_ (.inr ⟨rfl, ?_⟩)⟩
                · simpa [or_imp, forall_and, Call.handshakes] using quiet
                · have object : SetUp conn.sockfd args.targetHost.bytes (needConnectProxy args = false) True
                      (some ssl) _ := .object _ io.sslSetFd context (fun _ => bound) (.inr ⟨rfl, trivial⟩)
                  simpa using object.among [.getsockopt conn.sockfd] []
                    (by simp [Call.setsUp]) (by simp)
        · rename_i insecure
          exact ⟨rfl, rfl, rfl,
            .waiting _ early rfl rfl (by simpa using asked) (by simp [ConnectionOf.late, insecure])⟩
    · exact .error args.targetHost.bytes _ True (-1) sys conn (by simpa using asked)
  · exact .stay _ _ _ 0 sys conn

theorem sendProxyConnect_leavesAlone (proxyHost : List Byte) (proxyPort : Int) (targetHost : List Byte)
    (targetPort : Int) :
    LeavesAlone sys conn (sendProxyConnect sys errno conn io proxyHost proxyPort targetHost targetPort) := by
  unfold sendProxyConnect
  dsimp only
  repeat' split
  all_goals exact ⟨rfl, rfl, rfl, rfl, rfl, rfl, by simp [Call.plainly, Call.setsUp, Call.handshakes]⟩

/-- Reading the proxy's answer has nothing to do with SSL. -/
theorem handleProxyResponse_leavesAlone : LeavesAlone sys conn (handleProxyResponse sys errno conn io) := by
  unfold handleProxyResponse
  dsimp only
  repeat' split
  all_goals exact ⟨rfl, rfl, rfl, rfl, rfl, rfl, by simp [Call.plainly, Call.setsUp, Call.handshakes]⟩

/-- The set-up of a tunnelled connection. -/
theorem whenProxyResponse_ssl (state : conn.state = .proxyResponse) (bare : conn.ssl = none)
    (through : needConnectProxy args = true) :
    SslStep args.targetHost.bytes (needConnectProxy args = false) True sys conn
      (whenProxyResponse args sys errno conn fds io) := by
  have early : conn.state.early = true := by rw [state]; rfl
  have direct : ¬ needConnectProxy args = false := by simp [through]
  have kept : LeavesAlone sys conn (handleProxyResponse sys errno conn io) := handleProxyResponse_leavesAlone ..
  unfold whenProxyResponse
  generalize handleProxyResponse sys errno conn io = result at kept ⊢
  have replied : ∀ c ∈ result.calls ++ [.proxyReply result.ret], c.plainly := by
    simpa [or_imp, forall_and, Call.plainly, Call.setsUp, Call.handshakes] using kept.calls
  have calm : ∀ c ∈ result.calls ++ [.proxyReply result.ret], c.handshakes = false :=
    fun c member => (replied c member).2
  obtain ⟨context, live⟩ := getGlobalSslCtx_calls result.sys io
  have opened := (getGlobalSslCtx_still result.sys io).1
  dsimp only
  split
  · split
    · generalize getGlobalSslCtx result.sys io = got at context live opened ⊢
      obtain ⟨ctx, sys', calls⟩ := got
      dsimp only at context live opened ⊢
      rw [kept.live] at live
      rw [kept.opened] at opened
      have quiet := context.handshakes
      have both : ∀ c ∈ result.calls ++ [.proxyReply result.ret] ++ calls, c.handshakes = false :=
        fun c member => (List.mem_append.mp member).elim (calm c) (quiet c)
      cases ctx with
      | none =>
        have stay : Swap sys.liveSsl none result.conn.ssl sys'.liveSsl := by
          rw [kept.object, bare, live]
          exact .stay none
        exact ⟨kept.sockfd, kept.https, opened, .setUp early stay both (.inl rfl)⟩
      | some ctx =>
        have swap := sslNew_swap sys' io.sslNew
        have still := (sslNew_still sys' io.sslNew).1.trans opened
        dsimp only
        generalize sys'.sslNew io.sslNew = made at swap still ⊢
        obtain ⟨ssl, sys''⟩ := made
        dsimp only at swap still ⊢
        rw [live] at swap
        refine ⟨kept.sockfd, kept.https, still, .setUp early swap ?_ (.inr ⟨rfl, ?_⟩)⟩
        · intro c member
          rcases List.mem_append.mp member with before | after
          · exact both c before
          · revert after
            simp only [List.mem_cons, List.not_mem_nil, or_false]
            rintro (rfl | rfl | rfl) <;> rfl
        · rw [kept.sockfd]
          cases ssl with
          | none => exact .failed (c := .sslNew none) direct (by simp) rfl
          | some ssl =>
            have object : SetUp conn.sockfd args.targetHost.bytes (needConnectProxy args = false) True (some ssl) _ :=
              .object _ io.sslSetFd context (absurd · direct) (.inr ⟨rfl, trivial⟩)
            simpa using object.among _ [] (fun c member => (replied c member).1) (by simp)
    · split
      · exact ⟨kept.sockfd, kept.https, kept.opened,
          .waiting _ early kept.object kept.live replied (by simp [ConnectionOf.late, kept.state, state])⟩
      · exact ⟨kept.sockfd, kept.https, kept.opened,
          .waiting _ early kept.object kept.live replied (by simp [ConnectionOf.late, ConnectionOf.toError])⟩
  · exact .stay _ _ _ 0 sys conn

theorem whenTlsHandshake_ssl (state : conn.state = .tlsHandshake) :
    SslStep host direct True sys conn (whenTlsHandshake sys conn fds io) := by
  unfold whenTlsHandshake
  cases object : conn.ssl with
  | none => exact .stay host direct True 0 sys conn
  | some ssl =>
    dsimp only
    repeat' split
    · exact ⟨rfl, rfl, rfl, .handshake state object rfl rfl rfl rfl⟩
    · exact ⟨rfl, rfl, rfl, .handshake state object object rfl rfl (by rw [state]; rfl)⟩
    · exact ⟨rfl, rfl, rfl, .handshake state object object rfl rfl rfl⟩
    · exact .stay host direct True 0 sys conn

/-- Sending as `bench_select` does it uses the object, or drops it with the slot. -/
theorem whenSending_ssl (state : conn.state = .sending) :
    SslStep host direct True sys conn (whenSending sys conn fds io) := by
  have after := conn.afterSending_cases
  unfold whenSending
  dsimp only
  repeat' split
  all_goals refine ⟨rfl, rfl, rfl, .going host (.inl state) rfl rfl rfl ?_ ?_⟩
  all_goals first
    | exact .inl rfl
    | exact .inr (.inr (.inr rfl))
    | exact after.elim (fun next => .inr (.inl next)) fun next => .inr (.inr (.inl next))
    | simp [Call.plainly, Call.setsUp, Call.handshakes]

theorem whenReceiving_ssl (state : conn.state = .receiving) :
    SslStep host direct True sys conn (whenReceiving sys conn fds io) := by
  unfold whenReceiving
  dsimp only
  repeat' split
  all_goals refine ⟨rfl, rfl, rfl, .going host (.inr state) rfl rfl rfl ?_ ?_⟩
  all_goals first
    | exact .inl rfl
    | exact .inr (.inr (.inl rfl))
    | exact .inr (.inr (.inr rfl))
    | simp [Call.plainly, Call.setsUp, Call.handshakes]

/-- Every handler call of `bench_select` is such a step, and names the host also behind a proxy. -/
theorem handle_ssl (waits : conn.state.pollable = true) (bare : conn.state.early = true → conn.ssl = none)
    (through : conn.state = .proxyResponse → needConnectProxy args = true) :
    SslStep args.targetHost.bytes (needConnectProxy args = false) True sys conn
      (handleReadyConnection args sys errno conn fds io) := by
  unfold handleReadyConnection
  cases state : conn.state with
  | connecting => exact whenConnecting_ssl args sys fds io state (bare (by rw [state]; rfl))
  | proxyConnect =>
    dsimp only
    unfold whenProxyConnect
    split
    · exact request_ssl sys _ state (sendProxyConnect_leavesAlone ..)
    · exact .stay args.targetHost.bytes _ _ 0 sys conn
  | proxyResponse => exact whenProxyResponse_ssl args sys errno fds io state (bare (by rw [state]; rfl)) (through state)
  | tlsHandshake => exact whenTlsHandshake_ssl sys fds io _ state
  | sending => exact whenSending_ssl sys fds io _ state
  | receiving => exact whenReceiving_ssl sys fds io _ state
  | idle | completed | error => rw [state] at waits; exact Bool.noConfusion waits

end Select

end WebBench
