import WebBench.Totals
import WebBench.Select.Counters

/-!
# The state machine of a slot

The edges that `handle_ready_connection` can take. All three handlers keep to
them, so the history of every slot in every run is a walk along them.
-/

namespace WebBench
set_option autoImplicit false
open CLib

variable {κ ρ : Type}

/-- The edges of the state machine. A slot may fail in any state in which it waits. -/
inductive ConnState.Leads : ConnState → ConnState → Prop
  | stay (state : ConnState) : Leads state state
  | tunnel : Leads .connecting .proxyConnect
  | secure : Leads .connecting .tlsHandshake
  | plain : Leads .connecting .sending
  | requested : Leads .proxyConnect .proxyResponse
  | accepted : Leads .proxyResponse .tlsHandshake
  | shaken : Leads .tlsHandshake .sending
  | sent : Leads .sending .receiving
  | forced : Leads .sending .completed
  | received : Leads .receiving .completed
  | fail {before : ConnState} : before.pollable = true → Leads before .error

/-- The request is sent, or the response received, before a slot is completed. -/
theorem ConnState.Leads.completed {before : ConnState} (leads : before.Leads .completed) :
    before = .completed ∨ before = .sending ∨ before = .receiving := by
  cases leads with
  | stay => exact .inl rfl
  | forced => exact .inr (.inl rfl)
  | received => exact .inr (.inr rfl)

/-! ## The cases the files share -/

section Cases

variable (sys : Sys) (conn : Connection) (io : Io)

/-- The handlers once the socket is connected. -/
theorem connected_leads (tunnel : Bool) (asked : List Call) (host : List Byte) (state : conn.state = .connecting) :
    conn.state.Leads
      (if tunnel && conn.isHttps then (⟨0, { conn with state := .proxyConnect }, sys, asked⟩ : Outcome Nat)
      else
        let conn := { conn with state := if conn.isHttps then .tlsHandshake else .sending }
        if conn.isHttps then
          let setup := setupSslContext sys io conn
          if setup.ret > 0 then
            ⟨0, setup.conn, setup.sys, asked ++ setup.calls ++ [.sslSetHostName setup.conn.ssl host]⟩
          else ⟨-1, setup.conn.toError, setup.sys, asked ++ setup.calls⟩
        else ⟨0, conn, sys, asked⟩).conn.state := by
  rw [state]
  split
  · exact .tunnel
  · dsimp only
    split
    · have setup := setupSslContext_uncounted sys { conn with state := .tlsHandshake } io
      split
      · exact setup.state ▸ .secure
      · exact .fail rfl
    · exact .plain

/-- The handlers' reaction to `send_proxy_connect`. -/
theorem request_leads {conn : ConnectionOf κ} {sent : Outcome κ} (state : conn.state = .proxyConnect)
    (kept : sent.conn.state = conn.state) :
    conn.state.Leads
      (if sent.ret > 0 then (⟨0, { sent.conn with state := .proxyResponse }, sent.sys, sent.calls⟩ : Outcome κ)
      else if sent.ret = 0 then ⟨0, sent.conn, sent.sys, sent.calls⟩
      else ⟨-1, sent.conn.toError, sent.sys, sent.calls⟩).conn.state := by
  split
  · exact state ▸ .requested
  · split
    · exact kept ▸ .stay _
    · exact .fail (by rw [state]; rfl)

/-- The handlers' reaction to `handle_proxy_response`. -/
theorem reply_leads {recv : Outcome Nat} (state : conn.state = .proxyResponse) (kept : recv.conn.state = conn.state) :
    let calls := recv.calls ++ [.proxyReply recv.ret]
    conn.state.Leads
      (if recv.ret = 1 then
        let setup := setupSslContext recv.sys io recv.conn
        (⟨0, { setup.conn with state := .tlsHandshake }, setup.sys, calls ++ setup.calls⟩ : Outcome Nat)
      else if recv.ret = 0 then ⟨0, recv.conn, recv.sys, calls⟩
      else ⟨0, recv.conn.toError, recv.sys, calls⟩).conn.state := by
  dsimp only
  split
  · exact state ▸ .accepted
  · split
    · exact kept ▸ .stay _
    · exact .fail (by rw [state]; rfl)

/-- After the request the slot waits for the response, or in force mode is done. -/
theorem afterSending_leads (conn : ConnectionOf κ) : ConnState.sending.Leads conn.afterSending := by
  unfold ConnectionOf.afterSending
  split
  · exact .forced
  · exact .sent

end Cases

/-! ## The handlers -/

namespace Poll

variable {conn : Connection} (args : Arguments) (sys : Sys) (errno : Int) (revents : BitVec 16) (io : Io)

theorem whenTlsHandshake_leads (state : conn.state = .tlsHandshake) :
    conn.state.Leads (whenTlsHandshake sys conn revents io).conn.state := by
  unfold whenTlsHandshake
  rw [state]
  dsimp only
  repeat' split
  · exact .shaken
  · exact state ▸ .stay _
  · exact .fail rfl
  · exact state ▸ .stay _
  · exact state ▸ .stay _

theorem whenSending_leads (state : conn.state = .sending) :
    conn.state.Leads (whenSending sys conn revents io).conn.state := by
  have after := afterSending_leads conn
  unfold whenSending
  rw [state]
  dsimp only
  repeat' split
  all_goals first
    | exact after
    | exact state ▸ .stay _
    | exact .fail rfl

theorem whenReceiving_leads (state : conn.state = .receiving) :
    conn.state.Leads (whenReceiving sys conn revents io).conn.state := by
  unfold whenReceiving
  rw [state]
  dsimp only
  repeat' split
  all_goals first
    | exact .received
    | exact state ▸ .stay _
    | exact .fail rfl

/-- Every handler call of `bench_poll` goes along an edge. -/
theorem handle_leads (waits : conn.state.pollable = true) :
    conn.state.Leads (handleReadyConnection args sys errno conn revents io).conn.state := by
  unfold handleReadyConnection
  split
  · exact .fail waits
  split
  case _ state =>
    unfold whenConnecting
    split
    · dsimp only
      split
      · exact connected_leads sys conn io _ _ _ state
      · exact .fail waits
    · exact .stay _
  case _ state =>
    unfold whenProxyConnect
    split
    · exact request_leads state (sendProxyConnect_uncounted ..).state
    · exact .stay _
  case _ state =>
    unfold whenProxyResponse
    split
    · exact reply_leads conn io state (handleProxyResponse_uncounted ..).state
    · exact .stay _
  case _ state => exact whenTlsHandshake_leads sys revents io state
  case _ state => exact whenSending_leads sys revents io state
  case _ state => exact whenReceiving_leads sys revents io state
  all_goals exact .stay _

end Poll

namespace Epoll

variable {conn : Connection} (args : Arguments) (sys : Sys) (errno : Int) (ev : BitVec 32) (io : Io)

/-- So does the switch of `bench_epoll`. -/
theorem dispatchState_leads (waits : conn.state.pollable = true) :
    conn.state.Leads (dispatchState args sys errno conn ev io).conn.state := by
  unfold dispatchState
  split
  case _ state =>
    unfold whenConnecting
    split
    · dsimp only
      split
      · exact connected_leads sys conn io _ _ _ state
      · exact .fail waits
    · exact .stay _
  case _ state =>
    unfold whenProxyConnect
    split
    · exact request_leads state (sendProxyConnect_uncounted ..).state
    · exact .stay _
  case _ state =>
    unfold whenProxyResponse
    split
    · exact reply_leads conn io state (handleProxyResponse_uncounted ..).state
    · exact .stay _
  case _ state =>
    rw [(whenTlsHandshake_agree sys conn ev io).conn]
    exact Poll.whenTlsHandshake_leads sys _ io state
  case _ state =>
    rw [whenSending_eq]
    exact Poll.whenSending_leads sys _ io state
  case _ state =>
    rw [whenReceiving_eq]
    exact Poll.whenReceiving_leads sys _ io state
  all_goals exact .stay _

/-- And the handler around it. -/
theorem handle_leads (waits : conn.state.pollable = true) :
    conn.state.Leads (handleReadyConnection args sys errno conn ev io).conn.state := by
  unfold handleReadyConnection
  dsimp only
  split
  · exact .stay _
  · split
    · exact .fail waits
    · exact dispatchState_leads args _ errno ev io waits

end Epoll

namespace Select

variable {conn : Connection} (args : Arguments) (sys : Sys) (errno : Int) (fds : FdSets) (io : Io)

theorem whenConnecting_leads (state : conn.state = .connecting) :
    conn.state.Leads (whenConnecting args sys conn fds io).conn.state := by
  unfold whenConnecting
  split
  · dsimp only
    split
    · split
      · exact state ▸ .tunnel
      · split
        · generalize getGlobalSslCtx sys io = got
          obtain ⟨ctx, sys', calls⟩ := got
          cases ctx with
          | none => exact .fail (by rw [state]; rfl)
          | some ctx =>
            dsimp only
            generalize sys'.sslNew io.sslNew = made
            obtain ⟨ssl, sys''⟩ := made
            cases ssl with
            | none => exact .fail (by rw [state]; rfl)
            | some ssl =>
              dsimp only
              split
              · exact .fail (by rw [state]; rfl)
              · exact state ▸ .secure
        · exact state ▸ .plain
    · exact .fail (by rw [state]; rfl)
  · exact .stay _

theorem whenProxyResponse_leads (state : conn.state = .proxyResponse) :
    conn.state.Leads (whenProxyResponse args sys errno conn fds io).conn.state := by
  unfold whenProxyResponse
  split
  · obtain ⟨_, same, -⟩ := handleProxyResponse_spec (job args .zero) sys errno conn io
    dsimp only
    rw [same]
    split
    · generalize getGlobalSslCtx _ io = got
      obtain ⟨ctx, sys', calls⟩ := got
      cases ctx with
      | none => exact .fail (by rw [state]; rfl)
      | some ctx => exact state ▸ .accepted
    · split
      · exact .stay _
      · exact .fail (by rw [state]; rfl)
  · exact .stay _

theorem whenTlsHandshake_leads (state : conn.state = .tlsHandshake) :
    conn.state.Leads (whenTlsHandshake sys conn fds io).conn.state := by
  unfold whenTlsHandshake
  rw [state]
  dsimp only
  repeat' split
  · exact .shaken
  · exact state ▸ .stay _
  · exact .fail rfl
  · exact state ▸ .stay _
  · exact state ▸ .stay _

theorem whenSending_leads (state : conn.state = .sending) :
    conn.state.Leads (whenSending sys conn fds io).conn.state := by
  have after := afterSending_leads conn
  unfold whenSending
  rw [state]
  dsimp only
  repeat' split
  all_goals first
    | exact after
    | exact state ▸ .stay _
    | exact .fail rfl

theorem whenReceiving_leads (state : conn.state = .receiving) :
    conn.state.Leads (whenReceiving sys conn fds io).conn.state := by
  unfold whenReceiving
  rw [state]
  dsimp only
  repeat' split
  all_goals first
    | exact .received
    | exact state ▸ .stay _
    | exact .fail rfl

/-- Every handler call of `bench_select` goes along an edge. -/
theorem handle_leads :
    conn.state.Leads (handleReadyConnection args sys errno conn fds io).conn.state := by
  unfold handleReadyConnection
  split
  · exact .stay _
  · exact .stay _
  · exact .stay _
  case _ state => exact whenConnecting_leads args sys fds io state
  case _ state =>
    unfold whenProxyConnect
    split
    · exact request_leads state (congrArg ConnectionOf.state (sendProxyConnect_spec args .zero sys errno conn io).1)
    · exact .stay _
  case _ state => exact whenProxyResponse_leads args sys errno fds io state
  case _ state => exact whenTlsHandshake_leads sys fds io state
  case _ state => exact whenSending_leads sys fds io state
  case _ state => exact whenReceiving_leads sys fds io state

end Select

/-! ## Whole runs -/

/-- **The state machine.** In every run of the three engines the history of
every slot goes along the edges of the state machine. -/
theorem leads_of_run (args : Arguments) (request : HTTPRequest) :
    (∀ w, Poll.Run args request w → ∀ slot ∈ w.slots, ∀ move ∈ slot.moves, move.before.state.Leads move.after.state) ∧
      (∀ w, Epoll.Run args request w → ∀ slot ∈ w.slots, ∀ move ∈ slot.moves,
        move.before.state.Leads move.after.state) ∧
      ∀ w, Select.Run args request w → ∀ slot ∈ w.slots, ∀ move ∈ slot.moves,
        move.before.state.Leads move.after.state := by
  refine ⟨fun w run slot member => ?_, fun w run slot member => ?_, fun w run slot member => ?_⟩
  · refine (Poll.run_slot run slot member).each_move ?_
    exact fun _ _ waits sys errno revents io => Poll.handle_leads args sys errno revents io waits
  · refine (Epoll.run_slot run slot member).each_move ?_
    exact fun _ _ waits sys errno ev io => Epoll.handle_leads args sys errno ev io waits
  · refine (Select.run_slot run slot member).each_move ?_
    exact fun _ _ _ sys errno fds io => Select.handle_leads args sys errno fds io

end WebBench
