import Mathlib.Data.List.Chain
import WebBench.Slot

/-!
# The counters of a slot

A handler counts a failure when it moves the slot into `CONN_ERROR`, and a
response with its size when it moves it from `CONN_RECEIVING` into
`CONN_COMPLETED`; nothing else touches the counters. An engine whose functions
obey this law counts every cycle of every run at most once.
-/

namespace WebBench
set_option autoImplicit false
open CLib

variable {κ ρ : Type}

/-- failed, speed and bytes. -/
abbrev ConnectionOf.counters (conn : ConnectionOf κ) : Int × Int × Int := (conn.failed, conn.speed, conn.bytes)

namespace Move

/-- The handler moved the slot into `CONN_ERROR`. -/
def fails (move : Move κ) : Bool := move.before.state != .error && move.after.state == .error

/-- The handler moved the slot from `CONN_RECEIVING` into `CONN_COMPLETED`. -/
def completes (move : Move κ) : Bool := move.before.state == .receiving && move.after.state == .completed

end Move

/-- **The law of the counters**, for one handler call; `size` reads a count as a number. -/
structure Accounted (size : κ → Int) (move : Move κ) : Prop where
  failed : move.after.failed = move.before.failed + if move.fails then 1 else 0
  speed : move.after.speed = move.before.speed + if move.completes then 1 else 0
  bytes : move.after.bytes = move.before.bytes + if move.completes then size move.after.bytesReceived else 0

namespace Accounted

variable {size : κ → Int} {conn conn' : ConnectionOf κ}

instance (move : Move κ) : Decidable (Accounted size move) :=
  decidable_of_iff
    (move.after.failed = move.before.failed + (if move.fails then 1 else 0) ∧
      move.after.speed = move.before.speed + (if move.completes then 1 else 0) ∧
      move.after.bytes = move.before.bytes + if move.completes then size move.after.bytesReceived else 0)
    ⟨fun ⟨failed, speed, bytes⟩ => ⟨failed, speed, bytes⟩, fun law => ⟨law.failed, law.speed, law.bytes⟩⟩

/-- The slot goes on, or has sent its request in force mode. -/
theorem quiet (same : conn'.counters = conn.counters) (live : conn'.state ≠ .error)
    (going : conn.state = .receiving → conn'.state ≠ .completed) : Accounted size ⟨conn, conn'⟩ := by
  have fails : Move.fails ⟨conn, conn'⟩ = false := by simp [Move.fails, live]
  have completes : Move.completes ⟨conn, conn'⟩ = false := by simpa [Move.completes] using going
  simp only [ConnectionOf.counters, Prod.mk.injEq] at same
  obtain ⟨failed, speed, bytes⟩ := same
  constructor
  · simp [fails, failed]
  · simp [completes, speed]
  · simp [completes, bytes]

/-- The slot stays in its state. -/
theorem stay (same : conn'.counters = conn.counters) (state : conn'.state = conn.state)
    (waits : conn.state.pollable = true) : Accounted size ⟨conn, conn'⟩ := by
  refine .quiet same ?_ ?_
  · intro failed
    rw [← state, failed] at waits
    exact Bool.noConfusion waits
  · intro receiving completed
    exact ConnState.noConfusion (receiving.symm.trans (state.symm.trans completed))

/-- Nothing happens. -/
theorem unmoved (conn : ConnectionOf κ) : Accounted size ⟨conn, conn⟩ := by
  have fails : Move.fails ⟨conn, conn⟩ = false := by cases state : conn.state <;> simp [Move.fails, state]
  have completes : Move.completes ⟨conn, conn⟩ = false := by cases state : conn.state <;> simp [Move.completes, state]
  constructor
  · simp [fails]
  · simp [completes]
  · simp [completes]

/-- The slot fails. -/
theorem toError (same : conn'.counters = conn.counters) (waits : conn.state.pollable = true) :
    Accounted size ⟨conn, conn'.toError⟩ := by
  have live : conn.state ≠ .error := fun failed => by rw [failed] at waits; exact Bool.noConfusion waits
  have fails : Move.fails ⟨conn, conn'.toError⟩ = true := by simp [Move.fails, live, ConnectionOf.toError]
  have completes : Move.completes ⟨conn, conn'.toError⟩ = false := by simp [Move.completes, ConnectionOf.toError]
  simp only [ConnectionOf.counters, Prod.mk.injEq] at same
  obtain ⟨failed, speed, bytes⟩ := same
  constructor
  · rw [fails, if_pos rfl]
    exact congrArg (· + 1) failed
  · rw [completes, if_neg Bool.false_ne_true]
    exact speed.trans (Int.add_zero _).symm
  · rw [completes, if_neg Bool.false_ne_true]
    exact bytes.trans (Int.add_zero _).symm

/-- The response is complete. -/
theorem response (receiving : conn.state = .receiving) (completed : conn'.state = .completed)
    (counted : conn'.counters = (conn.failed, conn.speed + 1, conn.bytes + size conn'.bytesReceived)) :
    Accounted size ⟨conn, conn'⟩ := by
  have fails : Move.fails ⟨conn, conn'⟩ = false := by simp [Move.fails, completed]
  have completes : Move.completes ⟨conn, conn'⟩ = true := by simp [Move.completes, receiving, completed]
  simp only [ConnectionOf.counters, Prod.mk.injEq] at counted
  obtain ⟨failed, speed, bytes⟩ := counted
  constructor
  · simp [fails, failed]
  · simp [completes, speed]
  · simp [completes, bytes]

/-- After the request the slot waits for the response, or in force mode is done. -/
theorem afterSending (sending : conn.state = .sending) (same : conn'.counters = conn.counters)
    (next : conn'.state = conn.afterSending) : Accounted size ⟨conn, conn'⟩ := by
  refine quiet same ?_ fun receiving => ConnState.noConfusion (sending.symm.trans receiving)
  rw [next]
  unfold ConnectionOf.afterSending
  split
  · exact ConnState.noConfusion
  · exact ConnState.noConfusion

end Accounted

/-! ## What a history counts -/

/-- The entries into `CONN_ERROR`. -/
def failures (moves : List (Move κ)) : Int := moves.countP Move.fails

/-- The completed responses. -/
def responses (moves : List (Move κ)) : Int := moves.countP Move.completes

/-- The sizes of the completed responses. -/
def responseSizes (size : κ → Int) (moves : List (Move κ)) : Int :=
  ((moves.filter Move.completes).map fun move => size move.after.bytesReceived).sum

section Concat
variable (moves : List (Move κ)) (move : Move κ)

theorem failures_concat : failures (moves ++ [move]) = failures moves + if move.fails then 1 else 0 := by
  cases fails : move.fails <;> simp [failures, List.countP_append, fails]

theorem responses_concat : responses (moves ++ [move]) = responses moves + if move.completes then 1 else 0 := by
  cases completes : move.completes <;> simp [responses, List.countP_append, completes]

theorem responseSizes_concat (size : κ → Int) : responseSizes size (moves ++ [move]) =
    responseSizes size moves + if move.completes then size move.after.bytesReceived else 0 := by
  cases completes : move.completes <;> simp [responseSizes, List.filter_append, completes]

end Concat

/-- Two handler calls of one slot, one after the other: they belong to one
cycle, or the first ended its cycle and the second found a new one connecting. -/
def Move.Next (first second : Move κ) : Prop :=
  second.before = first.after ∨
    (first.after.state = .completed ∨ first.after.state = .error) ∧ second.before.state = .connecting

/-- The counters of a slot are what its history counts, and no cycle is counted twice. -/
structure Slot.Account (size : κ → Int) (slot : Slot κ) : Prop where
  each : ∀ move ∈ slot.moves, Accounted size move
  counters : slot.conn.counters = (failures slot.moves, responses slot.moves, responseSizes size slot.moves)
  waited : ∀ move ∈ slot.moves, move.before.state.pollable = true
  chain : slot.moves.IsChain Move.Next
  last : ∀ move ∈ slot.moves.getLast?, slot.conn = move.after ∨
    (move.after.state = .completed ∨ move.after.state = .error) ∧
      (slot.conn.state = .idle ∨ slot.conn.state = .connecting)

/-- Around the handler the counters start at zero and stay. -/
structure Driver.CountersKept (d : Driver κ ρ) (args : Arguments) : Prop where
  init : ∀ request raw, d.raw raw → (d.initConnection args request raw).counters = (0, 0, 0)
  allocate : ∀ sys addresses conn, (d.allocateSocket args sys addresses conn).conn.counters = conn.counters
  cleanup : ∀ conn sys, (d.cleanupConnection conn sys).1.counters = conn.counters

/-- What an engine's functions must do for its slots to count right. -/
structure Driver.Counts (d : Driver κ ρ) (args : Arguments) (size : κ → Int) : Prop where
  init : ∀ request raw, d.raw raw → (d.initConnection args request raw).counters = (0, 0, 0)
  allocate : ∀ sys addresses conn, (d.allocateSocket args sys addresses conn).conn.counters = conn.counters
  connecting : ∀ sys addresses conn, conn.state = .idle →
    (d.allocateSocket args sys addresses conn).conn.state = .idle ∨
      (d.allocateSocket args sys addresses conn).conn.state = .connecting
  cleanup : ∀ conn sys, (d.cleanupConnection conn sys).1.counters = conn.counters
  idle : ∀ conn sys, (d.cleanupConnection conn sys).1.state = .idle
  handle : ∀ sys errno conn mask io, conn.state.pollable = true →
    Accounted size ⟨conn, (d.handleReadyConnection args sys errno conn mask io).conn⟩

namespace Driver.CountersKept

variable {d : Driver κ ρ} {args : Arguments}

theorem fresh (law : d.CountersKept args) (request : HTTPRequest) (sys : Sys) (addresses : Option (List Address))
    {raw : ConnectionOf κ} (allowed : d.raw raw) :
    (d.fresh args request sys addresses raw).1.conn.counters = (0, 0, 0) :=
  (law.allocate ..).trans (law.init request raw allowed)

theorem recycle (law : d.CountersKept args) (sys : Sys) (addresses : Option (List Address)) (slot : Slot κ) :
    (d.recycle args sys addresses slot).1.conn.counters = slot.conn.counters :=
  (law.allocate ..).trans (law.cleanup ..)

end Driver.CountersKept

namespace Driver.Counts

variable {d : Driver κ ρ} {args : Arguments} {request : HTTPRequest} {size : κ → Int}

theorem kept (law : d.Counts args size) : d.CountersKept args := ⟨law.init, law.allocate, law.cleanup⟩

theorem recycle (law : d.Counts args size) (sys : Sys) (addresses : Option (List Address)) (slot : Slot κ) :
    (d.recycle args sys addresses slot).1.conn.counters = slot.conn.counters := law.kept.recycle sys addresses slot

/-- A new handler call adds what it counts. -/
theorem ready {slot : Slot κ} (law : d.Counts args size) (account : slot.Account size)
    (waits : slot.conn.state.pollable = true) (sys : Sys) (errno : Int) (mask : ρ) (io : Io) :
    (d.ready args sys errno mask io slot).1.Account size := by
  let move : Move κ := ⟨slot.conn, (d.handleReadyConnection args sys errno slot.conn mask io).conn⟩
  have step : Accounted size move := law.handle sys errno slot.conn mask io waits
  have before := account.counters
  simp only [ConnectionOf.counters, Prod.mk.injEq] at before
  obtain ⟨failed, speed, bytes⟩ := before
  constructor
  case each =>
    intro m member
    rcases List.mem_append.mp member with old | new
    · exact account.each m old
    · rw [List.mem_singleton.mp new]
      exact step
  case counters =>
    show move.after.counters = (failures (slot.moves ++ [move]), responses (slot.moves ++ [move]),
      responseSizes size (slot.moves ++ [move]))
    rw [failures_concat, responses_concat, responseSizes_concat, ← failed, ← speed, ← bytes]
    simp only [ConnectionOf.counters, step.failed, step.speed, step.bytes]
    rfl
  case waited =>
    intro m member
    rcases List.mem_append.mp member with old | new
    · exact account.waited m old
    · rw [List.mem_singleton.mp new]
      exact waits
  case chain =>
    apply account.chain.append (.singleton move)
    rintro first last _ ⟨⟩
    rcases account.last first last with same | ⟨finished, idle | connecting⟩
    · exact .inl same
    · rw [idle] at waits
      exact Bool.noConfusion waits
    · exact .inr ⟨finished, connecting⟩
  case last =>
    intro m last
    rw [show (d.ready args sys errno mask io slot).1.moves = slot.moves ++ [move] from rfl,
      List.getLast?_concat] at last
    obtain rfl : move = m := Option.some.inj last
    exact .inl rfl

/-- **Every reachable slot counts right.** -/
theorem account {slot : Slot κ} (law : d.Counts args size) (reached : d.SlotReachable args request slot) :
    slot.Account size := by
  refine reached.invariant (motive := Slot.Account size) ?_ ?_
  · rintro _ ⟨sys, addresses, raw, allowed⟩
    have zero := law.kept.fresh request sys addresses allowed
    exact ⟨fun _ none => absurd none List.not_mem_nil, zero, fun _ none => absurd none List.not_mem_nil, .nil,
      fun _ none => absurd none (by simp [Driver.fresh])⟩
  · rintro slot _ account step
    cases step with
    | recycle finished sys addresses =>
      have kept := law.recycle sys addresses slot
      refine ⟨account.each, kept.trans account.counters, account.waited, account.chain, fun move last => .inr ?_⟩
      have free := law.connecting (d.cleanupConnection slot.conn sys).2 addresses _ (law.idle slot.conn sys)
      rcases account.last move last with same | ⟨done, idle | connecting⟩
      · exact ⟨same ▸ finished, free⟩
      · exact ⟨done, free⟩
      · exact ⟨done, free⟩
    | ready waits sys errno mask io => exact law.ready account waits sys errno mask io

end Driver.Counts

/-! ## The functions the engines share -/

/-- A `size_t` count as a number. -/
abbrev sizeOfCount (n : Nat) : Int := n

/-- A step obeys the law. -/
def Counted (conn : Connection) (o : Outcome Nat) : Prop := Accounted sizeOfCount ⟨conn, o.conn⟩

/-- The step leaves the counters and the state alone. -/
structure Uncounted (conn conn' : Connection) : Prop where
  counters : conn'.counters = conn.counters
  state : conn'.state = conn.state

section Functions

variable (sys : Sys) (conn : Connection) (io : Io)

theorem setupSslContext_uncounted : Uncounted conn (setupSslContext sys io conn).conn := by
  unfold setupSslContext
  generalize getGlobalSslCtx sys io = got
  obtain ⟨ctx, sys', calls⟩ := got
  cases ctx with
  | none => exact ⟨rfl, rfl⟩
  | some ctx =>
    dsimp only
    generalize sys'.sslNew io.sslNew = made
    obtain ⟨ssl, sys''⟩ := made
    cases ssl with
    | none => exact ⟨rfl, rfl⟩
    | some ssl =>
      dsimp only
      split
      · exact ⟨rfl, rfl⟩
      · exact ⟨rfl, rfl⟩

theorem handleProxyResponse_uncounted (noSocket : Int → Bool) (errno : Int) :
    Uncounted conn (handleProxyResponse noSocket sys errno conn io).conn := by
  unfold handleProxyResponse
  dsimp only
  repeat' split
  all_goals exact ⟨rfl, rfl⟩

/-- The handlers' reaction to `handle_proxy_response`. -/
theorem reply_accounted {recv : Outcome Nat} (state : conn.state = .proxyResponse)
    (kept : Uncounted conn recv.conn) :
    let calls := recv.calls ++ [.proxyReply recv.ret]
    Counted conn
      (if recv.ret = 1 then
        let setup := setupSslContext recv.sys io recv.conn
        ⟨0, { setup.conn with state := .tlsHandshake }, setup.sys, calls ++ setup.calls⟩
      else if recv.ret = 0 then ⟨0, recv.conn, recv.sys, calls⟩
      else ⟨0, recv.conn.toError, recv.sys, calls⟩) := by
  have waits : conn.state.pollable = true := by rw [state]; rfl
  have setup := setupSslContext_uncounted recv.sys recv.conn io
  dsimp only
  split
  · exact .quiet (setup.counters.trans kept.counters) ConnState.noConfusion fun _ => ConnState.noConfusion
  · split
    · exact .stay kept.counters kept.state waits
    · exact .toError kept.counters waits

/-- The handlers' reaction to `send_proxy_connect`. -/
theorem request_accounted {sent : Outcome Nat} (state : conn.state = .proxyConnect)
    (kept : Uncounted conn sent.conn) :
    Counted conn
      (if sent.ret > 0 then ⟨0, { sent.conn with state := .proxyResponse }, sent.sys, sent.calls⟩
      else if sent.ret = 0 then ⟨0, sent.conn, sent.sys, sent.calls⟩
      else ⟨-1, sent.conn.toError, sent.sys, sent.calls⟩) := by
  have waits : conn.state.pollable = true := by rw [state]; rfl
  split
  · exact .quiet kept.counters ConnState.noConfusion fun _ => ConnState.noConfusion
  · split
    · exact .stay kept.counters kept.state waits
    · exact .toError kept.counters waits

/-- The handlers once the socket is connected. -/
theorem connected_accounted (tunnel : Bool) (asked : List Call) (host : List Byte)
    (state : conn.state = .connecting) :
    Counted conn
      (if tunnel && conn.isHttps then ⟨0, { conn with state := .proxyConnect }, sys, asked⟩
      else
        let conn := { conn with state := if conn.isHttps then .tlsHandshake else .sending }
        if conn.isHttps then
          let setup := setupSslContext sys io conn
          if setup.ret > 0 then
            ⟨0, setup.conn, setup.sys, asked ++ setup.calls ++ [.sslSetHostName setup.conn.ssl host]⟩
          else ⟨-1, setup.conn.toError, setup.sys, asked ++ setup.calls⟩
        else ⟨0, conn, sys, asked⟩) := by
  have waits : conn.state.pollable = true := by rw [state]; rfl
  split
  · exact .quiet rfl ConnState.noConfusion fun _ => ConnState.noConfusion
  · dsimp only
    split
    · have setup := setupSslContext_uncounted sys { conn with state := .tlsHandshake } io
      split
      · exact .quiet setup.counters (setup.state ▸ ConnState.noConfusion) fun _ => setup.state ▸ ConnState.noConfusion
      · exact .toError setup.counters waits
    · exact .quiet rfl ConnState.noConfusion fun _ => ConnState.noConfusion

/-- `allocate_socket` once it has a descriptor, or none. -/
theorem opened_uncounted (sockfd : Int) (calls : List Call) :
    let o : Outcome Nat :=
      let conn := { conn with sockfd := sockfd }
      if conn.sockfd ≤ 0 then ⟨-1, conn, sys, calls⟩ else ⟨1, { conn with state := .connecting }, sys, calls⟩
    o.conn.counters = conn.counters ∧ (o.conn.state = conn.state ∨ o.conn.state = .connecting) := by
  dsimp only
  split
  · exact ⟨rfl, .inl rfl⟩
  · exact ⟨rfl, .inr rfl⟩

end Functions

end WebBench
