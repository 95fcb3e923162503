import WebBench.Account
import WebBench.Epoll.Copy
import WebBench.Epoll.Runs
import WebBench.Poll.Runs

/-!
# The totals of `bench_poll` and `bench_epoll`

Every branch of the two handlers obeys the law of the counters, and nothing else
changes them, so the totals of the summary loop are what the slots' histories
count.
-/

namespace WebBench
set_option autoImplicit false
open CLib

/-! ## `bench_poll` -/

namespace Poll

variable {args : Arguments} {request : HTTPRequest} {conn : Connection} (sys : Sys) (revents : BitVec 16) (io : Io)

theorem sendProxyConnect_uncounted (conn : Connection) (errno : Int) (proxyHost : List Byte) (proxyPort : Int)
    (targetHost : List Byte) (targetPort : Int) :
    Uncounted conn (sendProxyConnect sys errno conn io proxyHost proxyPort targetHost targetPort).conn := by
  unfold sendProxyConnect
  dsimp only
  repeat' split
  all_goals exact ⟨rfl, rfl⟩

theorem whenTlsHandshake_accounted (state : conn.state = .tlsHandshake) :
    Counted conn (whenTlsHandshake sys conn revents io) := by
  have waits : conn.state.pollable = true := by rw [state]; rfl
  unfold whenTlsHandshake
  split
  · split
    · dsimp only
      split
      · exact .quiet rfl ConnState.noConfusion fun _ => ConnState.noConfusion
      · split
        · exact .stay rfl rfl waits
        · exact .toError rfl waits
    · exact .stay rfl rfl waits
  · exact .stay rfl rfl waits

theorem whenSending_accounted (state : conn.state = .sending) :
    Counted conn (whenSending sys conn revents io) := by
  have waits : conn.state.pollable = true := by rw [state]; rfl
  unfold whenSending
  split
  · dsimp only
    split
    · exact .afterSending state rfl rfl
    · split
      · split
        · split
          · split
            · exact .afterSending state rfl rfl
            · exact .stay rfl rfl waits
          · split
            · exact .stay rfl rfl waits
            · exact .toError rfl waits
        · exact .toError rfl waits
      · split
        · split
          · exact .afterSending state rfl rfl
          · exact .stay rfl rfl waits
        · split
          · exact .stay rfl rfl waits
          · exact .toError rfl waits
  · exact .stay rfl rfl waits

theorem whenReceiving_accounted (state : conn.state = .receiving) :
    Counted conn (whenReceiving sys conn revents io) := by
  have waits : conn.state.pollable = true := by rw [state]; rfl
  unfold whenReceiving
  split
  · dsimp only
    split
    · exact .response state rfl rfl
    · split
      · split
        · split
          · exact .response state rfl rfl
          · exact .stay rfl rfl waits
        · split
          · exact .stay rfl rfl waits
          · exact .toError rfl waits
      · split
        · split
          · exact .response state rfl rfl
          · exact .stay rfl rfl waits
        · split
          · exact .stay rfl rfl waits
          · exact .toError rfl waits
  · exact .stay rfl rfl waits

/-- Every handler call of `bench_poll` obeys the law of the counters. -/
theorem handle_accounted (errno : Int) (waits : conn.state.pollable = true) :
    Counted conn (handleReadyConnection args sys errno conn revents io) := by
  unfold handleReadyConnection
  split
  · exact .toError rfl waits
  split
  case _ state =>
    unfold whenConnecting
    split
    · dsimp only
      split
      · exact connected_accounted sys conn io _ _ _ state
      · exact .toError rfl waits
    · exact .stay rfl rfl waits
  case _ state =>
    unfold whenProxyConnect
    split
    · exact request_accounted conn state (sendProxyConnect_uncounted ..)
    · exact .stay rfl rfl waits
  case _ state =>
    unfold whenProxyResponse
    split
    · exact reply_accounted conn io state (handleProxyResponse_uncounted ..)
    · exact .stay rfl rfl waits
  case _ state => exact whenTlsHandshake_accounted sys revents io state
  case _ state => exact whenSending_accounted sys revents io state
  case _ state => exact whenReceiving_accounted sys revents io state
  all_goals exact .stay rfl rfl waits

/-- Opening a socket counts nothing. -/
theorem allocateSocket_uncounted (args : Arguments) (sys : Sys) (addresses : Option (List Address)) (conn : Connection) :
    (allocateSocket args sys addresses conn).conn.counters = conn.counters ∧
      ((allocateSocket args sys addresses conn).conn.state = conn.state ∨
        (allocateSocket args sys addresses conn).conn.state = .connecting) := by
  unfold allocateSocket
  exact opened_uncounted ..

/-- The functions of `bench_poll.c` count right. -/
theorem counts (args : Arguments) : driver.Counts args sizeOfCount where
  init := fun _ _ _ => rfl
  allocate := fun sys addresses conn => (allocateSocket_uncounted args sys addresses conn).1
  connecting := fun sys addresses conn idle => (allocateSocket_uncounted args sys addresses conn).2.imp_left (·.trans idle)
  cleanup := fun _ _ => rfl
  idle := fun _ _ => rfl
  handle := fun sys errno _ revents io waits => handle_accounted sys revents io errno waits

/-- The loop of the set-up pass changes no counter. -/
theorem setupLoop_counters (addresses : Nat → Option (List Address)) (bitmapSize : Int) :
    ∀ (slots : List (Slot Nat)) (i : Nat) (sys : Sys) (num : Int) (fds : List PollFd) (bitmap : List Byte),
      (setupLoop args addresses bitmapSize i slots sys num fds bitmap).slots.map (·.conn.counters) =
        slots.map (·.conn.counters) := by
  intro slots
  induction slots with
  | nil => intro _ _ _ _ _; rfl
  | cons slot rest ih =>
    intro i sys num fds bitmap
    unfold setupLoop
    split
    · dsimp only
      split
      · rfl
      · exact congrArg (slot.conn.counters :: ·) (ih ..)
    · split
      · exact congrArg (slot.conn.counters :: ·) (ih ..)
      · exact List.cons_eq_cons.mpr ⟨(counts args).recycle .., ih ..⟩

/-- Nor does the whole pass. -/
theorem setupPass_counters (addresses : Nat → Option (List Address)) (w : World) :
    (setupPass args addresses w).slots.map (·.conn.counters) = w.slots.map (·.conn.counters) := by
  unfold setupPass setupConnectionFdsets
  dsimp only
  split
  · rfl
  · split
    · rfl
    · exact setupLoop_counters addresses _ _ 0 _ _ _ _

end Poll

/-! ## `bench_epoll` -/

namespace Epoll

variable {args : Arguments} {request : HTTPRequest} {conn : Connection} (sys : Sys) (ev : BitVec 32) (io : Io)

theorem sendProxyConnect_uncounted (conn : Connection) (errno : Int) (proxyHost : List Byte) (proxyPort : Int)
    (targetHost : List Byte) (targetPort : Int) :
    Uncounted conn (sendProxyConnect sys errno conn io proxyHost proxyPort targetHost targetPort).conn := by
  unfold sendProxyConnect
  dsimp only
  repeat' split
  all_goals exact ⟨rfl, rfl⟩

/-- The switch of `bench_epoll` obeys the law. -/
theorem dispatchState_accounted (errno : Int) (waits : conn.state.pollable = true) :
    Counted conn (dispatchState args sys errno conn ev io) := by
  unfold dispatchState
  split
  case _ state =>
    unfold whenConnecting
    split
    · dsimp only
      split
      · exact connected_accounted sys conn io _ _ _ state
      · exact .toError rfl waits
    · exact .stay rfl rfl waits
  case _ state =>
    unfold whenProxyConnect
    split
    · exact request_accounted conn state (sendProxyConnect_uncounted ..)
    · exact .stay rfl rfl waits
  case _ state =>
    unfold whenProxyResponse
    split
    · exact reply_accounted conn io state (handleProxyResponse_uncounted ..)
    · exact .stay rfl rfl waits
  case _ state =>
    unfold Counted
    rw [(whenTlsHandshake_agree sys conn ev io).conn]
    exact Poll.whenTlsHandshake_accounted sys _ io state
  case _ state =>
    rw [whenSending_eq]
    exact Poll.whenSending_accounted sys _ io state
  case _ state =>
    rw [whenReceiving_eq]
    exact Poll.whenReceiving_accounted sys _ io state
  all_goals exact .stay rfl rfl waits

/-- And so does the handler around it. -/
theorem handle_accounted (errno : Int) (waits : conn.state.pollable = true) :
    Counted conn (handleReadyConnection args sys errno conn ev io) := by
  unfold handleReadyConnection
  dsimp only
  split
  · exact .stay rfl rfl waits
  · split
    · exact .toError rfl waits
    · exact dispatchState_accounted _ ev io errno waits

theorem allocateSocket_uncounted (args : Arguments) (sys : Sys) (addresses : Option (List Address)) (conn : Connection) :
    (allocateSocket args sys addresses conn).conn.counters = conn.counters ∧
      ((allocateSocket args sys addresses conn).conn.state = conn.state ∨
        (allocateSocket args sys addresses conn).conn.state = .connecting) := by
  unfold allocateSocket
  exact opened_uncounted ..

/-- The functions of `bench_epoll.c` count right. -/
theorem counts (args : Arguments) : driver.Counts args sizeOfCount where
  init := fun _ _ _ => rfl
  allocate := fun sys addresses conn => (allocateSocket_uncounted args sys addresses conn).1
  connecting := fun sys addresses conn idle => (allocateSocket_uncounted args sys addresses conn).2.imp_left (·.trans idle)
  cleanup := fun _ _ => rfl
  idle := fun _ _ => rfl
  handle := fun sys errno _ ev io waits => handle_accounted sys ev io errno waits

/-- The loop of the set-up pass changes no counter. -/
theorem setupLoop_counters (addresses : Nat → Option (List Address)) (full : Nat → Bool) :
    ∀ (slots : List (Slot Nat)) (i : Nat) (sys : Sys) (num : Int),
      (setupLoop args addresses full i slots sys num).slots.map (·.conn.counters) = slots.map (·.conn.counters) := by
  intro slots
  induction slots with
  | nil => intro _ _ _; rfl
  | cons slot rest ih =>
    intro i sys num
    unfold setupLoop
    split
    · dsimp only
      split
      · rfl
      · exact congrArg (slot.conn.counters :: ·) (ih ..)
    · split
      · exact congrArg (slot.conn.counters :: ·) (ih ..)
      · exact List.cons_eq_cons.mpr ⟨(counts args).recycle .., ih ..⟩

/-- The pass of `bench_epoll` counts nothing. -/
theorem setupPass_counters (addresses : Nat → Option (List Address)) (full : Nat → Bool) (slots : List (Slot Nat)) :
    (setupConnectionToEpollInstance args addresses full slots sys).slots.map (·.conn.counters) =
      slots.map (·.conn.counters) := by
  unfold setupConnectionToEpollInstance
  split
  · rfl
  · exact setupLoop_counters addresses full _ 0 _ _

end Epoll

/-! ## Whole runs -/

/-- What the histories of a table count: failures, responses and the sizes of these. -/
def countedBy (slots : List (Slot Nat)) : Int × Int × Int :=
  ((slots.map fun slot => failures slot.moves).sum, (slots.map fun slot => responses slot.moves).sum,
    (slots.map fun slot => responseSizes sizeOfCount slot.moves).sum)

/-- The summary loop adds up what the histories count. -/
theorem totals_eq_countedBy {slots : List (Slot Nat)} (accounts : ∀ slot ∈ slots, slot.Account sizeOfCount) :
    ((slots.map (·.conn.failed)).sum, (slots.map (·.conn.speed)).sum, (slots.map (·.conn.bytes)).sum) =
      countedBy slots := by
  have failed : slots.map (·.conn.failed) = slots.map fun slot => failures slot.moves :=
    List.map_congr_left fun slot member => congrArg (·.1) (accounts slot member).counters
  have speed : slots.map (·.conn.speed) = slots.map fun slot => responses slot.moves :=
    List.map_congr_left fun slot member => congrArg (·.2.1) (accounts slot member).counters
  have bytes : slots.map (·.conn.bytes) = slots.map fun slot => responseSizes sizeOfCount slot.moves :=
    List.map_congr_left fun slot member => congrArg (·.2.2) (accounts slot member).counters
  rw [failed, speed, bytes]
  rfl

/-- **Exact accounting.** In every run of either engine the handlers obey the
law of the counters, nothing else changes them, no cycle is counted twice, and
the totals are what the slots' histories count. -/
theorem accounting_of_run (args : Arguments) (request : HTTPRequest) :
    (Poll.driver.Counts args sizeOfCount ∧ ∀ w, Poll.Run args request w →
      (∀ slot ∈ w.slots, slot.Account sizeOfCount) ∧ Poll.totals w = countedBy w.slots ∧
        ∀ addresses, (Poll.setupPass args addresses w).slots.map (·.conn.counters) = w.slots.map (·.conn.counters)) ∧
    (Epoll.driver.Counts args sizeOfCount ∧ ∀ w, Epoll.Run args request w →
      (∀ slot ∈ w.slots, slot.Account sizeOfCount) ∧ Epoll.totals w = countedBy w.slots ∧
        ∀ addresses full, (Epoll.setupConnectionToEpollInstance args addresses full w.slots w.sys).slots.map
          (·.conn.counters) = w.slots.map (·.conn.counters)) := by
  refine ⟨⟨Poll.counts args, fun w run => ?_⟩, ⟨Epoll.counts args, fun w run => ?_⟩⟩
  · have accounts : ∀ slot ∈ w.slots, slot.Account sizeOfCount :=
      fun slot member => (Poll.counts args).account (Poll.run_slot run slot member)
    exact ⟨accounts, totals_eq_countedBy accounts, fun addresses => Poll.setupPass_counters addresses w⟩
  · have accounts : ∀ slot ∈ w.slots, slot.Account sizeOfCount :=
      fun slot member => (Epoll.counts args).account (Epoll.run_slot run slot member)
    exact ⟨accounts, totals_eq_countedBy accounts, fun addresses full => Epoll.setupPass_counters w.sys addresses full _⟩

/-- One client of `bench_poll` whose connection is refused, and one of `bench_epoll` that still waits. -/
theorem accounting_of_run_refused :
    Poll.totals ((Poll.opened createDefaultArguments .zero).woken createDefaultArguments pollerr .retry) = (1, 0, 0) ∧
      Epoll.totals (Epoll.opened createDefaultArguments .zero) = (0, 0, 0) :=
  ⟨((accounting_of_run createDefaultArguments .zero).1.2 _
      (Poll.World.woken_run (Poll.opened_run _ _) (by decide))).2.1.trans (by decide),
    ((accounting_of_run createDefaultArguments .zero).2.2 _ (Epoll.opened_run _ _)).2.1.trans (by decide)⟩

end WebBench
