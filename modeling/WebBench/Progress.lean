import WebBench.ForceMode
import WebBench.Select.Runs
import WebBench.Epoll.Runs
import WebBench.Select.Invariant

/-!
# Progress

A handler call is productive when it changes the state or one of the two counts
of its slot. The rank of a phase says how much of a cycle lies behind it; it never
falls along a cycle, so a slot that keeps being served keeps ending cycles.
-/

namespace WebBench
set_option autoImplicit false
open CLib

variable {κ ρ : Type}

namespace Move

/-- The call changed the state of the slot, or one of its counts. -/
def productive [DecidableEq κ] (move : Move κ) : Bool :=
  decide ¬ (move.after.state = move.before.state ∧ move.after.bytesSent = move.before.bytesSent ∧
    move.after.bytesReceived = move.before.bytesReceived)

/-- The call ended the cycle. -/
def ends (move : Move κ) : Bool := move.finishes || move.fails

/-- The call left the slot sending the CONNECT request. -/
def tunnels (move : Move κ) : Bool := move.before.state == .proxyConnect && move.after.state == .proxyConnect

end Move

namespace Job

/-! ## The rank of a phase -/

/-- The rank of a cycle that is over. -/
def top (job : Job) : Nat := job.request.length + job.body.length + 2 * recvBufferSize + 6

/-- How much of the cycle lies behind a phase. What has been sent of a CONNECT request that may be lost counts nothing. -/
def rank (job : Job) : Phase → Nat
  | .idle | .connecting => 0
  | .tunnelling k => 1 + if job.exact then min k job.request.length else 0
  | .awaitingReply got => 2 + job.request.length + min got.length recvBufferSize
  | .handshaking _ => 3 + job.request.length + recvBufferSize
  | .sending _ k => 4 + job.request.length + recvBufferSize + min k job.body.length
  | .receiving _ got => 5 + job.request.length + recvBufferSize + job.body.length + min got.length recvBufferSize
  | .completed _ | .failed _ => job.top

variable {job : Job} {p q : Phase}

theorem rank_le_top (job : Job) (p : Phase) : job.rank p ≤ job.top := by
  cases p <;> simp only [rank, top]
  case tunnelling k => split <;> omega
  all_goals omega

theorem rank_lt_top (active : p.active) : job.rank p < job.top := by
  cases p <;> simp_all only [rank, top, Phase.active, Phase.state, ConnState.pollable, Bool.false_eq_true]
  case tunnelling k => split <;> omega
  all_goals omega

theorem rank_silent (move : job.Silent p q) : job.rank p ≤ job.rank q := by
  cases move with
  | fail _ => exact rank_le_top job p
  | complete _ | forced _ => exact rank_le_top job _
  | slip lossy _ => simp [rank, lossy]
  | skip lossy =>
    simp [rank, lossy]
    omega
  | requested =>
    simp only [rank]
    split <;> omega
  | _ =>
    simp only [rank]
    omega

theorem rank_act {c : Call} (move : job.Act p c q) : job.rank p ≤ job.rank q := by
  cases move with
  | request _ =>
    simp only [rank]
    split <;> omega
  | _ =>
    simp only [rank, List.length_append]
    omega

/-- **The rank never falls.** -/
theorem rank_of_trace {calls : List Call} (trace : job.Trace p calls q) : job.rank p ≤ job.rank q :=
  trace.invariant (motive := fun _ q => job.rank p ≤ job.rank q) (Nat.le_refl _)
    (fun _ _ _ below move => below.trans (rank_silent move)) fun _ _ _ _ below move => below.trans (rank_act move)

/-- Phases of one rank in which a slot waits have one state. -/
theorem state_of_rank (waits : p.active) (waits' : q.active) (same : job.rank p = job.rank q) : p.state = q.state := by
  have first (k : Nat) : job.rank (.tunnelling k) ≤ 1 + job.request.length := by
    simp only [rank]
    split <;> omega
  have begun (k : Nat) : 1 ≤ job.rank (.tunnelling k) := Nat.le_add_right _ _
  cases p with
  | idle | completed _ | failed _ => exact Bool.noConfusion waits
  | tunnelling k =>
    have low := first k
    have high := begun k
    cases q with
    | idle | completed _ | failed _ => exact Bool.noConfusion waits'
    | tunnelling _ => rfl
    | _ =>
      rw [same] at low high
      simp only [rank] at low high
      omega
  | _ =>
    cases q with
    | idle | completed _ | failed _ => exact Bool.noConfusion waits'
    | tunnelling k =>
      have low := first k
      have high := begun k
      rw [← same] at low high
      simp only [rank] at low high
      omega
    | _ => first | rfl | (simp only [rank] at same; omega)

/-- They have the same counts, too, where the rank counts the CONNECT request. -/
theorem counts_of_rank (waits : p.active) (names : p.state = q.state) (same : job.rank p = job.rank q)
    (counted : p.state = .proxyConnect → job.exact = true) (rests : job.Rests p) (rests' : job.Rests q)
    (room : p.got.length < recvBufferSize) (room' : q.got.length < recvBufferSize) :
    job.sent p = job.sent q ∧ p.got.length = q.got.length := by
  cases p with
  | idle | completed _ | failed _ => exact Bool.noConfusion waits
  | connecting | handshaking _ =>
    cases q <;> try exact ConnState.noConfusion names
    exact ⟨rfl, rfl⟩
  | tunnelling k =>
    cases q <;> try exact ConnState.noConfusion names
    rename_i k'
    simp only [rank, counted rfl, if_true, Rests] at same rests rests'
    exact ⟨show k = k' by omega, rfl⟩
  | sending ssl k =>
    cases q <;> try exact ConnState.noConfusion names
    rename_i k'
    simp only [rank, Rests] at same rests rests'
    exact ⟨show k = k' by omega, rfl⟩
  | awaitingReply got | receiving ssl got =>
    cases q <;> try exact ConnState.noConfusion names
    rename_i got'
    simp only [rank, Phase.got] at same room room'
    exact ⟨rfl, show got.length = got'.length by omega⟩

end Job

/-! ## What a slot has been served -/

/-- What an engine's records show of the phases in which a slot waits, and which
handler calls are to be paid for: productive ones, and none that leaves the slot
sending a CONNECT request that may be lost. -/
structure Driver.Paces [DecidableEq κ] (d : Driver κ ρ) (args : Arguments) (request : HTTPRequest) (job : Job)
    (rep : ConnectionOf κ → Phase → Prop) (count : Nat → κ) (paid : Move κ → Bool) : Prop where
  follows : d.Follows args request job rep
  sent : ∀ conn p, rep conn p → p.active → conn.bytesSent = count (job.sent p)
  received : ∀ conn p, rep conn p → p.active → conn.bytesReceived = count p.got.length
  rests : ∀ conn p, rep conn p → p.active → job.Rests p
  room : ∀ conn p, rep conn p → p.active → p.got.length < recvBufferSize
  productive : ∀ move, paid move = true → move.productive = true
  exact : ∀ conn conn' p q, rep conn p → rep conn' q → p.state = .proxyConnect → q.state = .proxyConnect →
    paid ⟨conn, conn'⟩ = true → job.exact = true

namespace Driver.Paces

variable [DecidableEq κ] {d : Driver κ ρ} {args : Arguments} {request : HTTPRequest} {job : Job}
  {rep : ConnectionOf κ → Phase → Prop} {count : Nat → κ} {paid : Move κ → Bool}

/-- A call that is to be paid for and does not end the cycle raises the rank. -/
theorem advances (law : d.Paces args request job rep count paid) {conn conn' : ConnectionOf κ} {p q : Phase}
    {calls : List Call} (record : rep conn p) (record' : rep conn' q) (waits : p.active) (waits' : q.active)
    (trace : job.Trace p calls q) (charged : paid ⟨conn, conn'⟩ = true) : job.rank p < job.rank q := by
  refine lt_of_le_of_ne (Job.rank_of_trace trace) fun same => ?_
  have names := Job.state_of_rank waits waits' same
  have counted : p.state = .proxyConnect → job.exact = true := fun tunnels =>
    law.exact conn conn' p q record record' tunnels (names ▸ tunnels) charged
  obtain ⟨sent, received⟩ := Job.counts_of_rank waits names same counted (law.rests _ _ record waits)
    (law.rests _ _ record' waits') (law.room _ _ record waits) (law.room _ _ record' waits')
  have moved := law.productive _ charged
  simp only [Move.productive, decide_eq_true_eq] at moved
  refine moved ⟨?_, ?_, ?_⟩
  · rw [law.follows.state _ _ record, law.follows.state _ _ record', names]
  · rw [law.sent _ _ record waits, law.sent _ _ record' waits', sent]
  · rw [law.received _ _ record waits, law.received _ _ record' waits', received]

/-- What a slot in a phase has earned: the full rank for every cycle it has ended, and that of the phase it waits in. -/
def Earned (job : Job) (rep : ConnectionOf κ → Phase → Prop) (slot : Slot κ) (credit : Nat) : Prop :=
  ∃ p, rep slot.conn p ∧ credit = job.top * slot.moves.countP Move.ends + if p.active then job.rank p else 0

theorem ready_pays (law : d.Paces args request job rep count paid) (slot : Slot κ) (credit : Nat)
    (earned : Earned job rep slot credit) (pollable : slot.conn.state.pollable = true) (sys : Sys) (errno : Int)
    (mask : ρ) (io : Io) :
    ∃ credit', Earned job rep (d.ready args sys errno mask io slot).1 credit' ∧
      (d.ready args sys errno mask io slot).1.moves.countP paid + credit ≤ slot.moves.countP paid + credit' := by
  obtain ⟨p, record, rfl⟩ := earned
  have waits : p.active := (congrArg ConnState.pollable (law.follows.state _ _ record)).symm.trans pollable
  obtain ⟨q, trace, record'⟩ := law.follows.handle sys errno _ mask io p record waits
  refine ⟨_, ⟨q, record', rfl⟩, ?_⟩
  simp only [Driver.ready, List.countP_append, List.countP_singleton, if_pos waits]
  generalize (d.handleReadyConnection args sys errno slot.conn mask io).conn = conn' at record' ⊢
  by_cases waits' : q.active
  · have grown : job.top * slot.moves.countP Move.ends ≤ job.top * (slot.moves.countP Move.ends +
        if Move.ends ⟨slot.conn, conn'⟩ = true then 1 else 0) := Nat.mul_le_mul_left _ (Nat.le_add_right _ _)
    rw [if_pos waits']
    by_cases charged : paid ⟨slot.conn, conn'⟩ = true
    · have less := law.advances record record' waits waits' trace charged
      rw [if_pos charged]
      omega
    · have below := Job.rank_of_trace trace
      rw [if_neg charged]
      omega
  · have ended : Move.ends ⟨slot.conn, conn'⟩ = true := by
      have begun : q.state ≠ .idle := Job.begun_of_trace trace fun idle => by
        rw [Phase.active, idle] at waits
        exact Bool.noConfusion waits
      rcases ConnState.finished_of_free (Bool.not_eq_true _ ▸ waits') begun with settled | settled
      · have before : slot.conn.state ≠ .completed := fun done => by rw [done] at pollable; exact Bool.noConfusion pollable
        simp [Move.ends, Move.finishes, before, law.follows.state _ _ record', settled]
      · have before : slot.conn.state ≠ .error := fun done => by rw [done] at pollable; exact Bool.noConfusion pollable
        simp [Move.ends, Move.fails, before, law.follows.state _ _ record', settled]
    have less : job.rank p < job.top := Job.rank_lt_top waits
    rw [if_neg waits', ended, if_pos rfl, Nat.mul_add]
    split
    · omega
    · omega

/-- **A slot that is served ends its cycles.** The calls to be paid for are at
most the full rank for each cycle that has ended and for the one that goes on. -/
theorem served (law : d.Paces args request job rep count paid) {slot : Slot κ}
    (reached : d.SlotReachable args request slot) :
    slot.moves.countP paid ≤ job.top * (slot.moves.countP Move.ends + 1) := by
  have budget := reached.budget (Earned job rep) (fun slot => slot.moves.countP paid) ?_ ?_
  · obtain ⟨_, ⟨p, -, rfl⟩, covered⟩ := budget
    have most := Job.rank_le_top job p
    rw [Nat.mul_add]
    split at covered
    · omega
    · omega
  · rintro _ ⟨sys, addresses, raw, allowed⟩
    obtain ⟨p, -, record⟩ := law.follows.allocate sys addresses _ (law.follows.init raw allowed)
    exact ⟨_, ⟨p, record, rfl⟩, Nat.zero_le _⟩
  · intro slot _ credit earned step
    cases step with
    | recycle finished sys addresses =>
      obtain ⟨p, record, rfl⟩ := earned
      obtain ⟨q, -, record'⟩ := law.follows.allocate _ addresses _ (law.follows.cleanup _ p sys record)
      have settled : ¬ p.active := by
        rw [Phase.active, ← law.follows.state _ _ record]
        rcases finished with settled | settled <;> rw [settled] <;> decide
      refine ⟨_, ⟨q, record', rfl⟩, ?_⟩
      simp only [Driver.recycle, if_neg settled]
      omega
    | ready pollable sys errno mask io => exact law.ready_pays slot credit earned pollable sys errno mask io

end Driver.Paces

/-! ## The three engines -/

/-- The full rank of a cycle of `bench_select`, `bench_poll` or `bench_epoll`. -/
def cycleWork (args : Arguments) (request : HTTPRequest) : Nat :=
  (connectText args.targetHost.bytes args.targetPort).length + request.body.bytes.length + 2 * recvBufferSize + 6

/-- Productive, and not one that sends part of a CONNECT request that may be lost. -/
def Move.lasting (move : Move Nat) : Bool := move.productive && !move.tunnels

section Engines

variable {args : Arguments} {request : HTTPRequest}

theorem Represents.paces {d : Driver Nat ρ} {job : Job} {paid : Move Nat → Bool}
    (follows : d.Follows args request job (Represents job)) (productive : ∀ move, paid move = true → move.productive = true)
    (exact : ∀ move, move.tunnels = true → paid move = true → job.exact = true) :
    d.Paces args request job (Represents job) id paid where
  follows := follows
  sent := fun _ _ record waits => record.sent fun failed => by rw [Phase.active, failed] at waits; exact Bool.noConfusion waits
  received := fun _ _ record _ => record.received
  rests := fun _ _ record _ => record.rests
  room := fun _ _ record _ => record.room
  productive := productive
  exact := fun conn conn' p q record record' tunnels tunnels' charged =>
    exact ⟨conn, conn'⟩ (by simp [Move.tunnels, record.state, record'.state, tunnels, tunnels']) charged

theorem Poll.paces (args : Arguments) (request : HTTPRequest) :
    driver.Paces args request (job args request) (Represents (job args request)) id Move.productive :=
  Represents.paces (follows args request) (fun _ moved => moved) fun _ _ _ => rfl

theorem Epoll.paces (args : Arguments) (request : HTTPRequest) :
    driver.Paces args request (job args request) (Represents (job args request)) id Move.lasting := by
  refine Represents.paces (follows args request) ?_ ?_
  · intro move lasting
    simp only [Move.lasting, Bool.and_eq_true] at lasting
    exact lasting.1
  · intro move tunnels lasting
    simp [Move.lasting, tunnels] at lasting

theorem Select.paces (args : Arguments) (request : HTTPRequest) :
    driver.Paces args request (job args request) (Stands (job args request)) Int.ofNat Move.productive where
  follows := follows args request
  sent := by
    intro _ p stands waits
    obtain ⟨sizes, rfl, record⟩ := stands.represents waits
    exact congrArg Int.ofNat (record.sent fun failed => by rw [Phase.active, failed] at waits; exact Bool.noConfusion waits)
  received := by
    intro _ p stands waits
    obtain ⟨sizes, rfl, record⟩ := stands.represents waits
    exact congrArg Int.ofNat record.received
  rests := by
    intro _ p stands waits
    obtain ⟨sizes, -, record⟩ := stands.represents waits
    exact record.rests
  room := by
    intro _ p stands waits
    obtain ⟨sizes, -, record⟩ := stands.represents waits
    exact record.room
  productive := fun _ moved => moved
  exact := by
    -- between two steps none of the request is counted as sent, so such a call changes nothing
    intro conn conn' p q stands stands' tunnels tunnels' moved
    obtain ⟨sizes, rfl, record⟩ := stands.represents (by rw [Phase.active, tunnels]; rfl)
    obtain ⟨sizes', rfl, record'⟩ := stands'.represents (by rw [Phase.active, tunnels']; rfl)
    have fresh := stands.fresh
    have fresh' := stands'.fresh
    cases p <;> try exact ConnState.noConfusion tunnels
    cases q <;> try exact ConnState.noConfusion tunnels'
    obtain rfl : _ = 0 := fresh
    obtain rfl : _ = 0 := fresh'
    have sent : sizes'.bytesSent = sizes.bytesSent :=
      (record'.sent ConnState.noConfusion).trans (record.sent ConnState.noConfusion).symm
    have received : sizes'.bytesReceived = sizes.bytesReceived := record'.received.trans record.received.symm
    simp [Move.productive, ofSizes, record.state, record'.state, sent, received, Phase.state] at moved

end Engines

/-- **No livelock.** In every run of the three engines, whatever is ready and
whatever the calls return, the productive handler calls on a slot are bounded by
the cycles that have ended on it. A call of `bench_epoll` that leaves the slot
sending the CONNECT request is not among them, as its count may go back. -/
theorem progress_of_run (args : Arguments) (request : HTTPRequest) :
    (∀ w, Poll.Run args request w → ∀ slot ∈ w.slots,
      slot.moves.countP Move.productive ≤ cycleWork args request * (slot.moves.countP Move.ends + 1)) ∧
    (∀ w, Select.Run args request w → ∀ slot ∈ w.slots,
      slot.moves.countP Move.productive ≤ cycleWork args request * (slot.moves.countP Move.ends + 1)) ∧
    ∀ w, Epoll.Run args request w → ∀ slot ∈ w.slots,
      slot.moves.countP Move.lasting ≤ cycleWork args request * (slot.moves.countP Move.ends + 1) :=
  ⟨fun _ run slot member => (Poll.paces args request).served (Poll.run_slot run slot member),
    fun _ run slot member => (Select.paces args request).served (Select.run_slot run slot member),
    fun _ run slot member => (Epoll.paces args request).served (Epoll.run_slot run slot member)⟩

/-- A client of each engine whose cycle has ended with a response of four bytes. -/
theorem progress_of_run_completed :
    (∃ slot ∈ (Poll.answered headerEnd).slots, slot.moves.countP Move.ends = 1 ∧
      slot.moves.countP Move.productive ≤ cycleWork createDefaultArguments Poll.shortRequest * 2) ∧
    (∃ w ∈ Select.answered headerEnd, ∃ slot ∈ w.slots, slot.moves.countP Move.ends = 1 ∧
      slot.moves.countP Move.productive ≤ cycleWork createDefaultArguments Poll.shortRequest * 2) ∧
    ∃ slot ∈ (Epoll.answered headerEnd).slots, slot.moves.countP Move.ends = 1 ∧
      slot.moves.countP Move.lasting ≤ cycleWork createDefaultArguments Poll.shortRequest * 2 := by
  obtain ⟨poll, select, epoll⟩ := progress_of_run createDefaultArguments Poll.shortRequest
  have first : ∃ slot ∈ (Poll.answered headerEnd).slots, slot.moves.countP Move.ends = 1 := by decide +kernel
  have second : ∃ w ∈ Select.answered headerEnd, ∃ slot ∈ w.slots, slot.moves.countP Move.ends = 1 := by decide +kernel
  have third : ∃ slot ∈ (Epoll.answered headerEnd).slots, slot.moves.countP Move.ends = 1 := by decide +kernel
  refine ⟨?_, ?_, ?_⟩
  · obtain ⟨slot, member, ended⟩ := first
    have most := poll _ (Poll.answered_run _) slot member
    rw [ended] at most
    exact ⟨slot, member, ended, most⟩
  · obtain ⟨w, made, slot, member, ended⟩ := second
    have most := select _ (Select.answered_run _ w made) slot member
    rw [ended] at most
    exact ⟨w, made, slot, member, ended, most⟩
  · obtain ⟨slot, member, ended⟩ := third
    have most := epoll _ (Epoll.answered_run _) slot member
    rw [ended] at most
    exact ⟨slot, member, ended, most⟩

end WebBench
