import WebBench.Lib.Loop
import WebBench.Epoll.EventOrder
import WebBench.Select.Ownership
import WebBench.SslContextRuns

/-!
# The bench functions from their call to their return

`bench_poll`, `bench_epoll` and `bench_select` open their connections, iterate
while the clock allows it, and end with a loop that adds up the counters and
cleans up. What the clock and the waits say is the input of an iteration. What
is printed belongs to a state of a run, and nothing is left behind.
-/

namespace WebBench
set_option autoImplicit false
open CLib

variable {κ ρ : Type}

/-- What the last `printf` shows. -/
structure Report where
  speed : Int
  bytes : Int
  failed : Int
  deriving DecidableEq, Repr

/-- How a bench function ends: without memory, with a summary, or by `exit(EXIT_FAILURE)`. -/
inductive BenchEnd where
  | refused
  | returned (report : Report) (sys : Sys)
  | exited

/-- `free_ssl_lib`, in `bench_select.c` `cleanup_ssl`. -/
def freeSslLib (sys : Sys) : Sys := { sys with globalSslCtx := none }

namespace Driver

variable (d : Driver κ ρ)

/-- The loop that adds up the counters and cleans up. -/
def summaryLoop : List (ConnectionOf κ) → Report → Sys → Report × Sys
  | [], report, sys => (report, sys)
  | conn :: rest, report, sys =>
    summaryLoop rest ⟨report.speed + conn.speed, report.bytes + conn.bytes, report.failed + conn.failed⟩
      (d.cleanupConnection conn sys).2

/-- What follows the main loop. -/
def summary (args : Arguments) (conns : List (ConnectionOf κ)) (sys : Sys) : BenchEnd :=
  let (report, sys) := d.summaryLoop conns ⟨0, 0, 0⟩ sys
  .returned report (if args.protocol = protocolHttps then freeSslLib sys else sys)

end Driver

/-! ## `bench_poll` -/

namespace Poll

/-- What `poll` does in an iteration. -/
inductive Polled where
  | failed
  | timeout
  | ready (revents : Nat → BitVec 16) (answers : Nat → Answers)

/-- What one iteration is given: the seconds since the start, what the set-up pass gets, and what `poll` does. -/
structure Round where
  elapsed : Int
  addresses : Nat → Option (List Address)
  polled : Polled

/-- One iteration of the main loop. -/
def mainTurn (args : Arguments) (w : World) (round : Round) : LoopStep World World :=
  if args.benchTime < round.elapsed then .leave w
  else
    let pass := setupPass args round.addresses w
    if 0 < pass.ret then
      match round.polled with
      | .failed => .leave ⟨pass.slots, pass.sys⟩
      | .timeout => .again ⟨pass.slots, pass.sys⟩
      | .ready revents answers =>
        .again ⟨(dispatchPass args answers revents pass).slots, (dispatchPass args answers revents pass).sys⟩
    else .again ⟨pass.slots, pass.sys⟩

/-- `bench_poll`; `array` is what `malloc` returns. -/
def benchPoll (args : Arguments) (request : HTTPRequest) (addresses : Nat → Option (List Address))
    (array : Option (Nat → Connection)) (rounds : List Round) : Option BenchEnd :=
  match array with
  | none => some .refused
  | some raw =>
    (loop (mainTurn args) (openAll args request addresses raw 0 (numConnections args) .initial) rounds).map fun w =>
      driver.summary args (w.slots.map (·.conn)) w.sys

end Poll

/-! ## `bench_epoll` -/

namespace Epoll

/-- What one iteration is given. Of the events `epoll_wait` is said to see, it
reports those of entries that are armed; `none` is a wait that fails. -/
structure Round where
  elapsed : Int
  addresses : Nat → Option (List Address)
  full : Nat → Bool
  waited : Option (List (Int × BitVec 32))
  answers : Nat → Answers

/-- The events of armed entries, one for each descriptor. -/
def reported (sys : Sys) : List (Int × BitVec 32) → List (Int × EpollEvent)
  | [] => []
  | seen :: rest =>
    match sys.epoll seen.1 with
    | some entry =>
      if entry.armed ∧ seen.1 ∉ rest.map Prod.fst then (seen.1, ⟨entry.slot, seen.2⟩) :: reported sys rest
      else reported sys rest
    | none => reported sys rest

/-- One iteration of the main loop; it leaves without a world by `exit(EXIT_FAILURE)`. -/
def mainTurn (args : Arguments) (w : World) (round : Round) : LoopStep World (Option World) :=
  if args.benchTime < round.elapsed then .leave (some { w with loop := .left })
  else
    let pass := setupConnectionToEpollInstance args round.addresses round.full w.slots w.sys
    if pass.ret < 0 then .leave none
    else if pass.ret = 0 then .again ⟨pass.slots, pass.sys, .pass⟩
    else
      match round.waited with
      | none => .leave (some ⟨pass.slots, pass.sys, .left⟩)
      | some seen =>
        let events := (reported pass.sys seen).take pass.ret.toNat
        let handled := handleEvents args round.answers (events.map Prod.snd) pass.slots
          (pass.sys.disarm (events.map Prod.fst))
        .again ⟨handled.1, handled.2, .pass⟩

/-- `bench_epoll`; `memory` and `created` say whether `calloc` and `epoll_create1` succeed. -/
def benchEpoll (args : Arguments) (request : HTTPRequest) (addresses : Nat → Option (List Address))
    (memory created : Bool) (rounds : List Round) : Option BenchEnd :=
  if memory = false then some .refused
  else
    let opened := openAll args request addresses 0 (numConnections args) .initial
    if created = false then some .exited
    else (loop (mainTurn args) ⟨opened.1, opened.2, .pass⟩ rounds).map fun left =>
      match left with
      | some w => driver.summary args (w.slots.map (·.conn)) w.sys
      | none => .exited

end Epoll

/-! ## `bench_select` -/

namespace Select

/-- What one iteration is given. Of the descriptors `select` is said to see, it
leaves those in the sets that it was given; `none` is a `select` that reports nothing. -/
structure Round where
  elapsed : Int
  addresses : Nat → Option (List Address)
  selected : Option FdSets
  answers : Nat → Answers

/-- What `select` leaves in the sets. -/
def FdSets.within (seen fds : FdSets) : FdSets :=
  ⟨seen.read.filter (· ∈ fds.read), seen.write.filter (· ∈ fds.write)⟩

/-- One iteration of the main loop; it leaves without a world by `exit(EXIT_FAILURE)`. -/
def mainTurn (args : Arguments) (w : World) (round : Round) : LoopStep World (Option World) :=
  if args.benchTime < round.elapsed then .leave (some w)
  else
    match setupPass args round.addresses w with
    | none => .leave none
    | some pass =>
      if 0 < pass.maxFd then
        match round.selected with
        | some seen =>
          let handled := dispatch args round.answers (seen.within pass.fds) 0 pass.slots pass.sys
          .again ⟨handled.1, handled.2, pass.maxFd⟩
        | none => .again ⟨pass.slots, pass.sys, pass.maxFd⟩
      else .again ⟨pass.slots, pass.sys, pass.maxFd⟩

/-- `bench_select`; `array` is what `malloc` returns. -/
def benchSelect (args : Arguments) (request : HTTPRequest) (addresses : Nat → Option (List Address))
    (array : Option (Nat → Connection)) (rounds : List Round) : Option BenchEnd :=
  match array with
  | none => some .refused
  | some raw =>
    match openAll args request addresses raw 0 (numConnections args) .initial with
    | none => some .exited
    | some opened =>
      (loop (mainTurn args) ⟨opened.1, opened.2, 0⟩ rounds).map fun left =>
        match left with
        | some w => driver.summary args (w.slots.map (·.conn)) w.sys
        | none => .exited

end Select

/-! ## How they end -/

/-- A bench function has printed the totals of a run, and has left nothing behind. -/
structure Finished {σ : Type} (run : σ → Prop) (totals : σ → Int × Int × Int) (report : Report) (sys : Sys) : Prop where
  counted : ∃ w, run w ∧ totals w = (report.failed, report.speed, report.bytes)
  sockets : sys.opened = []
  objects : sys.liveSsl = []
  context : sys.globalSslCtx = none

/-- How a call ends: its time is up at the latest when an iteration is `late`,
and not before, unless a wait has `failed`; then it is finished. -/
structure Ends {σ ι : Type} (run : σ → Prop) (totals : σ → Int × Int × Int) (late failed : ι → Prop) (rounds : List ι)
    (ending : Option BenchEnd) : Prop where
  returns : ∀ round ∈ rounds, late round → ending ≠ none
  time : ∀ report sys, ending = some (.returned report sys) → ∃ round ∈ rounds, late round ∨ failed round
  finished : ∀ report sys, ending = some (.returned report sys) → Finished run totals report sys

section Summary

variable {d : Driver κ ρ} {args : Arguments} {request : HTTPRequest}

theorem Driver.summaryLoop_eq (conns : List (ConnectionOf κ)) (report : Report) (sys : Sys) :
    d.summaryLoop conns report sys =
      (⟨report.speed + (conns.map (·.speed)).sum, report.bytes + (conns.map (·.bytes)).sum,
        report.failed + (conns.map (·.failed)).sum⟩, (d.cleanupAll conns sys).2) := by
  induction conns generalizing report sys with
  | nil => simp [summaryLoop, cleanupAll]
  | cons conn rest ih => simp [summaryLoop, cleanupAll, ih, Int.add_assoc]

theorem Driver.Shares.cleanupAll (shares : d.Shares args request) (conns : List (ConnectionOf κ)) (sys : Sys) :
    (d.cleanupAll conns sys).2.globalSslCtx = sys.globalSslCtx := by
  induction conns generalizing sys with
  | nil => rfl
  | cons conn rest ih => exact (ih _).trans (shares.cleanup conn sys).1

/-- **What follows the main loop** prints the totals and releases everything. -/
theorem Driver.Shares.summary_finished {σ : Type} {run : σ → Prop} {totals : σ → Int × Int × Int} {w : σ}
    {slots : List (Slot κ)} {sys sys' : Sys} {report : Report} (shares : d.Shares args request) (reached : run w)
    (same : totals w = ((slots.map (·.conn.failed)).sum, (slots.map (·.conn.speed)).sum, (slots.map (·.conn.bytes)).sum))
    (contexts : Contexts args slots sys)
    (released : (d.cleanupAll (slots.map (·.conn)) sys).2.opened = [] ∧ (d.cleanupAll (slots.map (·.conn)) sys).2.liveSsl = [])
    (ends : d.summary args (slots.map (·.conn)) sys = .returned report sys') : Finished run totals report sys' := by
  unfold summary at ends
  rw [d.summaryLoop_eq] at ends
  obtain ⟨rfl, rfl⟩ := BenchEnd.returned.inj ends
  have kept := shares.cleanupAll (slots.map (·.conn)) sys
  refine ⟨⟨w, reached, ?_⟩, ?_, ?_, ?_⟩
  · rw [same]
    simp [Function.comp_def]
  · split
    · exact released.1
    · exact released.1
  · split
    · exact released.2
    · exact released.2
  · split
    · rfl
    · rename_i plain
      rw [kept]
      by_contra there
      exact plain (contexts.secure there)

end Summary

namespace Poll

variable {args : Arguments} {request : HTTPRequest}

/-- The tables of a run lie between two operations. -/
theorem RunPositive.between {w : World} (positive : RunPositive args request w) : driver.Between args request w.table := by
  induction positive with
  | start first =>
    obtain ⟨addresses, sockets, raw⟩ := first
    exact Reachable.steps (.start rfl) (openAll_operations sockets raw _ 0 .initial [])
  | next before step ih => exact ih.steps (RunPositive.operations before step)

/-- An iteration that goes on is a step of the run. -/
theorem RunPositive.again {w w' : World} {round : Round} (run : RunPositive args request w)
    (positive : ∀ i, PositiveSockets (round.addresses i)) (turn : mainTurn args w round = .again w') :
    RunPositive args request w' := by
  have quiet := run.next (.quiet w round.addresses positive)
  unfold mainTurn at turn
  split at turn
  · cases turn
  · dsimp only at turn
    split at turn
    · rename_i counted
      split at turn
      · cases turn
      · cases turn
        exact quiet
      · rename_i revents answers _
        cases turn
        exact run.next (.ready w round.addresses positive answers revents counted)
    · cases turn
      exact quiet

/-- One that leaves has come to the end of the time, or `poll` has failed. -/
theorem RunPositive.leave {w w' : World} {round : Round} (run : RunPositive args request w)
    (positive : ∀ i, PositiveSockets (round.addresses i)) (turn : mainTurn args w round = .leave w') :
    RunPositive args request w' ∧ (args.benchTime < round.elapsed ∨ round.polled = .failed) := by
  unfold mainTurn at turn
  split at turn
  · rename_i late
    cases turn
    exact ⟨run, .inl late⟩
  · dsimp only at turn
    split at turn
    · split at turn
      · rename_i failed
        cases turn
        exact ⟨run.next (.quiet w round.addresses positive), .inr failed⟩
      · cases turn
      · cases turn
    · cases turn

/-- What is known of the world the main loop leaves. -/
def Left (args : Arguments) (request : HTTPRequest) (rounds : List Round) (w : World) : Prop :=
  RunPositive args request w ∧ ∃ round ∈ rounds, args.benchTime < round.elapsed ∨ round.polled = .failed

theorem mainLoop_left {start w : World} {rounds : List Round} (run : RunPositive args request start)
    (positive : ∀ round ∈ rounds, ∀ i, PositiveSockets (round.addresses i))
    (ends : loop (mainTurn args) start rounds = some w) : Left args request rounds w := by
  refine loop_post (RunPositive args request) (Left args request rounds) run ?_ ?_ ends
  · exact fun round member w w' run turn => run.again (positive round member) turn
  · intro round member w w' run turn
    obtain ⟨run', late⟩ := run.leave (positive round member) turn
    exact ⟨run', round, member, late⟩

/-- **`bench_poll`** ends in time and finished, and never by `exit`. -/
theorem benchPoll_ends (args : Arguments) (request : HTTPRequest) {addresses : Nat → Option (List Address)}
    (opening : ∀ i, PositiveSockets (addresses i)) (array : Option (Nat → Connection)) {rounds : List Round}
    (positive : ∀ round ∈ rounds, ∀ i, PositiveSockets (round.addresses i)) :
    Ends (Run args request) totals (fun round => args.benchTime < round.elapsed) (fun round => round.polled = .failed) rounds
      (benchPoll args request addresses array rounds) ∧ benchPoll args request addresses array rounds ≠ some .exited := by
  unfold benchPoll
  cases array with
  | none =>
    refine ⟨⟨fun _ _ _ => Option.some_ne_none _, fun _ _ ends => ?_, fun _ _ ends => ?_⟩, fun ends => ?_⟩
    all_goals cases ends
  | some raw =>
    have start : RunPositive args request (openAll args request addresses raw 0 (numConnections args) .initial) :=
      .start (.openAll addresses opening raw)
    dsimp only
    refine ⟨⟨fun round member late => ?_, fun report sys ends => ?_, fun report sys ends => ?_⟩, fun ends => ?_⟩
    · exact Option.map_eq_none_iff.not.mpr (loop_leaves member fun w => ⟨w, if_pos late⟩)
    · obtain ⟨w, left, -⟩ := Option.map_eq_some_iff.mp ends
      exact (mainLoop_left start positive left).2
    · obtain ⟨w, left, summary⟩ := Option.map_eq_some_iff.mp ends
      have run := (mainLoop_left start positive left).1
      exact (shares args request).summary_finished run.run rfl (run_contexts run.run)
        ((handles args request).all_released run.between) summary
    · obtain ⟨w, -, summary⟩ := Option.map_eq_some_iff.mp ends
      cases summary

end Poll

namespace Epoll

variable {args : Arguments} {request : HTTPRequest}

/-- The tables of a run lie between two operations. -/
theorem RunPositive.between {w : World} (positive : RunPositive args request w) : driver.Between args request w.table := by
  induction positive with
  | start first =>
    obtain ⟨addresses, sockets⟩ := first
    exact Reachable.steps (.start rfl) (openAll_operations sockets _ 0 .initial [])
  | next before step ih => exact ih.steps (RunPositive.operations before step)

/-- `epoll_wait` reports what it may. -/
theorem reported_reports (sys : Sys) (seen : List (Int × BitVec 32)) :
    ∀ event ∈ reported sys seen, event.1 ∈ seen.map Prod.fst ∧ Reports sys event.1 event.2 := by
  induction seen with
  | nil => exact fun _ member => absurd member List.not_mem_nil
  | cons first rest ih =>
    have later : ∀ event ∈ reported sys rest, event.1 ∈ (first :: rest).map Prod.fst ∧ Reports sys event.1 event.2 :=
      fun event member => (ih event member).imp_left (List.mem_cons_of_mem _)
    unfold reported
    split
    · rename_i entry present
      split
      · rename_i armed
        refine List.forall_mem_cons.mpr ⟨⟨List.mem_cons_self, entry, present, armed.1, rfl⟩, later⟩
      · exact later
    · exact later

theorem reported_nodup (sys : Sys) (seen : List (Int × BitVec 32)) : ((reported sys seen).map Prod.fst).Nodup := by
  induction seen with
  | nil => exact List.nodup_nil
  | cons first rest ih =>
    unfold reported
    split
    · split
      · rename_i armed
        refine List.nodup_cons.mpr ⟨fun member => ?_, ih⟩
        obtain ⟨event, among, same⟩ := List.mem_map.mp member
        exact armed.2 (same ▸ (reported_reports sys rest event among).1)
      · exact ih
    · exact ih

/-- The handlers of the events that are left are steps of the run. -/
theorem RunPositive.events (answers : Nat → Answers) :
    ∀ (events : List EpollEvent) (slots : List (Slot Nat)) (sys : Sys), RunPositive args request ⟨slots, sys, .events events⟩ →
      RunPositive args request ⟨(handleEvents args answers events slots sys).1,
        (handleEvents args answers events slots sys).2, .pass⟩ := by
  intro events
  induction events with
  | nil => exact fun slots sys run => run.next (.other _ _ Loop.noConfusion (.again slots sys))
  | cons event rest ih =>
    intro slots sys run
    obtain ⟨slot, entry, here, -, -⟩ := (run_registered run.run).pending event.slot List.mem_cons_self
    simp only [handleEvents, here]
    exact ih _ _ (run.next (.other _ _ Loop.noConfusion (.handle slots sys event rest slot here (answers event.slot))))

/-- A wait after a pass reports events and handles them. -/
theorem RunPositive.waits {slots : List (Slot Nat)} {sys : Sys} {activeFds : Int}
    (run : RunPositive args request ⟨slots, sys, .wait activeFds⟩) (some : 0 < activeFds) (seen : List (Int × BitVec 32))
    (answers : Nat → Answers) :
    let events := (reported sys seen).take activeFds.toNat
    let handled := handleEvents args answers (events.map Prod.snd) slots (sys.disarm (events.map Prod.fst))
    RunPositive args request ⟨handled.1, handled.2, .pass⟩ := by
  have distinct : (((reported sys seen).take activeFds.toNat).map Prod.fst).Nodup :=
    (reported_nodup sys seen).sublist ((List.take_sublist _ _).map _)
  have all : List.Forall₂ (Reports sys) (((reported sys seen).take activeFds.toNat).map Prod.fst)
      (((reported sys seen).take activeFds.toNat).map Prod.snd) := by
    rw [List.forall₂_map_left_iff, List.forall₂_map_right_iff]
    exact List.forall₂_same.mpr fun event member => (reported_reports sys seen event (List.mem_of_mem_take member)).2
  have most : (((((reported sys seen).take activeFds.toNat).map Prod.snd).length : Nat) : Int) ≤ activeFds := by
    rw [List.length_map, List.length_take]
    omega
  exact RunPositive.events answers _ _ _
    (run.next (.other _ _ Loop.noConfusion (.wait slots sys activeFds _ _ distinct all most)))

/-- An iteration that goes on is a row of steps from one pass to the next. -/
theorem RunPositive.again {slots : List (Slot Nat)} {sys : Sys} {w' : World} {round : Round}
    (run : RunPositive args request ⟨slots, sys, .pass⟩) (positive : ∀ i, PositiveSockets (round.addresses i))
    (turn : mainTurn args ⟨slots, sys, .pass⟩ round = .again w') : w'.loop = .pass ∧ RunPositive args request w' := by
  have passed := run.next (.pass slots sys round.addresses positive round.full)
  unfold mainTurn at turn
  split at turn
  · cases turn
  · dsimp only at turn
    generalize setupConnectionToEpollInstance args round.addresses round.full slots sys = pass at passed turn
    unfold afterPass at passed
    split at turn
    · cases turn
    · rename_i nonneg
      rw [if_neg nonneg] at passed
      split at turn
      · rename_i none'
        cases turn
        rw [if_pos none'] at passed
        exact ⟨rfl, passed⟩
      · rename_i some'
        rw [if_neg some'] at passed
        split at turn
        · cases turn
        · rename_i seen _
          cases turn
          exact ⟨rfl, RunPositive.waits passed (by omega) seen round.answers⟩

/-- One that leaves with a world has come to the end of the time, or `epoll_wait` has failed. -/
theorem RunPositive.leave {slots : List (Slot Nat)} {sys : Sys} {w' : World} {round : Round}
    (run : RunPositive args request ⟨slots, sys, .pass⟩) (positive : ∀ i, PositiveSockets (round.addresses i))
    (turn : mainTurn args ⟨slots, sys, .pass⟩ round = .leave (some w')) :
    RunPositive args request w' ∧ (args.benchTime < round.elapsed ∨ round.waited = none) := by
  have passed := run.next (.pass slots sys round.addresses positive round.full)
  unfold mainTurn at turn
  split at turn
  · rename_i late
    cases turn
    exact ⟨run.next (.timeUp slots sys), .inl late⟩
  · dsimp only at turn
    generalize setupConnectionToEpollInstance args round.addresses round.full slots sys = pass at passed turn
    unfold afterPass at passed
    split at turn
    · cases turn
    · rename_i nonneg
      rw [if_neg nonneg] at passed
      split at turn
      · cases turn
      · rename_i some'
        rw [if_neg some'] at passed
        split at turn
        · rename_i failed
          cases turn
          exact ⟨passed.next (.other _ _ Loop.noConfusion (.waitFailed _ _ _)), .inr failed⟩
        · cases turn

/-- What is known of the world the main loop leaves, if it leaves with one. -/
def Left (args : Arguments) (request : HTTPRequest) (rounds : List Round) (left : Option World) : Prop :=
  ∀ w, left = some w →
    RunPositive args request w ∧ ∃ round ∈ rounds, args.benchTime < round.elapsed ∨ round.waited = none

theorem mainLoop_left {start : World} {left : Option World} {rounds : List Round} (before : start.loop = .pass)
    (run : RunPositive args request start) (positive : ∀ round ∈ rounds, ∀ i, PositiveSockets (round.addresses i))
    (ends : loop (mainTurn args) start rounds = some left) : Left args request rounds left := by
  refine loop_post (fun w => w.loop = .pass ∧ RunPositive args request w) (Left args request rounds) ⟨before, run⟩ ?_ ?_ ends
  · rintro round member ⟨slots, sys, _⟩ w' ⟨rfl, run⟩ turn
    exact run.again (positive round member) turn
  · rintro round member ⟨slots, sys, _⟩ left ⟨rfl, run⟩ turn w rfl
    obtain ⟨run', late⟩ := run.leave (positive round member) turn
    exact ⟨run', round, member, late⟩

/-- **`bench_epoll`** ends in time, and where it returns it is finished. -/
theorem benchEpoll_ends (args : Arguments) (request : HTTPRequest) {addresses : Nat → Option (List Address)}
    (opening : ∀ i, PositiveSockets (addresses i)) (memory created : Bool) {rounds : List Round}
    (positive : ∀ round ∈ rounds, ∀ i, PositiveSockets (round.addresses i)) :
    Ends (Run args request) totals (fun round => args.benchTime < round.elapsed) (fun round => round.waited = none) rounds
      (benchEpoll args request addresses memory created rounds) := by
  have start : RunPositive args request ⟨(openAll args request addresses 0 (numConnections args) .initial).1,
      (openAll args request addresses 0 (numConnections args) .initial).2, .pass⟩ :=
    .start (.openAll addresses opening)
  unfold benchEpoll
  split
  · refine ⟨fun _ _ _ => Option.some_ne_none _, fun _ _ ends => ?_, fun _ _ ends => ?_⟩
    all_goals cases ends
  dsimp only
  split
  · refine ⟨fun _ _ _ => Option.some_ne_none _, fun _ _ ends => ?_, fun _ _ ends => ?_⟩
    all_goals cases ends
  refine ⟨fun round member late => ?_, fun report sys ends => ?_, fun report sys ends => ?_⟩
  · exact Option.map_eq_none_iff.not.mpr (loop_leaves member fun w => ⟨_, if_pos late⟩)
  · obtain ⟨left, reached, summary⟩ := Option.map_eq_some_iff.mp ends
    cases left with
    | none => cases summary
    | some w => exact (mainLoop_left rfl start positive reached w rfl).2
  · obtain ⟨left, reached, summary⟩ := Option.map_eq_some_iff.mp ends
    cases left with
    | none => cases summary
    | some w =>
      have run := (mainLoop_left rfl start positive reached w rfl).1
      exact (shares args request).summary_finished run.run rfl (run_contexts run.run)
        ((handles args request).all_released run.between) summary

end Epoll

namespace Select

variable {args : Arguments} {request : HTTPRequest}

/-- `select` leaves what it may. -/
theorem within_selects (seen fds : FdSets) : Selects fds (seen.within fds) :=
  ⟨fun _ member => of_decide_eq_true (List.mem_filter.mp member).2,
    fun _ member => of_decide_eq_true (List.mem_filter.mp member).2⟩

/-- An iteration that goes on is a step of the run. -/
theorem RunPositive.again {w w' : World} {round : Round} (run : RunPositive args request w)
    (positive : ∀ i, PositiveSockets (round.addresses i)) (turn : mainTurn args w round = .again w') :
    RunPositive args request w' := by
  unfold mainTurn at turn
  split at turn
  · cases turn
  · split at turn
    · cases turn
    · rename_i pass passed
      have quiet := run.next (.quiet w round.addresses positive passed)
      split at turn
      · rename_i watched
        split at turn
        · rename_i seen _
          cases turn
          exact run.next (.ready w round.addresses positive passed watched round.answers _ (within_selects seen pass.fds))
        · cases turn
          exact quiet
      · cases turn
        exact quiet

/-- One that leaves with a world has come to the end of the time. -/
theorem mainTurn_leave {w w' : World} {round : Round} (turn : mainTurn args w round = .leave (some w')) :
    w' = w ∧ args.benchTime < round.elapsed := by
  unfold mainTurn at turn
  split at turn
  · rename_i late
    cases turn
    exact ⟨rfl, late⟩
  · split at turn
    · cases turn
    · split at turn
      · split at turn
        · cases turn
        · cases turn
      · cases turn

/-- What is known of the world the main loop leaves, if it leaves with one. -/
def Left (args : Arguments) (request : HTTPRequest) (rounds : List Round) (left : Option World) : Prop :=
  ∀ w, left = some w → RunPositive args request w ∧ ∃ round ∈ rounds, args.benchTime < round.elapsed

theorem mainLoop_left {start : World} {left : Option World} {rounds : List Round} (run : RunPositive args request start)
    (positive : ∀ round ∈ rounds, ∀ i, PositiveSockets (round.addresses i))
    (ends : loop (mainTurn args) start rounds = some left) : Left args request rounds left := by
  refine loop_post (RunPositive args request) (Left args request rounds) run ?_ ?_ ends
  · exact fun round member w w' run turn => run.again (positive round member) turn
  · rintro round member w left run turn w' rfl
    obtain ⟨rfl, late⟩ := mainTurn_leave turn
    exact ⟨run, round, member, late⟩

/-- **`bench_select`** ends in time, and where it returns it is finished. -/
theorem benchSelect_ends (args : Arguments) (request : HTTPRequest) {addresses : Nat → Option (List Address)}
    (opening : ∀ i, PositiveSockets (addresses i)) (array : Option (Nat → Connection)) {rounds : List Round}
    (positive : ∀ round ∈ rounds, ∀ i, PositiveSockets (round.addresses i)) :
    Ends (Run args request) totals (fun round => args.benchTime < round.elapsed) (fun _ => False) rounds
      (benchSelect args request addresses array rounds) := by
  unfold benchSelect
  cases array with
  | none =>
    refine ⟨fun _ _ _ => Option.some_ne_none _, fun _ _ ends => ?_, fun _ _ ends => ?_⟩
    all_goals cases ends
  | some raw =>
    dsimp only
    cases opens : openAll args request addresses raw 0 (numConnections args) .initial with
    | none =>
      refine ⟨fun _ _ _ => Option.some_ne_none _, fun _ _ ends => ?_, fun _ _ ends => ?_⟩
      all_goals cases ends
    | some opened =>
      obtain ⟨slots, sys⟩ := opened
      have start : RunPositive args request ⟨slots, sys, 0⟩ := .start (.openAll addresses opening raw opens)
      refine ⟨fun round member late => ?_, fun report sys' ends => ?_, fun report sys' ends => ?_⟩
      · exact Option.map_eq_none_iff.not.mpr (loop_leaves member fun w => ⟨_, if_pos late⟩)
      · obtain ⟨left, reached, summary⟩ := Option.map_eq_some_iff.mp ends
        cases left with
        | none => cases summary
        | some w =>
          obtain ⟨-, round, member, late⟩ := mainLoop_left start positive reached w rfl
          exact ⟨round, member, .inl late⟩
      · obtain ⟨left, reached, summary⟩ := Option.map_eq_some_iff.mp ends
        cases left with
        | none => cases summary
        | some w =>
          have run := (mainLoop_left start positive reached w rfl).1
          exact (shares args request).summary_finished run.run rfl (run_contexts run.run)
            (all_released run.between) summary

end Select

/-! ## The three functions -/

/-- **From the call to the return.** Where `socket()` gives positive descriptors,
each of the three functions ends in time, prints the totals of a run and leaves
no socket, no SSL object and no context behind. Only `bench_poll` never calls `exit`. -/
theorem bench_ends (args : Arguments) (request : HTTPRequest) (addresses : Nat → Option (List Address))
    (opening : ∀ i, PositiveSockets (addresses i)) :
    (∀ array rounds, (∀ round ∈ rounds, ∀ i, PositiveSockets (round.addresses i)) →
      Ends (Poll.Run args request) Poll.totals (fun round => args.benchTime < round.elapsed)
        (fun round => round.polled = .failed) rounds (Poll.benchPoll args request addresses array rounds) ∧
        Poll.benchPoll args request addresses array rounds ≠ some .exited) ∧
      (∀ memory created rounds, (∀ round ∈ rounds, ∀ i, PositiveSockets (round.addresses i)) →
        Ends (Epoll.Run args request) Epoll.totals (fun round => args.benchTime < round.elapsed)
          (fun round => round.waited = none) rounds (Epoll.benchEpoll args request addresses memory created rounds)) ∧
      ∀ array rounds, (∀ round ∈ rounds, ∀ i, PositiveSockets (round.addresses i)) →
        Ends (Select.Run args request) Select.totals (fun round => args.benchTime < round.elapsed) (fun _ => False) rounds
          (Select.benchSelect args request addresses array rounds) :=
  ⟨fun array _ positive => Poll.benchPoll_ends args request opening array positive,
    fun memory created _ positive => Epoll.benchEpoll_ends args request opening memory created positive,
    fun array _ positive => Select.benchSelect_ends args request opening array positive⟩

/-- One client on port 80, for a second. -/
def oneSecond : Arguments := { createDefaultArguments with targetPort := 80, benchTime := 1 }

/-- Nothing comes in this second. -/
def Poll.quietRounds : List Poll.Round := [⟨0, fun _ => none, .timeout⟩, ⟨2, fun _ => none, .timeout⟩]

def Epoll.quietRounds : List Epoll.Round :=
  [⟨0, fun _ => none, fun _ => false, some [], fun _ => ⟨0, .retry⟩⟩,
    ⟨2, fun _ => none, fun _ => false, some [], fun _ => ⟨0, .retry⟩⟩]

def Select.quietRounds : List Select.Round :=
  [⟨0, fun _ => none, none, fun _ => ⟨0, .retry⟩⟩, ⟨2, fun _ => none, none, fun _ => ⟨0, .retry⟩⟩]

/-- Its socket is opened and closed again. -/
theorem bench_ends_quiet :
    (∃ sys, Poll.benchPoll oneSecond .zero (fun _ => some [⟨3, 0, 0⟩]) (some fun _ => .zero 0) Poll.quietRounds =
        some (.returned ⟨0, 0, 0⟩ sys) ∧ Finished (Poll.Run oneSecond .zero) Poll.totals ⟨0, 0, 0⟩ sys) ∧
      (∃ sys, Epoll.benchEpoll oneSecond .zero (fun _ => some [⟨3, 0, 0⟩]) true true Epoll.quietRounds =
        some (.returned ⟨0, 0, 0⟩ sys) ∧ Finished (Epoll.Run oneSecond .zero) Epoll.totals ⟨0, 0, 0⟩ sys) ∧
      ∃ sys, Select.benchSelect oneSecond .zero (fun _ => some [⟨3, 0, 0⟩]) (some fun _ => .zero 0) Select.quietRounds =
        some (.returned ⟨0, 0, 0⟩ sys) ∧ Finished (Select.Run oneSecond .zero) Select.totals ⟨0, 0, 0⟩ sys := by
  have opening : ∀ _ : Nat, PositiveSockets (some [⟨3, 0, 0⟩]) := by
    intro _ list found address member
    cases found
    rw [List.mem_singleton.mp member]
    decide
  have closed : PositiveSockets none := fun list found => by cases found
  obtain ⟨poll, epoll, select⟩ := bench_ends oneSecond .zero _ opening
  have poll := poll (some fun _ => .zero 0) Poll.quietRounds (by simp [Poll.quietRounds, closed])
  have epoll := epoll true true Epoll.quietRounds (by simp [Epoll.quietRounds, closed])
  have select := select (some fun _ => .zero 0) Select.quietRounds (by simp [Select.quietRounds, closed])
  exact ⟨⟨_, rfl, poll.1.finished _ _ rfl⟩, ⟨_, rfl, epoll.finished _ _ rfl⟩, ⟨_, rfl, select.finished _ _ rfl⟩⟩

end WebBench
