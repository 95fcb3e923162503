import Mathlib.Algebra.Order.BigOperators.Group.List
import WebBench.Poll.Wire
import WebBench.Transitions

/-!
# Force mode

A cycle in force mode is completed when its request has been sent, without a
response. The three handlers count responses only, so what force mode reports is
right in the runs in which no call sends the last of a request.
-/

namespace WebBench
set_option autoImplicit false
open CLib

variable {κ ρ : Type}

/-- The handler moved the slot into `CONN_COMPLETED`. -/
def Move.finishes (move : Move κ) : Bool := move.before.state != .completed && move.after.state == .completed

/-- The entries into `CONN_COMPLETED`. -/
def completions (moves : List (Move κ)) : Int := moves.countP Move.finishes

/-- What the totals (failed, speed and bytes) of force mode are to be: the requests
sent count as speed, and speed and failures are the finished cycles. -/
structure CountsSent (slots : List (Slot κ)) (totals : Int × Int × Int) : Prop where
  sent : totals.2.1 = (slots.map fun slot => completions slot.moves).sum
  finished : totals.2.1 + totals.1 = (slots.map fun slot => completions slot.moves + failures slot.moves).sum

/-- The transport takes all that is left of the request, if anything is. -/
def TakesRest (size : κ → Int) (conn : ConnectionOf κ) (io : Io) : Prop :=
  let left := (size conn.requestLen - size conn.bytesSent).toNat
  left = 0 ∨ if conn.isHttps then conn.ssl ≠ none ∧ io.sslWrite.ret left = left else io.send.ret left = left

/-- The inputs with which a handler call sends the last of a request. -/
def SendsLast (size : κ → Int) (writable : Sys → ConnectionOf κ → ρ → Prop) (sys : Sys) (conn : ConnectionOf κ)
    (mask : ρ) (io : Io) : Prop :=
  conn.state = .sending ∧ writable sys conn mask ∧ TakesRest size conn io

/-- The handler counts its failure. -/
def Move.Tallied (move : Move κ) : Prop := move.after.failed = move.before.failed + if move.fails then 1 else 0

/-! ## What a slot counts -/

/-- What an engine's functions do in force mode, where `lost` are the failures that the handler does not count. -/
structure Driver.Forced (d : Driver κ ρ) (args : Arguments) (request : HTTPRequest) (size : κ → Int)
    (writable : Sys → ConnectionOf κ → ρ → Prop) (lost : Sys → ConnectionOf κ → ρ → Io → Prop) : Prop where
  kept : d.CountersKept args
  speed : ∀ slot, d.SlotReachable args request slot → slot.conn.state.pollable = true → ∀ sys errno mask io,
    (d.handleReadyConnection args sys errno slot.conn mask io).conn.speed = slot.conn.speed
  failed : ∀ slot, d.SlotReachable args request slot → slot.conn.state.pollable = true → ∀ sys errno mask io,
    (d.handleReadyConnection args sys errno slot.conn mask io).conn.failed ≤ slot.conn.failed +
      if Move.fails ⟨slot.conn, (d.handleReadyConnection args sys errno slot.conn mask io).conn⟩ then 1 else 0
  tallied : ∀ slot, d.SlotReachable args request slot → slot.conn.state.pollable = true → ∀ sys errno mask io,
    Move.Tallied ⟨slot.conn, (d.handleReadyConnection args sys errno slot.conn mask io).conn⟩ ↔
      ¬ lost sys slot.conn mask io
  finishes : ∀ slot, d.SlotReachable args request slot → slot.conn.state.pollable = true → ∀ sys errno mask io,
    Move.finishes ⟨slot.conn, (d.handleReadyConnection args sys errno slot.conn mask io).conn⟩ = true ↔
      SendsLast size writable sys slot.conn mask io

/-- What a slot has counted in force mode: no response, and at most its failures. -/
structure Slot.Tally (slot : Slot κ) : Prop where
  speed : slot.conn.speed = 0
  failed : slot.conn.failed ≤ failures slot.moves
  exact : slot.conn.failed = failures slot.moves ↔ ∀ move ∈ slot.moves, move.Tallied

theorem completions_nonneg (moves : List (Move κ)) : 0 ≤ completions moves := Int.natCast_nonneg _

theorem completions_eq_zero (moves : List (Move κ)) : completions moves = 0 ↔ ∀ move ∈ moves, ¬ move.finishes = true := by
  unfold completions
  rw [Int.natCast_eq_zero, List.countP_eq_zero]

namespace Driver.Forced

variable {d : Driver κ ρ} {args : Arguments} {request : HTTPRequest} {size : κ → Int}
  {writable : Sys → ConnectionOf κ → ρ → Prop} {lost : Sys → ConnectionOf κ → ρ → Io → Prop} {slot : Slot κ}

theorem tally (law : d.Forced args request size writable lost) (reached : d.SlotReachable args request slot) :
    slot.Tally := by
  induction reached with
  | start first =>
    obtain ⟨sys, addresses, raw, allowed⟩ := first
    have zero := law.kept.fresh request sys addresses allowed
    simp only [ConnectionOf.counters, Prod.mk.injEq] at zero
    obtain ⟨failed, speed, -⟩ := zero
    exact ⟨speed, failed.le, iff_of_true failed fun move none => absurd none List.not_mem_nil⟩
  | next before taken ih =>
    obtain ⟨speed, failed, exact'⟩ := ih
    cases taken with
    | recycle finished sys addresses =>
      rename_i slot
      have same := law.kept.recycle sys addresses slot
      simp only [ConnectionOf.counters, Prod.mk.injEq] at same
      obtain ⟨kept, still, -⟩ := same
      rw [← kept] at failed exact'
      exact ⟨still.trans speed, failed, exact'⟩
    | ready waits sys errno mask io =>
      rename_i slot
      have most := law.failed slot before waits sys errno mask io
      let move : Move κ := ⟨slot.conn, (d.handleReadyConnection args sys errno slot.conn mask io).conn⟩
      have more : failures (slot.moves ++ [move]) = _ := failures_concat slot.moves move
      refine ⟨(law.speed slot before waits sys errno mask io).trans speed, ?_, ?_⟩
      · show move.after.failed ≤ failures (slot.moves ++ [move])
        have most : move.after.failed ≤ slot.conn.failed + if move.fails then 1 else 0 := most
        omega
      · show move.after.failed = failures (slot.moves ++ [move]) ↔ ∀ m ∈ slot.moves ++ [move], m.Tallied
        have most : move.after.failed ≤ slot.conn.failed + if move.fails then 1 else 0 := most
        have last : move.Tallied ↔ move.after.failed = slot.conn.failed + if move.fails then 1 else 0 := .rfl
        rw [List.forall_mem_append, List.forall_mem_singleton, ← exact', last, more]
        omega

/-- **What force mode reports of one slot** is right exactly when the slot has
got here without sending the last of a request and without a lost failure. -/
theorem counts_iff (law : d.Forced args request size writable lost) (reached : d.SlotReachable args request slot) :
    slot.conn.speed = completions slot.moves ∧
        slot.conn.speed + slot.conn.failed = completions slot.moves + failures slot.moves ↔
      d.SlotReachableWhere args request
        (fun sys _ conn mask io => ¬ (SendsLast size writable sys conn mask io ∨ lost sys conn mask io)) slot := by
  obtain ⟨speed, -, exact'⟩ := law.tally reached
  have none := completions_eq_zero slot.moves
  have each : slot.conn.speed = completions slot.moves ∧
      slot.conn.speed + slot.conn.failed = completions slot.moves + failures slot.moves ↔
        ∀ move ∈ slot.moves, ¬ move.finishes = true ∧ move.Tallied := by
    rw [forall₂_and, ← none, ← exact']
    omega
  refine each.trans (reached.each_move_iff fun slot before waits sys errno mask io => ?_)
  rw [not_or, ← law.finishes slot before waits sys errno mask io, ← law.tallied slot before waits sys errno mask io]

end Driver.Forced

/-! ## What a table counts -/

/-- Sums of a list are equal exactly when their terms are, if none exceeds its counterpart. -/
theorem sum_eq_iff {α : Type} {list : List α} {f g : α → Int} (most : ∀ a ∈ list, f a ≤ g a) :
    (list.map f).sum = (list.map g).sum ↔ ∀ a ∈ list, f a = g a := by
  constructor
  · intro same
    by_contra other
    push Not at other
    obtain ⟨a, member, apart⟩ := other
    have less := List.sum_lt_sum f g most ⟨a, member, lt_of_le_of_ne (most a member) apart⟩
    omega
  · exact fun same => congrArg List.sum (List.map_congr_left same)

/-- The totals of a table are right exactly when every slot's are. -/
theorem countsSent_iff {slots : List (Slot κ)} (tallies : ∀ slot ∈ slots, slot.Tally) :
    CountsSent slots ((slots.map (·.conn.failed)).sum, (slots.map (·.conn.speed)).sum, (slots.map (·.conn.bytes)).sum) ↔
      ∀ slot ∈ slots, slot.conn.speed = completions slot.moves ∧
        slot.conn.speed + slot.conn.failed = completions slot.moves + failures slot.moves := by
  have sent : ∀ slot ∈ slots, slot.conn.speed ≤ completions slot.moves := fun slot member =>
    (tallies slot member).speed.le.trans (completions_nonneg _)
  have finished : ∀ slot ∈ slots,
      slot.conn.speed + slot.conn.failed ≤ completions slot.moves + failures slot.moves := fun slot member =>
    add_le_add (sent slot member) (tallies slot member).failed
  have both : (slots.map fun slot => slot.conn.speed + slot.conn.failed).sum =
      (slots.map (·.conn.speed)).sum + (slots.map (·.conn.failed)).sum := List.sum_map_add
  rw [forall₂_and, ← sum_eq_iff sent, ← sum_eq_iff finished, both]
  exact ⟨fun right => ⟨right.sent, right.finished⟩, fun right => ⟨right.1, right.2⟩⟩

/-- **What force mode reports of a table** of an engine's slots. -/
theorem Driver.Forced.countsSent_iff {d : Driver κ ρ} {args : Arguments} {request : HTTPRequest} {size : κ → Int}
    {writable : Sys → ConnectionOf κ → ρ → Prop} {lost : Sys → ConnectionOf κ → ρ → Io → Prop}
    (law : d.Forced args request size writable lost) {slots : List (Slot κ)}
    (reached : ∀ slot ∈ slots, d.SlotReachable args request slot) :
    CountsSent slots ((slots.map (·.conn.failed)).sum, (slots.map (·.conn.speed)).sum, (slots.map (·.conn.bytes)).sum) ↔
      ∀ slot ∈ slots, d.SlotReachableWhere args request
        (fun sys _ conn mask io => ¬ (SendsLast size writable sys conn mask io ∨ lost sys conn mask io)) slot := by
  have tallies := fun slot member => law.tally (reached slot member)
  have counts := fun slot member => law.counts_iff (reached slot member)
  exact (WebBench.countsSent_iff tallies).trans (forall₂_congr counts)

/-! ## Sending in force mode -/

/-- What a record knows while its cycle is in force mode. -/
structure ForcedRecord (conn : Connection) : Prop where
  state : conn.state ≠ .receiving
  flag : conn.forceFlag ≠ 0
  within : conn.state = .sending → conn.bytesSent ≤ conn.requestLen
  fits : conn.requestLen < 2 ^ 31

theorem ForcedRecord.of_represents {job : Job} {conn : Connection} {p : Phase} (forced : job.force = true)
    (record : Represents job conn p) (unreceiving : p.state ≠ .receiving) : ForcedRecord conn where
  state := record.state ▸ unreceiving
  flag := of_decide_eq_true (record.force.trans forced)
  within := fun sending => by
    have state := record.state
    have sent := record.sent
    have rests := record.rests
    cases p <;> try exact ConnState.noConfusion (state.symm.trans sending)
    rw [record.length, sent ConnState.noConfusion]
    exact rests
  fits := by
    have length := record.length
    have fits := job.bodyFits
    have size : requestBodySize < 2 ^ 31 := by decide
    omega

section Sending

variable {conn : Connection} (sys : Sys) (io : Io)

/-- A write completes the slot when it takes all that is left. -/
theorem written_completes_iff (record : ForcedRecord conn) (state : conn.state = .sending)
    (some : 0 < conn.requestLen - conn.bytesSent) (taken : Taken) (again : Prop) [Decidable again]
    (calls : List Call) :
    let left := conn.requestLen - conn.bytesSent
    let o : Outcome Nat :=
      if taken.ret left > 0 then
        let conn := { conn with bytesSent := sizeAdd conn.bytesSent (sizeOfInt (taken.ret left)) }
        if conn.requestLen ≤ conn.bytesSent then ⟨0, { conn with state := conn.afterSending }, sys, calls⟩
        else ⟨0, conn, sys, calls⟩
      else if again then ⟨0, conn, sys, calls⟩
      else ⟨-1, conn.toError, sys, calls⟩
    o.conn.state = .completed ↔ taken.ret left = left := by
  have within := record.within state
  have fits := record.fits
  have short := taken.ret_toNat_le (conn.requestLen - conn.bytesSent)
  have live : conn.state ≠ .completed := state ▸ nofun
  dsimp only
  by_cases positive : taken.ret (conn.requestLen - conn.bytesSent) > 0
  · rw [if_pos positive, taken_eq positive (by omega)]
    split
    · exact iff_of_true (if_pos record.flag) (by omega)
    · exact iff_of_false live (by omega)
  · rw [if_neg positive]
    refine iff_of_false ?_ (by omega)
    split
    · exact live
    · exact ConnState.noConfusion

/-- `CONN_SENDING` completes a slot in force mode when the transport takes all that is left. -/
theorem Poll.whenSending_completed_iff (record : ForcedRecord conn) (state : conn.state = .sending)
    (revents : BitVec 16) : (Poll.whenSending sys conn revents io).conn.state = .completed ↔
      anyBit revents pollout = true ∧ TakesRest sizeOfCount conn io := by
  have within := record.within state
  have fits := record.fits
  have live : conn.state ≠ .completed := state ▸ nofun
  have remaining : intOfSize (sizeSub conn.requestLen conn.bytesSent) = (conn.requestLen - conn.bytesSent : Nat) := by
    rw [sizeSub_of_le within (by omega), intOfSize_of_lt (by omega)]
  have left : (sizeOfCount conn.requestLen - sizeOfCount conn.bytesSent).toNat = conn.requestLen - conn.bytesSent :=
    Int.toNat_sub _ _
  unfold Poll.whenSending TakesRest
  rw [remaining, left]
  dsimp only
  rw [Int.toNat_natCast]
  by_cases writable : anyBit revents pollout = true
  · rw [if_pos writable, and_iff_right writable]
    by_cases empty : conn.requestLen - conn.bytesSent = 0
    · rw [if_pos (by omega)]
      exact iff_of_true (if_pos record.flag) (.inl empty)
    · have some : 0 < conn.requestLen - conn.bytesSent := Nat.pos_of_ne_zero empty
      rw [if_neg (by omega), or_iff_right empty]
      by_cases secure : conn.isHttps = true
      · rw [if_pos secure, if_pos secure]
        split
        · rename_i ssl present
          rw [and_iff_right (present ▸ nofun)]
          exact written_completes_iff sys record state some io.sslWrite (io.sslGetError.wants = true) _
        · rename_i missing
          exact iff_of_false ConnState.noConfusion fun both => both.1 missing
      · rw [if_neg secure, if_neg secure]
        exact written_completes_iff sys record state some io.send (_ ∧ tryAgain io.errno = true) _
  · rw [if_neg writable]
    exact iff_of_false live fun both => writable both.1

end Sending

/-! ## The three engines -/

section Engines

variable {args : Arguments} {request : HTTPRequest}

/-- A step that does not answer the response counts none. -/
theorem Accounted.speed_eq {size : κ → Int} {conn conn' : ConnectionOf κ} (law : Accounted size ⟨conn, conn'⟩)
    (unreceiving : conn.state ≠ .receiving) : conn'.speed = conn.speed := by
  have completes : Move.completes ⟨conn, conn'⟩ = false := by simp [Move.completes, unreceiving]
  have counted : conn'.speed = conn.speed + _ := law.speed
  rw [counted, completes, if_neg Bool.false_ne_true, Int.add_zero]

/-- In force mode only a slot that sends its request is completed. -/
theorem finishes_iff {conn conn' : ConnectionOf κ} {sends : Prop} (waits : conn.state.pollable = true)
    (unreceiving : conn.state ≠ .receiving) (leads : conn.state.Leads conn'.state)
    (completes : conn.state = .sending → (conn'.state = .completed ↔ sends)) :
    Move.finishes ⟨conn, conn'⟩ = true ↔ conn.state = .sending ∧ sends := by
  have open' : conn.state ≠ .completed := fun completed => by rw [completed] at waits; exact Bool.noConfusion waits
  have means : Move.finishes ⟨conn, conn'⟩ = true ↔ conn'.state = .completed := by simp [Move.finishes, open']
  rw [means]
  constructor
  · intro completed
    rw [completed] at leads
    rcases leads.completed with same | sending | receiving
    · exact absurd same open'
    · exact ⟨sending, (completes sending).mp completed⟩
    · exact absurd receiving unreceiving
  · exact fun ⟨sending, now⟩ => (completes sending).mpr now

/-- `poll` reports that the socket can be written, and no error. -/
def Poll.Writable (_sys : Sys) (_conn : Connection) (revents : BitVec 16) : Prop :=
  anyBit revents (pollerr ||| pollhup ||| pollnval) = false ∧ anyBit revents pollout = true

/-- The same of `epoll_wait`, of a descriptor in the epoll instance. -/
def Epoll.Writable (sys : Sys) (conn : Connection) (ev : BitVec 32) : Prop :=
  (sys.epoll conn.sockfd).isSome = true ∧ anyBit ev (epollerr ||| epollhup) = false ∧ anyBit ev epollout = true

/-- `select` leaves the socket in the set of those that can be written. -/
def Select.Writable (_sys : Sys) (conn : Select.Connection) (fds : Select.FdSets) : Prop :=
  Select.fdIsSet conn.sockfd fds.write = true

/-- An engine whose records stand for the job knows this of every slot. -/
theorem Driver.Follows.forcedRecord {d : Driver Nat ρ} {job : Job}
    (follows : d.Follows args request job (Represents job)) (forced : job.force = true) {slot : Slot Nat}
    (reached : d.SlotReachable args request slot) : ForcedRecord slot.conn := by
  obtain ⟨p, trace, record⟩ := follows.tracks reached
  exact .of_represents forced record (Job.unreceiving_of_trace forced trace ConnState.noConfusion)

theorem Poll.forcedRecord (forced : args.force ≠ 0) {slot : Slot Nat}
    (reached : Poll.driver.SlotReachable args request slot) : ForcedRecord slot.conn :=
  (Poll.follows args request).forcedRecord (decide_eq_true forced) reached

theorem Epoll.forcedRecord (forced : args.force ≠ 0) {slot : Slot Nat}
    (reached : Epoll.driver.SlotReachable args request slot) : ForcedRecord slot.conn :=
  (Epoll.follows args request).forcedRecord (decide_eq_true forced) reached

theorem Select.forcedRecord (forced : args.force ≠ 0) {slot : Slot Int}
    (reached : Select.driver.SlotReachable args request slot) :
    ∃ sizes, slot.conn = Select.ofSizes sizes ∧ ForcedRecord sizes := by
  obtain ⟨p, trace, ⟨sizes, q, made, record, names, -⟩, -⟩ := (Select.follows args request).tracks reached
  have job : (Select.job args request).force = true := decide_eq_true forced
  exact ⟨sizes, made, .of_represents job record (names ▸ Job.unreceiving_of_trace job trace ConnState.noConfusion)⟩

theorem Poll.forced (request : HTTPRequest) (forced : args.force ≠ 0) :
    Poll.driver.Forced args request sizeOfCount Poll.Writable fun _ _ _ _ => False where
  kept := (Poll.counts args).kept
  speed := fun _ reached waits sys errno revents io =>
    ((Poll.counts args).handle sys errno _ revents io waits).speed_eq (Poll.forcedRecord forced reached).state
  failed := fun _ _ waits sys errno revents io =>
    ((Poll.counts args).handle sys errno _ revents io waits).failed.le
  tallied := fun _ _ waits sys errno revents io =>
    iff_of_true ((Poll.counts args).handle sys errno _ revents io waits).failed not_false
  finishes := fun slot reached waits sys errno revents io => by
    have record := Poll.forcedRecord forced reached
    apply finishes_iff waits record.state (Poll.handle_leads args sys errno revents io waits)
    intro state
    show (Poll.handleReadyConnection args sys errno slot.conn revents io).conn.state = .completed ↔ _
    unfold Poll.handleReadyConnection Poll.Writable
    by_cases hung : anyBit revents (pollerr ||| pollhup ||| pollnval) = true
    · rw [if_pos hung]
      exact iff_of_false ConnState.noConfusion fun both => Bool.noConfusion (hung.symm.trans both.1.1)
    · rw [if_neg hung, state, Bool.eq_false_iff.mpr hung, eq_self, true_and]
      exact Poll.whenSending_completed_iff sys io record state revents

theorem Epoll.forced (request : HTTPRequest) (forced : args.force ≠ 0) :
    Epoll.driver.Forced args request sizeOfCount Epoll.Writable fun _ _ _ _ => False where
  kept := (Epoll.counts args).kept
  speed := fun _ reached waits sys errno ev io =>
    ((Epoll.counts args).handle sys errno _ ev io waits).speed_eq (Epoll.forcedRecord forced reached).state
  failed := fun _ _ waits sys errno ev io =>
    ((Epoll.counts args).handle sys errno _ ev io waits).failed.le
  tallied := fun _ _ waits sys errno ev io =>
    iff_of_true ((Epoll.counts args).handle sys errno _ ev io waits).failed not_false
  finishes := fun slot reached waits sys errno ev io => by
    have record := Epoll.forcedRecord forced reached
    have live : slot.conn.state ≠ .completed := fun completed => by rw [completed] at waits; exact Bool.noConfusion waits
    apply finishes_iff waits record.state (Epoll.handle_leads args sys errno ev io waits)
    intro state
    show (Epoll.handleReadyConnection args sys errno slot.conn ev io).conn.state = .completed ↔ _
    unfold Epoll.handleReadyConnection Epoll.Writable Sys.epollDel
    by_cases present : (sys.epoll slot.conn.sockfd).isSome = true
    · rw [if_pos present]
      dsimp only
      rw [if_neg (by decide)]
      by_cases hung : anyBit ev (epollerr ||| epollhup) = true
      · rw [if_pos hung]
        exact iff_of_false ConnState.noConfusion fun both => Bool.noConfusion (hung.symm.trans both.1.2.1)
      · rw [if_neg hung, present, Bool.eq_false_iff.mpr hung, eq_self, true_and, eq_self, true_and, ← anyBit_pollout]
        unfold Epoll.dispatchState
        rw [state]
        dsimp only
        rw [Epoll.whenSending_eq]
        exact Poll.whenSending_completed_iff _ io record state _
    · rw [if_neg present]
      exact iff_of_false live fun both => present both.1.1

/-- In force mode a lost context is the only step that does not count right. -/
theorem Select.forced_counted (forced : args.force ≠ 0) {slot : Slot Int}
    (reached : Select.driver.SlotReachable args request slot) (sys : Sys) (errno : Int) (fds : Select.FdSets) (io : Io) :
    Accounted id ⟨slot.conn, (Select.handleReadyConnection args sys errno slot.conn fds io).conn⟩ ↔
      ¬ Select.ContextLost sys slot.conn fds io := by
  obtain ⟨sizes, made, record⟩ := Select.forcedRecord forced reached
  have unreceiving : slot.conn.state ≠ .receiving := made ▸ record.state
  refine (Select.handle_counted_iff reached sys errno fds io).trans (not_congr (or_iff_left fun filled => ?_))
  exact unreceiving filled.state

theorem Select.forced (request : HTTPRequest) (forced : args.force ≠ 0) :
    Select.driver.Forced args request id Select.Writable fun sys conn fds io => Select.ContextLost sys conn fds io where
  kept := Select.countersKept args
  speed := fun slot reached waits sys errno fds io => by
    obtain ⟨sizes, made, record⟩ := Select.forcedRecord forced reached
    have unreceiving : slot.conn.state ≠ .receiving := made ▸ record.state
    by_cases lost : Select.ContextLost sys slot.conn fds io
    · show (Select.handleReadyConnection args sys errno slot.conn fds io).conn.speed = slot.conn.speed
      rw [lost.handled sys fds io args errno]
    · exact Accounted.speed_eq ((Select.forced_counted forced reached sys errno fds io).mpr lost) unreceiving
  failed := fun slot reached waits sys errno fds io => by
    by_cases lost : Select.ContextLost sys slot.conn fds io
    · show (Select.handleReadyConnection args sys errno slot.conn fds io).conn.failed ≤ slot.conn.failed + _
      rw [lost.handled sys fds io args errno]
      dsimp only
      split <;> omega
    · exact ((Select.forced_counted forced reached sys errno fds io).mpr lost).failed.le
  tallied := fun slot reached waits sys errno fds io => by
    have counted := Select.forced_counted forced reached sys errno fds io
    refine ⟨fun tallied lost => ?_, fun kept => (counted.mpr kept).failed⟩
    have handled := lost.handled sys fds io args errno
    have fails : Move.fails ⟨slot.conn, (Select.handleReadyConnection args sys errno slot.conn fds io).conn⟩ = true := by
      simp [Move.fails, handled, lost.state]
    have counts : (Select.handleReadyConnection args sys errno slot.conn fds io).conn.failed = slot.conn.failed +
        if Move.fails ⟨slot.conn, (Select.handleReadyConnection args sys errno slot.conn fds io).conn⟩ then 1 else 0 :=
      tallied
    rw [fails, if_pos rfl, handled] at counts
    have counts : slot.conn.failed = slot.conn.failed + 1 := counts
    omega
  finishes := fun slot reached waits sys errno fds io => by
    obtain ⟨sizes, made, record⟩ := Select.forcedRecord forced reached
    have unreceiving : slot.conn.state ≠ .receiving := made ▸ record.state
    apply finishes_iff waits unreceiving (Select.handle_leads args sys errno fds io)
    intro state
    show (Select.handleReadyConnection args sys errno slot.conn fds io).conn.state = .completed ↔ _
    have sending : sizes.state = .sending := (congrArg ConnectionOf.state made).symm.trans state
    unfold Select.handleReadyConnection
    rw [state]
    dsimp only
    rw [made, Select.whenSending_eq sys sizes fds io (record.within sending) record.fits]
    refine (Poll.whenSending_completed_iff sys io record sending _).trans ?_
    rw [Select.anyBit_pollout]
    rfl

end Engines

/-! ## Whole runs -/

/-- **What force mode reports.** In every run of the three engines in force mode
the totals count what has been sent and what has been finished exactly when no
handler call has sent the last of a request; in `bench_select` none may have lost
the SSL context either. -/
theorem countsSent_iff_of_run (args : Arguments) (request : HTTPRequest) (forced : args.force ≠ 0) :
    (∀ w, Poll.Run args request w → (CountsSent w.slots (Poll.totals w) ↔
      ∀ slot ∈ w.slots, Poll.driver.SlotReachableWhere args request (fun sys _ conn revents io =>
        ¬ SendsLast sizeOfCount Poll.Writable sys conn revents io) slot)) ∧
      (∀ w, Epoll.Run args request w → (CountsSent w.slots (Epoll.totals w) ↔
        ∀ slot ∈ w.slots, Epoll.driver.SlotReachableWhere args request (fun sys _ conn ev io =>
          ¬ SendsLast sizeOfCount Epoll.Writable sys conn ev io) slot)) ∧
      ∀ w, Select.Run args request w → (CountsSent w.slots (Select.totals w) ↔
        ∀ slot ∈ w.slots, Select.driver.SlotReachableWhere args request (fun sys _ conn fds io =>
          ¬ (SendsLast id Select.Writable sys conn fds io ∨ Select.ContextLost sys conn fds io)) slot) := by
  refine ⟨fun w run => ?_, fun w run => ?_, fun w run => ?_⟩
  · have counts := (Poll.forced request forced).countsSent_iff (Poll.run_slot run)
    simp only [or_false] at counts
    exact counts
  · have counts := (Epoll.forced request forced).countsSent_iff (Epoll.run_slot run)
    simp only [or_false] at counts
    exact counts
  · exact (Select.forced request forced).countsSent_iff (Select.run_slot run)

/-- The default arguments in force mode. -/
def forcedArguments : Arguments := { createDefaultArguments with force := 1 }

/-- One client of `bench_poll` whose connection is refused. -/
def Poll.refusedOne : Poll.World := (Poll.opened forcedArguments .zero).woken forcedArguments pollerr .retry

/-- It counts as one failure, and has got there without sending anything. -/
theorem countsSent_iff_of_run_refused : CountsSent Poll.refusedOne.slots (1, 0, 0) ∧
    ∀ slot ∈ Poll.refusedOne.slots, Poll.driver.SlotReachableWhere forcedArguments .zero (fun sys _ conn revents io =>
      ¬ SendsLast sizeOfCount Poll.Writable sys conn revents io) slot := by
  have right : CountsSent Poll.refusedOne.slots (Poll.totals Poll.refusedOne) := ⟨by decide, by decide⟩
  have run : Poll.Run forcedArguments .zero Poll.refusedOne := Poll.World.woken_run (Poll.opened_run _ _) (by decide)
  exact ⟨right, ((countsSent_iff_of_run forcedArguments .zero (by decide)).1 _ run).mp right⟩

/-- One client of `bench_poll` that sends a request of four bytes. -/
def Poll.sentOne : Poll.World :=
  ((Poll.opened forcedArguments Poll.shortRequest).woken forcedArguments pollout { Io.retry with getsockopt := 0 }).woken
    forcedArguments pollout { Io.retry with send := .bytes 4 }

/-- The request it has sent counts neither as speed nor as a failure. -/
theorem sent_uncounted : ¬ ∀ w, Poll.Run forcedArguments Poll.shortRequest w → CountsSent w.slots (Poll.totals w) := by
  intro each
  have run : Poll.Run forcedArguments Poll.shortRequest Poll.sentOne :=
    Poll.World.woken_run (Poll.World.woken_run (Poll.opened_run _ _) (by decide)) (by decide)
  have none : (Poll.totals Poll.sentOne).2.1 = 0 := by decide
  have one : (Poll.sentOne.slots.map fun slot => completions slot.moves).sum = 1 := by decide
  have counted := (each _ run).sent
  omega

end WebBench
