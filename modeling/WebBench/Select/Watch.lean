import WebBench.Select.Ownership

/-!
# The descriptor sets of `bench_select`

A set-up pass puts the descriptor of a slot into the sets its state waits for,
and no other. The slots have different descriptors, so a descriptor that
`select` reports is that of one slot, and the handler leaves every slot alone
whose descriptor is not reported.
-/

namespace WebBench.Select
set_option autoImplicit false
open CLib

/-- The slot waits to read. -/
def ReadsNext (conn : Connection) : Prop :=
  conn.state = .receiving ∨ conn.state = .proxyResponse ∨ conn.state = .tlsHandshake ∧ conn.ssl.isSome

/-- The slot waits to write. -/
def WritesNext (conn : Connection) : Prop :=
  conn.state = .connecting ∨ conn.state = .sending ∨ conn.state = .proxyConnect ∨
    conn.state = .tlsHandshake ∧ conn.ssl.isSome

/-- What the sets and `max_fd` hold for the slots of a table. -/
structure Covers (slots : List (Slot Int)) (fds : FdSets) (maxFd : Int) : Prop where
  read : ∀ fd, fd ∈ fds.read ↔ ∃ slot ∈ slots, slot.conn.sockfd = fd ∧ 0 < fd ∧ ReadsNext slot.conn
  write : ∀ fd, fd ∈ fds.write ↔ ∃ slot ∈ slots, slot.conn.sockfd = fd ∧ 0 < fd ∧ WritesNext slot.conn
  max : ∀ slot ∈ slots, slot.conn.state.pollable = true → slot.conn.sockfd ≤ maxFd

section Pass

variable {args : Arguments} {request : HTTPRequest}

/-- What one call of `setup_connection_fdsets` adds. -/
theorem setupConnectionFdsets_sets (conn : Connection) (fds : FdSets) (maxFd : Int) :
    let after := setupConnectionFdsets conn fds maxFd
    (∀ fd, fd ∈ after.1.read ↔ fd ∈ fds.read ∨ conn.sockfd = fd ∧ 0 < fd ∧ ReadsNext conn) ∧
      (∀ fd, fd ∈ after.1.write ↔ fd ∈ fds.write ∨ conn.sockfd = fd ∧ 0 < fd ∧ WritesNext conn) ∧
      maxFd ≤ after.2 ∧ (0 < conn.sockfd → conn.state.pollable = true → conn.sockfd ≤ after.2) := by
  have set (members : FdSet) (fd : Int) : fd ∈ fdSet conn.sockfd members ↔ fd ∈ members ∨ conn.sockfd = fd := by
    rw [fdSet, List.mem_cons, or_comm, eq_comm]
  unfold setupConnectionFdsets
  by_cases closed : conn.sockfd ≤ 0
  · have none (fd : Int) (waits : Prop) : ¬ (conn.sockfd = fd ∧ 0 < fd ∧ waits) := fun all => by
      have same := all.1
      have some := all.2.1
      omega
    rw [if_pos closed]
    refine ⟨fun fd => (or_iff_left (none fd _)).symm, fun fd => (or_iff_left (none fd _)).symm, Int.le_refl _, ?_⟩
    intro some
    omega
  · have some (fd : Int) (waits : Prop) : conn.sockfd = fd ∧ 0 < fd ∧ waits ↔ conn.sockfd = fd ∧ waits := by
      constructor
      · exact fun all => ⟨all.1, all.2.2⟩
      · exact fun both => ⟨both.1, by have same := both.1; omega, both.2⟩
    have raised : maxFd ≤ (if maxFd < conn.sockfd then conn.sockfd else maxFd) ∧
        conn.sockfd ≤ (if maxFd < conn.sockfd then conn.sockfd else maxFd) := by
      split <;> omega
    rw [if_neg closed]
    simp only [some]
    cases state : conn.state with
    | idle | completed | error => simp [ReadsNext, WritesNext, state, ConnState.pollable]
    | connecting | proxyConnect | sending => simp [ReadsNext, WritesNext, state, set, raised]
    | receiving | proxyResponse => simp [ReadsNext, WritesNext, state, set, raised]
    | tlsHandshake =>
      cases object : conn.ssl with
      | none => simp [ReadsNext, WritesNext, state, object, raised]
      | some ssl => simp [ReadsNext, WritesNext, state, object, set, raised]

/-- What a pass that begins with `fds` and `maxFd` has added to them. -/
structure Gathers (fds : FdSets) (maxFd : Int) (r : Setup) : Prop where
  read : ∀ fd, fd ∈ r.fds.read ↔ fd ∈ fds.read ∨ ∃ slot ∈ r.slots, slot.conn.sockfd = fd ∧ 0 < fd ∧ ReadsNext slot.conn
  write : ∀ fd, fd ∈ r.fds.write ↔ fd ∈ fds.write ∨ ∃ slot ∈ r.slots, slot.conn.sockfd = fd ∧ 0 < fd ∧ WritesNext slot.conn
  raised : maxFd ≤ r.maxFd
  below : ∀ slot ∈ r.slots, 0 < slot.conn.sockfd → slot.conn.state.pollable = true → slot.conn.sockfd ≤ r.maxFd

/-- **The set-up loop.** It adds what the slots it leaves behind wait for. -/
theorem setupLoop_gathers (addresses : Nat → Option (List Address)) :
    ∀ (slots : List (Slot Int)) (i : Nat) (sys : Sys) (fds : FdSets) (maxFd : Int) (r : Setup),
      setupLoop args addresses i slots sys fds maxFd = some r → Gathers fds maxFd r := by
  intro slots
  induction slots with
  | nil =>
    intro _ _ _ _ _ passed
    cases passed
    exact ⟨by simp, by simp, Int.le_refl _, fun slot none => absurd none List.not_mem_nil⟩
  | cons first rest ih =>
    intro i sys fds maxFd r passed
    have goes : ∀ (slot : Slot Int) (sys : Sys), (setupLoop args addresses (i + 1) rest sys
          (setupConnectionFdsets slot.conn fds maxFd).1 (setupConnectionFdsets slot.conn fds maxFd).2).map (·.after slot) =
        some r → Gathers fds maxFd r := by
      intro slot sys passed
      obtain ⟨tail, later, rfl⟩ := Option.map_eq_some_iff.mp passed
      obtain ⟨read, write, raised, below⟩ := setupConnectionFdsets_sets slot.conn fds maxFd
      have rest := ih _ _ _ _ _ later
      refine ⟨fun fd => ?_, fun fd => ?_, raised.trans rest.raised, ?_⟩
      · rw [show (tail.after slot).fds.read = tail.fds.read from rfl, rest.read, read, or_assoc]
        simp [Setup.after]
      · rw [show (tail.after slot).fds.write = tail.fds.write from rfl, rest.write, write, or_assoc]
        simp [Setup.after]
      · refine List.forall_mem_cons.mpr ⟨fun some waits => (below some waits).trans rest.raised, rest.below⟩
    unfold setupLoop at passed
    by_cases finished : first.conn.state = .completed ∨ first.conn.state = .error
    · rw [if_pos finished] at passed
      dsimp only at passed
      by_cases closed : (driver.recycle args sys (addresses i) first).1.conn.sockfd < 0
      · rw [if_pos closed] at passed
        cases passed
      · rw [if_neg closed] at passed
        exact goes _ _ passed
    · rw [if_neg finished] at passed
      exact goes _ _ passed

/-- A slot whose descriptor is in neither set is left alone. -/
theorem handle_unreported (args : Arguments) (sys : Sys) (errno : Int) {conn : Connection} {fds : FdSets} (io : Io)
    (read : conn.sockfd ∉ fds.read) (write : conn.sockfd ∉ fds.write) :
    handleReadyConnection args sys errno conn fds io = ⟨0, conn, sys, []⟩ := by
  have noRead : fdIsSet conn.sockfd fds.read = false := decide_eq_false read
  have noWrite : fdIsSet conn.sockfd fds.write = false := decide_eq_false write
  unfold handleReadyConnection
  cases conn.state with
  | idle | completed | error => rfl
  | connecting => simp [whenConnecting, noWrite]
  | proxyConnect => simp [whenProxyConnect, noWrite]
  | proxyResponse => simp [whenProxyResponse, noRead]
  | tlsHandshake => cases object : conn.ssl <;> simp [whenTlsHandshake, object, noRead, noWrite]
  | sending => simp [whenSending, noWrite]
  | receiving => simp [whenReceiving, noRead]

/-- The dispatch loop calls the handler on every slot, in a state that the calls before it have led to. -/
theorem dispatch_each (answers : Nat → Answers) (ready : FdSets) :
    ∀ (slots : List (Slot Int)) (i j : Nat) (sys : Sys) (slot : Slot Int), slots[j]? = some slot →
      ∃ sys', (dispatch args answers ready i slots sys).1[j]? =
        some (driver.ready args sys' (answers (i + j)).errno ready (answers (i + j)).io slot).1 := by
  intro slots
  induction slots with
  | nil => intro _ _ _ _ none; simp at none
  | cons first rest ih =>
    intro i j sys slot here
    cases j with
    | zero =>
      obtain rfl := Option.some.inj here
      exact ⟨sys, rfl⟩
    | succ j =>
      obtain ⟨sys', found⟩ := ih (i + 1) j _ slot here
      refine ⟨sys', found.trans ?_⟩
      rw [Nat.add_right_comm i 1 j, Nat.add_assoc]

end Pass

/-- What an iteration watches, and whom it concerns. -/
structure Watches (args : Arguments) (r : Setup) : Prop where
  sets : Covers r.slots r.fds r.maxFd
  /-- What is watched is open, and `select` is told of it. -/
  watched : ∀ fd, fd ∈ r.fds.read ∨ fd ∈ r.fds.write → fd ∈ r.sys.opened ∧ 0 < fd ∧ fd ≤ r.maxFd
  /-- It belongs to one slot. -/
  own : (r.slots.map (·.conn.sockfd)).Nodup
  /-- Whatever is reported, a slot that is not concerned keeps its record and makes no call. -/
  apart : ∀ (answers : Nat → Answers) (ready : FdSets) (i : Nat) (slot : Slot Int),
    r.slots[i]? = some slot → slot.conn.sockfd ∉ ready.read → slot.conn.sockfd ∉ ready.write →
      ∃ slot', (dispatch args answers ready 0 r.slots r.sys).1[i]? = some slot' ∧ slot'.conn = slot.conn ∧
        slot'.cycle = slot.cycle

/-- **Every iteration watches what its slots wait for**, in every run of
`bench_select` in which `socket()` gives positive descriptors. -/
theorem watches_of_run {args : Arguments} {request : HTTPRequest} {w : World} {r : Setup}
    (run : RunPositive args request w) {addresses : Nat → Option (List Address)}
    (positive : ∀ i, PositiveSockets (addresses i)) (pass : setupPass args addresses w = some r) : Watches args r := by
  have owning : Owning (World.table ⟨r.slots, r.sys, r.maxFd⟩) :=
    (held_of_between (RunPositive.between (run.next (.quiet w addresses positive pass)))).owning
  have waits : ∀ slot ∈ r.slots, slot.conn.state.pollable = true := fun slot member =>
    (setupLoop_waiting addresses w.slots 0 w.sys _ _ _ pass (run_begun run.run) slot member).state
  have open' : ∀ slot ∈ r.slots, 0 < slot.conn.sockfd ∧ slot.conn.sockfd ∈ r.sys.opened := fun slot member =>
    owning.waiting slot.conn (List.mem_map_of_mem member) (waits slot member)
  have gathers := setupLoop_gathers addresses w.slots 0 w.sys _ _ _ pass
  have sets : Covers r.slots r.fds r.maxFd :=
    ⟨fun fd => (gathers.read fd).trans (or_iff_right List.not_mem_nil),
      fun fd => (gathers.write fd).trans (or_iff_right List.not_mem_nil),
      fun slot member pollable => gathers.below slot member (open' slot member).1 pollable⟩
  refine ⟨sets, fun fd watched => ?_, ?_, fun answers ready i slot here noRead noWrite => ?_⟩
  · have whose : ∃ slot ∈ r.slots, slot.conn.sockfd = fd := by
      rcases watched with reads | writes
      · obtain ⟨slot, member, same, -⟩ := (sets.read fd).mp reads
        exact ⟨slot, member, same⟩
      · obtain ⟨slot, member, same, -⟩ := (sets.write fd).mp writes
        exact ⟨slot, member, same⟩
    obtain ⟨slot, member, rfl⟩ := whose
    exact ⟨(open' slot member).2, (open' slot member).1, sets.max slot member (waits slot member)⟩
  · have held : (r.slots.map (·.conn)).filterMap ConnectionOf.socket? = r.slots.map (·.conn.sockfd) := by
      rw [List.filterMap_map, ← List.filterMap_eq_map]
      refine List.filterMap_congr fun slot member => ?_
      exact if_pos (open' slot member).1
    exact held ▸ owning.sockets.exact.nodup_iff.mp owning.sockets.once
  · obtain ⟨sys', found⟩ := @dispatch_each args answers ready r.slots 0 i r.sys slot here
    refine ⟨_, found, ?_, ?_⟩
    · show (handleReadyConnection args sys' _ slot.conn ready _).conn = slot.conn
      rw [handle_unreported args sys' _ _ noRead noWrite]
    · show slot.cycle ++ (handleReadyConnection args sys' _ slot.conn ready _).calls = slot.cycle
      rw [handle_unreported args sys' _ _ noRead noWrite, List.append_nil]

/-- Two clients on the descriptors 3 and 4. -/
def openTwo : Arguments := { createDefaultArguments with clients := 2 }

/-- Both sockets are watched for writing. -/
theorem watches_of_run_two : ∃ w r, opened openTwo .zero = some w ∧ setupPass openTwo (fun _ => none) w = some r ∧
    r.fds = ⟨[], [4, 3]⟩ ∧ r.maxFd = 4 ∧ Watches openTwo r := by
  have positive : ∀ i : Nat, PositiveSockets (some [(⟨3 + i, 0, 0⟩ : Address)]) := by
    intro i list found address member
    cases found
    rw [List.mem_singleton.mp member]
    show (3 + i : Int) ≠ 0
    omega
  have run : RunPositive openTwo .zero _ := .start (.openAll _ positive (fun _ => .zero 0) rfl)
  have none : ∀ _ : Nat, PositiveSockets none := fun _ list found => by cases found
  exact ⟨_, _, rfl, rfl, rfl, rfl, watches_of_run run none rfl⟩

end WebBench.Select
