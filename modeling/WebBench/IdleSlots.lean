import WebBench.Epoll.Lockstep
import WebBench.Ownership

/-!
# Slots without a socket

When `allocate_socket` fails the slot is idle and has no socket; every other
slot has one. A set-up pass of `bench_poll` or `bench_epoll` refuses the whole
table when its first slot is such a slot, and passes over any other one, so none
of them is ever tried again.
-/

namespace WebBench
set_option autoImplicit false
open CLib Relation

/-- A slot is idle without a socket, or in a cycle with one. -/
def ConnectionOf.Socketed (conn : Connection) : Prop :=
  conn.state = .idle ∧ conn.sockfd = -1 ∨ conn.state ≠ .idle ∧ 0 < conn.sockfd

namespace ConnectionOf.Socketed

variable {conn : Connection}

/-- An idle slot that is given a descriptor connects; given none, it stays idle. -/
theorem of_open (idle : conn.state = .idle) {fd : Int} (opens : Opens fd) : (conn.open fd).Socketed := by
  rcases opens with rfl | positive
  · exact .inl ⟨idle, rfl⟩
  · refine .inr ⟨?_, positive⟩
    simp [ConnectionOf.open, Int.not_le.mpr positive]

/-- Of such a slot, the state says whether there is a socket. -/
theorem idle_iff (socketed : conn.Socketed) : conn.state = .idle ↔ conn.sockfd ≤ 0 := by
  rcases socketed with ⟨idle, none⟩ | ⟨begun, positive⟩
  · exact iff_of_true idle (by omega)
  · exact iff_of_false begun (by omega)

/-- It has a positive descriptor or a negative one, never 0. -/
theorem negative_iff (socketed : conn.Socketed) : conn.sockfd < 0 ↔ ¬ 0 < conn.sockfd := by
  rcases socketed with ⟨-, none⟩ | ⟨-, positive⟩
  · simp [none]
  · simp only [positive, not_true_eq_false, iff_false]
    omega

end ConnectionOf.Socketed

/-- `allocate_socket` stores a positive descriptor or -1. -/
abbrev Driver.Opening {ρ : Type} (d : Driver Nat ρ) (args : Arguments) : Prop :=
  ∀ sys addresses conn, ∃ fd, Opens fd ∧ (d.allocateSocket args sys addresses conn).conn = conn.open fd

/-- **Every reachable slot.** The handler keeps the socket and never makes a slot idle. -/
theorem Driver.Handles.socketed {ρ : Type} {d : Driver Nat ρ} {args : Arguments} {request : HTTPRequest} {job : Job}
    (law : d.Handles args request job) (opening : d.Opening args) {slot : Slot Nat}
    (reached : d.SlotReachable args request slot) : slot.conn.Socketed := by
  have opened : ∀ sys addresses conn, conn.state = .idle →
      (d.allocateSocket args sys addresses conn).conn.Socketed := by
    intro sys addresses conn idle
    obtain ⟨fd, opens, result⟩ := opening sys addresses conn
    rw [result]
    exact .of_open idle opens
  induction reached with
  | start first =>
    obtain ⟨sys, addresses, raw, allowed⟩ := first
    exact opened sys addresses _ (law.follows.init raw allowed).state
  | next before step ih =>
    obtain ⟨p, trace, record⟩ := law.follows.tracks before
    cases step with
    | recycle finished sys addresses =>
      exact opened _ addresses _ (law.follows.cleanup _ p sys record).state
    | ready pollable sys errno mask io =>
      rename_i slot
      have active : p.active := (congrArg ConnState.pollable record.state).symm.trans pollable
      have begun : p.state ≠ .idle := fun idle => by rw [Phase.active, idle] at active; exact Bool.noConfusion active
      obtain ⟨-, same⟩ := law.handle sys errno slot.conn mask io p record (Job.sound_of_trace trace trivial) active
      obtain ⟨q, calls, next⟩ := law.follows.handle sys errno slot.conn mask io p record active
      refine .inr ⟨fun idle => Job.begun_of_trace calls begun (next.state.symm.trans idle), ?_⟩
      rcases ih with ⟨idle, -⟩ | ⟨-, positive⟩
      · rw [idle] at pollable
        exact Bool.noConfusion pollable
      · exact lt_of_lt_of_eq positive same.symm

/-- An idle slot has no step of its own. -/
theorem Driver.SlotStep.not_idle {κ ρ : Type} {d : Driver κ ρ} {args : Arguments} {slot slot' : Slot κ}
    (step : d.SlotStep args slot slot') : slot.conn.state ≠ .idle := by
  intro idle
  cases step with
  | recycle finished sys addresses =>
    rcases finished with finished | finished
    · exact ConnState.noConfusion (finished.symm.trans idle)
    · exact ConnState.noConfusion (finished.symm.trans idle)
  | ready pollable sys errno mask io =>
    rw [idle] at pollable
    exact Bool.noConfusion pollable

/-! ## The runs of the engines -/

variable {args : Arguments} {request : HTTPRequest}

/-- Every slot of a run of `bench_poll` is one. -/
theorem Poll.run_socketed {w : Poll.World} (run : Poll.Run args request w) : ∀ slot ∈ w.slots, slot.conn.Socketed :=
  fun slot member => (Poll.handles args request).socketed (Poll.allocateSocket_open args) (Poll.run_slot run slot member)

/-- And every slot of a run of `bench_epoll`. -/
theorem Epoll.run_socketed {w : Epoll.World} (run : Epoll.Run args request w) :
    ∀ slot ∈ w.slots, slot.conn.Socketed :=
  fun slot member =>
    (Epoll.handles args request).socketed (Epoll.allocateSocket_open args) (Epoll.run_slot run slot member)

/-! ## What a pass registers -/

namespace Poll

/-- The pass has registered every slot that waits for its descriptor, and returns how many there are. -/
structure Registers (slots : List (Slot Nat)) (r : Setup) : Prop where
  ret : r.ret = (slots.filter (·.conn.state.pollable)).length
  marked : ∀ p ∈ slots.zipIdx, p.1.conn.state.pollable = true →
    getBitmap charSigned (ushort p.2) r.bitmap (bitmapSizeOf slots.length) = 1
  listed : r.pollfds = (slots.filter (·.conn.state.pollable)).map pollFdOf

/-- A pass that registers all slots has not failed. -/
theorem Registers.ret_ne {slots : List (Slot Nat)} {r : Setup} (registers : Registers slots r) : r.ret ≠ -1 := by
  rw [registers.ret]
  omega

/-- A pass looks at the socket of the first slot before anything else. -/
theorem setupPass_closed {first : Slot Nat} {w : World} (head : first ∈ w.slots.head?) (closed : first.conn.sockfd < 0)
    (addresses : Nat → Option (List Address)) : (setupPass args addresses w).ret = -1 := by
  rw [Option.mem_def] at head
  simp [setupPass, setupConnectionFdsets, head, closed]

theorem registers_iff {w : World} (run : Run args request w) {first : Slot Nat} (head : first ∈ w.slots.head?)
    (addresses : Nat → Option (List Address)) :
    Registers w.slots (setupPass args addresses w) ↔
      0 < first.conn.sockfd ∧ ∀ p ∈ w.slots.zipIdx, 64 ≤ p.2 → p.1.conn.state ≠ .tlsHandshake := by
  have socketed := run_socketed run first (List.mem_of_mem_head? head)
  by_cases positive : 0 < first.conn.sockfd
  case neg =>
    have failed : (setupPass args addresses w).ret = -1 :=
      setupPass_closed head (socketed.negative_iff.mpr positive) addresses
    exact iff_of_false (fun registers => registers.ret_ne failed) fun both => positive both.1
  have short := run_length run
  have size := bitmapSizeOf_eq w.slots.length
  have nonempty : 0 < w.slots.length := List.length_pos_of_mem (List.mem_of_mem_head? head)
  have room : w.slots.length ≤ bitmapSizeOf w.slots.length * 8 := by omega
  have small : bitmapSizeOf w.slots.length ≤ 125 := by omega
  have loop : setupPass args addresses w = setupLoop args addresses (bitmapSizeOf w.slots.length) 0 w.slots w.sys 0 []
      (List.replicate (bitmapSizeOf w.slots.length) 0) := by
    rw [Option.mem_def] at head
    have open' : ¬ first.conn.sockfd < 0 := by omega
    have some : ¬ ((bitmapSizeOf w.slots.length : Nat) : Int) ≤ 0 := by omega
    simp only [setupPass, setupConnectionFdsets, head, Option.map_some, Option.getD_some, if_neg open', if_neg some]
  rw [← inBounds_iff w.slots room small, loop]
  simp only [positive, true_and]
  rcases setupLoop_cases args addresses (bitmapSizeOf w.slots.length) w.slots 0 w.sys 0 []
    (List.replicate (bitmapSizeOf w.slots.length) 0) (by omega) (by rw [List.length_replicate]; omega) with
    ⟨inside, done⟩ | ⟨outside, failed⟩
  · refine iff_of_true ⟨done.ret.trans (Int.zero_add _), fun p member waits => ?_, done.pollfds.trans (List.nil_append _)⟩
      inside
    rw [done.getBitmap_eq room small member, if_pos waits]
  · exact iff_of_false (fun registers => registers.ret_ne failed) outside

end Poll

namespace Epoll

/-- The pass has armed every slot that waits for its descriptor, and returns how many there are. -/
structure Registers (slots : List (Slot Nat)) (r : Setup) : Prop where
  ret : r.ret = (slots.filter (·.conn.state.pollable)).length
  armed : ∀ (i : Nat) (slot : Slot Nat), slots[i]? = some slot → slot.conn.state.pollable = true →
    r.slots[i]? = some slot ∧ Armed r.sys i slot

/-- `epoll_ctl` with room for every entry adds an open descriptor, or finds it present. -/
theorem epollAdd_room {sys : Sys} {fd : Int} (opened : fd ∈ sys.opened) (entry : Registration) :
    (∃ old, sys.epoll fd = some old ∧ sys.epollAdd fd entry false = (-1, eexist, sys)) ∨
      sys.epoll fd = none ∧ sys.epollAdd fd entry false =
        (0, 0, { sys with epoll := fun d => if d = fd then some entry else sys.epoll d }) := by
  rcases epollAdd_cases opened entry false with present | added | absent
  · exact .inl present
  · have codes : eexist ≠ enospc ∧ (0 : Int) ≠ enospc := by decide
    unfold Sys.epollAdd at added
    rw [if_neg (not_not.mpr opened), if_neg Bool.false_ne_true] at added
    split at added
    · exact absurd (congrArg (·.2.1) added) codes.1
    · exact absurd (congrArg (·.2.1) added) codes.2
  · exact .inr absent

/-- **A pass over a table whose entries all fit does not give up.** -/
theorem setupLoop_counts (addresses : Nat → Option (List Address)) :
    ∀ (slots pre : List (Slot Nat)) (sys : Sys) (num : Int), Registered [] (pre ++ slots) sys → 0 ≤ num →
      0 ≤ (setupLoop args addresses (fun _ => false) pre.length slots sys num).ret := by
  intro slots
  induction slots with
  | nil => exact fun _ _ _ _ counted => counted
  | cons slot rest ih =>
    intro pre sys num inv counted
    have here : (pre ++ slot :: rest)[pre.length]? = some slot := by simp
    have next : ∀ {slot' : Slot Nat} {sys' : Sys} {num : Int}, Registered [] (pre ++ slot' :: rest) sys' → 0 ≤ num →
        0 ≤ (setupLoop args addresses (fun _ => false) (pre.length + 1) rest sys' num).ret := by
      intro slot' sys' num inv' counted
      have later := ih (pre ++ [slot']) sys' num (by simpa using inv') counted
      simpa using later
    unfold setupLoop
    cases asked : registration slot.conn.state with
    | some events =>
      have positive := inv.socket _ slot here (registration_pollable asked)
      dsimp only
      rcases epollAdd_room (inv.opened _ slot here positive) ⟨events, pre.length, true⟩ with
        ⟨old, present, added⟩ | ⟨absent, added⟩
      · rw [added]
        dsimp only
        rw [if_neg (by decide)]
        exact next inv (by omega)
      · rw [added]
        dsimp only
        rw [if_neg (by decide)]
        exact next (inv.add here asked (fun _ => rfl) rfl) (by omega)
    | none =>
      dsimp only
      by_cases idle : slot.conn.state = .idle
      · rw [if_pos idle]
        exact next inv counted
      · rw [if_neg idle]
        have inv' := inv.update here (recycle_moved args (addresses pre.length) slot inv) (allocate_waits args _ _ rfl)
        rw [List.set_append_right _ _ (Nat.le_refl _), Nat.sub_self, List.set_cons_zero] at inv'
        exact next inv' counted

theorem registers_iff {w : World} (run : Run args request w) (loop : w.loop = .pass) {first : Slot Nat}
    (head : first ∈ w.slots.head?) (addresses : Nat → Option (List Address)) :
    Registers w.slots (setupConnectionToEpollInstance args addresses (fun _ => false) w.slots w.sys) ↔
      0 < first.conn.sockfd := by
  have inv := run_registered run
  rw [loop] at inv
  have done := pass_done args addresses (fun _ => false) inv
  have socketed := run_socketed run first (List.mem_of_mem_head? head)
  rw [Option.mem_def] at head
  by_cases positive : 0 < first.conn.sockfd
  case neg =>
    have closed := socketed.negative_iff.mpr positive
    refine iff_of_false (fun registers => ?_) positive
    have count := registers.ret
    simp only [setupConnectionToEpollInstance, head, Option.map_some, Option.getD_some, if_pos closed] at count
    omega
  refine iff_of_true ?_ positive
  have counted : 0 ≤ (setupConnectionToEpollInstance args addresses (fun _ => false) w.slots w.sys).ret := by
    have open' : ¬ first.conn.sockfd < 0 := by omega
    simp only [setupConnectionToEpollInstance, head, Option.map_some, Option.getD_some, if_neg open']
    exact setupLoop_counts addresses w.slots [] w.sys 0 inv (Int.le_refl 0)
  obtain ⟨ret, armed⟩ := done.armed counted
  exact ⟨ret.trans (Int.zero_add _), fun i slot here waits =>
    ⟨done.kept here waits, by simpa using armed i slot here waits⟩⟩

end Epoll

/-- **When one slot's failed connection stops the others.** In every run, a pass
registers the slots that wait for their descriptor and returns their number if
and only if the first slot has a socket; in `bench_poll` no slot past the first
64 may be in its handshake either. -/
theorem registers_iff_first_open (args : Arguments) (request : HTTPRequest) :
    (∀ w, Poll.Run args request w → ∀ first ∈ w.slots.head?, ∀ addresses,
      (Poll.Registers w.slots (Poll.setupPass args addresses w) ↔
        0 < first.conn.sockfd ∧ ∀ p ∈ w.slots.zipIdx, 64 ≤ p.2 → p.1.conn.state ≠ .tlsHandshake)) ∧
    ∀ w, Epoll.Run args request w → w.loop = .pass → ∀ first ∈ w.slots.head?, ∀ addresses,
      (Epoll.Registers w.slots
        (Epoll.setupConnectionToEpollInstance args addresses (fun _ => false) w.slots w.sys) ↔
        0 < first.conn.sockfd) :=
  ⟨fun _ run _ head addresses => Poll.registers_iff run head addresses,
    fun _ run loop _ head addresses => Epoll.registers_iff run loop head addresses⟩

/-- A pass on the table of two clients that both connect. -/
theorem registers_iff_first_open_two :
    Poll.Registers (Poll.opened twoClients .zero).slots
        (Poll.setupPass twoClients (fun _ => none) (Poll.opened twoClients .zero)) ∧
      Epoll.Registers (Epoll.opened twoClients .zero).slots
        (Epoll.setupConnectionToEpollInstance twoClients (fun _ => none) (fun _ => false)
          (Epoll.opened twoClients .zero).slots (Epoll.opened twoClients .zero).sys) := by
  obtain ⟨poll, epoll⟩ := registers_iff_first_open twoClients .zero
  exact ⟨(poll _ (Poll.opened_run _ _) _ rfl _).mpr ⟨by decide +kernel, by decide +kernel⟩,
    (epoll _ (Epoll.opened_run _ _) rfl _ rfl _).mpr (by decide +kernel)⟩

/-- The first of two clients found no address at the start. -/
def firstClosed (i : Nat) : Option (List Address) := if i = 0 then none else some [⟨3, 0, 0⟩]

/-- The second client waits for its connection, and the pass returns -1. -/
theorem first_closed_stops :
    (∃ w, Poll.Run twoClients .zero w ∧ w.slots.map (·.conn.state) = [.idle, .connecting] ∧
      ¬ Poll.Registers w.slots (Poll.setupPass twoClients (fun _ => none) w) ∧
      (Poll.setupPass twoClients (fun _ => none) w).ret = -1) ∧
    ∃ w, Epoll.Run twoClients .zero w ∧ w.loop = .pass ∧ w.slots.map (·.conn.state) = [.idle, .connecting] ∧
      ¬ Epoll.Registers w.slots
        (Epoll.setupConnectionToEpollInstance twoClients (fun _ => none) (fun _ => false) w.slots w.sys) ∧
      (Epoll.setupConnectionToEpollInstance twoClients (fun _ => none) (fun _ => false) w.slots w.sys).ret = -1 := by
  refine ⟨⟨_, .start (.openAll firstClosed fun _ => .zero 0), by decide +kernel, ?_, by decide +kernel⟩,
    ⟨_, .start (.openAll firstClosed), rfl, by decide +kernel, ?_, by decide +kernel⟩⟩
  · intro registers
    exact absurd registers.ret (by decide +kernel)
  · intro registers
    exact absurd registers.ret (by decide +kernel)

/-! ## What a pass tries again -/

/-- What a loop that allocates for the slots `allocations` makes of its table. -/
def Reallocated {ρ : Type} (d : Driver Nat ρ) (args : Arguments) (addresses : Nat → Option (List Address)) (i : Nat)
    (slots : List (Slot Nat)) (allocations : List Nat) (after : List (Slot Nat)) : Prop :=
  ∀ (k : Nat) (slot : Slot Nat), slots[k]? = some slot →
    (i + k ∈ allocations → (slot.conn.state = .completed ∨ slot.conn.state = .error) ∧
      ∃ sys, after[k]? = some (d.recycle args sys (addresses (i + k)) slot).1) ∧
    (i + k ∉ allocations → after[k]? = some slot)

namespace Reallocated

variable {ρ : Type} {d : Driver Nat ρ} {addresses : Nat → Option (List Address)} {i : Nat} {slot : Slot Nat}
  {slots rest after : List (Slot Nat)} {allocations : List Nat}

/-- No slot from `i` on. -/
theorem none : Reallocated d args addresses i slots [] slots :=
  fun _ _ here => ⟨fun among => absurd among List.not_mem_nil, fun _ => here⟩

/-- The loop leaves the first slot alone. -/
theorem keep (later : Reallocated d args addresses (i + 1) rest allocations after) (bound : ∀ j ∈ allocations, i < j) :
    Reallocated d args addresses i (slot :: rest) allocations (slot :: after) := by
  intro k other here
  cases k with
  | zero =>
    have absent : i + 0 ∉ allocations := fun among => absurd (bound _ among) (by omega)
    exact ⟨fun among => absurd among absent, fun _ => here⟩
  | succ k =>
    have next := later k other here
    rwa [show i + 1 + k = i + (k + 1) by omega] at next

/-- The loop recycles the first slot. -/
theorem recycle (later : Reallocated d args addresses (i + 1) rest allocations after)
    (finished : slot.conn.state = .completed ∨ slot.conn.state = .error) (sys : Sys) :
    Reallocated d args addresses i (slot :: rest) (i :: allocations)
      ((d.recycle args sys (addresses i) slot).1 :: after) := by
  intro k other here
  cases k with
  | zero =>
    obtain rfl : slot = other := Option.some.inj here
    exact ⟨fun _ => ⟨finished, sys, rfl⟩, fun absent => absurd List.mem_cons_self absent⟩
  | succ k =>
    have next := later k other here
    rw [show i + 1 + k = i + (k + 1) by omega] at next
    have same : i + (k + 1) ∈ i :: allocations ↔ i + (k + 1) ∈ allocations := by
      rw [List.mem_cons, or_iff_right (by omega)]
    rw [same]
    exact next

end Reallocated

namespace Poll

/-- The slots for which the loop of `setup_connection_fdsets` calls `allocate_socket`, from index `i` on. -/
def setupAllocations (bitmapSize : Int) : Nat → List (Slot Nat) → List Byte → List Nat
  | _, [], _ => []
  | i, slot :: rest, bitmap =>
    match registration bitmapSize slot.conn.state with
    | some (_, size) =>
      let (ret, bitmap) := setBitmap charSigned (ushort i) bitmap size
      if ret < 0 then [] else setupAllocations bitmapSize (i + 1) rest bitmap
    | none =>
      if slot.conn.state = .idle then setupAllocations bitmapSize (i + 1) rest bitmap
      else i :: setupAllocations bitmapSize (i + 1) rest bitmap

/-- The slots for which the set-up pass calls `allocate_socket`. -/
def allocations (w : World) : List Nat :=
  let size := bitmapSizeOf w.slots.length
  if (w.slots.head?.map (·.conn.sockfd)).getD (-1) < 0 then []
  else if (size : Int) ≤ 0 then []
  else setupAllocations size 0 w.slots (List.replicate size 0)

/-- A loop from `i` on allocates for no slot before it. -/
theorem setupAllocations_from (bitmapSize : Int) (slots : List (Slot Nat)) :
    ∀ (i : Nat) (bitmap : List Byte), ∀ j ∈ setupAllocations bitmapSize i slots bitmap, i ≤ j := by
  induction slots with
  | nil => exact fun _ _ j among => absurd among List.not_mem_nil
  | cons slot rest ih =>
    intro i bitmap j
    have later : ∀ bitmap, j ∈ setupAllocations bitmapSize (i + 1) rest bitmap → i ≤ j :=
      fun bitmap among => Nat.le_of_succ_le (ih (i + 1) bitmap j among)
    unfold setupAllocations
    split
    · dsimp only
      split
      · exact fun among => absurd among List.not_mem_nil
      · exact later _
    · split
      · exact later bitmap
      · intro among
        rcases List.mem_cons.mp among with rfl | among
        · exact Nat.le_refl _
        · exact later bitmap among

/-- The loop recycles these slots and leaves the others alone. -/
theorem setupLoop_reallocated (addresses : Nat → Option (List Address)) (bitmapSize : Int) (slots : List (Slot Nat)) :
    ∀ (i : Nat) (sys : Sys) (num : Int) (fds : List PollFd) (bitmap : List Byte),
      Reallocated driver args addresses i slots (setupAllocations bitmapSize i slots bitmap)
        (setupLoop args addresses bitmapSize i slots sys num fds bitmap).slots := by
  induction slots with
  | nil => exact fun _ _ _ _ _ => .none
  | cons slot rest ih =>
    intro i sys num fds bitmap
    have next : ∀ bitmap, ∀ j ∈ setupAllocations bitmapSize (i + 1) rest bitmap, i < j :=
      setupAllocations_from bitmapSize rest (i + 1)
    unfold setupAllocations setupLoop
    cases asked : registration bitmapSize slot.conn.state with
    | some entry =>
      obtain ⟨events, size⟩ := entry
      dsimp only
      by_cases outside : (setBitmap charSigned (ushort i) bitmap size).1 < 0
      · rw [if_pos outside, if_pos outside]
        exact .none
      · rw [if_neg outside, if_neg outside]
        exact (ih _ _ _ _ _).keep (next _)
    | none =>
      dsimp only
      by_cases idle : slot.conn.state = .idle
      · rw [if_pos idle, if_pos idle]
        exact (ih _ _ _ _ _).keep (next bitmap)
      · rw [if_neg idle, if_neg idle]
        exact (ih _ _ _ _ _).recycle (ConnState.finished_of_free (registration_none asked) idle) sys

/-- The pass of `bench_poll` opens again the slots it allocates for, which are finished, and leaves
the others. -/
theorem setupPass_reallocated (addresses : Nat → Option (List Address)) (w : World) :
    Reallocated driver args addresses 0 w.slots (allocations w) (setupPass args addresses w).slots := by
  unfold allocations setupPass setupConnectionFdsets
  dsimp only
  split
  · exact .none
  · split
    · exact .none
    · exact setupLoop_reallocated addresses _ w.slots 0 w.sys 0 [] _

end Poll

namespace Epoll

/-- The slots for which the loop of `setup_connection_to_epoll_instance` calls `allocate_socket`, from index `i` on. -/
def setupAllocations (args : Arguments) (addresses : Nat → Option (List Address)) (full : Nat → Bool) :
    Nat → List (Slot Nat) → Sys → List Nat
  | _, [], _ => []
  | i, slot :: rest, sys =>
    match registration slot.conn.state with
    | some events =>
      let (ret, errno, sys) := sys.epollAdd slot.conn.sockfd ⟨events, i, true⟩ (full i)
      if ret = -1 ∧ errno ≠ eexist then [] else setupAllocations args addresses full (i + 1) rest sys
    | none =>
      if slot.conn.state = .idle then setupAllocations args addresses full (i + 1) rest sys
      else
        let (_, sys) := driver.recycle args sys (addresses i) slot
        i :: setupAllocations args addresses full (i + 1) rest sys

/-- The slots for which the set-up pass calls `allocate_socket`. -/
def allocations (args : Arguments) (addresses : Nat → Option (List Address)) (full : Nat → Bool)
    (slots : List (Slot Nat)) (sys : Sys) : List Nat :=
  if (slots.head?.map (·.conn.sockfd)).getD (-1) < 0 then [] else setupAllocations args addresses full 0 slots sys

/-- A loop from `i` on allocates for no slot before it. -/
theorem setupAllocations_from (addresses : Nat → Option (List Address)) (full : Nat → Bool) (slots : List (Slot Nat)) :
    ∀ (i : Nat) (sys : Sys), ∀ j ∈ setupAllocations args addresses full i slots sys, i ≤ j := by
  induction slots with
  | nil => exact fun _ _ j among => absurd among List.not_mem_nil
  | cons slot rest ih =>
    intro i sys j
    have later : ∀ sys, j ∈ setupAllocations args addresses full (i + 1) rest sys → i ≤ j :=
      fun sys among => Nat.le_of_succ_le (ih (i + 1) sys j among)
    unfold setupAllocations
    split
    · dsimp only
      split
      · exact fun among => absurd among List.not_mem_nil
      · exact later _
    · split
      · exact later sys
      · intro among
        rcases List.mem_cons.mp among with rfl | among
        · exact Nat.le_refl _
        · exact later _ among

/-- The loop recycles these slots and leaves the others alone. -/
theorem setupLoop_reallocated (addresses : Nat → Option (List Address)) (full : Nat → Bool) (slots : List (Slot Nat)) :
    ∀ (i : Nat) (sys : Sys) (num : Int),
      Reallocated driver args addresses i slots (setupAllocations args addresses full i slots sys)
        (setupLoop args addresses full i slots sys num).slots := by
  induction slots with
  | nil => exact fun _ _ _ => .none
  | cons slot rest ih =>
    intro i sys num
    have next : ∀ sys, ∀ j ∈ setupAllocations args addresses full (i + 1) rest sys, i < j :=
      setupAllocations_from addresses full rest (i + 1)
    unfold setupAllocations setupLoop
    cases asked : registration slot.conn.state with
    | some events =>
      dsimp only
      by_cases refused : (sys.epollAdd slot.conn.sockfd ⟨events, i, true⟩ (full i)).1 = -1 ∧
          (sys.epollAdd slot.conn.sockfd ⟨events, i, true⟩ (full i)).2.1 ≠ eexist
      · rw [if_pos refused, if_pos refused]
        exact .none
      · rw [if_neg refused, if_neg refused]
        exact (ih _ _ _).keep (next _)
    | none =>
      dsimp only
      by_cases idle : slot.conn.state = .idle
      · rw [if_pos idle, if_pos idle]
        exact (ih _ _ _).keep (next sys)
      · rw [if_neg idle, if_neg idle]
        exact (ih _ _ _).recycle (ConnState.finished_of_free (registration_none asked) idle) sys

/-- The pass of `bench_epoll` opens again the slots it allocates for, and leaves the others. -/
theorem setupPass_reallocated (addresses : Nat → Option (List Address)) (full : Nat → Bool) (slots : List (Slot Nat))
    (sys : Sys) : Reallocated driver args addresses 0 slots (allocations args addresses full slots sys)
      (setupConnectionToEpollInstance args addresses full slots sys).slots := by
  unfold allocations setupConnectionToEpollInstance
  split
  · exact .none
  · exact setupLoop_reallocated addresses full slots 0 sys 0

end Epoll

/-- The pass calls `allocate_socket` for every slot without a socket, and such a slot connects once it has one. -/
structure Retries (slots : List (Slot Nat)) (allocations : List Nat) (after : List (Slot Nat)) : Prop where
  called : ∀ (i : Nat) (slot : Slot Nat), slots[i]? = some slot → slot.conn.sockfd ≤ 0 → i ∈ allocations
  connecting : ∀ (i : Nat) (slot slot' : Slot Nat), slots[i]? = some slot → slot.conn.sockfd ≤ 0 →
    after[i]? = some slot' → 0 < slot'.conn.sockfd → slot'.conn.state = .connecting

/-- A table is retried only if there is nothing to retry. -/
theorem Reallocated.retries_iff {ρ : Type} {d : Driver Nat ρ} {addresses : Nat → Option (List Address)}
    {slots after : List (Slot Nat)} {allocations : List Nat}
    (reallocated : Reallocated d args addresses 0 slots allocations after)
    (socketed : ∀ slot ∈ slots, slot.conn.Socketed) :
    Retries slots allocations after ↔ ∀ slot ∈ slots, 0 < slot.conn.sockfd := by
  constructor
  · intro retries slot member
    by_contra closed
    have closed := Int.not_lt.mp closed
    obtain ⟨i, here⟩ := List.mem_iff_getElem?.mp member
    have idle := (socketed slot member).idle_iff.mpr closed
    obtain ⟨finished | finished, -⟩ := (reallocated i slot here).1 (by simpa using retries.called i slot here closed)
    · exact ConnState.noConfusion (idle.symm.trans finished)
    · exact ConnState.noConfusion (idle.symm.trans finished)
  · intro open'
    have none : ∀ (i : Nat) (slot : Slot Nat), slots[i]? = some slot → ¬ slot.conn.sockfd ≤ 0 :=
      fun i slot here => Int.not_le.mpr (open' slot (List.mem_of_getElem? here))
    exact ⟨fun i slot here closed => absurd closed (none i slot here),
      fun i slot slot' here closed => absurd closed (none i slot here)⟩

/-- An idle slot of a run is there, unchanged, ever after. -/
theorem Poll.idle_stays {w w' : Poll.World} (run : Poll.Run args request w) (steps : ReflTransGen (Poll.Step args) w w')
    {i : Nat} {slot : Slot Nat} (here : w.slots[i]? = some slot) (closed : slot.conn.sockfd ≤ 0) :
    w'.slots[i]? = some slot := by
  have idle := (Poll.run_socketed run slot (List.mem_of_getElem? here)).idle_iff.mpr closed
  exact run.component_stuck Poll.World.slots steps (fun _ _ => Poll.run_moves) here fun _ step => step.not_idle idle

/-- Once a slot has no socket, no later step touches it. -/
theorem Epoll.idle_stays {w w' : Epoll.World} (run : Epoll.Run args request w)
    (steps : ReflTransGen (Epoll.Step args) w w') {i : Nat} {slot : Slot Nat} (here : w.slots[i]? = some slot)
    (closed : slot.conn.sockfd ≤ 0) : w'.slots[i]? = some slot := by
  have idle := (Epoll.run_socketed run slot (List.mem_of_getElem? here)).idle_iff.mpr closed
  exact run.component_stuck Epoll.World.slots steps (fun _ _ => Epoll.run_moves) here fun _ step => step.not_idle idle

/-- **A slot without a socket is abandoned.** In every run a complete pass
retries the slots without a socket if and only if there is none, and such a slot
stays as it is in every later state. -/
theorem retries_iff_all_open (args : Arguments) (request : HTTPRequest) :
    ((∀ w, Poll.Run args request w → ∀ addresses, 0 ≤ (Poll.setupPass args addresses w).ret →
        (Retries w.slots (Poll.allocations w) (Poll.setupPass args addresses w).slots ↔
          ∀ slot ∈ w.slots, 0 < slot.conn.sockfd)) ∧
      ∀ w w', Poll.Run args request w → ReflTransGen (Poll.Step args) w w' → ∀ (i : Nat) (slot : Slot Nat),
        w.slots[i]? = some slot → slot.conn.sockfd ≤ 0 → w'.slots[i]? = some slot) ∧
    ((∀ w, Epoll.Run args request w → w.loop = .pass → ∀ addresses full,
        0 ≤ (Epoll.setupConnectionToEpollInstance args addresses full w.slots w.sys).ret →
        (Retries w.slots (Epoll.allocations args addresses full w.slots w.sys)
          (Epoll.setupConnectionToEpollInstance args addresses full w.slots w.sys).slots ↔
          ∀ slot ∈ w.slots, 0 < slot.conn.sockfd)) ∧
      ∀ w w', Epoll.Run args request w → ReflTransGen (Epoll.Step args) w w' → ∀ (i : Nat) (slot : Slot Nat),
        w.slots[i]? = some slot → slot.conn.sockfd ≤ 0 → w'.slots[i]? = some slot) := by
  refine ⟨⟨fun w run addresses _ => ?_, fun w w' run steps i slot here closed => ?_⟩,
    fun w run _ addresses full _ => ?_, fun w w' run steps i slot here closed => ?_⟩
  · exact (Poll.setupPass_reallocated addresses w).retries_iff (Poll.run_socketed run)
  · exact Poll.idle_stays run steps here closed
  · exact (Epoll.setupPass_reallocated addresses full w.slots w.sys).retries_iff (Epoll.run_socketed run)
  · exact Epoll.idle_stays run steps here closed

/-- A pass on the table of two clients that both connect. -/
theorem retries_iff_all_open_two :
    Retries (Poll.opened twoClients .zero).slots (Poll.allocations (Poll.opened twoClients .zero))
        (Poll.setupPass twoClients (fun _ => none) (Poll.opened twoClients .zero)).slots ∧
      Retries (Epoll.opened twoClients .zero).slots
        (Epoll.allocations twoClients (fun _ => none) (fun _ => false) (Epoll.opened twoClients .zero).slots
          (Epoll.opened twoClients .zero).sys)
        (Epoll.setupConnectionToEpollInstance twoClients (fun _ => none) (fun _ => false)
          (Epoll.opened twoClients .zero).slots (Epoll.opened twoClients .zero).sys).slots := by
  obtain ⟨⟨poll, -⟩, epoll, -⟩ := retries_iff_all_open twoClients .zero
  exact ⟨(poll _ (Poll.opened_run _ _) _ (by decide +kernel)).mpr (by decide +kernel),
    (epoll _ (Epoll.opened_run _ _) rfl _ _ (by decide +kernel)).mpr (by decide +kernel)⟩

/-- The second of two clients found no address at the start. -/
def secondClosed (i : Nat) : Option (List Address) := if i = 1 then none else some [⟨3, 0, 0⟩]

/-- An address is there now, but a complete pass calls `allocate_socket` for no slot. -/
theorem second_closed_abandoned :
    (∃ w, Poll.Run twoClients .zero w ∧ w.slots.map (·.conn.sockfd) = [3, -1] ∧
      (Poll.setupPass twoClients (fun _ => some [⟨4, 0, 0⟩]) w).ret = 1 ∧ Poll.allocations w = [] ∧
      ¬ Retries w.slots (Poll.allocations w) (Poll.setupPass twoClients (fun _ => some [⟨4, 0, 0⟩]) w).slots) ∧
    ∃ w, Epoll.Run twoClients .zero w ∧ w.loop = .pass ∧ w.slots.map (·.conn.sockfd) = [3, -1] ∧
      let r := Epoll.setupConnectionToEpollInstance twoClients (fun _ => some [⟨4, 0, 0⟩]) (fun _ => false) w.slots w.sys
      let called := Epoll.allocations twoClients (fun _ => some [⟨4, 0, 0⟩]) (fun _ => false) w.slots w.sys
      r.ret = 1 ∧ called = [] ∧ ¬ Retries w.slots called r.slots := by
  have missed : ∀ {slots after : List (Slot Nat)}, slots.map (·.conn.sockfd) = [3, -1] → ¬ Retries slots [] after := by
    intro slots after closed retries
    obtain ⟨slot, here, sockfd⟩ : ∃ slot : Slot Nat, slots[1]? = some slot ∧ slot.conn.sockfd = -1 := by
      have second := congrArg (·[1]?) closed
      simpa using second
    exact absurd (retries.called 1 slot here (by omega)) List.not_mem_nil
  refine ⟨⟨_, .start (.openAll secondClosed fun _ => .zero 0), by decide +kernel, by decide +kernel, by decide +kernel, ?_⟩,
    ⟨_, .start (.openAll secondClosed), rfl, by decide +kernel, by decide +kernel, by decide +kernel, ?_⟩⟩
  · exact missed (by decide +kernel)
  · exact missed (by decide +kernel)

end WebBench
