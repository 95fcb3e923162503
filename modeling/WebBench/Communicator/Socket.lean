import WebBench.Communicator.Functions

/-!
# The loop of `Socket`

The blocking helper tries the addresses of a host in turn. It moves its cursor
after a `connect` that fails, and not after a `socket()` that fails. `SocketRun`
lists what its loop can do.
-/

namespace WebBench.Communicator
set_option autoImplicit false
open CLib

/-- The iterations that are made: the cursor at their start, and how they end. -/
def socketTurns : List AddrInfo → List SocketAnswer → List (List AddrInfo × Turn)
  | [], _ | _ :: _, [] => []
  | address :: rest, answer :: answers =>
    (address :: rest, (socketTurn address rest answer).1) ::
      match (socketTurn address rest answer).1 with
      | .stop _ => []
      | .next rp => socketTurns rp answers

/-- The iteration stops the loop or moves the cursor to the next address. -/
def MovesOn (turn : List AddrInfo × Turn) : Prop :=
  match turn.2 with
  | .stop _ => True
  | .next rp => rp = turn.1.tail

/-- The runs of the loop that return, with their results. -/
inductive SocketRun : List AddrInfo → List SocketAnswer → Int → List Act → Prop
  | none (answers : List SocketAnswer) : SocketRun [] answers (-1) []
  | stays {address : AddrInfo} {rest : List AddrInfo} {answer : SocketAnswer} {answers : List SocketAnswer} {ret : Int}
      {acts : List Act} (failed : answer.socket = -1) (later : SocketRun (address :: rest) answers ret acts) :
      SocketRun (address :: rest) (answer :: answers) ret ([.socket address answer.socket] ++ acts)
  | refused {address : AddrInfo} {rest : List AddrInfo} {answer : SocketAnswer} {answers : List SocketAnswer} {ret : Int}
      {acts : List Act} (given : answer.socket ≠ -1) (refused : answer.connect = -1)
      (later : SocketRun rest answers ret acts) :
      SocketRun (address :: rest) (answer :: answers) ret
        ([.socket address answer.socket, .connect answer.socket address answer.connect, .close answer.socket] ++ acts)
  | connects {address : AddrInfo} {rest : List AddrInfo} {answer : SocketAnswer} {answers : List SocketAnswer}
      (given : answer.socket ≠ -1) (accepted : answer.connect ≠ -1) :
      SocketRun (address :: rest) (answer :: answers) answer.socket
        [.socket address answer.socket, .connect answer.socket address answer.connect]

/-- **The loop runs so.** -/
theorem socketRun_of_loop {list : List AddrInfo} {answers : List SocketAnswer} {ret : Int} {acts : List Act}
    (returns : socketLoop list answers = some (ret, acts)) : SocketRun list answers ret acts := by
  induction answers generalizing list acts with
  | nil =>
    cases list with
    | nil =>
      cases returns
      exact .none []
    | cons address rest => cases returns
  | cons answer answers ih =>
    cases list with
    | nil =>
      cases returns
      exact .none _
    | cons address rest =>
      unfold socketLoop socketTurn at returns
      dsimp only at returns
      by_cases failed : answer.socket = -1
      · rw [if_pos failed] at returns
        obtain ⟨⟨_, later⟩, tail, made⟩ := Option.map_eq_some_iff.mp returns
        cases made
        exact .stays failed (ih tail)
      rw [if_neg failed] at returns
      by_cases refused : answer.connect = -1
      · rw [if_pos refused] at returns
        obtain ⟨⟨_, later⟩, tail, made⟩ := Option.map_eq_some_iff.mp returns
        cases made
        exact .refused failed refused (ih tail)
      · rw [if_neg refused] at returns
        cases returns
        exact .connects failed refused

/-- `Socket` tries each address at most once, returns, and returns -1 if no address gives a connection. -/
structure EndsOn (list : List AddrInfo) (answers : List SocketAnswer) : Prop where
  movesOn : ∀ turn ∈ socketTurns list answers, MovesOn turn
  once : (socketTurns list answers).length ≤ list.length
  ends : list.length ≤ answers.length → ∃ ret acts, socketLoop list answers = some (ret, acts)
  fails : (∀ answer ∈ answers, answer.socket = -1 ∨ answer.connect = -1) →
    ∀ ret acts, socketLoop list answers = some (ret, acts) → ret = -1

/-- With one answer for each address until a `connect` succeeds, no `socket()` fails. -/
def NoSocketFails : List AddrInfo → List SocketAnswer → Prop
  | [], _ | _ :: _, [] => True
  | _ :: rest, answer :: answers => answer.socket ≠ -1 ∧ (answer.connect = -1 → NoSocketFails rest answers)

section Turns

variable {list : List AddrInfo} {answers : List SocketAnswer}

/-- What an iteration does. -/
theorem socketTurn_cases (address : AddrInfo) (rest : List AddrInfo) (answer : SocketAnswer) :
    (answer.socket = -1 ∧ (socketTurn address rest answer).1 = .next (address :: rest)) ∨
      (answer.socket ≠ -1 ∧ answer.connect = -1 ∧ (socketTurn address rest answer).1 = .next rest) ∨
      (answer.socket ≠ -1 ∧ answer.connect ≠ -1 ∧ (socketTurn address rest answer).1 = .stop answer.socket) := by
  unfold socketTurn
  dsimp only
  by_cases failed : answer.socket = -1
  · exact .inl ⟨failed, by rw [if_pos failed]⟩
  by_cases refused : answer.connect = -1
  · exact .inr (.inl ⟨failed, refused, by rw [if_neg failed, if_pos refused]⟩)
  · exact .inr (.inr ⟨failed, refused, by rw [if_neg failed, if_neg refused]⟩)

@[simp] theorem socketTurns_nil (answers : List SocketAnswer) : socketTurns [] answers = [] := by rw [socketTurns]

@[simp] theorem socketLoop_nil (answers : List SocketAnswer) : socketLoop [] answers = some (-1, []) := by rw [socketLoop]

/-- Whatever fails, a loop that returns without a connection returns -1. -/
theorem socketLoop_fails (none' : ∀ answer ∈ answers, answer.socket = -1 ∨ answer.connect = -1) :
    ∀ ret acts, socketLoop list answers = some (ret, acts) → ret = -1 := by
  intro ret acts returns
  have run := socketRun_of_loop returns
  clear returns
  induction run with
  | none answers => rfl
  | stays failed later ih | refused given refused later ih =>
    exact ih fun other member => none' other (List.mem_cons_of_mem _ member)
  | connects given accepted => exact absurd (none' _ List.mem_cons_self) (not_or.mpr ⟨given, accepted⟩)

/-- Moving on takes a descriptor. -/
theorem noSocketFails_of_movesOn (moves : ∀ turn ∈ socketTurns list answers, MovesOn turn) :
    NoSocketFails list answers := by
  induction list generalizing answers with
  | nil => exact trivial
  | cons address rest ih =>
    cases answers with
    | nil => exact trivial
    | cons answer answers =>
      have first := moves _ List.mem_cons_self
      rcases socketTurn_cases address rest answer with ⟨-, turn⟩ | ⟨given, refused, turn⟩ | ⟨given, connected, -⟩
      · rw [turn] at first
        exact absurd (congrArg List.length first) (by simp)
      · refine ⟨given, fun _ => ih fun later member => moves later ?_⟩
        rw [socketTurns, turn]
        exact List.mem_cons_of_mem _ member
      · exact ⟨given, fun refused => absurd refused connected⟩

/-- **While descriptors last** every iteration takes one address off the list. -/
theorem endsOn_of_noSocketFails (given : NoSocketFails list answers) : EndsOn list answers := by
  induction list generalizing answers with
  | nil =>
    exact {
      movesOn := by simp
      once := by simp
      ends := fun _ => ⟨-1, [], socketLoop_nil answers⟩
      fails := socketLoop_fails }
  | cons address rest ih =>
    cases answers with
    | nil =>
      exact {
        movesOn := fun turn none' => absurd none' List.not_mem_nil
        once := Nat.zero_le _
        ends := fun enough => absurd enough (by simp)
        fails := socketLoop_fails }
    | cons answer answers =>
      obtain ⟨socket, later⟩ := given
      rcases socketTurn_cases address rest answer with ⟨failed, -⟩ | ⟨-, refused, turn⟩ | ⟨-, -, turn⟩
      · exact absurd failed socket
      · have tail := ih (later refused)
        have turns : socketTurns (address :: rest) (answer :: answers) =
            (address :: rest, .next rest) :: socketTurns rest answers := by
          rw [socketTurns, turn]
        refine ⟨?_, ?_, ?_, socketLoop_fails⟩
        · rw [turns]
          exact List.forall_mem_cons.mpr ⟨rfl, tail.movesOn⟩
        · rw [turns]
          exact Nat.succ_le_succ tail.once
        · intro enough
          obtain ⟨ret, acts, returns⟩ := tail.ends (Nat.le_of_succ_le_succ enough)
          unfold socketLoop
          generalize socketTurn address rest answer = taken at turn ⊢
          obtain ⟨_, acts'⟩ := taken
          cases turn
          dsimp only
          rw [returns]
          exact ⟨ret, acts' ++ acts, rfl⟩
      · have turns : socketTurns (address :: rest) (answer :: answers) = [(address :: rest, .stop answer.socket)] := by
          rw [socketTurns, turn]
        refine ⟨?_, ?_, ?_, socketLoop_fails⟩
        · rw [turns]
          exact List.forall_mem_singleton.mpr trivial
        · rw [turns]
          exact Nat.succ_le_succ (Nat.zero_le _)
        · intro _
          unfold socketLoop
          generalize socketTurn address rest answer = taken at turn ⊢
          obtain ⟨_, acts'⟩ := taken
          cases turn
          exact ⟨_, _, rfl⟩

end Turns

/-- **When `Socket` ends on a list.** If and only if none of the `socket()` calls it makes fails. -/
theorem endsOn_iff (list : List AddrInfo) (answers : List SocketAnswer) : EndsOn list answers ↔ NoSocketFails list answers :=
  ⟨fun ends => noSocketFails_of_movesOn ends.movesOn, endsOn_of_noSocketFails⟩

/-- An address of the local host. -/
def localAddress : AddrInfo := ⟨2, 1, 6, [127, 0, 0, 1]⟩

/-- Without descriptors the loop stays at the first address for ever. -/
theorem socketLoop_stays : (∀ n, socketLoop [localAddress] (List.replicate n ⟨-1, -1⟩) = none) ∧
    ¬ ∀ answers, EndsOn [localAddress] answers := by
  constructor
  · intro n
    induction n with
    | zero => rfl
    | succ n ih =>
      show ((socketLoop [localAddress] (List.replicate n ⟨-1, -1⟩)).map _) = none
      rw [ih]
      rfl
  · intro each
    have moves := (each [⟨-1, -1⟩]).movesOn _ List.mem_cons_self
    exact absurd (congrArg List.length (show [localAddress] = [] from moves)) (by decide)

end WebBench.Communicator
