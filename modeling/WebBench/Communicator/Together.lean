import WebBench.Communicator.Resources
import WebBench.Lib.Parties

/-!
# Workers that call `communicate` side by side

The threads of `bench2.c` share the descriptors of the process and the heap of
OpenSSL. Their calls come in any order. What the kernel and OpenSSL hand out is
not in use at that moment, but it may have been another thread's a call before.
-/

namespace WebBench.Communicator
set_option autoImplicit false
open CLib

/-- The calls of exchanges that follow each other; nothing when one does not return. -/
def exchanges (args : Arguments) (request : HTTPRequest) : List Env → Option (List Act)
  | [] => some []
  | env :: envs =>
    match communicate args request env, exchanges args request envs with
    | some (_, acts), some later => some (acts ++ later)
    | _, _ => none

/-- Between two calls: the calls every worker still makes, what is open in the
process, and the descriptors of the SSL objects. -/
structure Process where
  left : Nat → List Act
  opened : Set Resource
  bound : Option Ptr → Int

/-- What a call leaves. -/
def Process.after (p : Process) (worker : Nat) (act : Act) (rest : List Act) : Process where
  left := Function.update p.left worker rest
  opened := openedAfter p.opened (act.touches p.bound)
  bound := act.binds p.bound

/-- The workers make their calls in some order. `trace` has the calls so far, each with its worker. -/
inductive Interleaved (calls : Nat → List Act) (opened : Set Resource) : List (Nat × Act) → Process → Prop
  | start : Interleaved calls opened [] ⟨calls, opened, unbound⟩
  | call {trace : List (Nat × Act)} {p : Process} {worker : Nat} {act : Act} {rest : List Act}
      (before : Interleaved calls opened trace p) (next : p.left worker = act :: rest)
      (new : New p.opened (act.touches p.bound)) : Interleaved calls opened (trace ++ [(worker, act)]) (p.after worker act rest)

/-- The calls a worker has made. -/
def made (trace : List (Nat × Act)) (worker : Nat) : List Act := (trace.filter fun call => call.1 = worker).map Prod.snd

/-- What a worker holds: what its own calls have left open. -/
def holds (trace : List (Nat × Act)) (worker : Nat) : Set Resource := openedAfter ∅ (touches unbound (made trace worker))

/-! ## One worker alone -/

section Alone

variable {args : Arguments} {request : HTTPRequest} {envs : List Env} {acts : List Act}

/-- Exchanges that return leave nothing open. -/
theorem exchanges_leads (objects : ∀ env ∈ envs, env.sslNew ≠ none) (returns : exchanges args request envs = some acts)
    (bound : Option Ptr → Int) : ∃ bound', Leads bound ∅ acts bound' ∅ := by
  induction envs generalizing bound acts with
  | nil =>
    cases returns
    exact ⟨bound, .nil bound ∅⟩
  | cons env envs ih =>
    obtain ⟨object, others⟩ := List.forall_mem_cons.mp objects
    obtain ⟨p, some'⟩ := Option.ne_none_iff_exists'.mp object
    unfold exchanges at returns
    split at returns
    · rename_i first later here there
      cases returns
      obtain ⟨bound₁, leads⟩ := communicate_leads env.fresh_empty some' here
      obtain ⟨bound₂, leads'⟩ := ih others there bound₁
      exact ⟨bound₂, leads.append leads'⟩
    · cases returns

/-- No call acquires a null pointer. -/
theorem acquire_touches {act : Act} {bound : Option Ptr → Int} : .acquire (.ssl none) ∉ act.touches bound := by
  have use (fd : Int) : Touch.acquire (Resource.ssl none) ∉ useFd fd := by
    unfold useFd
    split <;> simp
  cases act with
  | socket _ fd | close fd =>
    simp only [Act.touches]
    split <;> simp
  | sslCtxNew ctx => cases ctx <;> simp [Act.touches]
  | sslNew ctx ssl => cases ssl <;> simp [Act.touches]
  | _ => simp [Act.touches, use]

/-- So none is ever held. -/
theorem null_notMem (acts : List Act) (bound : Option Ptr → Int) : .ssl none ∉ openedAfter ∅ (touches bound acts) := by
  refine notMem_openedAfter (Set.notMem_empty _) ?_
  induction acts generalizing bound with
  | nil => exact List.not_mem_nil
  | cons act acts ih =>
    intro member
    rcases List.mem_append.mp member with here | later
    · exact acquire_touches here
    · exact ih _ later

/-- Before its last touch a call only uses what it needs. -/
theorem uses_first (act : Act) (bound : Option Ptr → Int) : ∀ touch ∈ (act.touches bound).dropLast, ∃ thing, touch = .use thing := by
  have single (fd : Int) : (useFd fd).dropLast = [] := by
    unfold useFd
    split <;> rfl
  have behind (thing : Resource) (fd : Int) :
      ∀ touch ∈ (.use thing :: useFd fd).dropLast, ∃ thing, touch = Touch.use thing := by
    unfold useFd
    split <;> simp
  cases act with
  | socket _ fd | close fd =>
    simp only [Act.touches]
    split <;> simp
  | sslCtxNew ctx => cases ctx <;> simp [Act.touches]
  | sslNew ctx ssl => cases ssl <;> simp [Act.touches]
  | sslSetFd ssl fd => exact behind _ _
  | sslConnect ssl ret | sslWrite ssl slice ret error | sslRead ssl offset room chunk | sslShutdown ssl => exact behind _ _
  | _ => simp [Act.touches, single]

variable {held held' : Set Resource} {act : Act} {bound bound' : Option Ptr → Int} {ssl : Option Ptr}

/-- What a call touches depends on the objects it may use only. -/
theorem touches_congr (uses : Uses held (act.touches bound) held')
    (agree : ∀ ssl, .ssl ssl ∈ held → bound' ssl = bound ssl) : act.touches bound' = act.touches bound := by
  cases act with
  | sslConnect ssl _ | sslWrite ssl _ _ _ | sslRead ssl _ _ _ | sslShutdown ssl =>
    cases uses with
    | cons allowed _ => simp only [Act.touches, agree ssl allowed]
  | sslCtxNew ctx => cases ctx <;> rfl
  | sslNew ctx ssl => cases ssl <;> rfl
  | _ => rfl

theorem binds_congr (act : Act) (same : bound' ssl = bound ssl) : act.binds bound' ssl = act.binds bound ssl := by
  cases act with
  | sslNew ctx other | sslSetFd other fd =>
    simp only [Act.binds, Function.update_apply]
    split
    · rfl
    · exact same
  | _ => exact same

/-- An object is new or was there before. -/
theorem object_of_call (member : .ssl ssl ∈ openedAfter held (act.touches bound)) :
    .ssl ssl ∈ held ∨ ∃ ctx, act = .sslNew ctx ssl := by
  have used (fd : Int) : openedAfter held (useFd fd) = held := by
    unfold useFd
    split <;> rfl
  cases act with
  | sslNew ctx other =>
    cases other with
    | none => exact .inl member
    | some p =>
      rcases member with same | before
      · cases same
        exact .inr ⟨ctx, rfl⟩
      · exact .inl before
  | socket address fd =>
    simp only [Act.touches] at member
    split at member
    · exact .inl (member.resolve_left fun same => by cases same)
    · exact .inl member
  | close fd =>
    simp only [Act.touches] at member
    split at member
    · exact .inl member.1
    · exact .inl member
  | sslCtxNew ctx =>
    cases ctx with
    | none => exact .inl member
    | some ctx => exact .inl (member.resolve_left fun same => by cases same)
  | sslCtxFree ctx | sslFree other => exact .inl member.1
  | getaddrinfo host port | sslSetHostName other host => exact .inl member
  | connect fd address ret | send fd slice ret | recv fd offset room chunk => exact .inl (used fd ▸ member)
  | sslSetFd other fd => exact .inl (used fd ▸ member)
  | sslConnect other ret | sslWrite other slice ret error | sslRead other offset room chunk | sslShutdown other =>
    exact .inl (used (bound other) ▸ member)

end Alone

/-! ## All of them -/

section Together

variable {calls : Nat → List Act} {opened : Set Resource} {trace : List (Nat × Act)} {p : Process} {worker other : Nat} {act : Act}
  {rest : List Act}

theorem made_same : made (trace ++ [(worker, act)]) worker = made trace worker ++ [act] := by simp [made]

theorem made_other (different : other ≠ worker) : made (trace ++ [(worker, act)]) other = made trace other := by
  simp [made, different.symm]

/-- What a worker holds changes by its own calls only. -/
theorem holds_call {held' : Set Resource}
    (uses : Uses (holds trace worker) (act.touches (binding unbound (made trace worker))) held') :
    holds (trace ++ [(worker, act)]) = Function.update (holds trace) worker held' := by
  funext other
  by_cases same : other = worker
  · subst same
    rw [Function.update_self, ← uses.openedAfter_eq, holds, made_same, touches_append, openedAfter, List.foldl_append]
    simp only [touches, List.append_nil]
    rfl
  · rw [Function.update_of_ne same, holds, made_other same]
    rfl

/-- The workers keep apart: everything open is held by one of them or was open
before, and the SSL objects have the descriptors their holders gave them. -/
structure KeepApart (calls : Nat → List Act) (opened : Set Resource) (trace : List (Nat × Act)) (p : Process) : Prop where
  split : ∀ worker, calls worker = made trace worker ++ p.left worker
  apart : Apart opened (holds trace)
  opened : p.opened = pool opened (holds trace)
  bound : ∀ worker ssl, .ssl ssl ∈ holds trace worker → p.bound ssl = binding unbound (made trace worker) ssl

/-- The next call of a worker is lawful for what it holds. -/
theorem KeepApart.own (keep : KeepApart calls opened trace p) (alone : ∃ bound, Leads unbound ∅ (calls worker) bound ∅)
    (next : p.left worker = act :: rest) :
    ∃ held', Uses (holds trace worker) (act.touches (binding unbound (made trace worker))) held' := by
  obtain ⟨bound, leads⟩ := alone
  have uses := leads.uses
  rw [keep.split worker, next, touches_append] at uses
  obtain ⟨mid, first, second⟩ := uses.split
  obtain rfl : holds trace worker = mid := first.openedAfter_eq
  rw [touches] at second
  obtain ⟨held', here, -⟩ := second.split
  exact ⟨held', here⟩

/-- Worker and process agree on what a call touches. -/
theorem KeepApart.agree {held' : Set Resource} (keep : KeepApart calls opened trace p)
    (uses : Uses (holds trace worker) (act.touches (binding unbound (made trace worker))) held') :
    act.touches p.bound = act.touches (binding unbound (made trace worker)) :=
  touches_congr uses fun ssl member => keep.bound worker ssl member

/-- **A call** keeps them apart. -/
theorem KeepApart.call (keep : KeepApart calls opened trace p) (alone : ∃ bound, Leads unbound ∅ (calls worker) bound ∅)
    (next : p.left worker = act :: rest) (new : New p.opened (act.touches p.bound)) :
    KeepApart calls opened (trace ++ [(worker, act)]) (p.after worker act rest) := by
  obtain ⟨held', uses⟩ := keep.own alone next
  have same := keep.agree uses
  have holds' := holds_call uses
  rw [same, keep.opened] at new
  obtain ⟨all, apart⟩ := keep.apart.turn rfl uses new
  constructor
  case split =>
    intro other
    by_cases mine : other = worker
    · subst mine
      simp only [Process.after, Function.update_self, made_same, keep.split other, next, List.append_assoc, List.singleton_append]
    · simp only [Process.after, Function.update_of_ne mine, made_other mine, keep.split other]
  case opened =>
    rw [holds', ← all.openedAfter_eq, ← same, ← keep.opened]
    rfl
  case apart =>
    rw [holds']
    exact apart
  case bound =>
    intro other ssl member
    show act.binds p.bound ssl = _
    rw [holds'] at member
    by_cases mine : other = worker
    · subst mine
      rw [Function.update_self, ← uses.openedAfter_eq] at member
      rw [made_same, binding, List.foldl_append]
      show act.binds p.bound ssl = act.binds (binding unbound (made trace other)) ssl
      rcases object_of_call member with before | ⟨ctx, rfl⟩
      · exact binds_congr act (keep.bound other ssl before)
      · simp only [Act.binds, Function.update_self]
    · rw [Function.update_of_ne mine] at member
      rw [made_other mine, ← keep.bound other ssl member]
      cases act with
      | sslNew ctx ssl' =>
        refine Function.update_of_ne (fun same => ?_) _ _
        subst same
        cases ssl with
        | none => exact null_notMem _ _ member
        | some q => exact new.2.1 _ rfl (mem_pool_of_held member)
      | sslSetFd ssl' fd =>
        refine Function.update_of_ne (fun same => ?_) _ _
        subst same
        cases uses with
        | cons allowed _ => exact keep.apart.parties other worker mine _ member allowed
      | _ => rfl

theorem Interleaved.keepApart (alone : ∀ worker, ∃ bound, Leads unbound ∅ (calls worker) bound ∅)
    (run : Interleaved calls opened trace p) : KeepApart calls opened trace p := by
  induction run with
  | start =>
    have nothing : holds [] = fun _ => (∅ : Set Resource) := rfl
    constructor
    case split => exact fun worker => rfl
    case apart =>
      rw [nothing]
      exact .empty opened
    case opened =>
      rw [nothing]
      exact (pool_empty opened).symm
    case bound => exact fun worker ssl member => absurd member (Set.notMem_empty _)
  | call before next new ih => exact ih.call (alone _) next new

/-- What a worker may rely on, whatever the others do. -/
structure SideBySide (opened : Set Resource) (trace : List (Nat × Act)) (p : Process) : Prop where
  /-- A worker's next call acquires something, or touches what it has acquired itself and nobody else has. -/
  own : ∀ worker act rest, p.left worker = act :: rest → ∀ touch ∈ act.touches p.bound, (∃ thing, touch = .acquire thing) ∨
    (touch.thing ∈ holds trace worker ∧ touch.thing ∈ p.opened ∧ touch.thing ∉ opened ∧
      ∀ other, other ≠ worker → touch.thing ∉ holds trace other)
  /-- A worker that is done holds nothing. -/
  done : ∀ worker, p.left worker = [] → holds trace worker = ∅
  /-- When all of them are done, what is open is what was open before. -/
  all : (∀ worker, p.left worker = []) → p.opened = opened

/-- **Workers do not meddle with each other.** For all arguments, any number of workers, whatever exchanges each of them
makes, and every order of their calls in which nothing is handed out that is in use. -/
theorem workers_sideBySide (args : Arguments) (request : HTTPRequest) {envs : Nat → List Env}
    (objects : ∀ worker, ∀ env ∈ envs worker, env.sslNew ≠ none)
    (returns : ∀ worker, exchanges args request (envs worker) = some (calls worker))
    (run : Interleaved calls opened trace p) : SideBySide opened trace p := by
  have alone (worker : Nat) := exchanges_leads (objects worker) (returns worker) unbound
  have keep := run.keepApart alone
  have done (worker : Nat) (none' : p.left worker = []) : holds trace worker = ∅ := by
    obtain ⟨bound, leads⟩ := alone worker
    have uses := leads.uses
    rw [keep.split worker, none', List.append_nil] at uses
    exact uses.openedAfter_eq
  constructor
  case own =>
    intro worker act rest next touch member
    obtain ⟨held', uses⟩ := keep.own (alone worker) next
    rw [keep.agree uses] at member
    have allowed := uses.allowed (uses_first act _) touch member
    have mine (thing : Resource) (there : thing ∈ holds trace worker) : thing ∈ holds trace worker ∧ thing ∈ p.opened ∧
        thing ∉ opened ∧ ∀ other, other ≠ worker → thing ∉ holds trace other :=
      ⟨there, keep.opened ▸ mem_pool_of_held there, keep.apart.base worker thing there,
        fun other different => keep.apart.parties worker other different.symm thing there⟩
    cases touch with
    | acquire thing => exact .inl ⟨thing, rfl⟩
    | use thing | release thing => exact .inr (mine thing allowed)
  case done => exact done
  case all =>
    intro finished
    have nothing : holds trace = fun _ => (∅ : Set Resource) := funext fun worker => done worker (finished worker)
    rw [keep.opened, nothing, pool_empty]

end Together

/-- The first worker is refused once, and neither of them can send. -/
def twoWorkers : Nat → List Env
  | 0 => [{ refusingEnv with sockets := [⟨3, -1⟩, ⟨4, 0⟩] }]
  | 1 => [{ refusingEnv with sockets := [⟨3, 0⟩] }]
  | _ => []

/-- Their calls. -/
def twoCalls : Nat → List Act
  | 0 => [
    .getaddrinfo localArguments.targetHost.bytes localArguments.targetPort, .socket ⟨2, 1, 6, [127, 0, 0, 1]⟩ 3,
    .connect 3 ⟨2, 1, 6, [127, 0, 0, 1]⟩ (-1), .close 3, .socket ⟨2, 1, 6, [127, 0, 0, 2]⟩ 4,
    .connect 4 ⟨2, 1, 6, [127, 0, 0, 2]⟩ 0, .send 4 ⟨.body, 0, 18⟩ (-1), .close 4]
  | 1 => [
    .getaddrinfo localArguments.targetHost.bytes localArguments.targetPort, .socket ⟨2, 1, 6, [127, 0, 0, 1]⟩ 3,
    .connect 3 ⟨2, 1, 6, [127, 0, 0, 1]⟩ 0, .send 3 ⟨.body, 0, 18⟩ (-1), .close 3]
  | _ => []

theorem twoCalls_returns : ∀ worker, exchanges localArguments bareRequest (twoWorkers worker) = some (twoCalls worker)
  | 0 => rfl
  | 1 => rfl
  | _ + 2 => rfl

/-- The second worker gets the number of the descriptor the first one has closed. -/
theorem workers_sideBySide_two : ∃ before p,
    Interleaved twoCalls standardFds (before ++ [(1, .socket ⟨2, 1, 6, [127, 0, 0, 1]⟩ 3)]) p ∧
    (0, .socket ⟨2, 1, 6, [127, 0, 0, 1]⟩ 3) ∈ before ∧
    SideBySide standardFds (before ++ [(1, .socket ⟨2, 1, 6, [127, 0, 0, 1]⟩ 3)]) p := by
  have objects : ∀ worker, ∀ env ∈ twoWorkers worker, env.sslNew ≠ none
    | 0 => by simp [twoWorkers, refusingEnv]
    | 1 => by simp [twoWorkers, refusingEnv]
    | _ + 2 => by simp [twoWorkers]
  have looked : Interleaved twoCalls standardFds _ _ := @Interleaved.call _ _ _ _ 0 _ _ .start rfl trivial
  have opened := @Interleaved.call _ _ _ _ 0 _ _ looked rfl (by simp [New, Act.touches, openedAfter, Process.after, standardFds])
  have refused := @Interleaved.call _ _ _ _ 0 _ _ opened rfl (by simp [New, Act.touches, useFd])
  have closed := @Interleaved.call _ _ _ _ 0 _ _ refused rfl (by simp [New, Act.touches])
  have looked' := @Interleaved.call _ _ _ _ 1 _ _ closed rfl trivial
  have again := @Interleaved.call _ _ _ _ 1 _ _ looked' rfl
    (by simp [New, Act.touches, openedAfter, Touch.effect, Process.after, standardFds, useFd])
  exact ⟨_, _, again, by simp, workers_sideBySide localArguments bareRequest objects twoCalls_returns again⟩

end WebBench.Communicator
