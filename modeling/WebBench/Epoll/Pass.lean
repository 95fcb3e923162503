import WebBench.Epoll.Registration

/-!
# A set-up pass arms every slot that waits

The pass adds each slot that waits for its descriptor, or finds its entry still
there and armed; recycling the slots whose cycle is over takes no entry away.
-/

namespace WebBench.Epoll
set_option autoImplicit false
open CLib

/-- The slot of index `i` has an armed entry of its own, with the mask of its state. -/
def Armed (sys : Sys) (i : Nat) (slot : Slot Nat) : Prop :=
  ∃ entry, sys.epoll slot.conn.sockfd = some entry ∧ entry.slot = i ∧ entry.armed = true ∧
    registration slot.conn.state = some entry.mask

/-- The pass recycles a slot whose cycle is over and leaves every other one alone. -/
def Visited (args : Arguments) (slot slot' : Slot Nat) : Prop :=
  slot' = slot ∨ (slot.conn.state = .completed ∨ slot.conn.state = .error) ∧
    ∃ sys addresses, slot' = (driver.recycle args sys addresses slot).1

theorem Visited.waiting {args : Arguments} {slot slot' : Slot Nat} (visit : Visited args slot slot')
    (waits : slot.conn.state.pollable = true) : slot' = slot := by
  rcases visit with same | ⟨finished | finished, -⟩
  · exact same
  · rw [finished] at waits
    exact Bool.noConfusion waits
  · rw [finished] at waits
    exact Bool.noConfusion waits

/-- The three outcomes of adding an open descriptor. -/
theorem epollAdd_cases {sys : Sys} {fd : Int} (opened : fd ∈ sys.opened) (entry : Registration) (full : Bool) :
    (∃ old, sys.epoll fd = some old ∧ sys.epollAdd fd entry full = (-1, eexist, sys)) ∨
      sys.epollAdd fd entry full = (-1, enospc, sys) ∨
      sys.epoll fd = none ∧ sys.epollAdd fd entry full =
        (0, 0, { sys with epoll := fun d => if d = fd then some entry else sys.epoll d }) := by
  unfold Sys.epollAdd
  rw [if_neg (not_not.mpr opened)]
  cases present : sys.epoll fd with
  | some old => exact .inl ⟨old, rfl, rfl⟩
  | none =>
    cases full with
    | true => exact .inr (.inl rfl)
    | false => exact .inr (.inr ⟨rfl, rfl⟩)

/-- What a pass over the slots from index `i` on has done. -/
structure PassDone (args : Arguments) (i : Nat) (pre slots : List (Slot Nat)) (sys : Sys) (num : Int) (r : Setup) :
    Prop where
  visited : List.Forall₂ (Visited args) slots r.slots
  registered : Registered [] (pre ++ r.slots) r.sys
  survives : ∀ fd entry, sys.epoll fd = some entry → r.sys.epoll fd = some entry
  armed : 0 ≤ r.ret → r.ret = num + (slots.filter (·.conn.state.pollable)).length ∧
    ∀ (k : Nat) (slot : Slot Nat), slots[k]? = some slot → slot.conn.state.pollable = true →
      Armed r.sys (i + k) slot

/-- A slot that waits is left alone. -/
theorem PassDone.kept {args : Arguments} {i : Nat} {pre slots : List (Slot Nat)} {sys : Sys} {num : Int} {r : Setup}
    (done : PassDone args i pre slots sys num r) {k : Nat} {slot : Slot Nat} (here : slots[k]? = some slot)
    (waits : slot.conn.state.pollable = true) : r.slots[k]? = some slot := by
  obtain ⟨bound, rfl⟩ := List.getElem?_eq_some_iff.mp here
  have bound' : k < r.slots.length := done.visited.length_eq ▸ bound
  have visit : Visited args slots[k] r.slots[k] := List.forall₂_iff_get.mp done.visited |>.2 k bound bound'
  rw [List.getElem?_eq_getElem bound', visit.waiting waits]

/-- A slot that does not wait is passed over, recycled or not. -/
theorem PassDone.skip {args : Arguments} {i : Nat} {pre rest : List (Slot Nat)} {slot slot' : Slot Nat}
    {sys sys' : Sys} {num : Int} {r : Setup} (done : PassDone args (i + 1) (pre ++ [slot']) rest sys' num r)
    (survives : ∀ fd entry, sys.epoll fd = some entry → sys'.epoll fd = some entry)
    (free : slot.conn.state.pollable = false) (visit : Visited args slot slot') :
    PassDone args i pre (slot :: rest) sys num (r.after slot') where
  visited := .cons visit done.visited
  registered := by simpa [Setup.after] using done.registered
  survives := fun fd entry present => done.survives fd entry (survives fd entry present)
  armed := by
    intro counted
    obtain ⟨ret, armed⟩ := done.armed counted
    refine ⟨by simpa [Setup.after, free] using ret, fun k other there waits => ?_⟩
    cases k with
    | zero =>
      obtain rfl : slot = other := Option.some.inj there
      rw [free] at waits
      exact Bool.noConfusion waits
    | succ k =>
      have later := armed k other there waits
      rwa [show i + 1 + k = i + (k + 1) by omega] at later

/-- A slot that waits is counted, with its entry in place. -/
theorem PassDone.count {args : Arguments} {i : Nat} {pre rest : List (Slot Nat)} {slot : Slot Nat} {sys sys' : Sys}
    {num : Int} {r : Setup} (done : PassDone args (i + 1) (pre ++ [slot]) rest sys' (num + 1) r)
    (survives : ∀ fd entry, sys.epoll fd = some entry → sys'.epoll fd = some entry)
    (waits : slot.conn.state.pollable = true) (own : Armed sys' i slot) :
    PassDone args i pre (slot :: rest) sys num (r.after slot) where
  visited := .cons (.inl rfl) done.visited
  registered := by simpa [Setup.after] using done.registered
  survives := fun fd entry present => done.survives fd entry (survives fd entry present)
  armed := by
    intro counted
    obtain ⟨ret, armed⟩ := done.armed counted
    have one : (r.after slot).ret = num + 1 + (rest.filter (·.conn.state.pollable)).length := ret
    refine ⟨by rw [one, List.filter_cons_of_pos (by exact waits), List.length_cons]; omega, fun k other there waits => ?_⟩
    cases k with
    | zero =>
      obtain rfl : slot = other := Option.some.inj there
      obtain ⟨entry, present, rest⟩ := own
      exact ⟨entry, done.survives _ entry present, rest⟩
    | succ k =>
      have later := armed k other there waits
      rwa [show i + 1 + k = i + (k + 1) by omega] at later

/-- **The pass.** -/
theorem setupLoop_pass (args : Arguments) (addresses : Nat → Option (List Address)) (full : Nat → Bool) :
    ∀ (slots pre : List (Slot Nat)) (sys : Sys) (num : Int), Registered [] (pre ++ slots) sys →
      PassDone args pre.length pre slots sys num (setupLoop args addresses full pre.length slots sys num) := by
  intro slots
  induction slots with
  | nil =>
    intro pre sys num inv
    exact ⟨.nil, inv, fun _ _ present => present, fun _ => ⟨(Int.add_zero num).symm, fun k slot there _ => by simp at there⟩⟩
  | cons slot rest ih =>
    intro pre sys num inv
    have here : (pre ++ slot :: rest)[pre.length]? = some slot := by simp
    have next : ∀ {slot' : Slot Nat} {sys' : Sys} (num : Int), Registered [] (pre ++ slot' :: rest) sys' →
        PassDone args (pre.length + 1) (pre ++ [slot']) rest sys' num
          (setupLoop args addresses full (pre.length + 1) rest sys' num) := by
      intro slot' sys' num inv'
      have done := ih (pre ++ [slot']) sys' num (by simpa using inv')
      simpa using done
    unfold setupLoop
    cases asked : registration slot.conn.state with
    | some events =>
      have waits := registration_pollable asked
      have positive := inv.socket _ slot here waits
      dsimp only
      rcases epollAdd_cases (inv.opened _ slot here positive) ⟨events, pre.length, true⟩ (full pre.length) with
        ⟨old, present, added⟩ | added | ⟨absent, added⟩
      · -- still registered: the entry is the slot's own and has not been reported
        rw [added]
        dsimp only
        rw [if_neg (by decide)]
        obtain ⟨index, mask, armed⟩ := inv.own here present
        exact (next _ inv).count (fun _ _ present => present) waits
          ⟨old, present, index, armed.resolve_right List.not_mem_nil, mask⟩
      · rw [added]
        dsimp only
        rw [if_pos (by decide)]
        exact ⟨List.forall₂_same.mpr fun _ _ => .inl rfl, inv, fun _ _ present => present, fun counted => absurd (show (0 : Int) ≤ -1 from counted) (by decide)⟩
      · rw [added]
        dsimp only
        rw [if_neg (by decide)]
        have inv' : Registered [] (pre ++ slot :: rest) { sys with
            epoll := fun d => if d = slot.conn.sockfd then some ⟨events, pre.length, true⟩ else sys.epoll d } :=
          inv.add here asked (fun _ => rfl) rfl
        refine (next _ inv').count (fun fd entry present => ?_) waits
          ⟨⟨events, pre.length, true⟩, if_pos rfl, rfl, rfl, asked⟩
        rw [← present]
        exact if_neg fun own => by rw [own, absent] at present; cases present
    | none =>
      have free := registration_none asked
      dsimp only
      by_cases idle : slot.conn.state = .idle
      · rw [if_pos idle]
        exact (next _ inv).skip (fun _ _ present => present) free (.inl rfl)
      · rw [if_neg idle]
        have moved := recycle_moved args (addresses pre.length) slot inv
        have inv' := inv.update here moved (allocate_waits args _ _ rfl)
        rw [List.set_append_right _ _ (Nat.le_refl _), Nat.sub_self, List.set_cons_zero] at inv'
        have finished := ConnState.finished_of_free free idle
        refine (next _ inv').skip (fun fd entry present => ?_) free (.inr ⟨finished, _, _, rfl⟩)
        rw [moved.entries, if_neg fun own => ?_]
        · exact present
        · rw [own, inv.absent here free] at present
          cases present

/-! ## Runs -/

variable {args : Arguments} {request : HTTPRequest}

/-- A new slot joins the table with a descriptor no other slot has. -/
theorem Registered.append {slots : List (Slot Nat)} {sys sys' : Sys} (inv : Registered [] slots sys)
    (slot : Slot Nat) (opened : Opened sys slot.conn.sockfd sys')
    (waits : slot.conn.state.pollable = true → 0 < slot.conn.sockfd) : Registered [] (slots ++ [slot]) sys' := by
  -- an index of the longer table is one of the shorter or the new one
  have split : ∀ (i : Nat) (a : Slot Nat), (slots ++ [slot])[i]? = some a →
      slots[i]? = some a ∨ i = slots.length ∧ a = slot := by
    intro i a there
    rw [List.getElem?_append] at there
    by_cases inside : i < slots.length
    · exact .inl (by rwa [if_pos inside] at there)
    · rw [if_neg inside, List.getElem?_singleton] at there
      split at there
      · exact .inr ⟨by omega, (Option.some.inj there).symm⟩
      · cases there
  have fresh : 0 < slot.conn.sockfd → slot.conn.sockfd ∉ sys.opened ∧ slot.conn.sockfd ∈ sys'.opened := by
    intro positive
    rcases opened.result with none | ⟨-, new⟩
    · exact absurd positive (by rw [none]; decide)
    · exact new
  constructor
  · intro fd entry present
    rw [opened.epoll] at present
    obtain ⟨owner, there, rest⟩ := inv.owned fd entry present
    exact ⟨owner, List.getElem?_append_left (List.getElem?_eq_some_iff.mp there).1 ▸ there, rest⟩
  · intro i a there positive
    rcases split i a there with old | ⟨-, rfl⟩
    · exact opened.kept _ (inv.opened i a old positive)
    · exact (fresh positive).2
  · intro i j a b first second positive same
    rcases split i a first with old | ⟨index, rfl⟩ <;> rcases split j b second with old' | ⟨index', rfl⟩
    · exact inv.distinct i j a b old old' positive same
    · exact absurd (same ▸ inv.opened i a old positive) (fresh (same ▸ positive)).1
    · exact absurd (same ▸ inv.opened j b old' (same ▸ positive)) (fresh positive).1
    · exact index.trans index'.symm
  · intro i a there pollable
    rcases split i a there with old | ⟨-, rfl⟩
    · exact inv.socket i a old pollable
    · exact waits pollable
  · exact inv.once
  · exact fun j member => absurd member List.not_mem_nil

/-- The initial table: no entry yet, and descriptors apart. -/
theorem openAll_registered (addresses : Nat → Option (List Address)) :
    ∀ (k i : Nat) (pre : List (Slot Nat)) (sys : Sys), Registered [] pre sys →
      Registered [] (pre ++ (openAll args request addresses i k sys).1) (openAll args request addresses i k sys).2 := by
  intro k
  induction k with
  | zero =>
    intro i pre sys inv
    simpa [openAll] using inv
  | succ k ih =>
    intro i pre sys inv
    have inv' := inv.append (driver.fresh args request sys (addresses i) (.zero 0)).1
      (allocate_opened args (addresses i) _ inv.keyed) (allocate_waits args sys _ rfl)
    have rest := ih (i + 1) _ _ inv'
    rw [List.append_assoc] at rest
    exact rest

/-- The slots whose events are still to be handled. -/
def pendingOf : Loop → List Nat
  | .events left => left.map (·.slot)
  | _ => []

theorem pass_done (args : Arguments) (addresses : Nat → Option (List Address)) (full : Nat → Bool)
    {slots : List (Slot Nat)} {sys : Sys} (inv : Registered [] slots sys) :
    PassDone args 0 [] slots sys 0 (setupConnectionToEpollInstance args addresses full slots sys) := by
  unfold setupConnectionToEpollInstance
  split
  · exact ⟨List.forall₂_same.mpr fun _ _ => .inl rfl, inv, fun _ _ present => present,
      fun counted => absurd (show (0 : Int) ≤ -1 from counted) (by decide)⟩
  · exact setupLoop_pass args addresses full slots [] sys 0 inv

theorem init_registered {w : World} (first : Init args request w) : Registered (pendingOf w.loop) w.slots w.sys := by
  obtain ⟨addresses⟩ := first
  refine openAll_registered addresses _ 0 [] .initial ⟨?_, ?_, ?_, ?_, List.nodup_nil, ?_⟩
  all_goals simp [Sys.initial]

theorem step_registered {w w' : World} (inv : Registered (pendingOf w.loop) w.slots w.sys) (step : Step args w w') :
    Registered (pendingOf w'.loop) w'.slots w'.sys := by
  cases step with
  | pass slots sys addresses full =>
    have done := (pass_done args addresses full inv).registered
    have none : ∀ ret, pendingOf (afterPass ret) = [] := by
      intro ret
      unfold afterPass
      repeat' split
      all_goals rfl
    rw [none]
    exact done
  | timeUp slots sys => exact inv
  | waitFailed slots sys activeFds => exact inv
  | wait slots sys activeFds fds events distinct reported most => exact inv.disarm distinct reported
  | handle slots sys event rest slot here answers =>
    obtain ⟨slot', entry, there, present, -⟩ := inv.pending event.slot List.mem_cons_self
    obtain rfl : slot = slot' := Option.some.inj (here.symm.trans there)
    have positive := (inv.positive present).1
    have moved := handle_moved args sys answers.errno slot.conn event.events answers.io
      (inv.opened _ slot here) present
    have sockfd := (handle_still args sys answers.errno slot.conn event.events answers.io).sockfd
    have next : Registered _ (slots.set event.slot (driver.ready args sys answers.errno event.events answers.io slot).1)
        _ := inv.update here moved fun _ => sockfd ▸ positive
    rwa [pendingOf, List.map_cons, List.erase_cons_head] at next
  | again slots sys => exact inv

/-- **The invariant.** In every run of `bench_epoll` descriptors, entries and pending events belong together. -/
theorem run_registered {w : World} (run : Run args request w) : Registered (pendingOf w.loop) w.slots w.sys :=
  run.invariant (motive := fun w => Registered (pendingOf w.loop) w.slots w.sys) (fun _ => init_registered)
    fun _ _ => step_registered

/-- The table of clients that all connect at once, the first on descriptor 3. -/
def opened (args : Arguments) (request : HTTPRequest) : World :=
  let (slots, sys) := openAll args request (fun i => some [⟨3 + i, 0, 0⟩]) 0 (numConnections args) .initial
  ⟨slots, sys, .pass⟩

theorem opened_run (args : Arguments) (request : HTTPRequest) : Run args request (opened args request) :=
  .start (.openAll _)

end WebBench.Epoll
