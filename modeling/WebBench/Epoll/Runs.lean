import WebBench.Epoll.Pass
import WebBench.Epoll.Refine

/-!
# Runs of `bench_epoll`

Every slot found in the table during a run of `bench_epoll` has got there by the
steps of one slot: an event is only handled for a slot whose entry was present,
so for one that waits for its descriptor. In no state of a run is an entry
missing that a pass should have made.
-/

namespace WebBench.Epoll
set_option autoImplicit false
open CLib Relation

variable {args : Arguments} {request : HTTPRequest}

theorem openAll_init (addresses : Nat → Option (List Address)) :
    ∀ (k i : Nat) (sys : Sys), ∀ slot ∈ (openAll args request addresses i k sys).1,
      driver.SlotInit args request slot := by
  intro k
  induction k with
  | zero => intro _ _ slot member; exact absurd member List.not_mem_nil
  | succ k ih =>
    intro i sys slot member
    simp only [openAll, List.mem_cons] at member
    rcases member with rfl | later
    · exact .fresh sys (addresses i) (.zero 0) rfl
    · exact ih _ _ slot later

theorem Visited.steps {slot slot' : Slot Nat} (visit : Visited args slot slot') :
    ReflTransGen (driver.SlotStep args) slot slot' := by
  rcases visit with rfl | ⟨finished, sys, addresses, rfl⟩
  · exact .refl
  · exact .single (.recycle slot finished sys addresses)

/-- One entry of a table moves and the others stay. -/
theorem forall₂_set {τ : Type} {move : τ → τ → Prop} {table : List τ} {i : Nat} {t t' : τ} (here : table[i]? = some t)
    (step : move t t') : List.Forall₂ (ReflTransGen move) table (table.set i t') := by
  refine List.forall₂_iff_get.mpr ⟨List.length_set.symm, fun j first second => ?_⟩
  obtain ⟨bound, rfl⟩ := List.getElem?_eq_some_iff.mp here
  simp only [List.get_eq_getElem, List.getElem_set]
  split
  · rename_i same
    subst same
    exact .single step
  · exact .refl

/-- Where the invariant holds a step moves every slot by steps of its own. -/
theorem Registered.moves {w w' : World} (inv : Registered (pendingOf w.loop) w.slots w.sys) (step : Step args w w') :
    List.Forall₂ (ReflTransGen (driver.SlotStep args)) w.slots w'.slots := by
  have alone : ∀ slots : List (Slot Nat), List.Forall₂ (ReflTransGen (driver.SlotStep args)) slots slots :=
    fun slots => List.forall₂_same.mpr fun _ _ => .refl
  cases step with
  | pass slots sys addresses full =>
    exact (pass_done args addresses full inv).visited.imp fun _ _ visit => visit.steps
  | handle slots sys event rest slot here answers =>
    obtain ⟨slot', entry, there, present, -⟩ := inv.pending event.slot List.mem_cons_self
    obtain rfl : slot = slot' := Option.some.inj (here.symm.trans there)
    have waits := registration_pollable (inv.own here present).2.1
    exact forall₂_set here (.ready slot waits sys answers.errno event.events answers.io)
  | _ => exact alone _

theorem run_moves {w w' : World} (run : Run args request w) (step : Step args w w') :
    List.Forall₂ (ReflTransGen (driver.SlotStep args)) w.slots w'.slots := (run_registered run).moves step

/-- **Slots of a run.** Every slot of the table in any run of `bench_epoll` is reachable. -/
theorem run_slot {w : World} (run : Run args request w) :
    ∀ slot ∈ w.slots, driver.SlotReachable args request slot := by
  refine run.components World.slots ?_ fun _ _ => run_moves
  rintro _ ⟨addresses⟩ slot member
  exact .start (openAll_init addresses _ _ _ slot member)

/-! ## Iterations in full -/

/-- The events are handled one after the other; `answers` gives the answers each slot gets. -/
def handleEvents (args : Arguments) (answers : Nat → Answers) :
    List EpollEvent → List (Slot Nat) → Sys → List (Slot Nat) × Sys
  | [], slots, sys => (slots, sys)
  | event :: rest, slots, sys =>
    match slots[event.slot]? with
    | some slot =>
      let ready := driver.ready args sys (answers event.slot).errno event.events (answers event.slot).io slot
      handleEvents args answers rest (slots.set event.slot ready.1) ready.2
    | none => (slots, sys)

/-- The handlers of the events that are left are steps of the run. -/
theorem handleEvents_run {answers : Nat → Answers} : ∀ (events : List EpollEvent) (slots : List (Slot Nat)) (sys : Sys),
    Run args request ⟨slots, sys, .events events⟩ →
    Run args request ⟨(handleEvents args answers events slots sys).1, (handleEvents args answers events slots sys).2,
      .events []⟩ := by
  intro events
  induction events with
  | nil => exact fun _ _ run => run
  | cons event rest ih =>
    intro slots sys run
    obtain ⟨slot, entry, here, -, -⟩ := (run_registered run).pending event.slot List.mem_cons_self
    simp only [handleEvents, here]
    exact ih _ _ (run.next (.handle slots sys event rest slot here (answers event.slot)))

/-- The descriptor an event is about. -/
def EpollEvent.fd (slots : List (Slot Nat)) (event : EpollEvent) : Int := (slots[event.slot]?.map (·.conn.sockfd)).getD (-1)

/-- An iteration whose wait reports `events`, with every call answered by `io`; none where it cannot report them. -/
def World.turn (args : Arguments) (events : List EpollEvent) (io : Io) (w : World) : World :=
  let r := setupConnectionToEpollInstance args (fun _ => none) (fun _ => false) w.slots w.sys
  let fds := events.map (·.fd r.slots)
  if w.loop = .pass ∧ 0 < r.ret ∧ events.length ≤ r.ret ∧ fds.Nodup ∧
      ∀ event ∈ events, (r.sys.epoll (event.fd r.slots)).any (fun entry => entry.armed && event.slot == entry.slot) = true then
    let handled := handleEvents args (fun _ => ⟨0, io⟩) events r.slots (r.sys.disarm fds)
    ⟨handled.1, handled.2, .pass⟩
  else w

/-- Iterations one after the other. -/
def World.turns (args : Arguments) (steps : List (List EpollEvent × Io)) (w : World) : World :=
  steps.foldl (fun w step => w.turn args step.1 step.2) w

theorem World.turn_run {w : World} (events : List EpollEvent) (io : Io) (run : Run args request w) :
    Run args request (w.turn args events io) := by
  unfold World.turn
  dsimp only
  split
  · rename_i checked
    obtain ⟨loop, counted, most, distinct, armed⟩ := checked
    obtain ⟨slots, sys, _⟩ := w
    obtain rfl : _ = Loop.pass := loop
    have passed := run.next (.pass slots sys (fun _ => none) fun _ => false)
    dsimp only at counted most distinct armed ⊢
    generalize setupConnectionToEpollInstance args (fun _ => none) (fun _ => false) slots sys = r
      at passed counted most distinct armed ⊢
    have waits : afterPass r.ret = .wait r.ret := by
      unfold afterPass
      rw [if_neg (by omega), if_neg (by omega)]
    rw [waits] at passed
    have reported : List.Forall₂ (Reports r.sys) (events.map (·.fd r.slots)) events := by
      rw [List.forall₂_map_left_iff, List.forall₂_same]
      intro event member
      obtain ⟨entry, present, fits⟩ := Option.any_eq_true _ _ |>.mp (armed event member)
      rw [Bool.and_eq_true, beq_iff_eq] at fits
      exact ⟨entry, present, fits.1, fits.2⟩
    exact (handleEvents_run _ _ _ (passed.next (.wait _ _ _ _ _ distinct reported most))).next (.again _ _)
  · exact run

theorem World.turns_run (steps : List (List EpollEvent × Io)) {w : World} (run : Run args request w) :
    Run args request (w.turns args steps) := by
  induction steps generalizing w with
  | nil => exact run
  | cons step rest ih => exact ih (World.turn_run step.1 step.2 run)

/-- **The epoll instance follows the slots, and no wakeup is lost.** In every
reachable state an entry belongs to exactly one slot, points to it and has the
mask of its state; and a pass that returns a count leaves every slot that was
waiting registered and armed, and counts just these. -/
theorem registration_of_run (args : Arguments) (request : HTTPRequest) {w : World} (run : Run args request w) :
    (∀ fd entry, w.sys.epoll fd = some entry →
      (∃! i : Nat, ∃ slot : Slot Nat, w.slots[i]? = some slot ∧ slot.conn.sockfd = fd) ∧
      ∃ slot : Slot Nat, w.slots[entry.slot]? = some slot ∧ slot.conn.sockfd = fd ∧
        registration slot.conn.state = some entry.mask) ∧
    (w.loop = .pass → ∀ addresses full,
      let r := setupConnectionToEpollInstance args addresses full w.slots w.sys
      0 ≤ r.ret → r.ret = (w.slots.filter (·.conn.state.pollable)).length ∧
        ∀ (i : Nat) (slot : Slot Nat), w.slots[i]? = some slot → slot.conn.state.pollable = true →
          r.slots[i]? = some slot ∧ Armed r.sys i slot) := by
  have inv := run_registered run
  constructor
  · intro fd entry present
    obtain ⟨slot, here, rfl, asked, -⟩ := inv.owned fd entry present
    refine ⟨⟨entry.slot, ⟨slot, here, rfl⟩, ?_⟩, slot, here, rfl, asked⟩
    rintro j ⟨other, there, same⟩
    exact inv.distinct j _ other slot there here (same ▸ (inv.positive present).1) same
  · intro loop addresses full r counted
    rw [loop] at inv
    have done := pass_done args addresses full inv
    obtain ⟨ret, armed⟩ := done.armed counted
    exact ⟨ret.trans (Int.zero_add _), fun i slot here waits =>
      ⟨done.kept here waits, by simpa using armed i slot here waits⟩⟩

/-- Two clients, of which the first has found its connection up while the second has heard nothing. -/
def oneOfTwo : World :=
  (opened twoClients .zero).turn twoClients [⟨0, epollout⟩] { Io.retry with getsockopt := 0 }

/-- The next pass adds the entry of the first again, finds that of the second still there, and counts both. -/
theorem registration_of_run_two :
    let r := setupConnectionToEpollInstance twoClients (fun _ => none) (fun _ => false) oneOfTwo.slots oneOfTwo.sys
    oneOfTwo.slots.map (·.conn.state) = [.sending, .connecting] ∧ r.ret = 2 ∧
      ∀ (i : Nat) (slot : Slot Nat), oneOfTwo.slots[i]? = some slot → slot.conn.state.pollable = true →
        r.slots[i]? = some slot ∧ Armed r.sys i slot := by
  intro r
  have run : Run twoClients .zero oneOfTwo := World.turn_run _ _ (opened_run _ _)
  have passed := (registration_of_run _ _ run).2 (by decide +kernel) (fun _ => none) (fun _ => false) (by decide +kernel)
  exact ⟨by decide +kernel, by decide +kernel, passed.2⟩

end WebBench.Epoll
