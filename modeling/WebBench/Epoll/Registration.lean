import WebBench.Descriptors
import WebBench.Epoll.Copy
import WebBench.Epoll.Engine

/-!
# The epoll instance follows the slots

`Registered` is the invariant of `bench_epoll`: descriptors in use are open and
distinct, every entry belongs to a slot that waits for that descriptor and has
the mask of its state, and an entry is disarmed only while its event is still to
be handled. Each operation of the engine changes one slot and keeps it.
-/

namespace WebBench.Epoll
set_option autoImplicit false
open CLib

/-- Only a state that waits for the descriptor is registered. -/
theorem registration_pollable {state : ConnState} {events : BitVec 32} (asked : registration state = some events) :
    state.pollable = true := by
  cases state <;> simp_all [registration, ConnState.pollable]

/-- A state without a registration waits for nothing. -/
theorem registration_none {state : ConnState} (free : registration state = none) : state.pollable = false := by
  cases state <;> simp_all [registration, ConnState.pollable]

/-- Descriptors, entries and events that are pending belong together. -/
structure Registered (pending : List Nat) (slots : List (Slot Nat)) (sys : Sys) : Prop where
  owned : ∀ (fd : Int) (entry : Registration), sys.epoll fd = some entry → ∃ slot : Slot Nat,
    slots[entry.slot]? = some slot ∧ slot.conn.sockfd = fd ∧ registration slot.conn.state = some entry.mask ∧
    (entry.armed = true ∨ entry.slot ∈ pending)
  opened : ∀ (i : Nat) (slot : Slot Nat), slots[i]? = some slot → 0 < slot.conn.sockfd →
    slot.conn.sockfd ∈ sys.opened
  distinct : ∀ (i j : Nat) (a b : Slot Nat), slots[i]? = some a → slots[j]? = some b → 0 < a.conn.sockfd →
    a.conn.sockfd = b.conn.sockfd → i = j
  socket : ∀ (i : Nat) (slot : Slot Nat), slots[i]? = some slot → slot.conn.state.pollable = true →
    0 < slot.conn.sockfd
  once : pending.Nodup
  pending : ∀ j ∈ pending, ∃ (slot : Slot Nat) (entry : Registration), slots[j]? = some slot ∧
    sys.epoll slot.conn.sockfd = some entry ∧ entry.slot = j

namespace Registered

variable {pending : List Nat} {slots : List (Slot Nat)} {sys sys' : Sys} {i : Nat} {slot slot' : Slot Nat}

/-- The slot an entry belongs to has a descriptor. -/
theorem positive (inv : Registered pending slots sys) {fd : Int} {entry : Registration}
    (present : sys.epoll fd = some entry) : 0 < fd ∧ fd ∈ sys.opened := by
  obtain ⟨slot, here, rfl, asked, -⟩ := inv.owned fd entry present
  have some := inv.socket _ slot here (registration_pollable asked)
  exact ⟨some, inv.opened _ slot here some⟩

/-- Each entry of the instance is one of an open descriptor. -/
theorem keyed (inv : Registered pending slots sys) : sys.Keyed := by
  intro fd closed
  by_contra present
  obtain ⟨entry, present⟩ := Option.ne_none_iff_exists'.mp present
  exact closed (inv.positive present).2

/-- The entry of a slot's descriptor is the slot's own. -/
theorem own (inv : Registered pending slots sys) (here : slots[i]? = some slot) {entry : Registration}
    (present : sys.epoll slot.conn.sockfd = some entry) :
    entry.slot = i ∧ registration slot.conn.state = some entry.mask ∧ (entry.armed = true ∨ entry.slot ∈ pending) := by
  obtain ⟨owner, there, same, asked, armed⟩ := inv.owned _ entry present
  have index : entry.slot = i :=
    inv.distinct _ _ owner slot there here (same ▸ (inv.positive present).1) same
  rw [index, here] at there
  cases there
  exact ⟨index, asked, armed⟩

/-- A slot that does not wait has no entry. -/
theorem absent (inv : Registered pending slots sys) (here : slots[i]? = some slot)
    (finished : slot.conn.state.pollable = false) : sys.epoll slot.conn.sockfd = none := by
  by_contra present
  obtain ⟨entry, present⟩ := Option.ne_none_iff_exists'.mp present
  have waits := registration_pollable (inv.own here present).2.1
  rw [finished] at waits
  exact Bool.noConfusion waits

/-- Two slots with descriptors have different ones. -/
theorem apart (inv : Registered pending slots sys) (here : slots[i]? = some slot) {j : Nat} {other : Slot Nat}
    (there : slots[j]? = some other) (ne : j ≠ i) (positive : 0 < other.conn.sockfd) :
    other.conn.sockfd ≠ slot.conn.sockfd :=
  fun same => ne (inv.distinct j i other slot there here positive same)

/-- **One slot moves on.** It gives up its entry; its descriptor is its own or a new one. -/
theorem update (inv : Registered pending slots sys) (here : slots[i]? = some slot)
    (moved : Moved sys sys' slot.conn.sockfd slot'.conn.sockfd)
    (waits : slot'.conn.state.pollable = true → 0 < slot'.conn.sockfd) :
    Registered (pending.erase i) (slots.set i slot') sys' := by
  have bound : i < slots.length := (List.getElem?_eq_some_iff.mp here).1
  have self : ∀ slot : Slot Nat, (slots.set i slot')[i]? = some slot → slot = slot' := by
    intro slot found
    rw [List.getElem?_set_self bound] at found
    exact (Option.some.inj found).symm
  have other : ∀ {j : Nat}, j ≠ i → (slots.set i slot')[j]? = slots[j]? := fun ne => List.getElem?_set_ne ne.symm
  -- a new descriptor is no other slot's
  have new : ∀ (j : Nat) (b : Slot Nat), slots[j]? = some b → 0 < slot'.conn.sockfd →
      slot'.conn.sockfd = b.conn.sockfd → j = i := by
    intro j b there positive same
    rcases (moved.fresh positive).2 with own | fresh
    · exact inv.distinct j i b slot there here (same ▸ positive) (same.symm.trans own)
    · exact absurd (inv.opened j b there (same ▸ positive)) (same ▸ fresh)
  constructor
  · intro fd entry present
    rw [moved.entries] at present
    split at present
    · cases present
    · rename_i ne
      obtain ⟨owner, there, same, asked, armed⟩ := inv.owned fd entry present
      have elsewhere : entry.slot ≠ i := by
        intro index
        rw [index, here] at there
        cases there
        exact ne same.symm
      exact ⟨owner, (other elsewhere).trans there, same, asked,
        armed.imp_right fun member => (List.mem_erase_of_ne elsewhere).mpr member⟩
  · intro j a there positive
    by_cases index : j = i
    · subst index
      obtain rfl := self a there
      exact (moved.fresh positive).1
    · rw [other index] at there
      exact moved.kept _ (inv.opened j a there positive) (inv.apart here there index positive)
  · intro j k a b first second positive same
    by_cases left : j = i <;> by_cases right : k = i
    · exact left.trans right.symm
    · subst left
      obtain rfl := self a first
      rw [other right] at second
      exact (new k b second positive same).symm
    · subst right
      obtain rfl := self b second
      rw [other left] at first
      exact new j a first (same ▸ positive) same.symm
    · rw [other left] at first
      rw [other right] at second
      exact inv.distinct j k a b first second positive same
  · intro j a there pollable
    by_cases index : j = i
    · subst index
      obtain rfl := self a there
      exact waits pollable
    · rw [other index] at there
      exact inv.socket j a there pollable
  · exact inv.once.erase i
  · intro j member
    obtain ⟨ne, member⟩ := inv.once.mem_erase_iff.mp member
    obtain ⟨a, entry, there, present, index⟩ := inv.pending j member
    have apart := inv.apart here there ne (inv.positive present).1
    exact ⟨a, entry, (other ne).trans there, by rw [moved.entries, if_neg apart]; exact present, index⟩

/-- `EPOLL_CTL_ADD` of a slot that waits adds its own entry. -/
theorem add (inv : Registered [] slots sys) (here : slots[i]? = some slot) {events : BitVec 32}
    (asked : registration slot.conn.state = some events)
    (added : ∀ d, sys'.epoll d = if d = slot.conn.sockfd then some ⟨events, i, true⟩ else sys.epoll d)
    (same : sys'.opened = sys.opened) : Registered [] slots sys' where
  owned := by
    intro fd entry present
    rw [added] at present
    split at present
    · rename_i own
      cases present
      exact ⟨slot, here, own.symm, asked, .inl rfl⟩
    · exact inv.owned fd entry present
  opened := by rw [same]; exact inv.opened
  distinct := inv.distinct
  socket := inv.socket
  once := inv.once
  pending := fun j member => absurd member List.not_mem_nil

/-- Descriptors that report events of one slot are the same. -/
theorem reports_inj (inv : Registered pending slots sys) {fd fd' : Int} {event event' : EpollEvent}
    (first : Reports sys fd event) (second : Reports sys fd' event') (same : event.slot = event'.slot) : fd = fd' := by
  obtain ⟨entry, present, -, index⟩ := first
  obtain ⟨entry', present', -, index'⟩ := second
  obtain ⟨a, here, rfl, -⟩ := inv.owned fd entry present
  obtain ⟨b, there, rfl, -⟩ := inv.owned fd' entry' present'
  rw [← index, same, index', there] at here
  cases here
  rfl

/-- Different descriptors are reported for different slots. -/
theorem reports_once (inv : Registered pending slots sys) {fds : List Int} {events : List EpollEvent}
    (reported : List.Forall₂ (Reports sys) fds events) (distinct : fds.Nodup) : (events.map (·.slot)).Nodup := by
  induction reported with
  | nil => exact List.nodup_nil
  | @cons fd event fds events head rest ih =>
    rw [List.nodup_cons] at distinct
    rw [List.map_cons, List.nodup_cons]
    refine ⟨fun again => ?_, ih distinct.2⟩
    obtain ⟨event', member, same⟩ := List.mem_map.mp again
    obtain ⟨k, bound, rfl⟩ := List.mem_iff_getElem.mp member
    have other := List.forall₂_iff_get.mp rest |>.2 k (rest.length_eq ▸ bound) bound
    have equal := inv.reports_inj head other same.symm
    exact distinct.1 (equal ▸ List.get_mem _ _)

/-- `epoll_wait` disarms what it reports; the events are pending then. -/
theorem disarm (inv : Registered [] slots sys) {fds : List Int} {events : List EpollEvent} (distinct : fds.Nodup)
    (reported : List.Forall₂ (Reports sys) fds events) :
    Registered (events.map (·.slot)) slots (sys.disarm fds) where
  owned := by
    intro fd entry present
    simp only [Sys.disarm] at present
    split at present
    · rename_i member
      obtain ⟨before, found, rfl⟩ := Option.map_eq_some_iff.mp present
      obtain ⟨slot, here, same, asked, -⟩ := inv.owned fd before found
      obtain ⟨k, bound, rfl⟩ := List.mem_iff_getElem.mp member
      obtain ⟨entry, again, -, index⟩ := List.forall₂_iff_get.mp reported |>.2 k bound (reported.length_eq ▸ bound)
      simp only [List.get_eq_getElem, found, Option.some.injEq] at again
      subst again
      exact ⟨slot, here, same, asked, .inr (List.mem_map.mpr ⟨_, List.get_mem _ _, index⟩)⟩
    · obtain ⟨slot, here, same, asked, armed⟩ := inv.owned fd entry present
      exact ⟨slot, here, same, asked, .inl (armed.resolve_right List.not_mem_nil)⟩
  opened := inv.opened
  distinct := inv.distinct
  socket := inv.socket
  once := inv.reports_once reported distinct
  pending := by
    intro j member
    obtain ⟨event, among, rfl⟩ := List.mem_map.mp member
    obtain ⟨k, bound, rfl⟩ := List.mem_iff_getElem.mp among
    have bound' : k < fds.length := reported.length_eq ▸ bound
    obtain ⟨entry, present, -, index⟩ := List.forall₂_iff_get.mp reported |>.2 k bound' bound
    obtain ⟨slot, here, same, -⟩ := inv.owned _ entry present
    refine ⟨slot, { entry with armed := false }, index ▸ here, ?_, index.symm⟩
    have inside : slot.conn.sockfd ∈ fds := same ▸ List.get_mem _ _
    simp only [Sys.disarm, if_pos inside]
    rw [same, present]
    rfl

end Registered

/-! ## The operations -/

/-- `cleanup_connection` takes its descriptor out of the instance, and no other. -/
theorem cleanup_epoll (conn : Connection) (sys : Sys) (absent : conn.sockfd ≤ 0 → sys.epoll conn.sockfd = none)
    (d : Int) : (cleanupConnection conn sys).2.epoll d = if d = conn.sockfd then none else sys.epoll d := by
  unfold cleanupConnection
  cases conn.ssl <;> dsimp only <;> split
  all_goals first
    | rfl
    | skip
  all_goals
    rename_i closed
    split
    · rename_i here
      rw [here]
      exact absent (Int.not_lt.mp closed)
    · rfl

/-- It closes the descriptor, if there is one. -/
theorem cleanup_opened (conn : Connection) (sys : Sys) :
    (cleanupConnection conn sys).2.opened =
      if 0 < conn.sockfd then sys.opened.filter (· ≠ conn.sockfd) else sys.opened := by
  unfold cleanupConnection
  cases conn.ssl <;> dsimp only <;> split <;> rfl

/-- `allocate_socket` opens one descriptor or none, and registers nothing. -/
theorem allocate_opened (args : Arguments) (addresses : Option (List Address)) (conn : Connection) {sys : Sys}
    (keyed : sys.Keyed) :
    Opened sys (allocateSocket args sys addresses conn).conn.sockfd (allocateSocket args sys addresses conn).sys := by
  have opened : ∀ host port, Opened sys (createNonblockingSocket host port addresses sys).1
      (createNonblockingSocket host port addresses sys).2.1 :=
    fun host port => createNonblockingSocket_opened (fun _ => rfl) _ host port addresses keyed
  unfold allocateSocket
  by_cases through : needConnectProxy args = true
  · rw [if_pos through]
    dsimp only
    split
    · exact opened _ _
    · exact opened _ _
  · rw [if_neg through]
    dsimp only
    split
    · exact opened _ _
    · exact opened _ _

section Still

variable (args : Arguments) (sys : Sys) (errno : Int) (conn : Connection) (ev : BitVec 32) (io : Io)

theorem whenConnecting_still : Still sys conn (whenConnecting args sys conn ev io) := by
  unfold whenConnecting
  dsimp only
  split
  · split
    · split
      · exact ⟨rfl, rfl, rfl⟩
      · split
        · have setup := setupSslContext_still sys { conn with state := .tlsHandshake } io
          split
          · exact ⟨setup.opened, setup.epoll, setup.sockfd⟩
          · exact ⟨setup.opened, setup.epoll, setup.sockfd⟩
        · exact ⟨rfl, rfl, rfl⟩
    · exact ⟨rfl, rfl, rfl⟩
  · exact ⟨rfl, rfl, rfl⟩

theorem sendProxyConnect_still (proxyHost : List Byte) (proxyPort : Int) (targetHost : List Byte) (targetPort : Int) :
    Still sys conn (sendProxyConnect sys errno conn io proxyHost proxyPort targetHost targetPort) := by
  unfold sendProxyConnect
  dsimp only
  repeat' split
  all_goals exact ⟨rfl, rfl, rfl⟩

theorem whenProxyConnect_still : Still sys conn (whenProxyConnect args sys errno conn ev io) := by
  have sent := sendProxyConnect_still sys errno conn io args.proxyHost.bytes args.proxyPort args.targetHost.bytes
    args.targetPort
  unfold whenProxyConnect
  dsimp only
  repeat' split
  · exact ⟨sent.opened, sent.epoll, sent.sockfd⟩
  · exact ⟨sent.opened, sent.epoll, sent.sockfd⟩
  · exact ⟨sent.opened, sent.epoll, sent.sockfd⟩
  · exact ⟨rfl, rfl, rfl⟩

/-- The functions for the states leave the instance and the descriptor alone. -/
theorem dispatchState_still : Still sys conn (dispatchState args sys errno conn ev io) := by
  unfold dispatchState
  split
  · exact whenConnecting_still args sys conn ev io
  · exact whenProxyConnect_still args sys errno conn ev io
  · unfold whenProxyResponse
    split
    · exact Still.proxyResponse sys conn io (handleProxyResponse_still sys conn io _ errno)
    · exact ⟨rfl, rfl, rfl⟩
  · have agree := whenTlsHandshake_agree sys conn ev io
    have still := Poll.whenTlsHandshake_still sys conn io (pollMask ev)
    exact ⟨agree.sys ▸ still.opened, agree.sys ▸ still.epoll, agree.conn ▸ still.sockfd⟩
  · rw [whenSending_eq]
    exact Poll.whenSending_still sys conn io (pollMask ev)
  · rw [whenReceiving_eq]
    exact Poll.whenReceiving_still sys conn io (pollMask ev)
  · exact ⟨rfl, rfl, rfl⟩
  · exact ⟨rfl, rfl, rfl⟩
  · exact ⟨rfl, rfl, rfl⟩

/-- The handler removes the entry of its slot and leaves the rest alone. -/
theorem handle_still :
    Still (sys.epollDel conn.sockfd).2 conn (handleReadyConnection args sys errno conn ev io) := by
  unfold handleReadyConnection
  dsimp only
  split
  · exact ⟨rfl, rfl, rfl⟩
  · split
    · exact ⟨rfl, rfl, rfl⟩
    · exact dispatchState_still args _ errno conn ev io

/-- A handler call moves the entry of its own descriptor at most. -/
theorem handle_moved (opened : 0 < conn.sockfd → conn.sockfd ∈ sys.opened) {entry : Registration}
    (present : sys.epoll conn.sockfd = some entry) :
    Moved sys (handleReadyConnection args sys errno conn ev io).sys conn.sockfd
      (handleReadyConnection args sys errno conn ev io).conn.sockfd := by
  have deleted : (sys.epollDel conn.sockfd).2 =
      { sys with epoll := fun d => if d = conn.sockfd then none else sys.epoll d } := by
    unfold Sys.epollDel
    rw [present]
    rfl
  have still := handle_still args sys errno conn ev io
  rw [deleted] at still
  refine ⟨fun d => by rw [still.epoll], fun d member _ => by rw [still.opened]; exact member, fun positive => ?_⟩
  rw [still.opened, still.sockfd]
  exact ⟨opened (still.sockfd ▸ positive), .inl rfl⟩

end Still

/-- `cleanup_connection` and `allocate_socket` give up one descriptor for another. -/
theorem recycle_moved {pending : List Nat} {slots : List (Slot Nat)} {sys : Sys} (args : Arguments)
    (addresses : Option (List Address)) (slot : Slot Nat) (inv : Registered pending slots sys) :
    Moved sys (driver.recycle args sys addresses slot).2 slot.conn.sockfd
      (driver.recycle args sys addresses slot).1.conn.sockfd := by
  have entries := cleanup_epoll slot.conn sys fun closed => by
    by_contra present
    obtain ⟨entry, present⟩ := Option.ne_none_iff_exists'.mp present
    exact absurd (inv.positive present).1 (Int.not_lt.mpr closed)
  have kept : ∀ d ∈ sys.opened, d ≠ slot.conn.sockfd → d ∈ (cleanupConnection slot.conn sys).2.opened := by
    intro d member ne
    rw [cleanup_opened]
    split
    · exact List.mem_filter.mpr ⟨member, decide_eq_true ne⟩
    · exact member
  have keyed : (cleanupConnection slot.conn sys).2.Keyed := by
    intro d closed
    rw [entries]
    split
    · rfl
    · rename_i ne
      exact inv.keyed d fun member => closed (kept d member ne)
  have opened := allocate_opened args addresses (cleanupConnection slot.conn sys).1 keyed
  refine ⟨fun d => ?_, fun d member ne => opened.kept d (kept d member ne), fun positive => ?_⟩
  · rw [← entries d]
    exact congrFun opened.epoll d
  · rcases opened.result with none | ⟨-, fresh, present⟩
    · exact absurd (none ▸ positive) (by decide)
    · refine ⟨present, ?_⟩
      by_contra both
      rw [not_or, not_not] at both
      exact fresh (kept _ both.2 both.1)

/-- A slot that `allocate_socket` leaves waiting has a descriptor. -/
theorem allocate_waits (args : Arguments) (sys : Sys) (addresses : Option (List Address)) {conn : Connection}
    (idle : conn.state = .idle) (waits : (allocateSocket args sys addresses conn).conn.state.pollable = true) :
    0 < (allocateSocket args sys addresses conn).conn.sockfd := by
  revert waits
  unfold allocateSocket
  dsimp only
  generalize (if needConnectProxy args = true then _ else _ : Int × Sys × List Call) = opened
  obtain ⟨sockfd, sys, calls⟩ := opened
  dsimp only
  by_cases closed : sockfd ≤ 0
  · rw [if_pos closed, idle]
    exact fun waits => Bool.noConfusion waits
  · rw [if_neg closed]
    exact fun _ => Int.not_le.mp closed

end WebBench.Epoll
