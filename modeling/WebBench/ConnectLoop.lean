import WebBench.Epoll.Handler
import WebBench.Poll.Handler
import WebBench.Select.Handler

/-!
# The search for an address

`create_nonblocking_socket` walks the list of `getaddrinfo` until a `connect`
has succeeded or is under way. The descriptors of the addresses before that one
are closed again.
-/

namespace WebBench
set_option autoImplicit false
open CLib

/-! ## The first usable address -/

/-- `socket()` succeeds, and `connect()` returns 0 or fails with `EINPROGRESS`. -/
def Address.usable (address : Address) : Bool :=
  address.socket != -1 && (address.connect == 0 || address.connect == -1 && address.errno == einprogress)

/-- `socket()` returns -1 or a positive descriptor that is not in use, `connect()` 0 or -1. -/
structure Address.Answers (opened : List Int) (address : Address) : Prop where
  socket : address.socket = -1 ∨ 0 < address.socket ∧ address.socket ∉ opened
  connect : address.connect = 0 ∨ address.connect = -1

/-- The addresses up to the first usable one. -/
def tried : List Address → List Address
  | [] => []
  | address :: next => if address.usable then [address] else address :: tried next

/-- The calls made for one address. -/
def Address.calls (address : Address) : List Call :=
  if address.socket = -1 then [.socket (-1)]
  else [.socket address.socket, .connect address.socket address.connect]

/-- What is returned, what is open afterwards, and which calls have been made:
one attempt for each address, from the front of the list. -/
structure PicksFirst (list : List Address) (sys : Sys) (before : List Call) (o : Int × Sys × List Call) : Prop where
  result : o.1 = (list.find? Address.usable).elim (-1) Address.socket
  opened : o.2.1.opened = ((list.find? Address.usable).map Address.socket).toList ++ sys.opened
  calls : o.2.2 = before ++ (tried list).flatMap Address.calls
  once : tried list <+: list

theorem tried_prefix (list : List Address) : tried list <+: list := by
  induction list with
  | nil => exact List.prefix_rfl
  | cons address next ih =>
    unfold tried
    split
    · exact ⟨next, rfl⟩
    · exact (List.prefix_cons_inj address).mpr ih

section Loop

variable {noSocket : Int → Bool} {address : Address} {next list : List Address} {sys : Sys}

/-- An address that is not usable: the loop goes on as if nothing had happened. -/
theorem PicksFirst.skip {rest : Int × Sys × List Call} {sys' : Sys} (picks : PicksFirst next sys' [] rest)
    (useless : address.usable = false) (same : sys'.opened = sys.opened) :
    PicksFirst (address :: next) sys [] (rest.1, rest.2.1, address.calls ++ rest.2.2) := by
  have goes : tried (address :: next) = address :: tried next := by
    rw [tried, useless]
    rfl
  refine ⟨?_, ?_, ?_, tried_prefix _⟩
  · rw [List.find?_cons_of_neg (by rw [useless]; decide)]
    exact picks.result
  · rw [List.find?_cons_of_neg (by rw [useless]; decide), ← same]
    exact picks.opened
  · show address.calls ++ rest.2.2 = _
    rw [goes, List.flatMap_cons, picks.calls, List.nil_append, List.nil_append]

/-- **The loop.** Its invariant is that nothing but what was open before is open when an address is tried. -/
theorem connectLoop_picks (rejects : noSocket (-1) = true) (accepts : ∀ fd, 0 < fd → noSocket fd = false)
    (answers : ∀ address ∈ list, address.Answers sys.opened) :
    PicksFirst list sys [] (connectLoop noSocket list sys) := by
  induction list generalizing sys with
  | nil => exact ⟨rfl, rfl, rfl, List.prefix_rfl⟩
  | cons address next ih =>
    have here := answers address List.mem_cons_self
    have later : ∀ other ∈ next, other.Answers sys.opened := fun other member =>
      answers other (List.mem_cons_of_mem address member)
    unfold connectLoop
    rcases here.socket with none' | ⟨positive, fresh⟩
    · -- no descriptor for this address
      have failed : sys.socket address.socket = (-1, sys) := by
        rw [none']
        rfl
      rw [failed]
      dsimp only
      rw [if_pos rejects]
      have useless : address.usable = false := by
        rw [Address.usable, none']
        rfl
      have skipped := (ih later).skip useless rfl
      rwa [Address.calls, if_pos none'] at skipped
    · have given : sys.socket address.socket = (address.socket, { sys with opened := address.socket :: sys.opened }) :=
        if_pos ⟨positive.le, fresh⟩
      rw [given]
      dsimp only
      rw [if_neg (by rw [accepts _ positive]; decide)]
      have nonneg : address.socket ≠ -1 := by omega
      split
      · -- the descriptor is closed again
        rename_i refused
        have closed := Sys.close_fresh fresh
        have useless : address.usable = false := by
          simp [Address.usable, nonneg, refused.1, refused.2]
        rw [← closed] at later
        have skipped := (ih later).skip useless closed
        rwa [Address.calls, if_neg nonneg] at skipped
      · rename_i kept
        have found : address.usable = true := by
          rcases here.connect with up | pending
          · simp [Address.usable, nonneg, up]
          · have progress : address.errno = einprogress := by
              by_contra other
              exact kept ⟨pending, other⟩
            simp [Address.usable, nonneg, pending, progress]
        refine ⟨?_, ?_, ?_, tried_prefix _⟩
        · rw [List.find?_cons_of_pos found]
          rfl
        · rw [List.find?_cons_of_pos found]
          rfl
        · rw [tried, found, if_pos rfl, List.flatMap_cons, Address.calls, if_neg nonneg]
          rfl

theorem createNonblockingSocket_picks {illegalPort : Int → Bool} {host : List Byte} {port : Int}
    (rejects : noSocket (-1) = true) (accepts : ∀ fd, 0 < fd → noSocket fd = false) (legal : illegalPort port = false)
    (answers : ∀ address ∈ list, address.Answers sys.opened) :
    PicksFirst list sys [.getaddrinfo host port]
      (createNonblockingSocket illegalPort noSocket host port (some list) sys) := by
  have picks := connectLoop_picks rejects accepts answers
  unfold createNonblockingSocket
  rw [legal]
  exact ⟨picks.result, picks.opened, congrArg _ picks.calls, picks.once⟩

end Loop

/-- **The first usable address, and nothing left open.** For each of the three
functions and every port its own test accepts. -/
theorem picksFirst (host : List Byte) (port : Int) (list : List Address) (sys : Sys)
    (answers : ∀ address ∈ list, address.Answers sys.opened) :
    (Epoll.isValidPort port = true →
      PicksFirst list sys [.getaddrinfo host port] (Epoll.createNonblockingSocket host port (some list) sys)) ∧
    (0 < port → port ≤ 65535 →
      PicksFirst list sys [.getaddrinfo host port] (Poll.createNonblockingSocket host port (some list) sys) ∧
      PicksFirst list sys [.getaddrinfo host port] (Select.createNonblockingSocket host port (some list) sys)) := by
  refine ⟨fun valid => ?_, fun lower upper => ⟨?_, ?_⟩⟩
  · exact createNonblockingSocket_picks rfl (fun fd positive => by simpa using positive) (by simp [valid]) answers
  · exact createNonblockingSocket_picks rfl (fun fd positive => by simpa using positive)
      (by simp; omega) answers
  · exact createNonblockingSocket_picks rfl (fun fd positive => by simp; omega) (by simp; omega) answers

/-- No descriptor for the first address, a refusal at the second, and a third that is being connected. -/
def threeAddresses : List Address := [⟨-1, 0, 0⟩, ⟨3, -1, 111⟩, ⟨3, -1, einprogress⟩]

theorem picksFirst_third :
    PicksFirst threeAddresses .initial [.getaddrinfo [104] 80]
      (Epoll.createNonblockingSocket [104] 80 (some threeAddresses) .initial) ∧
    (Epoll.createNonblockingSocket [104] 80 (some threeAddresses) .initial).1 = 3 := by
  have answers : ∀ address ∈ threeAddresses, address.Answers Sys.initial.opened := by
    intro address member
    simp only [threeAddresses, List.mem_cons, List.not_mem_nil, or_false] at member
    rcases member with rfl | rfl | rfl
    · exact ⟨.inl rfl, .inl rfl⟩
    · exact ⟨.inr ⟨by decide, List.not_mem_nil⟩, .inr rfl⟩
    · exact ⟨.inr ⟨by decide, List.not_mem_nil⟩, .inr rfl⟩
  have picks := (picksFirst [104] 80 threeAddresses .initial answers).1 (by decide)
  exact ⟨picks, picks.result.trans (by decide)⟩

end WebBench
