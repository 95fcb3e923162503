import WebBench.Poll.Runs
import WebBench.Epoll.Runs
import WebBench.Select.Runs
import WebBench.Request

/-!
# The way through the proxy

The three engines decide each for itself whether a proxy is in use, and
`build_request` decides on the form of the request. With a proxy host they agree
for the ports 2 to 65534: `bench_epoll` takes the port 1 for none, and
`bench_select` the port 65535.
-/

namespace WebBench
set_option autoImplicit false
open CLib

variable {κ ρ : Type}

/-- The socket of a cycle is looked up at `host` and `port`, before anything else and nowhere else. -/
structure RoutedTo (host : List Byte) (port : Int) (calls : List Call) : Prop where
  first : calls.head? = some (.getaddrinfo host port)
  only : ∀ other port', .getaddrinfo other port' ∈ calls → other = host ∧ port' = port

/-- **A configured proxy is used**: by the three engines, in every cycle of every
run, and for a request that names the whole url. -/
structure ProxyUsed (args : Arguments) : Prop where
  needed : Select.needConnectProxy args = true ∧ Poll.needConnectProxy args = true ∧ Epoll.needConnectProxy args = true
  select : ∀ request w, Select.Run args request w → ∀ slot ∈ w.slots,
    RoutedTo args.proxyHost.bytes args.proxyPort slot.cycle
  poll : ∀ request w, Poll.Run args request w → ∀ slot ∈ w.slots,
    RoutedTo args.proxyHost.bytes args.proxyPort slot.cycle
  epoll : ∀ request w, Epoll.Run args request w → ∀ slot ∈ w.slots,
    RoutedTo args.proxyHost.bytes args.proxyPort slot.cycle
  absolute : (buildRequest args).1 = 0 → ∃ method, methodText args.method = some method ∧
    method ++ args.url.bytes <+: (buildRequest args).2.2.body.bytes

/-! ## The three tests -/

section Tests

variable {args : Arguments}

theorem Select.needConnectProxy_iff (proxied : args.proxyHost.bytes ≠ []) :
    Select.needConnectProxy args = true ↔ 1 ≤ args.proxyPort ∧ args.proxyPort ≤ 65534 := by
  have named : args.proxyHost.bytes.length ≠ 0 := mt List.length_eq_zero_iff.mp proxied
  simp only [Select.needConnectProxy, named, ne_eq, not_false_eq_true, decide_true, Bool.true_and, Bool.and_eq_true,
    decide_eq_true_eq]
  omega

theorem Poll.needConnectProxy_iff (proxied : args.proxyHost.bytes ≠ []) :
    Poll.needConnectProxy args = true ↔ 1 ≤ args.proxyPort ∧ args.proxyPort ≤ 65535 := by
  have named : args.proxyHost.bytes.length ≠ 0 := mt List.length_eq_zero_iff.mp proxied
  simp only [Poll.needConnectProxy, named, ne_eq, not_false_eq_true, decide_true, Bool.true_and, Bool.and_eq_true,
    decide_eq_true_eq]
  omega

theorem Epoll.needConnectProxy_iff (proxied : args.proxyHost.bytes ≠ []) :
    Epoll.needConnectProxy args = true ↔ 2 ≤ args.proxyPort ∧ args.proxyPort ≤ 65535 := by
  have named : args.proxyHost.bytes.length ≠ 0 := mt List.length_eq_zero_iff.mp proxied
  simp only [Epoll.needConnectProxy, Epoll.isValidPort, named, ne_eq, not_false_eq_true, decide_true, Bool.true_and,
    Bool.and_eq_true, decide_eq_true_eq]
  omega

end Tests

/-! ## The route of a cycle -/

/-- A socket for a legal port is looked up first. -/
theorem createNonblockingSocket_asks {illegalPort noSocket : Int → Bool} {port : Int} (legal : illegalPort port = false)
    (host : List Byte) (addresses : Option (List Address)) (sys : Sys) :
    (createNonblockingSocket illegalPort noSocket host port addresses sys).2.2.head? = some (.getaddrinfo host port) := by
  unfold createNonblockingSocket
  rw [if_neg (by rw [legal]; exact Bool.false_ne_true)]
  cases addresses with
  | none => rfl
  | some list => rfl

/-- `allocate_socket` asks for what its socket asks for. -/
theorem allocated_calls (none : Prop) [Decidable none] (failed ok : Int) (conn conn' : ConnectionOf κ) (sys : Sys)
    (calls : List Call) :
    (if none then (⟨failed, conn, sys, calls⟩ : Outcome κ) else ⟨ok, conn', sys, calls⟩).calls = calls := by
  split
  · rfl
  · rfl

/-- Every cycle begins with what `allocate_socket` does first. -/
theorem Driver.SlotReachable.head {d : Driver κ ρ} {args : Arguments} {request : HTTPRequest} {slot : Slot κ} {c : Call}
    (reached : d.SlotReachable args request slot)
    (asks : ∀ sys addresses conn, (d.allocateSocket args sys addresses conn).calls.head? = some c) :
    slot.cycle.head? = some c := by
  refine reached.invariant (motive := fun slot => slot.cycle.head? = some c) ?_ ?_
  · rintro _ ⟨sys, addresses, raw, -⟩
    exact asks ..
  · rintro slot _ first (⟨-, sys, addresses⟩ | ⟨-, sys, errno, mask, io⟩)
    · exact asks ..
    · show (slot.cycle ++ _).head? = some c
      rw [List.head?_append, first]
      rfl

/-- An engine that runs the job through the proxy, and looks the proxy up first, goes there in every cycle. -/
theorem Driver.Follows.routed {d : Driver κ ρ} {args : Arguments} {request : HTTPRequest} {exact : Bool}
    {rep : ConnectionOf κ → Phase → Prop} (follows : d.Follows args request (.ofArguments args request true exact) rep)
    (asks : ∀ sys addresses conn, (d.allocateSocket args sys addresses conn).calls.head? =
      some (.getaddrinfo args.proxyHost.bytes args.proxyPort))
    {slot : Slot κ} (reached : d.SlotReachable args request slot) :
    RoutedTo args.proxyHost.bytes args.proxyPort slot.cycle := by
  refine ⟨reached.head asks, fun other port' member => ?_⟩
  obtain ⟨p, trace, -⟩ := follows.tracks reached
  obtain ⟨before, after, whole⟩ := List.append_of_mem member
  rw [whole] at trace
  exact Job.route_of_getaddrinfo trace

section Routes

variable {args : Arguments} {request : HTTPRequest}

theorem Poll.routed (needed : Poll.needConnectProxy args = true)
    (legal : (args.proxyPort ≤ 0 || 65535 < args.proxyPort : Bool) = false) {slot : Slot Nat}
    (reached : Poll.driver.SlotReachable args request slot) :
    RoutedTo args.proxyHost.bytes args.proxyPort slot.cycle := by
  have follows := Poll.follows args request
  unfold Poll.job at follows
  rw [needed] at follows
  refine follows.routed (fun sys addresses conn => ?_) reached
  show (Poll.allocateSocket args sys addresses conn).calls.head? = _
  unfold Poll.allocateSocket Poll.createNonblockingSocket
  rw [if_pos needed]
  dsimp only
  rw [allocated_calls]
  exact createNonblockingSocket_asks legal _ addresses sys

theorem Epoll.routed (needed : Epoll.needConnectProxy args = true) (legal : (!Epoll.isValidPort args.proxyPort) = false)
    {slot : Slot Nat} (reached : Epoll.driver.SlotReachable args request slot) :
    RoutedTo args.proxyHost.bytes args.proxyPort slot.cycle := by
  have follows := Epoll.follows args request
  unfold Epoll.job at follows
  rw [needed] at follows
  refine follows.routed (fun sys addresses conn => ?_) reached
  show (Epoll.allocateSocket args sys addresses conn).calls.head? = _
  unfold Epoll.allocateSocket Epoll.createNonblockingSocket
  rw [if_pos needed]
  dsimp only
  rw [allocated_calls]
  exact createNonblockingSocket_asks legal _ addresses sys

theorem Select.routed (needed : Select.needConnectProxy args = true)
    (legal : (args.proxyPort ≤ 0 || 65535 < args.proxyPort : Bool) = false) {slot : Slot Int}
    (reached : Select.driver.SlotReachable args request slot) :
    RoutedTo args.proxyHost.bytes args.proxyPort slot.cycle := by
  have follows := Select.follows args request
  unfold Select.job at follows
  rw [needed] at follows
  refine follows.routed (fun sys addresses conn => ?_) reached
  show (Select.allocateSocket args sys addresses conn).calls.head? = _
  unfold Select.allocateSocket Select.createNonblockingSocket
  rw [if_pos needed]
  dsimp only
  rw [allocated_calls]
  exact createNonblockingSocket_asks legal _ addresses sys

end Routes

/-! ## The agreement -/

/-- **A configured proxy is used exactly for the ports 2 to 65534.** -/
theorem proxyUsed_iff_port (args : Arguments) (proxied : args.proxyHost.bytes ≠ []) (least : 1 ≤ args.proxyPort)
    (most : args.proxyPort ≤ 65535) : ProxyUsed args ↔ 2 ≤ args.proxyPort ∧ args.proxyPort ≤ 65534 := by
  constructor
  · intro used
    obtain ⟨select, -, epoll⟩ := used.needed
    exact ⟨((Epoll.needConnectProxy_iff proxied).mp epoll).1, ((Select.needConnectProxy_iff proxied).mp select).2⟩
  · intro ports
    have select := (Select.needConnectProxy_iff proxied).mpr ⟨least, ports.2⟩
    have poll := (Poll.needConnectProxy_iff proxied).mpr ⟨least, most⟩
    have epoll := (Epoll.needConnectProxy_iff proxied).mpr ⟨ports.1, most⟩
    have legal : (args.proxyPort ≤ 0 || 65535 < args.proxyPort : Bool) = false := by
      simp only [Bool.or_eq_false_iff, decide_eq_false_iff_not]
      omega
    have valid : (!Epoll.isValidPort args.proxyPort) = false := by
      simp only [Epoll.isValidPort, Bool.not_eq_false', Bool.and_eq_true, decide_eq_true_eq]
      omega
    exact
      { needed := ⟨select, poll, epoll⟩
        select := fun _ _ run slot member => Select.routed select legal (Select.run_slot run slot member)
        poll := fun _ _ run slot member => Poll.routed poll legal (Poll.run_slot run slot member)
        epoll := fun _ _ run slot member => Epoll.routed epoll valid (Epoll.run_slot run slot member)
        absolute := buildRequest_absolute args proxied }

/-- The default arguments with a proxy at `port`. -/
def proxiedAt (port : Int) : Arguments :=
  { createDefaultArguments with proxyHost := ⟨text "p", by decide, by decide⟩, proxyPort := port }

theorem proxyUsed_iff_port_common : ProxyUsed (proxiedAt 8080) :=
  (proxyUsed_iff_port (proxiedAt 8080) (by decide) (by decide) (by decide)).mpr (by decide)

/-- With the port 65535 `bench_select` goes straight to the target. -/
theorem last_port_bypasses : ¬ ∀ args : Arguments, args.proxyHost.bytes ≠ [] → 1 ≤ args.proxyPort →
    args.proxyPort ≤ 65535 → ProxyUsed args := by
  intro each
  have used := each (proxiedAt 65535) (by decide) (by decide) (by decide)
  exact absurd used.needed.1 (by decide)

end WebBench
