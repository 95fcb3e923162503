import WebBench.Bench2
import WebBench.Communicator.Result

/-!
# What the threaded drivers report of the traffic

`bench` and `bench_with_no_racing` add up numbers that `communicate` returns.
Here the exchanges behind these numbers are put back: the bytes both drivers
report are the bytes of the responses that were received without a failure.
-/

namespace WebBench.Communicator
set_option autoImplicit false
open CLib

section Received

variable {args : Arguments} {request : HTTPRequest} {env : Env} {ret : Int} {acts : List Act}

/-- A plain exchange that does not fail returns the number of bytes received. -/
theorem HttpRun.received_length {host : List Byte} {port force : Int} (run : HttpRun host port request force env ret acts)
    (fine : 0 ≤ ret) : ret = (Communicator.received false acts).length := by
  cases run with
  | illegal | unreached | unsent => exact absurd fine (by decide)
  | forced found some' sent force =>
    have silent := (socket_spec false found).2
    simp [silent.received, Act.response]
  | received found some' sent wait loop =>
    have silent := (socket_spec false found).2
    have sum := (recvLoop_spec loop).1
    simp [silent.received, Act.response, sum]

/-- So does an exchange over TLS. -/
theorem HttpsRun.received_length {found : Option (Int × List Act)} {host : List Byte} {force : Int}
    (silent : ∀ fd acts, found = some (fd, acts) → Silent true acts)
    (run : HttpsRun found host request force env ret acts) (fine : 0 ≤ ret) :
    ret = (Communicator.received true acts).length := by
  cases run with
  | noContext | unshaken | unsent => exact absurd fine (by decide)
  | @forced fd sent connecting writes ctx got made sending all force =>
    have before := (silent _ _ got).setUp env ctx fd host
    have after := silent_release env ctx fd
    have none' := (sendTlsData_whole true sending all).2
    rw [received_append, received_append, before.received, none', after.received]
    rfl
  | @received fd sent total connecting writes reads ctx buffer got made sending all wait receiving =>
    have before := (silent _ _ got).setUp env ctx fd host
    have after := silent_release env ctx fd
    have none' := (sendTlsData_whole true sending all).2
    have run := recvRun_of_returns (by decide) (Nat.le_refl _) receiving
    by_cases fails : total < 0
    · rw [if_pos fails] at fine
      exact absurd fine (by decide)
    · obtain ⟨sum, -, -⟩ := run.holds (Nat.le_refl _) (.start _) (Int.not_lt.mp fails)
      rw [if_neg fails, received_append, received_append, received_append, before.received, after.received, none',
        List.nil_append, List.nil_append, List.append_nil, sum]
      simp

/-- **An exchange that does not fail** returns the number of bytes it has received. -/
theorem communicate_received (protocol : args.protocol = protocolHttp ∨ args.protocol = protocolHttps)
    (returns : communicate args request env = some (ret, acts)) (fine : 0 ≤ ret) :
    ret = (received (args.protocol == protocolHttps) acts).length := by
  unfold communicate at returns
  rcases protocol with plain | secure
  · have https : (args.protocol == protocolHttps) = false := by
      rw [plain]
      rfl
    rw [if_pos plain] at returns
    rw [https]
    split at returns
    · exact (httpRun_of_returns returns).received_length fine
    · exact (httpRun_of_returns returns).received_length fine
  · have https : (args.protocol == protocolHttps) = true := by
      rw [secure]
      rfl
    rw [if_neg (by rw [secure]; decide), if_pos secure] at returns
    rw [https]
    exact (httpsRun_of_returns returns).received_length (fun _ _ got => tunnelOrSocket_silent got) fine

end Received

end WebBench.Communicator

namespace WebBench.Bench2
set_option autoImplicit false
open CLib Communicator

/-- The exchanges of all threads, each with its result and its calls. -/
def allExchanges (clients : Nat) (exchanges : Nat → List (Int × List Act)) : List (Int × List Act) :=
  (List.range clients).flatMap exchanges

/-- What a driver reports of some exchanges, of which it takes the results in `fine` for successes. -/
structure Reports (https : Bool) (exchanges : List (Int × List Act)) (fine : Int → Bool) (totals : Stats) : Prop where
  speed : totals .speed = exchanges.countP fun e => fine e.1
  failed : totals .failed = exchanges.countP fun e => !fine e.1
  /-- Every byte of a response that was received without a failure, and no other. -/
  bytes : totals .bytes = ((exchanges.filter fun e => 0 ≤ e.1).map fun e => ((received https e.2).length : Int)).sum

section Adding

variable {https : Bool} {exchanges : List (Int × List Act)}

/-- The threads one after the other. -/
theorem sum_threads (count : Int → Stats) (clients : Nat) (exchanges : Nat → List (Int × List Act)) :
    ∑ i ∈ Finset.range clients, (((exchanges i).map Prod.fst).map count).sum =
      (((allExchanges clients exchanges).map Prod.fst).map count).sum := by
  induction clients with
  | zero => rfl
  | succ clients ih =>
    rw [Finset.sum_range_succ, ih]
    simp [allExchanges, List.range_succ, List.flatMap_append]

theorem countResult_nonneg {ret : Int} (fine : 0 ≤ ret) : countResult 0 ret = only .bytes ret + only .speed 1 := by
  rw [countResult, if_pos fine, Stats.plus_eq, Stats.plus_eq, zero_add]

theorem countResult_neg {ret : Int} (fails : ret < 0) : countResult 0 ret = only .failed 1 := by
  rw [countResult, if_neg (not_le.mpr fails), if_pos fails, Stats.plus_eq, zero_add]

theorem reports_nil (fine : Int → Bool) : Reports https [] fine 0 := ⟨rfl, rfl, rfl⟩

/-- One more exchange, taken for a success. -/
theorem Reports.success {e : Int × List Act} {fine : Int → Bool} {totals : Stats} (reports : Reports https exchanges fine totals)
    (good : fine e.1 = true) (nonneg : 0 ≤ e.1) (length : e.1 = (received https e.2).length) :
    Reports https (e :: exchanges) fine (only .bytes e.1 + only .speed 1 + totals) := by
  constructor
  · simp [reports.speed, good, add_comm]
  · simp [reports.failed, good]
  · simp [reports.bytes, nonneg, ← length]

/-- One more, taken for a failure. -/
theorem Reports.failure {e : Int × List Act} {fine : Int → Bool} {totals : Stats} (reports : Reports https exchanges fine totals)
    (bad : fine e.1 = false) (nothing : 0 ≤ e.1 → (received https e.2).length = 0) :
    Reports https (e :: exchanges) fine (only .failed 1 + totals) := by
  constructor
  · simp [reports.speed, bad]
  · simp [reports.failed, bad, add_comm]
  · by_cases nonneg : 0 ≤ e.1
    · simp [reports.bytes, nonneg, List.length_eq_zero_iff.mp (nothing nonneg)]
    · simp [reports.bytes, nonneg]

/-- What `bench_worker` counts. -/
theorem reports_counted (lengths : ∀ e ∈ exchanges, 0 ≤ e.1 → e.1 = (received https e.2).length) :
    Reports https exchanges (fun ret => decide (0 ≤ ret)) ((exchanges.map Prod.fst).map (countResult 0)).sum := by
  induction exchanges with
  | nil => exact reports_nil _
  | cons e exchanges ih =>
    obtain ⟨length, others⟩ := List.forall_mem_cons.mp lengths
    rw [List.map_cons, List.map_cons, List.sum_cons]
    by_cases nonneg : 0 ≤ e.1
    · rw [countResult_nonneg nonneg]
      exact (ih others).success (decide_eq_true nonneg) nonneg (length nonneg)
    · rw [countResult_neg (not_le.mp nonneg)]
      exact (ih others).failure (decide_eq_false nonneg) fun some' => absurd some' nonneg

/-- What `bench_worker_no_racing` counts. -/
theorem reports_countedNoRacing (lengths : ∀ e ∈ exchanges, 0 ≤ e.1 → e.1 = (received https e.2).length) :
    Reports https exchanges (fun ret => decide (0 < ret)) ((exchanges.map Prod.fst).map (countResultNoRacing 0)).sum := by
  induction exchanges with
  | nil => exact reports_nil _
  | cons e exchanges ih =>
    obtain ⟨length, others⟩ := List.forall_mem_cons.mp lengths
    rw [List.map_cons, List.map_cons, List.sum_cons]
    by_cases positive : 0 < e.1
    · rw [countResultNoRacing, if_pos positive, Stats.plus_eq, Stats.plus_eq, zero_add]
      exact (ih others).success (decide_eq_true positive) positive.le (length positive.le)
    · rw [countResultNoRacing, if_neg positive, Stats.plus_eq, zero_add]
      refine (ih others).failure (decide_eq_false positive) fun nonneg => ?_
      have same := length nonneg
      omega

end Adding

/-- **What the drivers report is what was exchanged.** For HTTP and HTTPS, any number of clients, whatever exchanges each
thread makes and every interleaving of the threads: both drivers report the bytes of all responses received without a
failure; `bench` counts every exchange that does not fail, `bench_with_no_racing` only those with a response. -/
theorem traffic_reported (args : Arguments) (request : HTTPRequest)
    (protocol : args.protocol = protocolHttp ∨ args.protocol = protocolHttps) (exchanges : Nat → List (Int × List Act))
    (made : ∀ i, ∀ e ∈ exchanges i, ∃ env, communicate args request env = some e) :
    (∀ s, Bench args (fun i => (exchanges i).map Prod.fst) s → s.main = .finished →
      Reports (args.protocol == protocolHttps) (allExchanges args.clients.toNat exchanges) (fun ret => decide (0 ≤ ret))
        s.shared.totals) ∧
    ∀ s, BenchWithNoRacing args (fun i => (exchanges i).map Prod.fst) s → s.main = .finished →
      Reports (args.protocol == protocolHttps) (allExchanges args.clients.toNat exchanges) (fun ret => decide (0 < ret))
        (summary s.workers) := by
  have lengths : ∀ e ∈ allExchanges args.clients.toNat exchanges, 0 ≤ e.1 →
      e.1 = (received (args.protocol == protocolHttps) e.2).length := by
    intro e member
    obtain ⟨i, -, among⟩ := List.mem_flatMap.mp member
    obtain ⟨env, returns⟩ := made i e among
    exact communicate_received protocol returns
  constructor
  · intro s run finished
    rw [totals_of_finished run finished]
    unfold counted
    rw [sum_threads]
    exact reports_counted lengths
  · intro s run finished
    rw [summary_of_finished run finished]
    unfold countedNoRacing
    rw [sum_threads]
    exact reports_countedNoRacing lengths

/-- A response of two bytes, and a server that closes before its first byte. -/
def twoExchanges : List (Int × List Act) :=
  [serverEnv [.bytes [72, 73], .bytes []], serverEnv [.bytes []]].filterMap (communicate localArguments bareRequest)

/-- Both drivers report two bytes, and only one of them counts the second exchange. -/
theorem traffic_reported_two : ∃ s s', Bench localArguments (fun _ => twoExchanges.map Prod.fst) s ∧ s.main = .finished ∧
    BenchWithNoRacing localArguments (fun _ => twoExchanges.map Prod.fst) s' ∧ s'.main = .finished ∧
    s.shared.totals .bytes = 2 ∧ summary s'.workers .bytes = 2 ∧
    s.shared.totals .speed = 2 ∧ summary s'.workers .speed = 1 := by
  obtain ⟨s, run, finished⟩ := Bench.exists_finished localArguments fun _ => twoExchanges.map Prod.fst
  obtain ⟨s', run', finished'⟩ := BenchWithNoRacing.exists_finished localArguments fun _ => twoExchanges.map Prod.fst
  have made : ∀ i : Nat, ∀ e ∈ (fun _ => twoExchanges) i, ∃ env, communicate localArguments bareRequest env = some e := by
    intro i e member
    obtain ⟨env, -, returns⟩ := List.mem_filterMap.mp member
    exact ⟨env, returns⟩
  obtain ⟨racing, noRacing⟩ := traffic_reported localArguments bareRequest (.inl rfl) (fun _ => twoExchanges) made
  have reports := racing s run finished
  have reports' := noRacing s' run' finished'
  refine ⟨s, s', run, finished, run', finished', ?_, ?_, ?_, ?_⟩
  · rw [reports.bytes]
    rfl
  · rw [reports'.bytes]
    rfl
  · rw [reports.speed]
    rfl
  · rw [reports'.speed]
    rfl

end WebBench.Bench2
