import WebBench.Handshake
import WebBench.Poll.LongRun
import WebBench.Request

/-!
# Overflow of the counters and totals

`bench_poll` and `bench_epoll` add the size of every response to an `int` and the
`int`s of all slots to another one. The fields and the printed totals are exact as
long as what all histories count is an `int`, and a client that is served long
enough gets past that.
-/

namespace WebBench
set_option autoImplicit false
open CLib

/-- The fields of a table and the totals of the summary loop, after each of its iterations, are in
`[0, INT_MAX]`, and the totals are the exact sums. -/
structure NoOverflow (slots : List (Slot Nat)) : Prop where
  failed : ExactSum (slots.map (·.conn.failed)) (slots.map fun slot => failures slot.moves)
  speed : ExactSum (slots.map (·.conn.speed)) (slots.map fun slot => responses slot.moves)
  bytes : ExactSum (slots.map (·.conn.bytes)) (slots.map fun slot => responseSizes sizeOfCount slot.moves)

/-- Failures, responses and the sizes of these are `int`s. -/
def Fits (counts : Int × Int × Int) : Prop := counts.1 ≤ intMax ∧ counts.2.1 ≤ intMax ∧ counts.2.2 ≤ intMax

theorem failures_nonneg (moves : List (Move Nat)) : 0 ≤ failures moves := Int.natCast_nonneg _

theorem responses_nonneg (moves : List (Move Nat)) : 0 ≤ responses moves := Int.natCast_nonneg _

theorem responseSizes_nonneg (moves : List (Move Nat)) : 0 ≤ responseSizes sizeOfCount moves :=
  List.sum_nonneg (List.forall_mem_map.mpr fun _ _ => Int.natCast_nonneg _)

/-- A column of remainders. -/
theorem exactSum_column {slots : List (Slot Nat)} {field count : Slot Nat → Int}
    (held : ∀ slot ∈ slots, field slot = int32 (count slot)) (nonneg : ∀ slot, 0 ≤ count slot) :
    ExactSum (slots.map field) (slots.map count) ↔ (slots.map count).sum ≤ intMax := by
  apply exactSum_iff
  · rw [List.map_map]
    exact List.map_congr_left held
  · exact List.forall_mem_map.mpr fun slot _ => nonneg slot

/-- Fields that are remainders of what the histories count. -/
theorem noOverflow_iff {slots : List (Slot Nat)} (counted : ∀ slot ∈ slots, slot.IntCounted) :
    NoOverflow slots ↔ Fits (countedBy slots) := by
  have failed := exactSum_column (fun slot member => (counted slot member).failed) fun slot =>
    failures_nonneg slot.moves
  have speed := exactSum_column (fun slot member => (counted slot member).speed) fun slot =>
    responses_nonneg slot.moves
  have bytes := exactSum_column (fun slot member => (counted slot member).bytes) fun slot =>
    responseSizes_nonneg slot.moves
  constructor
  · intro none
    exact ⟨failed.mp none.failed, speed.mp none.speed, bytes.mp none.bytes⟩
  · rintro ⟨failures, responses, sizes⟩
    exact ⟨failed.mpr failures, speed.mpr responses, bytes.mpr sizes⟩

/-- **No overflow**, in every state of every run of the two engines, exactly as long as what the run has counted so
far are `int`s. -/
theorem noOverflow_iff_of_run (args : Arguments) (request : HTTPRequest) :
    (∀ w, Poll.IntRun args request w → (NoOverflow w.slots ↔ Fits (countedBy w.slots))) ∧
      ∀ w, Epoll.IntRun args request w → (NoOverflow w.slots ↔ Fits (countedBy w.slots)) :=
  ⟨fun _ run => noOverflow_iff (Poll.intRun_counted run), fun _ run => noOverflow_iff (Epoll.intRun_counted run)⟩

/-- One client for ten hours. -/
def patientArguments : Arguments :=
  { createDefaultArguments with targetHost := proxyArguments.targetHost, benchTime := 36000 }

theorem patientArguments_plain : Poll.Plain patientArguments := by
  constructor <;> decide

/-- A client of `bench_poll` that has been served five pages of 8095 bytes, and one of `bench_epoll` that has opened its socket. -/
theorem noOverflow_iff_of_run_served :
    (∃ w, Poll.IntRun patientArguments (buildRequest patientArguments).2.2 w ∧ countedBy w.slots = (0, 5, 40475) ∧
      NoOverflow w.slots) ∧
    NoOverflow (Epoll.opened createDefaultArguments .zero).slots := by
  constructor
  · obtain ⟨w, slot, run, alone, served, -⟩ :=
      Poll.served_run patientArguments_plain (buildRequest patientArguments).2.2 5
    have counts : countedBy w.slots = (0, 5, 40475) := by
      simp [countedBy, alone, served.failures, served.responses, served.sizes]
    refine ⟨w, run, counts, ((noOverflow_iff_of_run patientArguments _).1 w run).mpr ?_⟩
    rw [counts]
    exact ⟨by decide, by decide, by decide⟩
  · exact ((noOverflow_iff_of_run createDefaultArguments .zero).2 _ (.start (.openAll _))).mpr
      ⟨by decide, by decide, by decide⟩

/-- A client that has been served 265286 pages of 8095 bytes. -/
theorem bytes_overflow : ∃ w, Poll.IntRun patientArguments (buildRequest patientArguments).2.2 w ∧
    countedBy w.slots = (0, 265286, 2147490170) ∧ w.slots.map (·.conn.bytes) = [-2147477126] ∧
      int32Sum (w.slots.map (·.conn.bytes)) = -2147477126 ∧ ¬ NoOverflow w.slots := by
  obtain ⟨w, slot, run, alone, served, -⟩ :=
    Poll.served_run patientArguments_plain (buildRequest patientArguments).2.2 265286
  have counted := Poll.intRun_counted run
  have counts : countedBy w.slots = (0, 265286, 2147490170) := by
    simp [countedBy, alone, served.failures, served.responses, served.sizes]
  have field : slot.conn.bytes = -2147477126 := by
    rw [(counted slot (alone ▸ List.mem_singleton_self slot)).bytes, served.sizes]
    decide
  refine ⟨w, run, counts, ?_, ?_, ?_⟩
  · simp [alone, field]
  · rw [alone, List.map_singleton, field]
    decide
  · rw [noOverflow_iff counted, counts]
    rintro ⟨-, -, sizes⟩
    exact absurd sizes (by decide)

end WebBench
