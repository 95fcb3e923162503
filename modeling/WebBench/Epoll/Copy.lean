import WebBench.Poll.Handler
import WebBench.Epoll.Handler

/-!
# Where the two copies of the handler agree

`bench_epoll.c` repeats the cases of `bench_poll.c`. With the EPOLL bits read as
the POLL bits of the same name each case leaves the same record and makes the
same calls; the case of the CONNECT request is the one that does not.
-/

namespace WebBench
set_option autoImplicit false

theorem anyBit_iff {w : Nat} (mask bits : BitVec w) :
    anyBit mask bits = true ↔ ∃ i, mask.getLsbD i = true ∧ bits.getLsbD i = true := by
  rw [anyBit, bne_iff_ne]
  constructor
  · intro some
    by_contra none
    refine some (BitVec.eq_of_getLsbD_eq fun i _ => ?_)
    rw [BitVec.getLsbD_and, BitVec.getLsbD_zero, Bool.and_eq_false_iff]
    by_contra both
    rw [not_or, Bool.not_eq_false, Bool.not_eq_false] at both
    exact none ⟨i, both⟩
  · rintro ⟨i, left, right⟩ zero
    have bit := congrArg (BitVec.getLsbD · i) zero
    simp [left, right] at bit

namespace Epoll

/-- The POLL bits of an epoll event; `POLLNVAL` has no counterpart. -/
def pollMask (ev : BitVec 32) : BitVec 16 := ev.setWidth 16 &&& ~~~pollnval

theorem anyBit_pollMask (ev : BitVec 32) {bits : BitVec 16} (apart : bits &&& pollnval = 0#16) :
    anyBit (pollMask ev) bits = anyBit ev (bits.setWidth 32) := by
  rw [Bool.eq_iff_iff, anyBit_iff, anyBit_iff]
  have outside : ∀ i, bits.getLsbD i = true → pollnval.getLsbD i = false := by
    intro i set
    have bit := congrArg (BitVec.getLsbD · i) apart
    simpa [set] using bit
  constructor
  · rintro ⟨i, reported, set⟩
    simp only [pollMask, BitVec.getLsbD_and, BitVec.getLsbD_setWidth, Bool.and_eq_true, decide_eq_true_eq] at reported
    exact ⟨i, reported.1.2, by simp [set]; omega⟩
  · rintro ⟨i, reported, set⟩
    simp only [BitVec.getLsbD_setWidth, Bool.and_eq_true, decide_eq_true_eq] at set
    have low := BitVec.lt_of_getLsbD set.2
    have clear := outside i set.2
    exact ⟨i, by simp_all [pollMask], set.2⟩

@[simp] theorem anyBit_pollin (ev : BitVec 32) : anyBit (pollMask ev) pollin = anyBit ev epollin :=
  anyBit_pollMask ev (by decide)

@[simp] theorem anyBit_pollout (ev : BitVec 32) : anyBit (pollMask ev) pollout = anyBit ev epollout :=
  anyBit_pollMask ev (by decide)

@[simp] theorem anyBit_pollinout (ev : BitVec 32) :
    anyBit (pollMask ev) (pollin ||| pollout) = anyBit ev (epollin ||| epollout) :=
  anyBit_pollMask ev (by decide)

theorem anyBit_pollnval (ev : BitVec 32) : anyBit (pollMask ev) pollnval = false := by
  rw [Bool.eq_false_iff, Ne, anyBit_iff]
  rintro ⟨i, reported, set⟩
  simp [pollMask, set] at reported

@[simp] theorem anyBit_error (ev : BitVec 32) :
    anyBit (pollMask ev) (pollerr ||| pollhup ||| pollnval) = anyBit ev (epollerr ||| epollhup) := by
  rw [anyBit_or, anyBit_pollnval, Bool.or_false]
  exact anyBit_pollMask ev (by decide)

/-! ## The cases -/

/-- Two steps leave the same record and the same shared state, and make the same calls. -/
structure Agree {κ : Type} (o o' : Outcome κ) : Prop where
  conn : o.conn = o'.conn
  sys : o.sys = o'.sys
  calls : o.calls = o'.calls

variable (sys : Sys) (conn : Connection) (ev : BitVec 32) (io : Io)

theorem whenSending_eq : whenSending sys conn ev io = Poll.whenSending sys conn (pollMask ev) io := by
  unfold whenSending Poll.whenSending
  rewrite [anyBit_pollout]
  rfl

theorem whenReceiving_eq : whenReceiving sys conn ev io = Poll.whenReceiving sys conn (pollMask ev) io := by
  simp only [whenReceiving, Poll.whenReceiving, anyBit_pollin]

/-- The return value after a handshake is all that differs here. -/
theorem whenTlsHandshake_agree :
    Agree (whenTlsHandshake sys conn ev io) (Poll.whenTlsHandshake sys conn (pollMask ev) io) := by
  unfold whenTlsHandshake Poll.whenTlsHandshake
  rw [anyBit_pollinout]
  cases conn.ssl with
  | none => exact ⟨rfl, rfl, rfl⟩
  | some ssl =>
    dsimp only
    split
    · split
      · exact ⟨rfl, rfl, rfl⟩
      · exact ⟨rfl, rfl, rfl⟩
    · exact ⟨rfl, rfl, rfl⟩

/-- The engines connect alike when they agree on the need for a proxy. -/
theorem whenConnecting_eq (args : Arguments) (same : needConnectProxy args = Poll.needConnectProxy args) :
    whenConnecting args sys conn ev io = Poll.whenConnecting args sys conn (pollMask ev) io := by
  simp only [whenConnecting, Poll.whenConnecting, anyBit_pollout, same]

end Epoll

end WebBench
