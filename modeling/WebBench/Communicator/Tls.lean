import WebBench.Communicator.Functions

/-!
# Sending over TLS

`send_tls_data` calls `SSL_write` until everything is accepted or a call fails
for good. `SendRun` lists what one iteration can do; what a whole run does
follows by induction on it.
-/

namespace WebBench.Communicator
set_option autoImplicit false
open CLib

/-- The bytes of the body that a call has moved towards the server. -/
def Act.sent (body : List Byte) : Act → List Byte
  | .send _ ⟨.body, offset, _⟩ ret | .sslWrite _ ⟨.body, offset, _⟩ ret _ => (body.drop offset).take ret.toNat
  | _ => []

/-- The bytes of the body that have been accepted, in the order of the calls. -/
def written (body : List Byte) (acts : List Act) : List Byte := acts.flatMap (·.sent body)

/-- The `SSL_write` of an iteration that finds `total` bytes accepted. -/
def writeFrom (ssl : Option Ptr) (len total : Nat) (ret : Int) (error : SslError) : Act :=
  .sslWrite ssl ⟨.body, total, len - total⟩ ret error

/-- The runs of the loop from `total` accepted bytes on, with their results. -/
inductive SendRun (ssl : Option Ptr) (len : Nat) : Nat → Int → List Act → Prop
  | done : SendRun ssl len len len []
  | retry {total : Nat} {ret result : Int} {error : SslError} {acts : List Act} (left : total < len) (none' : ret ≤ 0)
      (again : error.wants = true) (later : SendRun ssl len total result acts) :
      SendRun ssl len total result (writeFrom ssl len total ret error :: acts)
  | fails {total : Nat} {ret : Int} {error : SslError} (left : total < len) (none' : ret ≤ 0)
      (final : error.wants = false) : SendRun ssl len total (-1) [writeFrom ssl len total ret error]
  | more {total k : Nat} {result : Int} {error : SslError} {acts : List Act} (some' : 0 < k) (fits : total + k ≤ len)
      (later : SendRun ssl len (total + k) result acts) :
      SendRun ssl len total result (writeFrom ssl len total k error :: acts)

/-- **The loop runs so.** -/
theorem sendRun_of_loop {ssl : Option Ptr} {len total : Nat} {answers : List WriteAnswer} {result : Int} {acts : List Act}
    (within : total ≤ len) (returns : sendTlsLoop ssl len total answers = some (result, acts)) :
    SendRun ssl len total result acts := by
  induction answers generalizing total acts with
  | nil =>
    unfold sendTlsLoop at returns
    split at returns
    · cases returns
    · obtain rfl : total = len := by omega
      cases returns
      exact .done
  | cons answer answers ih =>
    unfold sendTlsLoop at returns
    split at returns
    · rename_i left
      have left : total < len := by omega
      have room : ((len : Int) - total).toNat = len - total := by omega
      dsimp only at returns
      rw [room, Int.toNat_natCast] at returns
      split at returns
      · rename_i none'
        have again : ∀ later, answer.error.wants = true → sendTlsLoop ssl len total answers = some (result, later) →
            SendRun ssl len total result (writeFrom ssl len total (answer.taken.ret (len - total)) answer.error :: later) :=
          fun _ wants rest => .retry left none' wants (ih within rest)
        have final : ∀ fails : answer.error.wants = false,
            some ((-1 : Int), [writeFrom ssl len total (answer.taken.ret (len - total)) answer.error]) = some (result, acts) →
            SendRun ssl len total result acts := by
          intro fails returns
          cases returns
          exact .fails left none' fails
        cases error : answer.error with
        | wantWrite | wantRead =>
          rw [error] at returns
          obtain ⟨⟨ret, later⟩, rest, made⟩ := Option.map_eq_some_iff.mp returns
          obtain ⟨rfl, rfl⟩ := Prod.mk.inj made
          have retried := again later (by rw [error]; rfl) rest
          rwa [error] at retried
        | syscall | zeroReturn | ssl | none | wantX509Lookup | wantConnect | wantAccept =>
          rw [error] at returns
          exact final (by rw [error]; rfl) (by rw [error]; exact returns)
      · rename_i some'
        obtain ⟨⟨_, later⟩, rest, made⟩ := Option.map_eq_some_iff.mp returns
        cases made
        have short := Taken.ret_toNat_le (len - total) answer.taken
        obtain ⟨k, count⟩ : ∃ k : Nat, answer.taken.ret (len - total) = k := ⟨_, (Int.toNat_of_nonneg (by omega)).symm⟩
        rw [count] at rest some' short ⊢
        exact .more (by omega) (by omega) (ih (by omega) (by exact_mod_cast rest))
    · obtain rfl : total = len := by omega
      cases returns
      exact .done

/-! ## What a run does -/

section Run

variable {ssl : Option Ptr} {len total : Nat} {result : Int} {acts : List Act} {data : List Byte}

@[simp] theorem sent_writeFrom (data : List Byte) (ret : Int) (error : SslError) :
    (writeFrom ssl len total ret error).sent data = (data.drop total).take ret.toNat := rfl

@[simp] theorem written_cons (data : List Byte) (act : Act) (acts : List Act) :
    written data (act :: acts) = act.sent data ++ written data acts := rfl

@[simp] theorem written_append (data : List Byte) (acts later : List Act) :
    written data (acts ++ later) = written data acts ++ written data later := List.flatMap_append

/-- A call that accepts nothing moves nothing. -/
theorem sent_of_nonpos {ret : Int} (none' : ret ≤ 0) (error : SslError) :
    (writeFrom ssl len total ret error).sent data = [] := by
  rw [sent_writeFrom, Int.toNat_of_nonpos none', List.take_zero]

/-- **What has been accepted** is a stretch of the data from `total` on, and the result says whether it is the rest. -/
theorem SendRun.written_eq (run : SendRun ssl len total result acts) (positive : 0 < len) (data : List Byte) :
    ∃ n, written data acts = (data.drop total).take n ∧
      (result = len ∧ total + n = len ∨ result = -1 ∧ total + n < len) := by
  induction run with
  | done => exact ⟨0, rfl, .inl ⟨rfl, rfl⟩⟩
  | retry left none' again later ih =>
    obtain ⟨n, moved, ends⟩ := ih
    refine ⟨n, ?_, ends⟩
    rw [written_cons, sent_of_nonpos none', List.nil_append, moved]
  | fails left none' final =>
    refine ⟨0, ?_, .inr ⟨rfl, left⟩⟩
    rw [written_cons, sent_of_nonpos none', List.nil_append, List.take_zero]
    rfl
  | @more total k _ _ _ some' fits later ih =>
    obtain ⟨n, moved, ends⟩ := ih
    refine ⟨k + n, ?_, by omega⟩
    rw [written_cons, sent_writeFrom, moved, Int.toNat_natCast, List.take_add, List.drop_drop]

/-- Every `SSL_write` is given what the earlier ones have not accepted. -/
def Consecutive (ssl : Option Ptr) (data : List Byte) (len total : Nat) (acts : List Act) : Prop :=
  ∀ before act after, acts = before ++ act :: after →
    ∃ ret error, act = writeFrom ssl len (total + (written data before).length) ret error

theorem Consecutive.nil : Consecutive ssl data len total [] := fun _ _ _ split => absurd split (by simp)

/-- A run whose first call accepts a stretch, and which goes on behind it. -/
theorem Consecutive.cons {k : Nat} {ret : Int} {error : SslError} (rest : Consecutive ssl data len (total + k) acts)
    (stretch : ((writeFrom ssl len total ret error).sent data).length = k) :
    Consecutive ssl data len total (writeFrom ssl len total ret error :: acts) := by
  intro before act after split
  cases before with
  | nil =>
    obtain ⟨rfl, -⟩ := List.cons_eq_cons.mp split
    exact ⟨ret, error, rfl⟩
  | cons first before =>
    obtain ⟨rfl, tail⟩ := List.cons_eq_cons.mp split
    obtain ⟨ret', error', same⟩ := rest before act after tail
    refine ⟨ret', error', ?_⟩
    rw [same, written_cons, List.length_append, stretch, Nat.add_assoc]

theorem SendRun.consecutive (run : SendRun ssl len total result acts) (fits : len ≤ data.length) :
    Consecutive ssl data len total acts := by
  induction run with
  | done => exact .nil
  | retry left none' again later ih => exact ih.cons (congrArg List.length (sent_of_nonpos none' _))
  | fails left none' final => exact Consecutive.nil.cons (congrArg List.length (sent_of_nonpos none' _))
  | more some' room later ih =>
    refine ih.cons ?_
    rw [sent_writeFrom, Int.toNat_natCast, List.length_take, List.length_drop]
    omega

/-- The first call of a run that has something left to send. -/
theorem SendRun.head (run : SendRun ssl len total result acts) (left : total < len) :
    ∃ ret error rest, acts = writeFrom ssl len total ret error :: rest := by
  cases run with
  | done => exact absurd left (lt_irrefl _)
  | retry | fails | more => exact ⟨_, _, _, rfl⟩

/-- A call that is to be tried again is followed by one with the same pointer and length. -/
def Retries (acts : List Act) : Prop :=
  ∀ before ssl slice ret error after, acts = before ++ .sslWrite ssl slice ret error :: after → ret ≤ 0 →
    error.wants = true → ∃ ret' error' rest, after = .sslWrite ssl slice ret' error' :: rest

theorem Retries.nil : Retries [] := fun _ _ _ _ _ _ split => absurd split (by simp)

theorem Retries.cons {ret : Int} {error : SslError} (rest : Retries acts)
    (here : ret ≤ 0 → error.wants = true → ∃ ret' error' later, acts = writeFrom ssl len total ret' error' :: later) :
    Retries (writeFrom ssl len total ret error :: acts) := by
  intro before ssl' slice ret' error' after split none' again
  cases before with
  | nil =>
    obtain ⟨same, rfl⟩ := List.cons_eq_cons.mp split
    cases same
    exact here none' again
  | cons first before => exact rest before _ _ _ _ _ (List.cons_eq_cons.mp split).2 none' again

theorem SendRun.retries (run : SendRun ssl len total result acts) : Retries acts := by
  induction run with
  | done => exact .nil
  | retry left none' again later ih => exact ih.cons fun _ _ => later.head left
  | fails left none' final =>
    refine Retries.nil.cons fun _ again => ?_
    rw [final] at again
    cases again
  | more some' room later ih => exact ih.cons fun none' _ => by omega

end Run

/-- What `send_tls_data` does with `len` bytes of `data`. -/
structure SendsAll (ssl : Option Ptr) (data : List Byte) (len : Nat) (result : Int) (acts : List Act) : Prop where
  accepted : written data acts <+: data.take len
  consecutive : Consecutive ssl data len 0 acts
  outcome : result = len ∨ result = -1
  all : result = len ↔ (written data acts).length = len
  retries : Retries acts

/-- **All or failure.** For every non-empty stretch of data, every SSL object and
all answers of `SSL_write` with which `send_tls_data` returns. -/
theorem sendTlsData_sendsAll (ssl : Option Ptr) (data : List Byte) (len : Nat) (positive : 0 < len)
    (fits : len ≤ data.length) (answers : List WriteAnswer) (result : Int) (acts : List Act)
    (returns : sendTlsData ssl (some data) len answers = some (result, acts)) :
    SendsAll ssl data len result acts := by
  unfold sendTlsData at returns
  split at returns
  · cases returns
    exact {
      accepted := List.nil_prefix
      consecutive := .nil
      outcome := .inr rfl
      all := iff_of_false (by omega) (Nat.ne_of_lt positive)
      retries := .nil }
  · have run := sendRun_of_loop (Nat.zero_le len) returns
    obtain ⟨n, moved, ends⟩ := run.written_eq positive data
    rw [List.drop_zero] at moved
    have count : (written data acts).length = n := by
      rw [moved, List.length_take]
      omega
    exact {
      accepted := by
        rw [moved]
        exact List.take_prefix_take_left (by omega)
      consecutive := run.consecutive fits
      outcome := by omega
      all := by omega
      retries := run.retries }

/-- The answers to sending two bytes, of which the second needs a second try. -/
def twoBytes : List WriteAnswer := [⟨.bytes 1, .none⟩, ⟨.failed, .wantWrite⟩, ⟨.bytes 1, .none⟩]

theorem sendTlsData_sendsAll_two : ∃ acts, sendTlsData (some 1) (some [71, 69]) 2 twoBytes = some (2, acts) ∧
    SendsAll (some 1) [71, 69] 2 2 acts :=
  ⟨_, rfl, sendTlsData_sendsAll (some 1) [71, 69] 2 (by decide) (by decide) twoBytes 2 _ rfl⟩

end WebBench.Communicator
