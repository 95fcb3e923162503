import WebBench.Lib.Arrival
import WebBench.Communicator.Functions

/-!
# Receiving over TLS

`recv_tls_data` gathers what `SSL_read` brings at the front of its buffer, until
the headers are there or the buffer is full. `RecvRun` lists what one iteration
can do; `got` is what has been received before it.
-/

namespace WebBench.Communicator
set_option autoImplicit false
open CLib

/-- The bytes of the response that a call has delivered. Over TLS a plain `recv` only reads a proxy's reply. -/
def Act.response (https : Bool) : Act → List Byte
  | .recv _ _ _ chunk => if https then [] else chunk
  | .sslRead _ _ _ chunk => if https then chunk else []
  | _ => []

/-- The response as far as it has been received. -/
def received (https : Bool) (acts : List Act) : List Byte := acts.flatMap (·.response https)

@[simp] theorem received_append (https : Bool) (acts later : List Act) :
    received https (acts ++ later) = received https acts ++ received https later := List.flatMap_append

@[simp] theorem received_cons (https : Bool) (act : Act) (acts : List Act) :
    received https (act :: acts) = act.response https ++ received https acts := rfl

@[simp] theorem received_nil (https : Bool) : received https [] = [] := rfl

/-- The `SSL_read` brings nothing. -/
def ReadAnswer.empty (answer : ReadAnswer) : Bool :=
  match answer.given with
  | .bytes data => data.isEmpty
  | .failed => true

/-- It brings nothing, and the error is none after which the loop tries again. -/
def ReadAnswer.fatal (answer : ReadAnswer) : Bool := answer.empty && answer.error != .wantRead

/-- The `SSL_read` of an iteration, into the room for `bound` bytes in all. -/
def readFrom (ssl : Option Ptr) (bound : Nat) (got chunk : List Byte) : Act :=
  .sslRead ssl got.length (roomFor bound got) chunk

/-- A chunk is stored behind what has been received, and a terminator behind it. -/
def appended {size : Nat} (buffer : CharArray size) (got chunk : List Byte) : CharArray size :=
  (buffer.store got.length chunk).setNul (got ++ chunk).length

/-- The runs of the loop from `got` on, with their results and the buffers they leave. -/
inductive RecvRun {size : Nat} (ssl : Option Ptr) (bound : Nat) :
    List Byte → CharArray size → List ReadAnswer → Int → CharArray size → List Act → Prop
  | full {got : List Byte} {buffer : CharArray size} {answers : List ReadAnswer} (all : got.length = bound - 1) :
      RecvRun ssl bound got buffer answers got.length buffer []
  | retry {got : List Byte} {buffer buffer' : CharArray size} {answer : ReadAnswer} {answers : List ReadAnswer} {ret : Int}
      {acts : List Act} (left : got.length < bound - 1) (again : answer.fatal = false)
      (later : RecvRun ssl bound got buffer answers ret buffer' acts) :
      RecvRun ssl bound got buffer (answer :: answers) ret buffer' (readFrom ssl bound got [] :: acts)
  | fails {got : List Byte} {buffer : CharArray size} {answer : ReadAnswer} {answers : List ReadAnswer}
      (left : got.length < bound - 1) (fatal : answer.fatal = true) :
      RecvRun ssl bound got buffer (answer :: answers) (-1) buffer [readFrom ssl bound got []]
  | found {got chunk : List Byte} {buffer : CharArray size} {answer : ReadAnswer} {answers : List ReadAnswer}
      (some' : chunk ≠ []) (fits : chunk.length ≤ roomFor bound got) (fine : answer.fatal = false)
      (headers : strstr (cstr (got ++ chunk)) headerEnd) :
      RecvRun ssl bound got buffer (answer :: answers) (got ++ chunk).length (appended buffer got chunk)
        [readFrom ssl bound got chunk]
  | more {got chunk : List Byte} {buffer buffer' : CharArray size} {answer : ReadAnswer} {answers : List ReadAnswer}
      {ret : Int} {acts : List Act} (some' : chunk ≠ []) (fits : chunk.length ≤ roomFor bound got)
      (fine : answer.fatal = false) (absent : ¬ strstr (cstr (got ++ chunk)) headerEnd)
      (later : RecvRun ssl bound (got ++ chunk) (appended buffer got chunk) answers ret buffer' acts) :
      RecvRun ssl bound got buffer (answer :: answers) ret buffer' (readFrom ssl bound got chunk :: acts)

section Iteration

variable {answer : ReadAnswer} {room : Nat}

/-- With room for a byte, `SSL_read` fails if and only if it brings nothing. -/
theorem ReadAnswer.ret_nonpos_iff (positive : 0 < room) : answer.given.ret room ≤ 0 ↔ answer.empty = true := by
  unfold ReadAnswer.empty
  cases answer.given with
  | failed => exact iff_of_true (show (-1 : Int) ≤ 0 by decide) rfl
  | bytes data =>
    rw [List.isEmpty_iff, ← List.length_eq_zero_iff]
    show (((data.take room).length : Nat) : Int) ≤ 0 ↔ _
    rw [List.length_take]
    omega

variable {size bound : Nat} {buffer : CharArray size} {got chunk : List Byte}

/-- What has been received is at the front of the buffer, with a terminator behind it once there is something. -/
structure Holds (buffer : CharArray size) (got : List Byte) : Prop where
  front : got <+: buffer.toList
  ended : got ≠ [] → buffer.toList[got.length]? = some 0

theorem Holds.start (buffer : CharArray size) : Holds buffer [] := ⟨List.nil_prefix, fun some' => absurd rfl some'⟩

/-- **A chunk is appended** where there is room for it and for a terminator. -/
theorem Holds.append (holds : Holds buffer got) (room : (got ++ chunk).length < size) :
    Holds (appended buffer got chunk) (got ++ chunk) := by
  have stored := CharArray.prefix_store holds.front (by rw [← List.length_append]; exact room.le)
  refine ⟨CharArray.prefix_setNul stored room, fun _ => ?_⟩
  obtain ⟨rest, cells⟩ := CharArray.setNul_front stored room
  rw [appended, cells, List.getElem?_append_right (Nat.le_refl _), Nat.sub_self]
  rfl

/-- `strstr` sees what has been received. -/
theorem Holds.cstr_appended (holds : Holds buffer got) (room : (got ++ chunk).length < size) :
    cstr (appended buffer got chunk).toList = cstr (got ++ chunk) :=
  CharArray.cstr_setNul (CharArray.prefix_store holds.front (by rw [← List.length_append]; exact room.le)) room

/-- Nothing is stored from the end of the room on. -/
theorem drop_appended (fits : bound ≤ size) (room : (got ++ chunk).length < bound) :
    (appended buffer got chunk).toList.drop bound = buffer.toList.drop bound := by
  rw [appended, CharArray.drop_setNul room]
  exact CharArray.drop_store (by rw [← List.length_append]; exact room.le) fits

end Iteration

section Run

variable {size bound : Nat} {ssl : Option Ptr} {buffer buffer' : CharArray size} {got : List Byte} {ret : Int}
  {answers : List ReadAnswer} {acts : List Act}

/-- **The loop runs so**, where the buffer holds what has been received. -/
theorem recvRun_of_loop (positive : 0 < bound) (fits : bound ≤ size) (holds : Holds buffer got) (within : got.length ≤ bound - 1)
    (returns : recvTlsLoop ssl bound got.length buffer answers = some (ret, buffer', acts)) :
    RecvRun ssl bound got buffer answers ret buffer' acts := by
  induction answers generalizing got buffer acts with
  | nil =>
    unfold recvTlsLoop at returns
    split at returns
    · cases returns
    · cases returns
      exact .full (by omega)
  | cons answer answers ih =>
    unfold recvTlsLoop at returns
    split at returns
    · rename_i left
      have left : got.length < bound - 1 := by omega
      have room : ((bound : Int) - got.length - 1).toNat = roomFor bound got := by
        unfold roomFor
        omega
      have positive : 0 < roomFor bound got := by
        unfold roomFor
        omega
      dsimp only at returns
      rw [room, Int.toNat_natCast] at returns
      split at returns
      · rename_i none'
        have empty := (ReadAnswer.ret_nonpos_iff positive).mp none'
        rw [Given.chunk_of_nonpos none'] at returns
        split at returns
        · rename_i wants
          obtain ⟨⟨_, _, later⟩, rest, made⟩ := Option.map_eq_some_iff.mp returns
          cases made
          exact .retry left (by simp [ReadAnswer.fatal, wants]) (ih holds within rest)
        · rename_i final
          cases returns
          exact .fails left (by simp [ReadAnswer.fatal, empty, final])
      · rename_i some'
        have fine : answer.fatal = false := by
          have data : answer.empty = false := Bool.eq_false_iff.mpr fun empty =>
            some' ((ReadAnswer.ret_nonpos_iff positive).mpr empty)
          simp [ReadAnswer.fatal, data]
        have count := Given.ret_of_pos (Int.not_le.mp some')
        have short := Given.chunk_length_le (roomFor bound got) answer.given
        generalize answer.given.chunk (roomFor bound got) = chunk at returns count short
        have data : chunk ≠ [] := by
          rintro rfl
          exact some' count.le
        have sum : (got.length : Int) + chunk.length = ((got ++ chunk).length : Nat) := by
          rw [List.length_append, Int.natCast_add]
        have length : (got ++ chunk).length ≤ bound - 1 := by
          unfold roomFor at short
          rw [List.length_append]
          omega
        rw [count, sum, Int.toNat_natCast] at returns
        change (if strstr (cstr (appended buffer got chunk).toList) headerEnd then _ else _) = _ at returns
        rw [holds.cstr_appended (by omega)] at returns
        split at returns
        · rename_i headers
          cases returns
          exact .found data short fine headers
        · rename_i absent
          obtain ⟨⟨_, _, later⟩, rest, made⟩ := Option.map_eq_some_iff.mp returns
          cases made
          exact .more data short fine absent (ih (holds.append (by omega)) length rest)
    · cases returns
      exact .full (by omega)

/-- The runs of `recv_tls_data`. -/
theorem recvRun_of_returns (positive : 0 < bound) (fits : bound ≤ size)
    (returns : recvTlsData ssl buffer bound answers = some (ret, buffer', acts)) :
    RecvRun ssl bound [] buffer answers ret buffer' acts :=
  recvRun_of_loop positive fits (.start buffer) (Nat.zero_le _) returns

/-! ## What a run does -/

@[simp] theorem received_readFrom (ssl : Option Ptr) (bound : Nat) (got chunk : List Byte) (acts : List Act) :
    received true (readFrom ssl bound got chunk :: acts) = chunk ++ received true acts := rfl

/-- A chunk that comes leaves room for the terminator. -/
theorem length_appended {chunk : List Byte} (some' : chunk ≠ []) (fits : chunk.length ≤ roomFor bound got) :
    (got ++ chunk).length ≤ bound - 1 ∧ 0 < bound := by
  have positive := List.length_pos_of_ne_nil some'
  unfold roomFor at fits
  rw [List.length_append]
  omega

/-- **The buffer.** A run that does not fail returns the count of what has been received, which the buffer holds. -/
theorem RecvRun.holds (run : RecvRun ssl bound got buffer answers ret buffer' acts) (fits : bound ≤ size)
    (holds : Holds buffer got) (fine : 0 ≤ ret) :
    ret = (got ++ received true acts).length ∧ ret ≤ (bound - 1 : Nat) ∧ Holds buffer' (got ++ received true acts) := by
  induction run with
  | full all =>
    rw [received_nil, List.append_nil]
    exact ⟨rfl, by omega, holds⟩
  | retry left again later ih => exact ih holds fine
  | fails left fatal => exact absurd fine (by decide)
  | found some' short calm headers =>
    obtain ⟨room, positive⟩ := length_appended some' short
    rw [received_readFrom, received_nil, List.append_nil]
    exact ⟨rfl, by omega, holds.append (by omega)⟩
  | more some' short calm absent later ih =>
    obtain ⟨room, positive⟩ := length_appended some' short
    rw [received_readFrom, ← List.append_assoc]
    exact ih (holds.append (by omega)) fine

/-- It stops where the buffer is full or the headers are there. -/
theorem RecvRun.stops (run : RecvRun ssl bound got buffer answers ret buffer' acts) (fine : 0 ≤ ret) :
    ret = (bound - 1 : Nat) ∨ strstr (cstr (got ++ received true acts)) headerEnd := by
  induction run with
  | full all => exact .inl (by rw [all])
  | retry left again later ih => exact ih fine
  | fails left fatal => exact absurd fine (by decide)
  | found some' short calm headers =>
    rw [received_readFrom, received_nil, List.append_nil]
    exact .inr headers
  | more some' short calm absent later ih =>
    rw [received_readFrom, ← List.append_assoc]
    exact ih fine

/-- With room for a byte and a terminator, it does not return without a byte. -/
theorem RecvRun.pos (run : RecvRun ssl bound got buffer answers ret buffer' acts) (least : 2 ≤ bound) (fine : 0 ≤ ret) :
    0 < ret := by
  induction run with
  | full all => omega
  | retry left again later ih | more some' fits calm absent later ih => exact ih fine
  | fails left fatal => exact absurd fine (by decide)
  | found some' fits calm headers => exact Int.natCast_pos.mpr (List.length_pos_of_ne_nil (by simp [some']))

/-- Before its last call they are not there. -/
theorem RecvRun.before (run : RecvRun ssl bound got buffer answers ret buffer' acts)
    (absent : ¬ strstr (cstr got) headerEnd) {earlier : List Act} {last : Act} (split : acts = earlier ++ [last]) :
    ¬ strstr (cstr (got ++ received true earlier)) headerEnd := by
  induction run generalizing earlier with
  | full all => exact absurd split (by simp)
  | retry left again later ih =>
    cases earlier with
    | nil => rwa [received_nil, List.append_nil]
    | cons first earlier =>
      obtain ⟨rfl, rest⟩ := List.cons_eq_cons.mp split
      have behind := ih absent rest
      rwa [received_readFrom, List.nil_append]
  | fails left fatal =>
    obtain ⟨rfl, -⟩ := List.append_eq_singleton_iff.mp split.symm |>.resolve_right (by simp)
    rwa [received_nil, List.append_nil]
  | found some' short calm headers =>
    obtain ⟨rfl, -⟩ := List.append_eq_singleton_iff.mp split.symm |>.resolve_right (by simp)
    rwa [received_nil, List.append_nil]
  | more some' short calm absent' later ih =>
    cases earlier with
    | nil => rwa [received_nil, List.append_nil]
    | cons first earlier =>
      obtain ⟨rfl, rest⟩ := List.cons_eq_cons.mp split
      rw [received_readFrom, ← List.append_assoc]
      exact ih absent' rest

/-- The result is -1 if and only if one of the calls has failed for good. -/
theorem RecvRun.fatal_iff (run : RecvRun ssl bound got buffer answers ret buffer' acts) :
    (0 ≤ ret ∨ ret = -1) ∧ (ret = -1 ↔ ∃ answer ∈ answers.take acts.length, answer.fatal = true) := by
  induction run with
  | full all => exact ⟨.inl (by omega), iff_of_false (by omega) (by simp)⟩
  | retry left again later ih | more some' short again absent later ih =>
    refine ⟨ih.1, ih.2.trans ?_⟩
    rw [List.length_cons, List.take_succ_cons, List.exists_mem_cons_iff, again]
    exact (or_iff_right Bool.false_ne_true).symm
  | fails left fatal => exact ⟨.inr rfl, iff_of_true rfl ⟨_, List.mem_cons_self, fatal⟩⟩
  | found some' short calm headers =>
    refine ⟨.inl (by omega), iff_of_false (by omega) ?_⟩
    simp [calm]

theorem length_add_roomFor (within : got.length ≤ bound - 1) (positive : 0 < bound) :
    got.length + roomFor bound got < bound := by
  unfold roomFor
  omega

/-- **The stores** stay inside: those of the calls and those of the terminators. -/
theorem RecvRun.stores (run : RecvRun ssl bound got buffer answers ret buffer' acts) {object : Option Ptr} {offset room : Nat}
    {chunk : List Byte} (member : .sslRead object offset room chunk ∈ acts) : chunk.length ≤ room ∧ offset + room < bound := by
  induction run with
  | full all => cases member
  | retry left again later ih =>
    rcases List.mem_cons.mp member with same | rest
    · cases same
      exact ⟨Nat.zero_le _, length_add_roomFor left.le (by omega)⟩
    · exact ih rest
  | fails left fatal =>
    cases List.mem_singleton.mp member
    exact ⟨Nat.zero_le _, length_add_roomFor left.le (by omega)⟩
  | found some' short calm headers =>
    cases List.mem_singleton.mp member
    obtain ⟨room, positive⟩ := length_appended some' short
    exact ⟨short, length_add_roomFor ((List.prefix_append _ _).length_le.trans room) positive⟩
  | more some' short calm absent later ih =>
    rcases List.mem_cons.mp member with same | rest
    · cases same
      obtain ⟨room, positive⟩ := length_appended some' short
      exact ⟨short, length_add_roomFor ((List.prefix_append _ _).length_le.trans room) positive⟩
    · exact ih rest

/-- The array behind the room for `bound` bytes stays as it is. -/
theorem RecvRun.rest (run : RecvRun ssl bound got buffer answers ret buffer' acts) (fits : bound ≤ size) :
    buffer'.toList.drop bound = buffer.toList.drop bound := by
  induction run with
  | full all | fails left fatal => rfl
  | retry left again later ih => exact ih
  | found some' short calm headers =>
    obtain ⟨room, positive⟩ := length_appended some' short
    exact drop_appended fits (by omega)
  | more some' short calm absent later ih =>
    obtain ⟨room, positive⟩ := length_appended some' short
    exact ih.trans (drop_appended fits (by omega))

end Run

/-- What `recv_tls_data` does with a buffer in which it may use `bound` bytes. -/
structure Accumulates {size : Nat} (bound : Nat) (buffer : CharArray size) (answers : List ReadAnswer) (ret : Int)
    (buffer' : CharArray size) (acts : List Act) : Prop where
  bounds : 0 ≤ ret → 1 ≤ ret ∧ ret ≤ bound - 1
  data : 0 ≤ ret → buffer'.toList.take ret.toNat = received true acts
  ended : 0 ≤ ret → buffer'.toList[ret.toNat]? = some 0
  stops : 0 ≤ ret → ret = bound - 1 ∨ strstr (cstr (received true acts)) headerEnd
  before : ∀ earlier last, acts = earlier ++ [last] → ¬ strstr (cstr (received true earlier)) headerEnd
  outcome : 0 ≤ ret ∨ ret = -1
  fails : ret = -1 ↔ ∃ answer ∈ answers.take acts.length, answer.fatal = true
  /-- The call may use the whole room, and the terminator goes behind the chunk. -/
  stores : ∀ ssl offset room chunk, .sslRead ssl offset room chunk ∈ acts → chunk.length ≤ room ∧ offset + room < bound
  rest : buffer'.toList.drop bound = buffer.toList.drop bound

/-- **Exactly what came, and within bounds.** For every array and every room in it
for two bytes or more, every SSL object and all answers of `SSL_read` with which
`recv_tls_data` returns. -/
theorem recvTlsData_accumulates {size : Nat} (ssl : Option Ptr) (buffer : CharArray size) (bound : Nat) (least : 2 ≤ bound)
    (fits : bound ≤ size) (answers : List ReadAnswer) (ret : Int) (buffer' : CharArray size) (acts : List Act)
    (returns : recvTlsData ssl buffer bound answers = some (ret, buffer', acts)) :
    Accumulates bound buffer answers ret buffer' acts := by
  have run := recvRun_of_returns (by omega) fits returns
  have stops := run.stops
  have holds := run.holds fits (.start buffer)
  simp only [List.nil_append] at stops holds
  exact {
    bounds := fun fine => by
      have positive := run.pos least fine
      have low := (holds fine).2.1
      omega
    data := fun fine => by
      obtain ⟨count, -, held⟩ := holds fine
      rw [count, Int.toNat_natCast]
      exact (List.prefix_iff_eq_take.mp held.front).symm
    ended := fun fine => by
      obtain ⟨count, -, held⟩ := holds fine
      rw [count, Int.toNat_natCast]
      refine held.ended fun empty => ?_
      rw [empty, List.length_nil] at count
      exact absurd count (run.pos least fine).ne'
    stops := fun fine => (stops fine).imp_left fun full => by omega
    before := fun earlier last split => run.before (by decide) split
    outcome := run.fatal_iff.1
    fails := run.fatal_iff.2
    stores := fun _ _ _ _ member => run.stores member
    rest := run.rest fits }

/-- A retry, and headers that come in two parts. -/
def splitHeaders : List ReadAnswer :=
  [⟨.bytes [72, 13, 10], .none⟩, ⟨.failed, .wantRead⟩, ⟨.bytes [13, 10, 66], .none⟩]

theorem recvTlsData_accumulates_split : ∃ buffer' acts,
    recvTlsData (some 1) (.zeros 16) 8 splitHeaders = some (6, buffer', acts) ∧
      Accumulates 8 (.zeros 16) splitHeaders 6 buffer' acts :=
  ⟨_, _, rfl, recvTlsData_accumulates (some 1) (.zeros 16) 8 (by decide) (by decide) splitHeaders 6 _ _ rfl⟩

end WebBench.Communicator
