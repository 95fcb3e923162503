import WebBench.Epoll.Refine
import WebBench.Lib.Arrival
import WebBench.Poll.Wire
import WebBench.Select.Refine

/-!
# When a response is complete

A slot that waits for its response reads what is there, up to the room left in
its buffer, and looks for the end of the header block in all it has got. The
three engines do so alike: `ReadStep` is what one handler run does, and from it
follows where in the server's stream the slot completes, whatever the pieces.
-/

namespace WebBench
set_option autoImplicit false
open CLib

variable {κ ρ : Type}

/-- One run of the handler on a slot: the shared state, `errno`, the reported mask and the answers. -/
structure Visit (ρ : Type) where
  sys : Sys
  errno : Int
  mask : ρ
  io : Io

/-- A call that delivers nothing is either to be tried again, or the connection is over. -/
def Given.found (given : Given) (again : Bool) : Found :=
  match given with
  | .bytes (b :: rest) => .data (b :: rest)
  | .bytes [] | .failed => if again then .later else .closed

/-- What the visit of a slot that waits for its response finds. -/
def Io.found (https : Bool) (io : Io) : Found :=
  if https then io.sslRead.found io.sslGetError.wants
  else io.read.found (decide (io.read = .failed) && tryAgain io.errno)

/-- What the slot has received after the visits. -/
def heard (https : Bool) (visits : List (Visit ρ)) : List Byte :=
  gathered recvBufferSize [] (visits.map (·.io.found https))

/-- One more visit gathers what it finds. -/
theorem heard_concat (https : Bool) (visits : List (Visit ρ)) (last : Visit ρ) :
    heard https (visits ++ [last]) = gathered recvBufferSize (heard https visits) [last.io.found https] := by
  rw [heard, List.map_append, gathered_append]
  rfl

/-- The record after the visits, the last of them being the one that ends the wait for the response. -/
def Driver.visited (d : Driver κ ρ) (args : Arguments) : ConnectionOf κ → List (Visit ρ) → ConnectionOf κ
  | conn, [] => conn
  | conn, visit :: rest =>
    if conn.state = .receiving then
      d.visited args (d.handleReadyConnection args visit.sys visit.errno conn visit.mask visit.io).conn rest
    else conn

/-- The state the slot has come to, and what it has added to its counters. -/
structure Became (conn conn' : ConnectionOf κ) (state : ConnState) (speed failed : Int) : Prop where
  state : conn'.state = state
  speed : conn'.speed = conn.speed + speed
  failed : conn'.failed = conn.failed + failed

/-- **Completion**, in terms of the stream alone. `after` gives the record after
some visits, and a visit is `ready` when it is one of a readable slot. -/
structure CompletesOnce (after : List (Visit ρ) → ConnectionOf κ) (conn : ConnectionOf κ) (ready : Visit ρ → Prop)
    (stream : List Byte) : Prop where
  /-- The header block ends at `h` and fits the buffer. -/
  header : ∀ h, IsLeast {m | EndsWith headerEnd (stream.take m)} h → h ≤ recvBufferSize - 1 → ∀ visits,
    (∀ visit ∈ visits, ready visit ∧ visit.io.found conn.isHttps ≠ .closed) →
    heard conn.isHttps visits <+: stream →
    ((heard conn.isHttps visits).length < h → Became conn (after visits) .receiving 0 0) ∧
      (h ≤ (heard conn.isHttps visits).length → Became conn (after visits) .completed 1 0)
  /-- The header block does not end, or not within the buffer. -/
  noHeader : (∀ m, EndsWith headerEnd (stream.take m) → recvBufferSize - 1 < m) → ∀ visits last,
    (∀ visit ∈ visits ++ [last], ready visit ∧ visit.io.found conn.isHttps ≠ .closed) →
    heard conn.isHttps (visits ++ [last]) <+: stream →
    (heard conn.isHttps visits).length < recvBufferSize - 1 →
    Became conn (after visits) .receiving 0 0 ∧ Became conn (after (visits ++ [last])) .receiving 0 0 ∧
      ((heard conn.isHttps (visits ++ [last])).length = recvBufferSize - 1 →
        ∀ next, ready next → Became conn (after (visits ++ [last, next])) .completed 1 0)
  /-- The connection is closed while the slot still waits and has room. -/
  closed : ∀ visits last, (∀ visit ∈ visits, ready visit ∧ visit.io.found conn.isHttps ≠ .closed) → ready last →
    last.io.found conn.isHttps = .closed → (after visits).state = .receiving →
    (heard conn.isHttps visits).length < recvBufferSize - 1 →
    Became conn (after (visits ++ [last])) .error 0 1

/-! ## One run of the handler -/

/-- What a handler run does to a record that has received `got`. -/
def ReadStep (https : Bool) (holds : ConnectionOf κ → List Byte → Prop) (got : List Byte) (io : Io)
    (conn conn' : ConnectionOf κ) : Prop :=
  if roomFor recvBufferSize got = 0 then Became conn conn' .completed 1 0
  else match io.found https with
    | .data waiting =>
      if strstr (cstr (got ++ waiting.take (roomFor recvBufferSize got))) headerEnd then Became conn conn' .completed 1 0
      else holds conn' (got ++ waiting.take (roomFor recvBufferSize got)) ∧ Became conn conn' .receiving 0 0
    | .later => conn' = conn
    | .closed => Became conn conn' .error 0 1

/-- The handler runs of an engine on a slot that waits for its response are such steps. -/
structure Driver.Reads (d : Driver κ ρ) (args : Arguments) (https : Bool) (ready : Visit ρ → Prop)
    (holds : ConnectionOf κ → List Byte → Prop) : Prop where
  state : ∀ conn got, holds conn got → conn.state = .receiving
  room : ∀ conn got, holds conn got → got.length < recvBufferSize
  step : ∀ conn got visit, holds conn got → ready visit → ReadStep https holds got visit.io conn
    (d.handleReadyConnection args visit.sys visit.errno conn visit.mask visit.io).conn

section Runs

variable {d : Driver κ ρ} {args : Arguments} {https : Bool} {ready : Visit ρ → Prop}
  {holds : ConnectionOf κ → List Byte → Prop} {conn : ConnectionOf κ} {got : List Byte} {visits : List (Visit ρ)}

/-- What has become of a slot that has received `got`. -/
structure Decided (holds : ConnectionOf κ → List Byte → Prop) (conn conn' : ConnectionOf κ) (got : List Byte) : Prop where
  waits : ¬ strstr (cstr got) headerEnd → got.length < recvBufferSize - 1 →
    holds conn' got ∧ Became conn conn' .receiving 0 0
  completes : strstr (cstr got) headerEnd → Became conn conn' .completed 1 0

/-- A change of state alone, and then one that counts. -/
theorem Became.trans {conn' conn'' : ConnectionOf κ} {state state' : ConnState} {speed failed : Int}
    (first : Became conn conn' state 0 0) (second : Became conn' conn'' state' speed failed) :
    Became conn conn'' state' speed failed where
  state := second.state
  speed := by rw [second.speed, first.speed, Int.add_zero]
  failed := by rw [second.failed, first.failed, Int.add_zero]

/-- The slot still waits, and nothing is counted. -/
theorem Became.refl (state : conn.state = .receiving) : Became conn conn .receiving 0 0 :=
  ⟨state, (Int.add_zero _).symm, (Int.add_zero _).symm⟩

/-- A slot that does not wait for its response is not visited. -/
theorem visited_of_other (state : conn.state ≠ .receiving) : d.visited args conn visits = conn := by
  cases visits with
  | nil => rfl
  | cons visit rest => exact if_neg state

/-- Visits one after the other. -/
theorem visited_append (conn : ConnectionOf κ) (visits more : List (Visit ρ)) :
    d.visited args conn (visits ++ more) = d.visited args (d.visited args conn visits) more := by
  induction visits generalizing conn with
  | nil => rfl
  | cons visit rest ih =>
    by_cases waits : conn.state = .receiving
    · rw [List.cons_append, Driver.visited, Driver.visited, if_pos waits, if_pos waits, ih]
    · rw [visited_of_other waits, visited_of_other waits, visited_of_other waits]

/-- While the slot waits, the last visit is one handler call more. -/
theorem visited_last (visits : List (Visit ρ)) (last : Visit ρ) (waits : (d.visited args conn visits).state = .receiving) :
    d.visited args conn (visits ++ [last]) =
      (d.handleReadyConnection args last.sys last.errno (d.visited args conn visits) last.mask last.io).conn := by
  rw [visited_append, Driver.visited, if_pos waits]
  rfl

/-- **The response so far decides.** Without the end of a header block in it, and with room left, the slot still
waits and has just this; with it, the slot has completed once. -/
theorem Driver.Reads.tracks (reads : d.Reads args https ready holds) (held : holds conn got)
    (waits : ¬ strstr (cstr got) headerEnd) (all : ∀ visit ∈ visits, ready visit ∧ visit.io.found https ≠ .closed) :
    Decided holds conn (d.visited args conn visits) (gathered recvBufferSize got (visits.map (·.io.found https))) := by
  induction visits generalizing conn got with
  | nil => exact ⟨fun _ _ => ⟨held, .refl (reads.state _ _ held)⟩, fun ends => absurd ends waits⟩
  | cons visit rest ih =>
    obtain ⟨ready', opened⟩ := all visit List.mem_cons_self
    have later : ∀ visit ∈ rest, _ := fun visit member => all visit (List.mem_cons_of_mem _ member)
    have step := reads.step conn got visit held ready'
    by_cases full : roomFor recvBufferSize got = 0
    · rw [gathered_full full]
      refine ⟨fun _ room => ?_, fun ends => absurd ends waits⟩
      unfold roomFor at full
      omega
    rw [ReadStep, if_neg full] at step
    unfold Driver.visited
    rw [if_pos (reads.state _ _ held), List.map_cons]
    cases finds : visit.io.found https with
    | data waiting =>
      rw [finds] at step
      rw [gathered]
      dsimp only at step
      by_cases ends : strstr (cstr (got ++ waiting.take (roomFor recvBufferSize got))) headerEnd
      · rw [if_pos ends] at step
        rw [visited_of_other (by rw [step.state]; exact ConnState.noConfusion)]
        refine ⟨fun none' => absurd ?_ none', fun _ => step⟩
        rw [strstr_cstr_iff] at ends ⊢
        exact ends.mono (gathered_isPrefix recvBufferSize _ _)
      · rw [if_neg ends] at step
        obtain ⟨held', same⟩ := step
        obtain ⟨on, over'⟩ := ih held' ends later
        refine ⟨fun none' room => ?_, fun whole => same.trans (over' whole)⟩
        obtain ⟨last, kept⟩ := on none' room
        exact ⟨last, same.trans kept⟩
    | later =>
      rw [finds] at step
      rw [gathered, show _ = conn from step]
      exact ih held waits later
    | closed => exact absurd finds opened

/-- By induction on the visits: what has become of the slot is decided by what it has received. -/
theorem Driver.Reads.tracks_heard (reads : d.Reads args https ready holds) (held : holds conn [])
    (all : ∀ visit ∈ visits, ready visit ∧ visit.io.found https ≠ .closed) :
    Decided holds conn (d.visited args conn visits) (heard https visits) :=
  reads.tracks held (by decide) all

/-- A visit that leaves the slot without the end of a header block. -/
theorem Driver.Reads.waits_on (reads : d.Reads args https ready holds) (held : holds conn got) {visit : Visit ρ}
    (ready' : ready visit) (opened : visit.io.found https ≠ .closed) (room : got.length < recvBufferSize - 1)
    (waits : ¬ strstr (cstr (gathered recvBufferSize got [visit.io.found https])) headerEnd) :
    holds (d.handleReadyConnection args visit.sys visit.errno conn visit.mask visit.io).conn
        (gathered recvBufferSize got [visit.io.found https]) ∧
      Became conn (d.handleReadyConnection args visit.sys visit.errno conn visit.mask visit.io).conn .receiving 0 0 := by
  have step := reads.step conn got visit held ready'
  have left : roomFor recvBufferSize got ≠ 0 := by
    unfold roomFor
    omega
  rw [ReadStep, if_neg left] at step
  unfold gathered gathered at waits ⊢
  cases finds : visit.io.found https with
  | data waiting =>
    rw [finds] at step waits
    dsimp only at step waits ⊢
    rwa [if_neg waits] at step
  | later =>
    rw [finds] at step
    dsimp only at step ⊢
    rw [step]
    exact ⟨held, .refl (reads.state _ _ held)⟩
  | closed => exact absurd finds opened

/-- **Completion does not depend on the pieces**, for an engine whose handler runs are such steps. -/
theorem Driver.Reads.ends_once (reads : d.Reads args conn.isHttps ready holds) (held : holds conn [])
    (stream : List Byte) : CompletesOnce (d.visited args conn) conn ready stream where
  header := by
    intro h least fits visits all part
    have arrived := arrived_iff_le least part
    obtain ⟨on, over'⟩ := reads.tracks_heard held all
    rw [strstr_cstr_iff, arrived] at on over'
    exact ⟨fun early => (on (by omega) (by omega)).2, over'⟩
  noHeader := by
    intro never visits last all part room
    have all' : ∀ visit ∈ visits, _ := fun visit member => all visit (List.mem_append_left _ member)
    obtain ⟨ready', opened⟩ := all last (by simp)
    have gone := heard_concat conn.isHttps visits last
    have part' : heard conn.isHttps visits <+: stream := by
      rw [gone] at part
      exact (gathered_isPrefix _ _ _).trans part
    have absent : ∀ {got}, got <+: stream → got.length ≤ recvBufferSize - 1 → ¬ strstr (cstr got) headerEnd := by
      intro got part short
      rw [strstr_cstr_iff]
      exact not_arrived (fun m hit => by have := never m hit; omega) part
    have short : (heard conn.isHttps (visits ++ [last])).length ≤ recvBufferSize - 1 :=
      gathered_length (Nat.zero_le (recvBufferSize - 1))
    obtain ⟨held', kept⟩ := (reads.tracks_heard held all').waits (absent part' room.le) room
    obtain ⟨held'', kept'⟩ := reads.waits_on held' ready' opened room (by
      rw [← gone]
      exact absent part short)
    have after := visited_last visits last kept.state
    rw [← gone] at held''
    rw [← after] at held'' kept'
    refine ⟨kept, kept.trans kept', fun full next ready'' => ?_⟩
    have step := reads.step _ _ next held'' ready''
    rw [ReadStep, if_pos (by unfold roomFor; omega)] at step
    rw [show visits ++ [last, next] = visits ++ [last] ++ [next] by simp, visited_last _ next kept'.state]
    exact (kept.trans kept').trans step
  closed := by
    intro visits last all ready' finds waits room
    obtain ⟨on, over'⟩ := reads.tracks_heard held all
    have open' : ¬ strstr (cstr (heard conn.isHttps visits)) headerEnd := fun ends =>
      ConnState.noConfusion ((over' ends).state.symm.trans waits)
    obtain ⟨held', kept⟩ := on open' room
    have step := reads.step _ _ last held' ready'
    rw [ReadStep, if_neg (by unfold roomFor; omega), finds] at step
    rw [visited_last _ last waits]
    exact kept.trans step

end Runs

/-! ## The engines -/

/-- A record with `size_t` counts that waits for its response on `fd` and has received `got`. -/
structure Receives (https : Bool) (fd : Int) (conn : Connection) (got : List Byte) : Prop where
  state : conn.state = .receiving
  secure : conn.isHttps = https
  socket : conn.sockfd = fd
  object : https = true → conn.ssl.isSome = true
  received : conn.bytesReceived = got.length
  room : got.length < recvBufferSize
  buffer : conn.receivedResponse.toList = CharArray.padded recvBufferSize got

section Read

variable {https : Bool} {fd : Int} {conn : WebBench.Connection} {got : List Byte}

/-- What is found says what the call returns. -/
theorem found_cases (given : Given) (again : Bool) {room : Nat} (some' : 0 < room) :
    match given.found again with
    | .data waiting => given.chunk room = waiting.take room ∧ 0 < given.ret room
    | .later => ¬ 0 < given.ret room ∧ again = true
    | .closed => ¬ 0 < given.ret room ∧ again = false := by
  have none' : ¬ 0 < Given.ret room (.bytes []) ∧ ¬ 0 < Given.ret room .failed := by
    constructor
    · rw [Given.ret, List.take_nil]
      decide
    · exact show ¬ (0 : Int) < -1 by decide
  cases given with
  | failed => cases again <;> exact ⟨none'.2, rfl⟩
  | bytes data =>
    cases data with
    | nil => cases again <;> exact ⟨none'.1, rfl⟩
    | cons b rest =>
      refine ⟨rfl, ?_⟩
      show (0 : Int) < ((b :: rest).take room).length
      rw [List.length_take, List.length_cons]
      omega

/-- The handlers after a read are such a step. -/
theorem given_step (given : Given) {again : Prop} [Decidable again] (again' : Bool) (speed bytes : Int) (sys : Sys)
    (calls : List Call) (held : Receives https fd conn got) (left : 0 < roomFor recvBufferSize got) (more : speed = conn.speed + 1)
    (same : ¬ 0 < given.ret (roomFor recvBufferSize got) → (again ↔ again' = true)) :
    let bytesRead := given.ret (roomFor recvBufferSize got)
    let o : Outcome Nat :=
      if bytesRead > 0 then
        let buffer := conn.receivedResponse.store conn.bytesReceived (given.chunk (roomFor recvBufferSize got))
        let total := sizeAdd conn.bytesReceived (sizeOfInt bytesRead)
        let conn := { conn with receivedResponse := buffer.setNul total, bytesReceived := total }
        if strstr (cstr conn.receivedResponse.toList) headerEnd then
          ⟨0, { conn with state := .completed, speed := speed, bytes := bytes }, sys, calls⟩
        else ⟨0, conn, sys, calls⟩
      else if again then ⟨0, conn, sys, calls⟩
      else ⟨-1, conn.toError, sys, calls⟩
    match given.found again' with
    | .data waiting =>
      if strstr (cstr (got ++ waiting.take (roomFor recvBufferSize got))) headerEnd then Became conn o.conn .completed 1 0
      else Receives https fd o.conn (got ++ waiting.take (roomFor recvBufferSize got)) ∧ Became conn o.conn .receiving 0 0
    | .later => o.conn = conn
    | .closed => Became conn o.conn .error 0 1 := by
  intro bytesRead o
  have cases' := found_cases given again' left
  cases finds : given.found again' with
  | data waiting =>
    rw [finds] at cases'
    obtain ⟨chunk, some'⟩ := cases'
    have size : recvBufferSize = 8096 := rfl
    have limit : got.length + roomFor recvBufferSize got < recvBufferSize := by
      unfold roomFor at left ⊢
      omega
    have short := List.length_take_le (roomFor recvBufferSize got) waiting
    have total : sizeAdd got.length (sizeOfInt bytesRead) = got.length + (waiting.take (roomFor recvBufferSize got)).length := by
      rw [total_eq some' limit, chunk]
    have stored := store_received held.buffer (show got.length + (waiting.take (roomFor recvBufferSize got)).length < recvBufferSize by omega)
    simp only [o]
    rw [if_pos some']
    simp only [total, chunk, held.received, stored, CharArray.cstr_padded]
    by_cases ends : strstr (cstr (got ++ waiting.take (roomFor recvBufferSize got))) headerEnd
    · rw [if_pos ends, if_pos ends]
      exact ⟨rfl, more, (Int.add_zero _).symm⟩
    · rw [if_neg ends, if_neg ends]
      refine ⟨{ held with received := ?_, room := ?_, buffer := stored }, ?_⟩
      · exact List.length_append.symm
      · rw [List.length_append]
        omega
      · exact ⟨held.state, (Int.add_zero _).symm, (Int.add_zero _).symm⟩
  | later =>
    rw [finds] at cases'
    simp only [o]
    rw [if_neg cases'.1, if_pos ((same cases'.1).mpr cases'.2)]
  | closed =>
    rw [finds] at cases'
    have over' : ¬ again := fun holds => by
      have := (same cases'.1).mp holds
      rw [cases'.2] at this
      cases this
    simp only [o]
    rw [if_neg cases'.1, if_neg over']
    exact ⟨rfl, (Int.add_zero _).symm, rfl⟩

/-- A read that fails with -1 is the one that `errno` is about. -/
theorem read_again (io : Io) {room : Nat} :
    io.read.ret room = -1 ∧ tryAgain io.errno = true ↔ (decide (io.read = .failed) && tryAgain io.errno) = true := by
  rw [Bool.and_eq_true, decide_eq_true_eq]
  refine and_congr_left fun _ => ?_
  cases io.read with
  | failed => exact iff_of_true rfl rfl
  | bytes data =>
    refine iff_of_false (fun same => ?_) Given.noConfusion
    have count : ((data.take room).length : Int) = -1 := same
    omega

/-- One call of the handler of `bench_poll` is a read step. -/
theorem whenReceiving_step (sys : Sys) (revents : BitVec 16) (io : Io) (held : Receives https fd conn got)
    (ready : anyBit revents pollin = true) :
    ReadStep https (Receives https fd) got io conn (Poll.whenReceiving sys conn revents io).conn := by
  have size : recvBufferSize = 8096 := rfl
  have remaining : intOfSize (sizeSub (sizeSub recvBufferSize conn.bytesReceived) 1) = roomFor recvBufferSize got := by
    rw [held.received, room_eq held.room, intOfSize_of_lt (by omega)]
    rfl
  unfold ReadStep Poll.whenReceiving
  rw [if_pos ready, remaining]
  dsimp only
  rw [Int.toNat_natCast]
  by_cases full : roomFor recvBufferSize got = 0
  · rw [if_pos full, if_pos (by omega)]
    exact ⟨rfl, rfl, (Int.add_zero _).symm⟩
  rw [if_neg full, if_neg (by omega)]
  unfold Io.found
  have left := Nat.pos_of_ne_zero full
  cases https with
  | true =>
    rw [if_pos held.secure, if_pos rfl]
    exact given_step io.sslRead _ _ _ sys _ held left rfl fun _ => Iff.rfl
  | false =>
    rw [if_neg Bool.false_ne_true, if_neg (by rw [held.secure]; decide)]
    exact given_step io.read _ _ _ sys _ held left rfl fun _ => read_again io

/-- With `int` counts and an SSL object the case is the same, but for the bytes of a full buffer. -/
theorem Select.whenReceiving_eq (sys : Sys) (fds : Select.FdSets) (io : Io) (held : Receives https fd conn got)
    (left : roomFor recvBufferSize got ≠ 0) :
    Select.whenReceiving sys (Select.ofSizes conn) fds io =
      Select.outcome (Poll.whenReceiving sys conn (Select.pollMask conn.sockfd fds) io) := by
  have size : recvBufferSize = 8096 := rfl
  have room := held.room
  have count := held.received
  have remaining : intOfSize (sizeSub (sizeSub recvBufferSize conn.bytesReceived) 1) = roomFor recvBufferSize got := by
    rw [held.received, room_eq held.room, intOfSize_of_lt (by omega)]
    rfl
  have remaining' : intOfSize (sizeSub (sizeSub recvBufferSize (sizeOfInt (Select.ofSizes conn).bytesReceived)) 1) =
      roomFor recvBufferSize got := by
    show intOfSize (sizeSub (sizeSub recvBufferSize (sizeOfInt (conn.bytesReceived : Int))) 1) = _
    rw [sizeOfInt_natCast (by omega), remaining]
  have total : ∀ given : Given, given.ret (roomFor recvBufferSize got) > 0 →
      (Select.ofSizes conn).bytesReceived + given.ret (roomFor recvBufferSize got) =
        (sizeAdd conn.bytesReceived (sizeOfInt (given.ret (roomFor recvBufferSize got))) : Nat) := by
    intro given some'
    show (conn.bytesReceived : Int) + given.ret (roomFor recvBufferSize got) = _
    rw [count, total_eq some' (by unfold roomFor at left ⊢; omega), Given.ret_of_pos some']
    omega
  unfold Select.whenReceiving Poll.whenReceiving
  rw [Select.anyBit_pollin, remaining, remaining', show (Select.ofSizes conn).bytesReceived.toNat = conn.bytesReceived from
    Int.toNat_natCast _]
  dsimp only
  rw [Int.toNat_natCast]
  have more : ¬ ((roomFor recvBufferSize got : Nat) : Int) ≤ 0 := by omega
  refine Select.ite_outcome .rfl (fun _ => ?_) fun _ => rfl
  rw [if_neg more, if_neg more]
  refine Select.ite_outcome .rfl (fun secure => ?_) fun _ => ?_
  · obtain ⟨ssl, present⟩ := Option.isSome_iff_exists.mp (held.object (held.secure.symm.trans secure))
    rw [show (Select.ofSizes conn).ssl = some ssl from present, present]
    refine Select.ite_outcome .rfl (fun some' => ?_) fun _ => Select.ite_outcome .rfl (fun _ => rfl) fun _ => rfl
    rw [total _ some', Int.toNat_natCast]
    exact Select.ite_outcome .rfl (fun _ => rfl) fun _ => rfl
  · refine Select.ite_outcome .rfl (fun some' => ?_) fun _ => Select.ite_outcome .rfl (fun _ => rfl) fun _ => rfl
    rw [total _ some', Int.toNat_natCast]
    exact Select.ite_outcome .rfl (fun _ => rfl) fun _ => rfl

end Read

/-- `poll` reports data and no error. -/
def Poll.Hears (visit : Visit (BitVec 16)) : Prop :=
  anyBit visit.mask pollin = true ∧ anyBit visit.mask (pollerr ||| pollhup ||| pollnval) = false

/-- `epoll_wait` reports data and no error, and the descriptor is in the epoll instance. -/
def Epoll.Hears (sockfd : Int) (visit : Visit (BitVec 32)) : Prop :=
  anyBit visit.mask epollin = true ∧ anyBit visit.mask (epollerr ||| epollhup) = false ∧
    (visit.sys.epollDel sockfd).1 ≠ -1

/-- `select` leaves the descriptor in the set of those to be read. -/
def Select.Hears (sockfd : Int) (visit : Visit Select.FdSets) : Prop := fdIsSet sockfd visit.mask.read = true

/-- A record with `int` counts that waits for its response. -/
def Select.Receives (https : Bool) (fd : Int) (conn : Select.Connection) (got : List Byte) : Prop :=
  ∃ sizes, conn = ofSizes sizes ∧ WebBench.Receives https fd sizes got

/-- A record of sizes becomes what the record it stands for becomes. -/
theorem Became.ofSizes {conn conn' : Connection} {state : ConnState} {speed failed : Int}
    (became : Became conn conn' state speed failed) : Became (Select.ofSizes conn) (Select.ofSizes conn') state speed failed :=
  ⟨became.state, became.speed, became.failed⟩

/-- And so it reads the same. -/
theorem ReadStep.ofSizes {https : Bool} {fd : Int} {got : List Byte} {io : Io} {conn conn' : Connection}
    (step : ReadStep https (Receives https fd) got io conn conn') :
    ReadStep https (Select.Receives https fd) got io (Select.ofSizes conn) (Select.ofSizes conn') := by
  unfold ReadStep at step ⊢
  split
  · rename_i full
    rw [if_pos full] at step
    exact step.ofSizes
  · rename_i left
    rw [if_neg left] at step
    cases finds : io.found https with
    | data waiting =>
      rw [finds] at step
      dsimp only at step ⊢
      split
      · rename_i ends
        rw [if_pos ends] at step
        exact step.ofSizes
      · rename_i waits
        rw [if_neg waits] at step
        exact ⟨⟨conn', rfl, step.1⟩, step.2.ofSizes⟩
    | later =>
      rw [finds] at step
      exact congrArg Select.ofSizes step
    | closed =>
      rw [finds] at step
      exact Became.ofSizes step

/-- A full buffer ends the wait. -/
theorem Select.whenReceiving_full {https : Bool} {fd : Int} {got : List Byte} {conn : WebBench.Connection} (sys : Sys)
    (fds : FdSets) (io : Io) (held : WebBench.Receives https fd conn got) (full : roomFor recvBufferSize got = 0)
    (readable : fdIsSet (ofSizes conn).sockfd fds.read = true) :
    Became (ofSizes conn) (whenReceiving sys (ofSizes conn) fds io).conn .completed 1 0 := by
  have size : recvBufferSize = 8096 := rfl
  have room := held.room
  have remaining : intOfSize (sizeSub (sizeSub recvBufferSize (sizeOfInt (ofSizes conn).bytesReceived)) 1) =
      roomFor recvBufferSize got := by
    show intOfSize (sizeSub (sizeSub recvBufferSize (sizeOfInt (conn.bytesReceived : Int))) 1) = _
    rw [held.received, sizeOfInt_natCast (by omega), room_eq room, intOfSize_of_lt (by omega)]
    rfl
  unfold whenReceiving
  rw [if_pos readable, remaining]
  dsimp only
  rw [if_pos (by omega)]
  exact ⟨rfl, rfl, (Int.add_zero _).symm⟩

/-- The handler calls of `bench_poll` on a readable slot are read steps. -/
theorem Poll.reads (args : Arguments) (https : Bool) (fd : Int) :
    Poll.driver.Reads args https Poll.Hears (Receives https fd) where
  state := fun _ _ held => held.state
  room := fun _ _ held => held.room
  step := by
    intro conn got visit held ready
    have state := held.state
    simp only [Poll.driver, Poll.handleReadyConnection, ready.2, Bool.false_eq_true, if_false, state]
    exact whenReceiving_step _ _ _ held ready.1

/-- Those of `bench_epoll` are, where the descriptor is in the instance. -/
theorem Epoll.reads (args : Arguments) (https : Bool) (fd : Int) :
    Epoll.driver.Reads args https (Epoll.Hears fd) (Receives https fd) where
  state := fun _ _ held => held.state
  room := fun _ _ held => held.room
  step := by
    intro conn got visit held ready
    have state := held.state
    have removed := ready.2.2
    rw [← held.socket] at removed
    simp only [Epoll.driver, Epoll.handleReadyConnection, ready.2.1, removed, Bool.false_eq_true, if_false,
      Epoll.dispatchState, state]
    rw [Epoll.whenReceiving_eq]
    exact whenReceiving_step _ _ _ held (by rw [Epoll.anyBit_pollin]; exact ready.1)

/-- Those of `bench_select` are, for a descriptor left in the read set. -/
theorem Select.reads (args : Arguments) (https : Bool) (fd : Int) :
    Select.driver.Reads args https (Select.Hears fd) (Select.Receives https fd) where
  state := by
    rintro _ _ ⟨sizes, rfl, held⟩
    exact held.state
  room := by
    rintro _ _ ⟨sizes, rfl, held⟩
    exact held.room
  step := by
    rintro _ got visit ⟨sizes, rfl, held⟩ ready
    have state : (ofSizes sizes).state = .receiving := held.state
    have readable : fdIsSet (ofSizes sizes).sockfd visit.mask.read = true := by
      rw [show (ofSizes sizes).sockfd = fd from held.socket]
      exact ready
    simp only [Select.driver, Select.handleReadyConnection, state]
    by_cases full : roomFor recvBufferSize got = 0
    · rw [ReadStep, if_pos full]
      exact whenReceiving_full visit.sys visit.mask visit.io held full readable
    · rw [Select.whenReceiving_eq _ _ _ held full]
      refine (whenReceiving_step visit.sys (pollMask sizes.sockfd visit.mask) visit.io held ?_).ofSizes
      rw [anyBit_pollin]
      exact readable

/-! ## The slots that begin to wait -/

/-- The record of a slot that has just sent its request and goes on to wait for the response. -/
def Driver.Enters (d : Driver κ ρ) (args : Arguments) (request : HTTPRequest) (conn : ConnectionOf κ) : Prop :=
  ∃ slot sys errno mask io, d.SlotReachable args request slot ∧ slot.conn.state = .sending ∧
    conn = (d.handleReadyConnection args sys errno slot.conn mask io).conn ∧ conn.state = .receiving

section Entering

variable {args : Arguments} {request : HTTPRequest}

/-- A record of the receiving phase with nothing received yet waits for its response. -/
theorem Represents.receives {job : Job} {conn : Connection} {p : Phase} (record : Represents job conn p)
    (state : conn.state = .receiving) (object : job.HasObject p) (none' : conn.bytesReceived = 0) :
    Receives conn.isHttps conn.sockfd conn [] := by
  have names := record.state
  rw [state] at names
  cases p with
  | receiving ssl got =>
    have empty : got = [] := List.length_eq_zero_iff.mp (record.received.symm.trans none')
    subst empty
    exact {
      state := state
      secure := rfl
      socket := rfl
      object := fun secure => by
        rw [record.ssl ConnState.noConfusion ConnState.noConfusion]
        exact object (record.https.symm.trans secure)
      received := none'
      room := record.room
      buffer := record.buffer }
  | _ => cases names

theorem Poll.whenSending_received (sys : Sys) (conn : Connection) (revents : BitVec 16) (io : Io) :
    (Poll.whenSending sys conn revents io).conn.bytesReceived = conn.bytesReceived := by
  unfold Poll.whenSending
  dsimp only
  repeat' split
  all_goals rfl

theorem Select.whenSending_received (sys : Sys) (conn : Select.Connection) (fds : FdSets) (io : Io) :
    (whenSending sys conn fds io).conn.bytesReceived = conn.bytesReceived := by
  unfold whenSending
  dsimp only
  repeat' split
  all_goals rfl

/-- The phases before and after the step. -/
theorem Driver.Enters.phases {d : Driver κ ρ} {job : Job} {rep : ConnectionOf κ → Phase → Prop}
    {conn : ConnectionOf κ} (follows : d.Follows args request job rep) (enters : d.Enters args request conn) :
    ∃ before sys errno mask io p q, rep before p ∧ p.state = .sending ∧ before.state = .sending ∧
      conn = (d.handleReadyConnection args sys errno before mask io).conn ∧ rep conn q ∧ job.HasObject q ∧
      conn.state = .receiving := by
  obtain ⟨slot, sys, errno, mask, io, reached, sending, rfl, waits⟩ := enters
  obtain ⟨p, -, record⟩ := follows.tracks reached
  have step : d.SlotStep args slot (d.ready args sys errno mask io slot).1 :=
    .ready slot (by rw [sending]; rfl) sys errno mask io
  obtain ⟨q, trace, record'⟩ := follows.tracks (reached.next step)
  exact ⟨slot.conn, sys, errno, mask, io, p, q, record, (follows.state _ _ record).symm.trans sending, sending, rfl, record',
    Job.hasObject_of_trace trace trivial, waits⟩

/-- A phase that sends has received nothing. -/
theorem got_of_sending {p : Phase} (sending : p.state = .sending) : p.got = [] := by
  cases p with
  | sending ssl sent => rfl
  | _ => cases sending

/-- A slot of `bench_poll` that has just sent its request waits with an empty buffer. -/
theorem Poll.receives_of_enters {conn : Connection} (enters : Poll.driver.Enters args request conn) :
    Receives conn.isHttps conn.sockfd conn [] := by
  obtain ⟨before, sys, errno, mask, io, p, q, record, sending, state, same, record', object, waits⟩ :=
    enters.phases (Poll.follows args request)
  refine record'.receives waits object ?_
  have none' : before.bytesReceived = 0 := by rw [record.received, got_of_sending sending]; rfl
  rw [same] at waits ⊢
  simp only [Poll.driver, Poll.handleReadyConnection, state] at waits ⊢
  split at waits
  · exact absurd waits ConnState.noConfusion
  · rename_i usable
    rw [if_neg usable, Poll.whenSending_received, none']

/-- So does one of `bench_epoll`. -/
theorem Epoll.receives_of_enters {conn : Connection} (enters : Epoll.driver.Enters args request conn) :
    Receives conn.isHttps conn.sockfd conn [] := by
  obtain ⟨before, sys, errno, mask, io, p, q, record, sending, state, same, record', object, waits⟩ :=
    enters.phases (Epoll.follows args request)
  refine record'.receives waits object ?_
  have none' : before.bytesReceived = 0 := by rw [record.received, got_of_sending sending]; rfl
  rw [same]
  simp only [Epoll.driver, Epoll.handleReadyConnection, Epoll.dispatchState, state]
  split
  · exact none'
  split
  · exact none'
  · rw [Epoll.whenSending_eq, Poll.whenSending_received, none']

/-- So does one of `bench_select`. -/
theorem Select.receives_of_enters {conn : Select.Connection} (enters : Select.driver.Enters args request conn) :
    Select.Receives conn.isHttps conn.sockfd conn [] := by
  obtain ⟨before, sys, errno, mask, io, p, q, stands, sending, state, same, stands', object, waits⟩ :=
    enters.phases (Select.follows args request)
  obtain ⟨⟨sizes, p', made, record, -, exactly⟩, -⟩ := stands
  obtain ⟨⟨sizes', q', made', record', names', exactly'⟩, -⟩ := stands'
  have proper : p' = p := exactly (by rw [sending]; exact ConnState.noConfusion)
  have state' : sizes'.state = .receiving := (congrArg ConnectionOf.state made').symm.trans waits
  have proper' : q' = q := exactly' (by rw [← names', ← record'.state, state']; exact ConnState.noConfusion)
  subst proper proper'
  have none' : (sizes'.bytesReceived : Int) = 0 := by
    rw [show (sizes'.bytesReceived : Int) = conn.bytesReceived by rw [made']; rfl, same]
    simp only [Select.driver, Select.handleReadyConnection, state]
    rw [Select.whenSending_received, made]
    show (sizes.bytesReceived : Int) = 0
    rw [record.received, got_of_sending sending]
    rfl
  rw [made']
  exact ⟨sizes', rfl, record'.receives state' object (by omega)⟩

/-- **The end of the response does not depend on the pieces it comes in.** In
every engine, for every slot that begins to wait for its response and every
stream: the slot completes at the visit that brings the end of the header block,
or one visit after its buffer has become full, and fails at a close before that. -/
theorem completesOnce (args : Arguments) (request : HTTPRequest) (stream : List Byte) :
    (∀ conn, Poll.driver.Enters args request conn →
      CompletesOnce (Poll.driver.visited args conn) conn Poll.Hears stream) ∧
    (∀ conn, Epoll.driver.Enters args request conn →
      CompletesOnce (Epoll.driver.visited args conn) conn (Epoll.Hears conn.sockfd) stream) ∧
    (∀ conn, Select.driver.Enters args request conn →
      CompletesOnce (Select.driver.visited args conn) conn (Select.Hears conn.sockfd) stream) :=
  ⟨fun conn enters => (Poll.reads args _ conn.sockfd).ends_once (Poll.receives_of_enters enters) stream,
    fun conn enters => (Epoll.reads args _ conn.sockfd).ends_once (Epoll.receives_of_enters enters) stream,
    fun conn enters => (Select.reads args _ conn.sockfd).ends_once (Select.receives_of_enters enters) stream⟩

end Entering

/-- A slot of a plain client whose connection is up. -/
def Driver.connected (d : Driver κ ρ) (raw : ConnectionOf κ) (mask : ρ) (sys : Sys) : Slot κ :=
  (d.ready createDefaultArguments sys 0 mask { Io.retry with getsockopt := 0 }
    (d.fresh createDefaultArguments Poll.shortRequest .initial (some [⟨3, 0, 0⟩]) raw).1).1

/-- It has sent its request, all at once. -/
def Driver.asked (d : Driver κ ρ) (raw : ConnectionOf κ) (mask : ρ) (sys : Sys) : ConnectionOf κ :=
  (d.handleReadyConnection createDefaultArguments sys 0 (d.connected raw mask sys).conn mask
    { Io.retry with send := .bytes 4 }).conn

theorem Driver.asked_enters {d : Driver κ ρ} {raw : ConnectionOf κ} {mask : ρ} {sys : Sys} (allowed : d.raw raw)
    (opened : (d.fresh createDefaultArguments Poll.shortRequest .initial (some [⟨3, 0, 0⟩]) raw).1.conn.state = .connecting)
    (sending : (d.connected raw mask sys).conn.state = .sending) (waits : (d.asked raw mask sys).state = .receiving) :
    d.Enters createDefaultArguments Poll.shortRequest (d.asked raw mask sys) := by
  have pollable := congrArg ConnState.pollable opened
  exact ⟨_, sys, 0, mask, _, .next (.start (.fresh .initial _ raw allowed)) (.ready _ pollable sys 0 mask _), sending, rfl, waits⟩

/-- Such a slot of each engine completes once, whatever pieces `stream` comes in. -/
theorem completesOnce_asked :
    let stream := text "HTTP/1.1 200 OK\r\n\r\n"
    let polled := Poll.driver.asked (.zero 0) pollout .initial
    let epolled := Epoll.driver.asked (.zero 0) epollout
      { Sys.initial with epoll := fun fd => if fd = 3 then some ⟨epollout, 0, false⟩ else none }
    let selected := Select.driver.asked (.zero 0) ⟨[], [3]⟩ .initial
    CompletesOnce (Poll.driver.visited createDefaultArguments polled) polled Poll.Hears stream ∧
      CompletesOnce (Epoll.driver.visited createDefaultArguments epolled) epolled (Epoll.Hears epolled.sockfd) stream ∧
      CompletesOnce (Select.driver.visited createDefaultArguments selected) selected (Select.Hears selected.sockfd)
        stream := by
  intro stream polled epolled selected
  obtain ⟨poll, epoll, select⟩ := completesOnce createDefaultArguments Poll.shortRequest stream
  exact ⟨poll _ (Driver.asked_enters trivial (by decide) (by decide) (by decide)),
    epoll _ (Driver.asked_enters rfl (by decide) (by decide) (by decide)),
    select _ (Driver.asked_enters trivial (by decide) (by decide) (by decide))⟩

end WebBench
