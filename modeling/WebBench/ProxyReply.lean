import WebBench.Response

/-!
# Recognising the proxy's reply

`handle_proxy_response` is called whenever the descriptor of a slot is readable,
until it returns something else than 0. What it returns depends on the bytes
received so far and not on the calls they came in.
-/

namespace WebBench
set_option autoImplicit false
open CLib

/-- The inputs of one call of `handle_proxy_response`. -/
structure Attempt where
  sys : Sys
  errno : Int
  io : Io

/-- What its `recv` finds. -/
def Attempt.found (attempt : Attempt) : Found :=
  attempt.io.recv.found (decide (attempt.io.recv = .failed) && tryAgain attempt.io.errno)

/-- What the calls have received. -/
def answered (attempts : List Attempt) : List Byte := gathered recvBufferSize [] (attempts.map (·.found))

/-- The record after calls that all return 0. -/
def stillWaits (call : Sys → Int → Connection → Io → Outcome Nat) : Connection → List Attempt → Option Connection
  | conn, [] => some conn
  | conn, attempt :: rest =>
    let o := call attempt.sys attempt.errno conn attempt.io
    if o.ret = 0 then stillWaits call o.conn rest else none

/-- The record holds what has been received, whatever else is in its buffer. -/
structure Collected (fd : Int) (conn : Connection) (got : List Byte) : Prop where
  socket : conn.sockfd = fd
  received : conn.bytesReceived = got.length
  buffer : got <+: conn.receivedResponse.toList

/-- **Recognition** of the reply on a slot that has received nothing yet, in terms of the bytes alone. -/
structure RecognisesOnce (call : Sys → Int → Connection → Io → Outcome Nat) (conn : Connection) : Prop where
  /-- While the phrase has not come, and while there is room for it, the calls return 0 and keep what they
  receive; once the buffer is full the next call reads nothing and returns -1. -/
  waits : ∀ attempts last, (∀ attempt ∈ attempts ++ [last], attempt.found ≠ .closed) →
    (answered attempts).length < recvBufferSize - 1 → ¬ strstr (cstr (answered (attempts ++ [last]))) established →
    ∃ conn', stillWaits call conn (attempts ++ [last]) = some conn' ∧
      Collected conn.sockfd conn' (answered (attempts ++ [last])) ∧
      ((answered (attempts ++ [last])).length = recvBufferSize - 1 → ∀ next : Attempt,
        (call next.sys next.errno conn' next.io).ret = -1 ∧ (call next.sys next.errno conn' next.io).calls = [])
  /-- The first call after which the phrase has come returns 1 and clears the buffer. -/
  recognises : ∀ attempts last, (∀ attempt ∈ attempts ++ [last], attempt.found ≠ .closed) →
    ¬ strstr (cstr (answered attempts)) established → strstr (cstr (answered (attempts ++ [last]))) established →
    ∃ conn', stillWaits call conn attempts = some conn' ∧
      (call last.sys last.errno conn' last.io).ret = 1 ∧
      (call last.sys last.errno conn' last.io).conn.bytesReceived = 0 ∧
      (call last.sys last.errno conn' last.io).conn.receivedResponse = .zeros _

/-! ## One call -/

section Call

variable {fd : Int} {noSocket : Int → Bool} {conn : Connection} {got : List Byte}

/-- What a call does that finds `found`, on a record that has received `got`. -/
def AnswerStep (fd : Int) (got : List Byte) (found : Found) (conn : Connection) (o : Outcome Nat) : Prop :=
  if roomFor recvBufferSize got = 0 then o.ret = -1 ∧ o.calls = []
  else match found with
    | .data waiting =>
      if strstr (cstr (got ++ waiting.take (roomFor recvBufferSize got))) established then
        o.ret = 1 ∧ o.conn.bytesReceived = 0 ∧ o.conn.receivedResponse = .zeros _
      else o.ret = 0 ∧ Collected fd o.conn (got ++ waiting.take (roomFor recvBufferSize got))
    | .later => o.ret = 0 ∧ o.conn = conn
    | .closed => True

/-- A failed `recv` is the one that `errno` is about. -/
theorem recv_again {io : Io} (room : Nat) (again : (decide (io.recv = .failed) && tryAgain io.errno) = true) (errno : Int) :
    tryAgain (errnoAfter (io.recv.ret room) errno io.errno) = true := by
  obtain ⟨failed, tries⟩ := (Bool.and_eq_true _ _).mp again
  rw [of_decide_eq_true failed]
  exact tries

/-- **One call.** -/
theorem handleProxyResponse_step (socket : noSocket fd = false) (collected : Collected fd conn got)
    (room : got.length < recvBufferSize) (waits : ¬ strstr (cstr got) established) (attempt : Attempt) :
    AnswerStep fd got attempt.found conn
      (handleProxyResponse noSocket attempt.sys attempt.errno conn attempt.io) := by
  have size : recvBufferSize = 8096 := rfl
  have open' : noSocket conn.sockfd = false := by rw [collected.socket, socket]
  have left : sizeSub (sizeSub recvBufferSize conn.bytesReceived) 1 = roomFor recvBufferSize got := by
    rw [collected.received, room_eq room]
    rfl
  unfold AnswerStep handleProxyResponse
  simp only [open', Bool.false_eq_true, if_false, left]
  by_cases full : roomFor recvBufferSize got = 0
  · have last : recvBufferSize - 1 = got.length := by
      unfold roomFor at full
      omega
    rw [if_pos full, if_pos full, last, CharArray.cstr_setNul collected.buffer room, if_neg waits]
    exact ⟨rfl, rfl⟩
  rw [if_neg full, if_neg full]
  have cases' := found_cases attempt.io.recv (decide (attempt.io.recv = .failed) && tryAgain attempt.io.errno)
    (Nat.pos_of_ne_zero full)
  change match attempt.found with | .data _ => _ | .later => _ | .closed => _ at cases'
  cases finds : attempt.found with
  | data waiting =>
    rw [finds] at cases'
    obtain ⟨chunk, some'⟩ := cases'
    have short : got.length ≤ recvBufferSize - 1 := by omega
    have fits := length_take_roomFor short waiting
    have total : sizeAdd got.length (sizeOfInt (attempt.io.recv.ret (roomFor recvBufferSize got))) =
        (got ++ waiting.take (roomFor recvBufferSize got)).length := by
      rw [total_eq some' (by unfold roomFor at full ⊢; omega), chunk, List.length_append]
    have stored : got ++ waiting.take (roomFor recvBufferSize got) <+:
        (conn.receivedResponse.store got.length (waiting.take (roomFor recvBufferSize got))).toList := by
      apply CharArray.prefix_store collected.buffer
      rw [← List.length_append]
      omega
    rw [if_pos some', collected.received, chunk, total, CharArray.cstr_setNul stored (by omega)]
    dsimp only
    by_cases comes : strstr (cstr (got ++ waiting.take (roomFor recvBufferSize got))) established
    · rw [if_pos comes, if_pos comes]
      exact ⟨rfl, rfl, rfl⟩
    · rw [if_neg comes, if_neg comes, if_neg (by omega)]
      exact ⟨rfl, collected.socket, rfl, CharArray.prefix_setNul stored (by omega)⟩
  | later =>
    rw [finds] at cases'
    rw [if_neg cases'.1, if_pos (recv_again _ cases'.2 _)]
    exact ⟨rfl, rfl⟩
  | closed => trivial

end Call

/-! ## The calls one after the other -/

section Calls

variable {fd : Int} {noSocket : Int → Bool} {conn conn' : Connection} {got : List Byte} {attempts : List Attempt}
  {call : Sys → Int → Connection → Io → Outcome Nat}

theorem answered_concat (attempts : List Attempt) (last : Attempt) :
    answered (attempts ++ [last]) = gathered recvBufferSize (answered attempts) [last.found] := by
  rw [answered, List.map_append, gathered_append]
  rfl

theorem stillWaits_concat (attempts : List Attempt) (last : Attempt) (waits : stillWaits call conn attempts = some conn')
    (none' : (call last.sys last.errno conn' last.io).ret = 0) :
    stillWaits call conn (attempts ++ [last]) = some (call last.sys last.errno conn' last.io).conn := by
  induction attempts generalizing conn with
  | nil =>
    cases waits
    exact if_pos none'
  | cons attempt rest ih =>
    rw [stillWaits] at waits
    split at waits
    · rename_i again
      rw [List.cons_append, stillWaits, if_pos again]
      exact ih waits
    · cases waits

theorem answered_dropLast (attempts : List Attempt) : answered attempts.dropLast <+: answered attempts := by
  rcases List.eq_nil_or_concat attempts with rfl | ⟨before, last, rfl⟩
  · exact List.prefix_rfl
  · rw [List.concat_eq_append, List.dropLast_concat, answered_concat]
    exact gathered_isPrefix _ _ _

/-- What has not come with more calls has not come with fewer. -/
theorem waits_of_concat {last : Attempt} (waits : ¬ strstr (cstr (answered (attempts ++ [last]))) established) :
    ¬ strstr (cstr (answered attempts)) established := by
  rw [strstr_cstr_iff] at waits ⊢
  rw [answered_concat] at waits
  exact fun comes => waits (comes.mono (gathered_isPrefix _ _ _))

/-- **Until the phrase comes** the calls return 0 and keep what they receive. -/
theorem stillWaits_collected (socket : noSocket fd = false) (collected : Collected fd conn [])
    (all : ∀ attempt ∈ attempts, attempt.found ≠ .closed)
    (room : (answered attempts.dropLast).length < recvBufferSize - 1)
    (waits : ¬ strstr (cstr (answered attempts)) established) :
    ∃ conn', stillWaits (handleProxyResponse noSocket) conn attempts = some conn' ∧
      Collected fd conn' (answered attempts) := by
  induction attempts using List.reverseRecOn with
  | nil => exact ⟨conn, rfl, collected⟩
  | append_singleton attempts last ih =>
    rw [List.dropLast_concat] at room
    have shorter := (answered_dropLast attempts).length_le.trans_lt room
    have waited := waits_of_concat waits
    obtain ⟨conn', before, has⟩ := ih (fun attempt member => all attempt (List.mem_append_left _ member)) shorter waited
    have step := handleProxyResponse_step socket has (by omega) waited last
    unfold AnswerStep at step
    rw [if_neg (by unfold roomFor; omega)] at step
    rw [answered_concat] at waits ⊢
    cases finds : last.found with
    | data waiting =>
      rw [finds] at step waits
      dsimp only [gathered] at step waits ⊢
      rw [if_neg waits] at step
      exact ⟨_, stillWaits_concat attempts last before step.1, step.2⟩
    | later =>
      rw [finds] at step
      obtain ⟨none', same⟩ := step
      refine ⟨_, stillWaits_concat attempts last before none', ?_⟩
      rw [same]
      exact has
    | closed => exact absurd finds (all last (by simp))

/-- **Recognition does not depend on the pieces.** -/
theorem handleProxyResponse_recognisesOnce (noSocket : Int → Bool) (socket : noSocket conn.sockfd = false) (fresh : conn.bytesReceived = 0) :
    RecognisesOnce (handleProxyResponse noSocket) conn where
  waits := by
    intro attempts last all room waits
    have empty : Collected conn.sockfd conn [] := ⟨rfl, fresh, List.nil_prefix⟩
    obtain ⟨conn', before, has⟩ := stillWaits_collected socket empty all (by rwa [List.dropLast_concat]) waits
    refine ⟨conn', before, has, fun full next => ?_⟩
    have step := handleProxyResponse_step socket has (by omega) waits next
    unfold AnswerStep at step
    rwa [if_pos (by unfold roomFor; omega)] at step
  recognises := by
    intro attempts last all waits comes
    have empty : Collected conn.sockfd conn [] := ⟨rfl, fresh, List.nil_prefix⟩
    have all' : ∀ attempt ∈ attempts, attempt.found ≠ .closed := fun attempt member =>
      all attempt (List.mem_append_left _ member)
    have room : (answered attempts).length < recvBufferSize - 1 := by
      by_contra full
      rw [answered_concat, gathered_full (by unfold roomFor; omega)] at comes
      exact waits comes
    obtain ⟨conn', before, has⟩ := stillWaits_collected socket empty all'
      ((answered_dropLast attempts).length_le.trans_lt room) waits
    refine ⟨conn', before, ?_⟩
    have step := handleProxyResponse_step socket has (by omega) waits last
    unfold AnswerStep at step
    rw [if_neg (by unfold roomFor; omega)] at step
    rw [answered_concat] at comes
    cases finds : last.found with
    | data waiting =>
      rw [finds] at step comes
      dsimp only [gathered] at step comes
      rwa [if_pos comes] at step
    | later =>
      rw [finds] at comes
      exact absurd comes waits
    | closed => exact absurd finds (all last (by simp))

end Calls

/-- **The reply is recognised at the call that completes the phrase.** For every
slot with a socket that has received nothing yet, in either engine with such a
function, whatever the pieces and the retries between them. -/
theorem recognisesOnce :
    (∀ conn : Connection, 0 < conn.sockfd → conn.bytesReceived = 0 → RecognisesOnce Poll.handleProxyResponse conn) ∧
      ∀ conn : Connection, 0 ≤ conn.sockfd → conn.bytesReceived = 0 → RecognisesOnce Epoll.handleProxyResponse conn :=
  ⟨fun _ socket fresh => handleProxyResponse_recognisesOnce (· ≤ 0) (by simpa using socket) fresh,
    fun _ socket fresh => handleProxyResponse_recognisesOnce (· < 0) (by simpa using socket) fresh⟩

/-- A slot on descriptor 3. -/
theorem recognisesOnce_three :
    let conn : Connection := { ConnectionOf.zero 0 with state := .proxyResponse, sockfd := 3 }
    RecognisesOnce Poll.handleProxyResponse conn ∧ RecognisesOnce Epoll.handleProxyResponse conn :=
  ⟨recognisesOnce.1 _ (by decide) rfl, recognisesOnce.2 _ (by decide) rfl⟩

end WebBench
