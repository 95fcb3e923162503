import WebBench.Slot
import WebBench.Transcript
import WebBench.Epoll.Handler

/-!
# `send_proxy_connect` of `bench_epoll.c`

The result of `send` is held in a `size_t`, so a failing call is read as a huge
count: with nothing sent yet the function reports the whole request as sent, and
later it takes one byte off `bytes_sent`. `exactFrom_attempts` says when the
transmission is exact all the same.
-/

namespace WebBench.Epoll
set_option autoImplicit false
open CLib

/-- The hosts and ports `send_proxy_connect` accepts. -/
structure Accepts (proxyHost : List Byte) (proxyPort : Int) (targetHost : CString hostnameLen) (targetPort : Int) :
    Prop where
  proxyHost : proxyHost ≠ []
  targetHost : targetHost.bytes ≠ []
  proxyPort : isValidPort proxyPort = true
  targetPort : isValidPort targetPort = true

section Send

variable {proxyHost : List Byte} {proxyPort : Int} {targetHost : CString hostnameLen} {targetPort : Int}

theorem Accepts.request_eq (accepts : Accepts proxyHost proxyPort targetHost targetPort) :
    connectRequest targetHost.bytes targetPort = connectText targetHost.bytes targetPort := by
  have port := accepts.targetPort
  simp only [isValidPort, Bool.and_eq_true, decide_eq_true_eq] at port
  exact connectRequest_eq targetHost targetPort (by omega) port.2

theorem Accepts.length_lt (accepts : Accepts proxyHost proxyPort targetHost targetPort) :
    (connectText targetHost.bytes targetPort).length < 1024 := by
  have port := accepts.targetPort
  simp only [isValidPort, Bool.and_eq_true, decide_eq_true_eq] at port
  exact connectText_length_lt targetHost targetPort (by omega) port.2

/-- The call `send_proxy_connect` makes with part of the request left. -/
theorem sendProxyConnect_eq (accepts : Accepts proxyHost proxyPort targetHost targetPort) (sys : Sys) (errno : Int)
    (conn : Connection) (io : Io) (socket : 0 < conn.sockfd)
    (left : conn.bytesSent < (connectText targetHost.bytes targetPort).length) :
    let len := (connectText targetHost.bytes targetPort).length
    let sent := io.send.ret (len - conn.bytesSent)
    let calls := [Call.send conn.sockfd ⟨.connectRequest, conn.bytesSent, len - conn.bytesSent⟩ sent]
    sendProxyConnect sys errno conn io proxyHost proxyPort targetHost.bytes targetPort =
      if sizeOfInt sent = 0 then
        if tryAgain (errnoAfter sent errno io.errno) then ⟨0, conn, sys, calls⟩ else ⟨-1, conn, sys, calls⟩
      else if len ≤ sizeAdd conn.bytesSent (sizeOfInt sent) then ⟨1, { conn with bytesSent := 0 }, sys, calls⟩
      else ⟨0, { conn with bytesSent := sizeAdd conn.bytesSent (sizeOfInt sent) }, sys, calls⟩ := by
  have bound := accepts.length_lt
  have hosts : ¬ (proxyHost.length = 0 ∨ targetHost.bytes.length = 0) := by
    simp [accepts.proxyHost, accepts.targetHost]
  have ports : ¬ ((!isValidPort proxyPort || !isValidPort targetPort) = true) := by
    simp [accepts.proxyPort, accepts.targetPort]
  have remaining := sizeSub_of_le left.le (by omega)
  simp only [sendProxyConnect, if_neg hosts, if_neg ports, if_neg (not_le.mpr socket), accepts.request_eq, remaining]
  rw [if_neg (by omega)]

/-- A count between 1 and the bytes offered moves `bytes_sent` by that count. -/
theorem sendProxyConnect_bytes (accepts : Accepts proxyHost proxyPort targetHost targetPort) (sys : Sys) (errno : Int)
    (conn : Connection) (io : Io) {n : Nat} (socket : 0 < conn.sockfd)
    (left : conn.bytesSent < (connectText targetHost.bytes targetPort).length) (took : io.send = .bytes n)
    (some : 0 < n) :
    let len := (connectText targetHost.bytes targetPort).length
    let calls := [Call.send conn.sockfd ⟨.connectRequest, conn.bytesSent, len - conn.bytesSent⟩
      (min n (len - conn.bytesSent) : Nat)]
    sendProxyConnect sys errno conn io proxyHost proxyPort targetHost.bytes targetPort =
      if len ≤ conn.bytesSent + n then ⟨1, { conn with bytesSent := 0 }, sys, calls⟩
      else ⟨0, { conn with bytesSent := conn.bytesSent + n }, sys, calls⟩ := by
  intro len calls
  have bound := accepts.length_lt
  have sent : io.send.ret (len - conn.bytesSent) = (min n (len - conn.bytesSent) : Nat) := by rw [took]; rfl
  have size : sizeOfInt (min n (len - conn.bytesSent) : Nat) = min n (len - conn.bytesSent) :=
    sizeOfInt_natCast (by omega)
  have total : sizeAdd conn.bytesSent (min n (len - conn.bytesSent)) =
      conn.bytesSent + min n (len - conn.bytesSent) := sizeAdd_of_lt (by omega)
  rw [sendProxyConnect_eq accepts sys errno conn io socket left]
  simp only [show (connectText targetHost.bytes targetPort).length = len from rfl, sent, size, total]
  rw [if_neg (by omega)]
  by_cases whole : len ≤ conn.bytesSent + n
  · rw [if_pos (by omega), if_pos whole]
  · have part : min n (len - conn.bytesSent) = n := Nat.min_eq_left (by omega)
    rw [if_neg (by omega), if_neg whole]
    simp only [calls, part]

/-- A failing `send` with nothing sent yet is reported as the whole request sent. -/
theorem sendProxyConnect_failed_first (accepts : Accepts proxyHost proxyPort targetHost targetPort) (sys : Sys)
    (errno : Int) (conn : Connection) (io : Io) (socket : 0 < conn.sockfd) (none : conn.bytesSent = 0)
    (failed : io.send = .failed) :
    let len := (connectText targetHost.bytes targetPort).length
    sendProxyConnect sys errno conn io proxyHost proxyPort targetHost.bytes targetPort =
      ⟨1, conn, sys, [Call.send conn.sockfd ⟨.connectRequest, 0, len⟩ (-1)]⟩ := by
  have bound := accepts.length_lt
  have positive := connectText_length_pos targetHost.bytes targetPort
  have sent : ∀ n, io.send.ret n = -1 := fun _ => by rw [failed]; rfl
  rw [sendProxyConnect_eq accepts sys errno conn io socket (by omega)]
  simp only [sent, none, sizeAdd_zero_neg_one]
  rw [if_neg (by rw [sizeOfInt_neg_one]; decide), if_pos (by omega), Nat.sub_zero, ← none]

/-- A failing `send` later takes one byte off `bytes_sent`. -/
theorem sendProxyConnect_failed_later (accepts : Accepts proxyHost proxyPort targetHost targetPort) (sys : Sys)
    (errno : Int) (conn : Connection) (io : Io) (socket : 0 < conn.sockfd) (some : 0 < conn.bytesSent)
    (left : conn.bytesSent < (connectText targetHost.bytes targetPort).length) (failed : io.send = .failed) :
    let len := (connectText targetHost.bytes targetPort).length
    sendProxyConnect sys errno conn io proxyHost proxyPort targetHost.bytes targetPort =
      ⟨0, { conn with bytesSent := conn.bytesSent - 1 }, sys,
        [Call.send conn.sockfd ⟨.connectRequest, conn.bytesSent, len - conn.bytesSent⟩ (-1)]⟩ := by
  have bound := accepts.length_lt
  have sent : ∀ n, io.send.ret n = -1 := fun _ => by rw [failed]; rfl
  rw [sendProxyConnect_eq accepts sys errno conn io socket left]
  simp only [sent, sizeAdd_neg_one some (show conn.bytesSent < 2 ^ 64 by omega)]
  rw [if_neg (by rw [sizeOfInt_neg_one]; decide), if_neg (by omega)]

/-! ## Successive calls on one connection -/

/-- One call of `send_proxy_connect`: the record before it, its answers, and what it left behind. -/
structure Attempt where
  before : Connection
  answers : Answers
  outcome : Outcome Nat

/-- The calls the handler makes while `send_proxy_connect` returns 0. -/
def attempts (proxyHost : List Byte) (proxyPort : Int) (targetHost : List Byte) (targetPort : Int) (sys : Sys) :
    Connection → List Answers → List Attempt
  | _, [] => []
  | conn, answers :: rest =>
    let outcome := sendProxyConnect sys answers.errno conn answers.io proxyHost proxyPort targetHost targetPort
    ⟨conn, answers, outcome⟩ ::
      if outcome.ret = 0 then attempts proxyHost proxyPort targetHost targetPort sys outcome.conn rest else []

/-- The buffer `connect_request`. -/
def requestBuffer (targetHost : List Byte) (targetPort : Int) : Source → List Byte
  | .connectRequest => connectText targetHost targetPort
  | .body => []

/-- What is promised of one call with `sofar` accepted before it: it leaves a
prefix of the request accepted, returns 1 only when it completes the request,
and keeps `bytes_sent` when its `send` fails, returning 0 if that is to be tried
again and -1 otherwise. -/
structure ExactCall (whole sofar accepted : List Byte) (call : Attempt) : Prop where
  isPrefix : accepted <+: whole
  completes : call.outcome.ret = 1 → sofar ≠ whole ∧ accepted = whole
  keeps : call.answers.io.send = .failed →
    call.outcome.ret = (if tryAgain call.answers.io.errno then 0 else -1) ∧
    call.outcome.conn.bytesSent = call.before.bytesSent

/-- **Exact transmission.** Every call of the run is exact. -/
def ExactFrom (targetHost : List Byte) (targetPort : Int) : List Byte → List Attempt → Prop
  | _, [] => True
  | sofar, call :: rest =>
    let accepted := sofar ++ plainSent (requestBuffer targetHost targetPort) call.outcome.calls
    ExactCall (connectText targetHost targetPort) sofar accepted call ∧
    ExactFrom targetHost targetPort accepted rest

/-- The count a `send` returns when the bytes offered allow it. -/
def countOf (answers : Answers) : Nat :=
  match answers.io.send with
  | .bytes n => n
  | .failed => 0

/-- Every failing `send` comes after `left` bytes have been counted. -/
def FailsOnlyAfter (left : Nat) (inputs : List Answers) : Prop :=
  ∀ j answers, inputs[j]? = some answers → answers.io.send = .failed → left ≤ ((inputs.take j).map countOf).sum

theorem failsOnlyAfter_cons (left : Nat) (answers : Answers) (rest : List Answers) :
    FailsOnlyAfter left (answers :: rest) ↔
      (answers.io.send = .failed → left = 0) ∧ FailsOnlyAfter (left - countOf answers) rest := by
  constructor
  · intro later
    refine ⟨fun failed => by simpa using later 0 answers rfl failed, fun j next entry failed => ?_⟩
    have counted := later (j + 1) next entry failed
    rw [List.take_succ_cons, List.map_cons, List.sum_cons] at counted
    omega
  · rintro ⟨first, later⟩ j next entry failed
    cases j with
    | zero =>
      obtain rfl : answers = next := Option.some.inj entry
      simpa using first failed
    | succ j =>
      have counted := later j next entry failed
      rw [List.take_succ_cons, List.map_cons, List.sum_cons]
      omega

/-- A `send` that fails with part of the request left breaks the promise. -/
theorem not_exactCall_failed (accepts : Accepts proxyHost proxyPort targetHost targetPort) (sys : Sys)
    (answers : Answers) (conn : Connection) (socket : 0 < conn.sockfd)
    (left : conn.bytesSent < (connectText targetHost.bytes targetPort).length) (failed : answers.io.send = .failed)
    (whole sofar accepted : List Byte) :
    ¬ ExactCall whole sofar accepted ⟨conn, answers,
      sendProxyConnect sys answers.errno conn answers.io proxyHost proxyPort targetHost.bytes targetPort⟩ := by
  intro exact'
  have promised := exact'.keeps failed
  by_cases first : conn.bytesSent = 0
  · rw [sendProxyConnect_failed_first accepts sys answers.errno conn answers.io socket first failed] at promised
    have one : (1 : Int) = if tryAgain answers.io.errno then 0 else -1 := promised.1
    split at one <;> omega
  · rw [sendProxyConnect_failed_later accepts sys answers.errno conn answers.io socket (by omega) left failed]
      at promised
    have back : conn.bytesSent - 1 = conn.bytesSent := promised.2
    omega

/-- The bytes a count of at most `len` adds to the first `k`. -/
theorem accepted_after (host : List Byte) (port fd : Int) (k : Nat) {n len : Nat} (within : n ≤ len) :
    (connectText host port).take k ++
      plainSent (requestBuffer host port) [Call.send fd ⟨.connectRequest, k, len⟩ (n : Int)] =
    (connectText host port).take (k + n) := by
  have one : plainSent (requestBuffer host port) [Call.send fd ⟨.connectRequest, k, len⟩ (n : Int)] =
      (((connectText host port).drop k).take len).take n := by
    simp [plainSent, Call.plain, Slice.bytes, requestBuffer]
  rw [one, take_append_slice within]

/-- A run that starts with `bytes_sent` bytes accepted is exact when no `send`
fails before the rest has been counted. -/
theorem exactFrom_attempts_iff (accepts : Accepts proxyHost proxyPort targetHost targetPort) (sys : Sys)
    (inputs : List Answers) (conn : Connection) (socket : 0 < conn.sockfd)
    (left : conn.bytesSent < (connectText targetHost.bytes targetPort).length)
    (counts : ∀ answers ∈ inputs, answers.io.send ≠ .bytes 0) :
    ExactFrom targetHost.bytes targetPort ((connectText targetHost.bytes targetPort).take conn.bytesSent)
      (attempts proxyHost proxyPort targetHost.bytes targetPort sys conn inputs) ↔
    FailsOnlyAfter ((connectText targetHost.bytes targetPort).length - conn.bytesSent) inputs := by
  induction inputs generalizing conn with
  | nil => exact iff_of_true trivial fun j answers entry => by simp at entry
  | cons answers rest ih =>
    rw [failsOnlyAfter_cons]
    cases took : answers.io.send with
    | failed =>
      exact iff_of_false (fun run => not_exactCall_failed accepts sys answers conn socket left took _ _ _ run.1)
        fun later => by have := later.1 rfl; omega
    | bytes n =>
      have positive : 0 < n := Nat.pos_of_ne_zero fun zero => counts answers (List.mem_cons_self ..) (zero ▸ took)
      have counted : countOf answers = n := by rw [countOf, took]
      have succeeds : ¬ answers.io.send = .failed := by rw [took]; exact Taken.noConfusion
      have short : (connectText targetHost.bytes targetPort).take conn.bytesSent ≠
          connectText targetHost.bytes targetPort := fun same => by
        have := congrArg List.length same
        rw [List.length_take] at this
        omega
      have accepted := accepted_after targetHost.bytes targetPort conn.sockfd conn.bytesSent
        (Nat.min_le_right n ((connectText targetHost.bytes targetPort).length - conn.bytesSent))
      rw [attempts, ExactFrom, counted,
        sendProxyConnect_bytes accepts sys answers.errno conn answers.io socket left took positive]
      by_cases whole : (connectText targetHost.bytes targetPort).length ≤ conn.bytesSent + n
      · -- the call that completes the request
        rw [if_pos whole]
        dsimp only
        rw [accepted.trans (List.take_of_length_le (by omega))]
        refine iff_of_true ⟨⟨List.prefix_refl _, fun _ => ⟨short, rfl⟩, fun failed => absurd failed succeeds⟩, trivial⟩
          ⟨fun failed => Taken.noConfusion failed, fun j next entry failed => ?_⟩
        omega
      · rw [if_neg whole]
        dsimp only
        rw [accepted, Nat.min_eq_left (by omega), if_pos rfl]
        have next := ih { conn with bytesSent := conn.bytesSent + n } socket (Nat.lt_of_not_le whole)
          fun answers member => counts answers (List.mem_cons_of_mem _ member)
        rw [Nat.sub_sub, ← next]
        refine ⟨fun run => ⟨fun failed => Taken.noConfusion failed, run.2⟩, fun later => ⟨⟨List.take_prefix _ _, ?_, ?_⟩,
          later.2⟩⟩
        · exact fun one => absurd (show (0 : Int) = 1 from one) (by decide)
        · exact fun failed => absurd failed succeeds

/-- **When the transmission is exact.** On a fresh connection the calls of
`send_proxy_connect` transmit the CONNECT request exactly if and only if no
`send` fails before the earlier counts add up to the whole request. -/
theorem exactFrom_iff_failsOnlyAfter (accepts : Accepts proxyHost proxyPort targetHost targetPort) (sys : Sys)
    (conn : Connection) (socket : 0 < conn.sockfd) (fresh : conn.bytesSent = 0) (inputs : List Answers)
    (counts : ∀ answers ∈ inputs, answers.io.send ≠ .bytes 0) :
    ExactFrom targetHost.bytes targetPort []
      (attempts proxyHost proxyPort targetHost.bytes targetPort sys conn inputs) ↔
    FailsOnlyAfter (connectText targetHost.bytes targetPort).length inputs := by
  have positive := connectText_length_pos targetHost.bytes targetPort
  have run := exactFrom_attempts_iff accepts sys inputs conn socket (by omega) counts
  rwa [fresh, List.take_zero, Nat.sub_zero] at run

end Send

/-- A host name of one letter. -/
def shortHost : CString hostnameLen := ⟨text "h", by decide, by decide⟩

/-- A slot whose tunnel is to be requested. -/
def tunnelling : Connection := { ConnectionOf.zero 0 with state := .proxyConnect, sockfd := 3 }

/-- The transmission is exact when the first `send` takes a part and the second the rest. -/
theorem exactFrom_two_parts :
    ExactFrom shortHost.bytes 443 []
      (attempts (text "p") 8080 shortHost.bytes 443 .initial tunnelling
        [⟨0, { Io.retry with send := .bytes 5 }⟩, ⟨0, { Io.retry with send := .bytes 1000 }⟩]) := by
  refine (exactFrom_iff_failsOnlyAfter ⟨by decide, by decide, by decide, by decide⟩ .initial tunnelling (by decide)
    rfl _ (by decide)).mpr fun j answers entry failed => ?_
  match j with
  | 0 | 1 => cases entry; exact Taken.noConfusion failed
  | j + 2 => simp at entry

/-- The first `send` is to be tried again, and `send_proxy_connect` returns 1. -/
theorem exactFrom_fails_on_retry :
    let run := attempts (text "p") 8080 shortHost.bytes 443 .initial tunnelling [⟨0, Io.retry⟩]
    run.map (·.outcome.ret) = [1] ∧ ¬ ExactFrom shortHost.bytes 443 [] run :=
  ⟨by decide, fun run => absurd (run.1.keeps rfl).1 (by decide)⟩

end WebBench.Epoll
