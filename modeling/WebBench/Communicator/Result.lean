import WebBench.Communicator.Socket
import WebBench.Communicator.Exchange
import WebBench.Communicator.Tls
import WebBench.Communicator.Receive

/-!
# What the result of `communicate` means

`communicator.h` gives one `int` three meanings: a positive one is the size of
the response, zero is success in force mode, a negative one is a failure.
-/

namespace WebBench.Communicator
set_option autoImplicit false
open CLib

/-- The meaning of the result, where `acts` are the calls that were made. -/
structure Means (args : Arguments) (body : List Byte) (ret : Int) (acts : List Act) : Prop where
  zero : ret = 0 → args.force = 1 ∧ written body acts = body
  positive : 0 < ret → args.force ≠ 1 ∧ written body acts = body ∧
    ret = (received (args.protocol == protocolHttps) acts).length
  negative : ¬ (args.force = 1 ∧ written body acts = body) →
    ¬ (args.force ≠ 1 ∧ written body acts = body ∧ received (args.protocol == protocolHttps) acts ≠ []) → ret < 0

/-! ## The answers for which it holds -/

/-- The search over the addresses ends with a descriptor. -/
def Connects : List AddrInfo → List SocketAnswer → Prop
  | [], _ | _ :: _, [] => False
  | address :: rest, answer :: answers =>
    if answer.socket = -1 then Connects (address :: rest) answers
    else if answer.connect = -1 then Connects rest answers
    else 0 ≤ answer.socket

/-- There is a connection to the port. -/
def Env.Reaches (env : Env) (port : Int) : Prop := 0 < port ∧ ∃ list ∈ env.addresses, Connects list env.sockets

/-- The port a plain request goes to. -/
def plainPort (args : Arguments) : Int :=
  if 0 < args.proxyHost.bytes.length ∧ 0 < args.proxyPort then args.proxyPort else args.targetPort

/-- `send` fails or takes the whole request, and without force mode the first `recv` brings something. -/
def Env.Whole (env : Env) (force : Int) (body : List Byte) : Prop :=
  match env.send with
  | .failed => True
  | .bytes n => body.length ≤ n ∧ (force = 1 ∨ ∃ data rest, env.recvs = .bytes data :: rest ∧ data ≠ [])

/-! ## The parts of an exchange -/

section Parts

variable {args : Arguments} {body : List Byte} {ret : Int} {acts later : List Act} {env : Env} {https : Bool}

@[simp] theorem written_nil (body : List Byte) : written body [] = [] := rfl

/-- The last part of the meaning follows from the others. -/
theorem Means.of_parts (zero : ret = 0 → args.force = 1 ∧ written body acts = body)
    (positive : 0 < ret → args.force ≠ 1 ∧ written body acts = body ∧
      ret = (received (args.protocol == protocolHttps) acts).length) : Means args body ret acts := by
  refine ⟨zero, positive, fun noForce noResponse => ?_⟩
  by_contra nonneg
  rcases (Int.not_lt.mp nonneg).eq_or_lt' with none' | some'
  · exact noForce (zero none')
  · obtain ⟨wait, whole, count⟩ := positive some'
    refine noResponse ⟨wait, whole, fun empty => ?_⟩
    rw [empty] at count
    exact absurd count some'.ne'

theorem Means.of_neg (fails : ret < 0) : Means args body ret acts :=
  .of_parts (fun none' => absurd fails (by omega)) fun some' => absurd fails (by omega)

/-- Calls that move nothing of the request and nothing of the response. -/
structure Silent (https : Bool) (acts : List Act) : Prop where
  written : ∀ body, written body acts = []
  received : received https acts = []

theorem Silent.nil : Silent https [] := ⟨fun _ => rfl, rfl⟩

theorem Silent.append (first : Silent https acts) (second : Silent https later) : Silent https (acts ++ later) where
  written := fun body => by rw [written_append, first.written, second.written, List.nil_append]
  received := by rw [received_append, first.received, second.received, List.nil_append]

/-- **The search** is silent, and what it returns is a descriptor if and only if it connects. -/
theorem SocketRun.spec (https : Bool) {list : List AddrInfo} {answers : List SocketAnswer}
    (run : SocketRun list answers ret acts) : (0 ≤ ret ↔ Connects list answers) ∧ Silent https acts := by
  induction run with
  | none answers => exact ⟨iff_of_false (by decide) (by rw [Connects]; exact id), .nil⟩
  | @stays address rest answer answers ret acts failed later ih =>
    have first : Silent https [.socket address answer.socket] := ⟨fun _ => rfl, rfl⟩
    rw [Connects, if_pos failed]
    exact ⟨ih.1, first.append ih.2⟩
  | @refused address rest answer answers ret acts given refused later ih =>
    have first : Silent https [.socket address answer.socket, .connect answer.socket address answer.connect,
      .close answer.socket] := ⟨fun _ => rfl, rfl⟩
    rw [Connects, if_neg given, if_pos refused]
    exact ⟨ih.1, first.append ih.2⟩
  | connects given accepted =>
    rw [Connects, if_neg given, if_neg accepted]
    exact ⟨Iff.rfl, fun _ => rfl, rfl⟩

theorem socket_spec (https : Bool) {host : List Byte} {port : Int} (returns : socket host port env = some (ret, acts)) :
    (0 ≤ ret ↔ env.Reaches port) ∧ Silent https acts := by
  unfold socket at returns
  unfold Env.Reaches
  by_cases illegal : port ≤ 0
  · rw [if_pos illegal] at returns
    cases returns
    exact ⟨iff_of_false (by decide) fun reaches => absurd reaches.1 (by omega), .nil⟩
  rw [if_neg illegal] at returns
  cases list : env.addresses with
  | none =>
    rw [list] at returns
    cases returns
    exact ⟨iff_of_false (by decide) (by simp), fun _ => rfl, rfl⟩
  | some addresses =>
    rw [list] at returns
    obtain ⟨⟨_, tail⟩, found, made⟩ := Option.map_eq_some_iff.mp returns
    cases made
    obtain ⟨descriptor, silent⟩ := (socketRun_of_loop found).spec https
    have asked : Silent https [.getaddrinfo host port] := ⟨fun _ => rfl, rfl⟩
    refine ⟨descriptor.trans ?_, asked.append silent⟩
    simp [Int.not_le.mp illegal]

/-- The proxy's tunnel moves nothing of the request; what it reads is not part of the response. -/
theorem ProxyRun.silent {proxyHost : List Byte} {proxyPort : Int} (run : ProxyRun proxyHost proxyPort env ret acts) :
    Silent true acts := by
  have asked (fd : Int) (length : Nat) (sent : Int) : Silent true [.send fd ⟨.connectRequest, 0, length⟩ sent] :=
    ⟨fun _ => rfl, rfl⟩
  have answered (fd : Int) (room : Nat) (chunk : List Byte) : Silent true [.recv fd 0 room chunk] := ⟨fun _ => rfl, rfl⟩
  have closed (fd : Int) : Silent true [.close fd] := ⟨fun _ => rfl, rfl⟩
  cases run with
  | refused => exact .nil
  | unreached found none' => exact (socket_spec true found).2
  | unsent found length sent => exact ((socket_spec true found).2.append (asked _ _ _)).append (closed _)
  | rejected found length sent room chunk =>
    exact (((socket_spec true found).2.append (asked _ _ _)).append (answered _ _ _)).append (closed _)
  | established found length sent room chunk =>
    exact ((socket_spec true found).2.append (asked _ _ _)).append (answered _ _ _)

/-- How the descriptor of a session is got is silent. -/
theorem tunnelOrSocket_silent {proxyHost targetHost : List Byte} {proxyPort targetPort fd : Int}
    (got : tunnelOrSocket proxyHost proxyPort targetHost targetPort env = some (fd, acts)) : Silent true acts := by
  unfold tunnelOrSocket at got
  split at got
  · exact (proxyRun_of_returns got).silent
  · exact (socket_spec true got).2

/-- The set-up of TLS is silent, and so are the releases. -/
theorem Silent.setUp (connecting : Silent true acts) (env : Env) (ctx : Ptr) (fd : Int) (host : List Byte) :
    Silent true (acts ++ [.sslCtxNew (some ctx)] ++ setUpActs env ctx fd host) :=
  (connecting.append ⟨fun _ => rfl, rfl⟩).append ⟨fun _ => rfl, rfl⟩

theorem silent_release (env : Env) (ctx : Ptr) (fd : Int) :
    Silent true (.sslShutdown env.sslNew :: releaseActs env ctx fd) := ⟨fun _ => rfl, rfl⟩

/-- A `send` that does not fail takes some bytes. -/
theorem bytes_of_sent {len : Nat} {taken : Taken} (sent : 0 ≤ taken.ret len) : ∃ n, taken = .bytes n := by
  cases taken with
  | bytes n => exact ⟨n, rfl⟩
  | failed => exact absurd sent (Int.not_le.mpr (Int.negSucc_lt_zero 0))

/-- What a plain `send` has taken, whatever silent calls there are around it. -/
theorem written_around (fd : Int) (n : Nat) (body : List Byte) (before : Silent https acts)
    (after : ∀ body, written body later = []) :
    written body (acts ++ [.send fd ⟨.body, 0, body.length⟩ (min n body.length : Nat)] ++ later) = body.take n := by
  rw [written_append, written_append, before.written, after, written_cons, written_nil, Act.sent, Int.toNat_natCast,
    List.drop_zero, List.nil_append, List.append_nil, List.append_nil, List.take_eq_take_iff]
  omega

/-- The receive loop has a count of what it has received, which only grows. -/
theorem recvLoop_spec {fd : Int} {total count : Nat} {answers : List Given}
    (returns : recvLoop fd total answers = some (count, acts)) :
    count = total + (received false acts).length ∧ ∀ body, written body acts = [] := by
  induction answers generalizing total acts with
  | nil => cases returns
  | cons given answers ih =>
    unfold recvLoop at returns
    dsimp only at returns
    split at returns
    · rename_i some'
      have chunk := Given.ret_of_pos some'
      rw [chunk, Int.toNat_natCast] at returns
      split at returns
      · cases returns
        exact ⟨by simp [Act.response], fun _ => rfl⟩
      · obtain ⟨⟨_, later⟩, rest, made⟩ := Option.map_eq_some_iff.mp returns
        cases made
        obtain ⟨sum, none'⟩ := ih rest
        refine ⟨?_, fun body => none' body⟩
        rw [sum, received_cons, List.length_append, Nat.add_assoc]
        rfl
    · rename_i none'
      have chunk := Given.chunk_of_nonpos (Int.not_lt.mp none')
      cases returns
      exact ⟨by simp [Act.response, chunk], fun _ => rfl⟩

/-- It comes back with nothing if and only if its first `recv` brings nothing. -/
theorem recvLoop_pos_iff {fd : Int} {count : Nat} {answers : List Given}
    (returns : recvLoop fd 0 answers = some (count, acts)) :
    0 < count ↔ ∃ data rest, answers = .bytes data :: rest ∧ data ≠ [] := by
  cases answers with
  | nil => cases returns
  | cons given answers =>
    have room : sizeSub (sizeSub receivedBufSize 0) 1 = 8191 := by decide
    unfold recvLoop at returns
    dsimp only at returns
    rw [room] at returns
    cases given with
    | failed =>
      rw [if_neg (show ¬ Given.ret 8191 .failed > 0 by decide)] at returns
      cases returns
      simp
    | bytes data =>
      by_cases empty : data = []
      · subst empty
        rw [if_neg (show ¬ Given.ret 8191 (.bytes []) > 0 by decide)] at returns
        cases returns
        simp
      · refine iff_of_true ?_ ⟨data, answers, rfl, empty⟩
        have some' : (Given.bytes data).ret 8191 > 0 := by
          have length := List.length_pos_of_ne_nil empty
          show ((data.take 8191).length : Int) > 0
          rw [List.length_take]
          omega
        rw [if_pos some'] at returns
        split at returns
        · cases returns
          omega
        · obtain ⟨⟨_, later⟩, rest, made⟩ := Option.map_eq_some_iff.mp returns
          cases made
          have sum := (recvLoop_spec rest).1
          omega

/-- An `SSL_read` is not part of the request. -/
theorem RecvRun.written_eq {size bound : Nat} {ssl : Option Ptr} {got : List Byte} {buffer buffer' : CharArray size}
    {answers : List ReadAnswer} (run : RecvRun ssl bound got buffer answers ret buffer' acts) (body : List Byte) :
    written body acts = [] := by
  induction run with
  | full all | fails left fatal | found some' fits fine headers => rfl
  | retry left again later ih | more some' fits fine absent later ih => exact ih

/-- An `SSL_write` is not part of the response. -/
theorem SendRun.received_eq {ssl : Option Ptr} {len total : Nat} {result : Int} (run : SendRun ssl len total result acts) :
    received https acts = [] := by
  induction run with
  | done => rfl
  | retry left none' again later ih => exact ih
  | fails left none' final => rfl
  | more some' fits later ih => exact ih

/-- `send_tls_data` comes back without failing once the whole body is accepted. -/
theorem sendTlsData_whole (https : Bool) {ssl : Option Ptr} {result : Int} {answers : List WriteAnswer}
    (returns : sendTlsData ssl (some body) body.length answers = some (result, acts)) (fine : 0 ≤ result) :
    written body acts = body ∧ received https acts = [] := by
  unfold sendTlsData at returns
  split at returns
  · cases returns
    exact absurd fine (by decide)
  · rename_i some'
    have positive : 0 < body.length := by
      simp only [not_or] at some'
      omega
    have run := sendRun_of_loop (Nat.zero_le _) returns
    obtain ⟨n, moved, ends⟩ := run.written_eq positive body
    refine ⟨?_, run.received_eq⟩
    rw [moved, List.drop_zero, List.take_of_length_le]
    omega

end Parts

/-! ## The exchanges -/

section Exchange

variable {args : Arguments} {request : HTTPRequest} {env : Env} {ret : Int} {acts : List Act}

/-- **Over a plain connection** the result means what it should if and only if
there is no connection, or `send` and the first `recv` leave nothing out. -/
theorem HttpRun.means_iff {host : List Byte} {port : Int} (protocol : args.protocol = protocolHttp)
    (run : HttpRun host port request args.force env ret acts) :
    Means args request.body.bytes ret acts ↔ (env.Reaches port → env.Whole args.force request.body.bytes) := by
  have whole (n : Nat) : request.body.bytes.take n = request.body.bytes ↔ request.body.bytes.length ≤ n :=
    List.take_eq_self_iff _
  cases run with
  | illegal none' => exact iff_of_true (.of_neg (by decide)) fun reaches => absurd reaches.1 (Int.not_lt.mpr none')
  | unreached found none' =>
    have descriptor := (socket_spec false found).1
    exact iff_of_true (.of_neg (by decide)) fun reaches => absurd (descriptor.mpr reaches) (Int.not_le.mpr none')
  | unsent found some' failed =>
    refine iff_of_true (.of_neg (by decide)) fun _ => ?_
    unfold Env.Whole
    cases takes : env.send with
    | failed => exact trivial
    | bytes n =>
      rw [takes] at failed
      exact absurd failed (Int.not_lt.mpr (Int.natCast_nonneg _))
  | @forced fd connecting found some' sent force =>
    obtain ⟨descriptor, silent⟩ := socket_spec false found
    obtain ⟨n, takes⟩ := bytes_of_sent sent
    have closed : ∀ body, written body [.close fd] = [] := fun _ => rfl
    have same := written_around fd n request.body.bytes silent closed
    rw [forall_prop_of_true (descriptor.mp some')]
    unfold Env.Whole
    rw [takes]
    constructor
    · intro means
      exact ⟨(whole n).mp (same.symm.trans (means.zero rfl).2), .inl force⟩
    · rintro ⟨enough, -⟩
      exact .of_parts (fun _ => ⟨force, same.trans ((whole n).mpr enough)⟩) fun some' => absurd some' (lt_irrefl _)
  | @received fd connecting receiving total found some' sent wait loop =>
    obtain ⟨descriptor, silent⟩ := socket_spec false found
    obtain ⟨n, takes⟩ := bytes_of_sent sent
    obtain ⟨sum, none'⟩ := recvLoop_spec loop
    have pos := recvLoop_pos_iff loop
    have after : ∀ body, written body (receiving ++ [.close fd]) = [] := fun body => by
      rw [written_append, none']
      rfl
    have same := written_around fd n request.body.bytes silent after
    rw [← List.append_assoc] at same
    have response : Communicator.received false (connecting ++ [.send fd ⟨.body, 0, request.body.bytes.length⟩
        (min n request.body.bytes.length : Nat)] ++ receiving ++ [.close fd]) = Communicator.received false receiving := by
      simp [silent.received, Act.response]
    have plain : (args.protocol == protocolHttps) = false := by
      rw [protocol]
      rfl
    rw [forall_prop_of_true (descriptor.mp some')]
    unfold Env.Whole
    rw [takes]
    constructor
    · intro means
      have some' : 0 < total := by
        by_contra nothing
        exact wait (means.zero (by omega)).1
      exact ⟨(whole n).mp (same.symm.trans (means.positive (by omega)).2.1), .inr (pos.mp some')⟩
    · rintro ⟨enough, force | first⟩
      · exact absurd force wait
      · refine .of_parts (fun none' => ?_) fun _ => ⟨wait, same.trans ((whole n).mpr enough), ?_⟩
        · have some' := pos.mpr first
          omega
        · rw [plain, Taken.ret, response, sum, Nat.zero_add]

/-- **Over TLS** the result means what it should whatever the answers. -/
theorem HttpsRun.means {found : Option (Int × List Act)} {host : List Byte} (protocol : args.protocol = protocolHttps)
    (silent : ∀ fd acts, found = some (fd, acts) → Silent true acts)
    (run : HttpsRun found host request args.force env ret acts) : Means args request.body.bytes ret acts := by
  have secure : (args.protocol == protocolHttps) = true := by
    rw [protocol]
    rfl
  cases run with
  | noContext got none' => exact .of_neg (by decide)
  | unshaken got made => exact .of_neg (by decide)
  | unsent got made sending => exact .of_neg (by decide)
  | @forced fd sent connecting writes ctx got made sending all force =>
    have before := (silent _ _ got).setUp env ctx fd host
    have after := silent_release env ctx fd
    obtain ⟨whole, -⟩ := sendTlsData_whole true sending all
    refine .of_parts (fun _ => ⟨force, ?_⟩) fun some' => absurd some' (lt_irrefl _)
    rw [written_append, written_append, before.written, after.written, whole, List.nil_append, List.append_nil]
  | @received fd sent total connecting writes reads ctx buffer got made sending all wait receiving =>
    have before := (silent _ _ got).setUp env ctx fd host
    have after := silent_release env ctx fd
    obtain ⟨whole, none'⟩ := sendTlsData_whole true sending all
    have run := recvRun_of_returns (by decide) (Nat.le_refl _) receiving
    by_cases fails : total < 0
    · rw [if_pos fails]
      exact .of_neg (by decide)
    · obtain ⟨sum, -, -⟩ := run.holds (Nat.le_refl _) (.start _) (Int.not_lt.mp fails)
      have positive := run.pos (by decide) (Int.not_lt.mp fails)
      rw [if_neg fails]
      refine .of_parts (fun none' => absurd none' positive.ne') fun _ => ⟨wait, ?_, ?_⟩
      · rw [written_append, written_append, written_append, before.written, after.written, run.written_eq, whole,
          List.nil_append, List.append_nil, List.append_nil]
      · rw [secure, received_append, received_append, received_append, before.received, after.received, none',
          List.nil_append, List.nil_append, List.append_nil, sum]
        simp

/-- **When the result means what the header says.** For HTTP and HTTPS, every
request and all answers with which `communicate` returns. -/
theorem communicate_means_iff (args : Arguments) (request : HTTPRequest) (env : Env) (ret : Int) (acts : List Act)
    (protocol : args.protocol = protocolHttp ∨ args.protocol = protocolHttps)
    (returns : communicate args request env = some (ret, acts)) :
    Means args request.body.bytes ret acts ↔
      (args.protocol = protocolHttp → env.Reaches (plainPort args) → env.Whole args.force request.body.bytes) := by
  unfold communicate at returns
  rcases protocol with plain | secure
  · rw [if_pos plain] at returns
    rw [forall_prop_of_true plain]
    unfold plainPort
    split at returns
    · rename_i proxy
      rw [if_pos proxy]
      exact (httpRun_of_returns returns).means_iff plain
    · rename_i direct
      rw [if_neg direct]
      exact (httpRun_of_returns returns).means_iff plain
  · have other : args.protocol ≠ protocolHttp := by
      rw [secure]
      decide
    rw [if_neg other, if_pos secure] at returns
    have means := (httpsRun_of_returns returns).means secure fun _ _ got => tunnelOrSocket_silent got
    exact iff_of_true means fun plain => absurd plain other

end Exchange

/-- A small request. -/
def bareBody : List Byte := text "GET / HTTP/1.0\r\n\r\n"

theorem bareBody_fits : (∀ b ∈ bareBody, b ≠ 0) ∧ bareBody.length < requestBodySize :=
  ⟨by simp [bareBody, text], Nat.le_of_ble_eq_true rfl⟩

def bareRequest : HTTPRequest := { HTTPRequest.zero with body := ⟨bareBody, bareBody_fits.1, bareBody_fits.2⟩ }

theorem localhost_fits : (∀ b ∈ text "localhost", b ≠ 0) ∧ (text "localhost").length < hostnameLen :=
  ⟨by simp [text], Nat.le_of_ble_eq_true rfl⟩

def localArguments : Arguments :=
  { createDefaultArguments with targetHost := ⟨text "localhost", localhost_fits.1, localhost_fits.2⟩ }

/-- A server that takes the whole request and answers as `recvs` says. -/
def serverEnv (recvs : List Given) : Env where
  addresses := some [⟨2, 1, 6, [127, 0, 0, 1]⟩]
  sockets := [⟨3, 0⟩]
  connectSend := .failed
  connectRecv := .failed
  send := .bytes 18
  recvs := recvs
  sslCtxNew := none
  sslNew := none
  sslConnect := -1
  writes := []
  reads := []

/-- A response of two bytes and a close. -/
theorem communicate_means_iff_two : ∃ acts,
    communicate localArguments bareRequest (serverEnv [.bytes [72, 73], .bytes []]) = some (2, acts) ∧
      Means localArguments bareRequest.body.bytes 2 acts := by
  refine ⟨_, rfl, ?_⟩
  refine (communicate_means_iff localArguments bareRequest (serverEnv [.bytes [72, 73], .bytes []]) 2 _
    (.inl rfl) rfl).mpr fun _ _ => ?_
  exact ⟨by decide, .inr ⟨[72, 73], [.bytes []], rfl, by decide⟩⟩

/-- A server that closes before its first byte: the result is the one of force mode. -/
theorem close_is_success : ¬ ∀ env ret acts, communicate localArguments bareRequest env = some (ret, acts) →
    Means localArguments bareRequest.body.bytes ret acts := by
  intro means
  have force := ((means (serverEnv [.bytes []]) 0 _ rfl).zero rfl).1
  exact absurd force (by decide)

end WebBench.Communicator
