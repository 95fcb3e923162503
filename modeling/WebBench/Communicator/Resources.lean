import Mathlib.Logic.Function.Basic
import WebBench.Lib.Lifetime
import WebBench.Communicator.Result

/-!
# What a call of `communicate` holds

Descriptors, SSL contexts and SSL objects are acquired and released on many
paths. `touches` reads off the calls what is done to them, and `Leads` goes from
what is open before some calls to what is open after them.
-/

namespace WebBench.Communicator
set_option autoImplicit false
open CLib

/-- What has to be released. An SSL object is named by a pointer that may be null. -/
inductive Resource where
  | fd (fd : Int)
  | ctx (ctx : Ptr)
  | ssl (ssl : Option Ptr)
  deriving DecidableEq, Repr

/-- The use of a descriptor; a negative number is none. -/
def useFd (fd : Int) : List (Touch Resource) := if 0 ≤ fd then [.use (.fd fd)] else []

/-- What a call does to resources, where `bound` gives the descriptor of an SSL object. -/
def Act.touches (bound : Option Ptr → Int) : Act → List (Touch Resource)
  | .getaddrinfo _ _ => []
  | .socket _ fd => if 0 ≤ fd then [.acquire (.fd fd)] else []
  | .connect fd _ _ | .send fd _ _ | .recv fd _ _ _ => useFd fd
  | .close fd => if 0 ≤ fd then [.release (.fd fd)] else []
  | .sslCtxNew none => []
  | .sslCtxNew (some ctx) => [.acquire (.ctx ctx)]
  | .sslCtxFree ctx => [.release (.ctx ctx)]
  | .sslNew ctx none => [.use (.ctx ctx)]
  | .sslNew ctx (some ssl) => [.use (.ctx ctx), .acquire (.ssl (some ssl))]
  | .sslSetFd ssl fd => .use (.ssl ssl) :: useFd fd
  | .sslSetHostName ssl _ => [.use (.ssl ssl)]
  | .sslConnect ssl _ | .sslWrite ssl _ _ _ | .sslRead ssl _ _ _ | .sslShutdown ssl => .use (.ssl ssl) :: useFd (bound ssl)
  | .sslFree ssl => [.release (.ssl ssl)]

/-- A new object has no descriptor, and `SSL_set_fd` gives it one. -/
def Act.binds (bound : Option Ptr → Int) : Act → Option Ptr → Int
  | .sslNew _ ssl => Function.update bound ssl (-1)
  | .sslSetFd ssl fd => Function.update bound ssl fd
  | _ => bound

/-- The descriptors of the SSL objects after some calls. -/
def binding (bound : Option Ptr → Int) (acts : List Act) : Option Ptr → Int := acts.foldl Act.binds bound

/-- What some calls do to resources. -/
def touches : (Option Ptr → Int) → List Act → List (Touch Resource)
  | _, [] => []
  | bound, act :: acts => act.touches bound ++ touches (act.binds bound) acts

/-- No object has a descriptor. -/
def unbound : Option Ptr → Int := fun _ => -1

/-- The calls lead from what is open and bound before them to what is so after them. -/
structure Leads (bound : Option Ptr → Int) (opened : Set Resource) (acts : List Act) (bound' : Option Ptr → Int)
    (opened' : Set Resource) : Prop where
  uses : Uses opened (touches bound acts) opened'
  binds : binding bound acts = bound'

/-- What is open with a descriptor that may be none. -/
def withFd (opened : Set Resource) (fd : Int) : Set Resource := if 0 ≤ fd then insert (.fd fd) opened else opened

/-- The kernel gives no descriptor that is open, OpenSSL no object that is alive. -/
structure Env.Fresh (env : Env) (opened : Set Resource) : Prop where
  sockets : ∀ answer ∈ env.sockets, 0 ≤ answer.socket → .fd answer.socket ∉ opened
  ctx : ∀ ctx, env.sslCtxNew = some ctx → .ctx ctx ∉ opened
  ssl : .ssl env.sslNew ∉ opened

section Calls

variable {bound bound' bound'' : Option Ptr → Int} {opened opened' opened'' : Set Resource} {acts later : List Act} {act : Act}
  {fd : Int}

/-- What more calls do follows what the first ones do, with the descriptors these have bound. -/
theorem touches_append (bound : Option Ptr → Int) (acts later : List Act) :
    touches bound (acts ++ later) = touches bound acts ++ touches (binding bound acts) later := by
  induction acts generalizing bound with
  | nil => rfl
  | cons act acts ih =>
    rw [List.cons_append, touches, ih, touches, List.append_assoc]
    rfl

/-- No calls lead nowhere. -/
theorem Leads.nil (bound : Option Ptr → Int) (opened : Set Resource) : Leads bound opened [] bound opened :=
  ⟨.nil opened, rfl⟩

/-- Later calls lead on from where the first ones end. -/
theorem Leads.append (first : Leads bound opened acts bound' opened') (second : Leads bound' opened' later bound'' opened'') :
    Leads bound opened (acts ++ later) bound'' opened'' := by
  obtain ⟨uses, rfl⟩ := first
  refine ⟨?_, ?_⟩
  · rw [touches_append]
    exact uses.append second.uses
  · rw [binding, List.foldl_append]
    exact second.binds

/-- One call. -/
theorem Leads.one (uses : Uses opened (act.touches bound) opened') (binds : act.binds bound = bound') :
    Leads bound opened [act] bound' opened' := by
  refine ⟨?_, binds⟩
  rw [touches, touches, List.append_nil]
  exact uses

/-- The call only uses what is open. -/
structure Idle (bound : Option Ptr → Int) (opened : Set Resource) (act : Act) : Prop where
  only : ∀ touch ∈ act.touches bound, ∃ thing ∈ opened, touch = .use thing
  binds : act.binds bound = bound

/-- Calls that only use what is open change nothing. -/
theorem Leads.idle (idle : ∀ act ∈ acts, Idle bound opened act) : Leads bound opened acts bound opened := by
  induction acts with
  | nil => exact .nil bound opened
  | cons act acts ih =>
    have here := idle act List.mem_cons_self
    exact .append (.one (.of_use here.only) here.binds) (ih fun act member => idle act (List.mem_cons_of_mem _ member))

/-! ## Descriptors -/

/-- A descriptor is used only where there is one, and then it is open. -/
theorem useFd_withFd (opened : Set Resource) (fd : Int) :
    ∀ touch ∈ useFd fd, ∃ thing ∈ withFd opened fd, touch = .use thing := by
  unfold useFd withFd
  split
  · intro touch member
    exact ⟨.fd fd, Set.mem_insert _ _, List.mem_singleton.mp member⟩
  · simp

/-- A new descriptor. -/
theorem leads_socket {address : AddrInfo} (fresh : 0 ≤ fd → .fd fd ∉ opened) :
    Leads bound opened [.socket address fd] bound (withFd opened fd) := by
  refine .one ?_ rfl
  show Uses opened (if 0 ≤ fd then [.acquire (.fd fd)] else []) (withFd opened fd)
  unfold withFd
  by_cases given : 0 ≤ fd
  · rw [if_pos given, if_pos given]
    exact .cons (fresh given) (.nil _)
  · rw [if_neg given, if_neg given]
    exact .nil opened

/-- It is closed again. -/
theorem leads_close (fresh : 0 ≤ fd → .fd fd ∉ opened) : Leads bound (withFd opened fd) [.close fd] bound opened := by
  refine .one ?_ rfl
  show Uses (withFd opened fd) (if 0 ≤ fd then [.release (.fd fd)] else []) opened
  unfold withFd
  by_cases given : 0 ≤ fd
  · rw [if_pos given, if_pos given]
    exact .release (fresh given)
  · rw [if_neg given, if_neg given]
    exact .nil opened

theorem idle_connect {address : AddrInfo} {ret : Int} : Idle bound (withFd opened fd) (.connect fd address ret) :=
  ⟨useFd_withFd opened fd, rfl⟩

theorem idle_send {slice : Slice} {ret : Int} : Idle bound (withFd opened fd) (.send fd slice ret) :=
  ⟨useFd_withFd opened fd, rfl⟩

theorem idle_recv {offset room : Nat} {chunk : List Byte} : Idle bound (withFd opened fd) (.recv fd offset room chunk) :=
  ⟨useFd_withFd opened fd, rfl⟩

end Calls

/-! ## The functions -/

section Functions

variable {bound : Option Ptr → Int} {opened : Set Resource} {env : Env} {ret : Int} {acts : List Act}

/-- What is open is as before, and the descriptor that is returned, if any; it is a new one. -/
structure Gives (bound : Option Ptr → Int) (opened : Set Resource) (acts : List Act) (ret : Int) : Prop where
  leads : Leads bound opened acts bound (withFd opened ret)
  fresh : 0 ≤ ret → .fd ret ∉ opened

/-- No descriptor is returned, and what is open is as before. -/
theorem Gives.of_neg (leads : Leads bound opened acts bound opened) (none' : ret < 0) : Gives bound opened acts ret := by
  have same : withFd opened ret = opened := if_neg (by omega)
  exact ⟨same.symm ▸ leads, fun some' => absurd some' (by omega)⟩

/-- Without a descriptor nothing is left open. -/
theorem Gives.nothing (gives : Gives bound opened acts ret) (none' : ret < 0) : Leads bound opened acts bound opened := by
  have same : withFd opened ret = opened := if_neg (by omega)
  have leads := gives.leads
  rwa [same] at leads

/-- More calls before. -/
theorem Gives.after {later : List Act} (first : Leads bound opened acts bound opened) (gives : Gives bound opened later ret) :
    Gives bound opened (acts ++ later) ret := ⟨first.append gives.leads, gives.fresh⟩

/-- **The search** closes every descriptor but the one it returns. -/
theorem SocketRun.gives {list : List AddrInfo} {answers : List SocketAnswer} (run : SocketRun list answers ret acts)
    (fresh : ∀ answer ∈ answers, 0 ≤ answer.socket → .fd answer.socket ∉ opened) : Gives bound opened acts ret := by
  have socket (address : AddrInfo) {fd : Int} (new : 0 ≤ fd → .fd fd ∉ opened) :
      Leads bound opened [.socket address fd] bound (withFd opened fd) := leads_socket new
  have connect (address : AddrInfo) (fd ret : Int) :
      Leads bound (withFd opened fd) [.connect fd address ret] bound (withFd opened fd) := .idle (List.forall_mem_singleton.mpr idle_connect)
  induction run with
  | none answers => exact .of_neg (.nil bound opened) (by decide)
  | @stays address rest answer answers ret acts failed later ih =>
    have same : withFd opened answer.socket = opened := if_neg (by omega)
    have asked := socket address (fresh answer List.mem_cons_self)
    rw [same] at asked
    exact .after asked (ih fun other member => fresh other (List.mem_cons_of_mem answer member))
  | @refused address rest answer answers ret acts given refused later ih =>
    have new := fresh answer List.mem_cons_self
    exact .after (((socket address new).append (connect address _ _)).append (leads_close new))
      (ih fun other member => fresh other (List.mem_cons_of_mem answer member))
  | @connects address rest answer answers given accepted =>
    have new := fresh answer List.mem_cons_self
    exact ⟨(socket address new).append (connect address _ _), new⟩

theorem leads_getaddrinfo {host : List Byte} {port : Int} : Leads bound opened [.getaddrinfo host port] bound opened :=
  .one (.nil opened) rfl

/-- Whatever `Socket` tries, it leaves the descriptor it returns and no other. -/
theorem socket_gives {host : List Byte} {port : Int} (fresh : env.Fresh opened)
    (returns : socket host port env = some (ret, acts)) : Gives bound opened acts ret := by
  unfold socket at returns
  split at returns
  · cases returns
    exact .of_neg (.nil bound opened) (by decide)
  cases list : env.addresses with
  | none =>
    rw [list] at returns
    cases returns
    exact .of_neg leads_getaddrinfo (by decide)
  | some addresses =>
    rw [list] at returns
    obtain ⟨⟨_, tail⟩, found, made⟩ := Option.map_eq_some_iff.mp returns
    cases made
    exact .after leads_getaddrinfo ((socketRun_of_loop found).gives fresh.sockets)

/-- Calls on the descriptor, which stays open. -/
theorem Gives.using {during : List Act} (gives : Gives bound opened acts ret)
    (idle : ∀ act ∈ during, Idle bound (withFd opened ret) act) : Gives bound opened (acts ++ during) ret :=
  ⟨gives.leads.append (.idle idle), gives.fresh⟩

/-- The descriptor is closed. -/
theorem Gives.close (gives : Gives bound opened acts ret) : Leads bound opened (acts ++ [.close ret]) bound opened :=
  gives.leads.append (leads_close gives.fresh)

/-- **The tunnel.** The proxy's descriptor is returned, or closed. -/
theorem ProxyRun.gives {proxyHost : List Byte} {proxyPort : Int} (run : ProxyRun proxyHost proxyPort env ret acts)
    (fresh : env.Fresh opened) : Gives bound opened acts ret := by
  have asked {fd : Int} {connecting : List Act} (found : Communicator.socket proxyHost proxyPort env = some (fd, connecting))
      (length : Nat) (sent : Int) : Gives bound opened (connecting ++ [.send fd ⟨.connectRequest, 0, length⟩ sent]) fd :=
    (socket_gives fresh found).using (List.forall_mem_singleton.mpr idle_send)
  cases run with
  | refused => exact .of_neg (.nil bound opened) (by decide)
  | unreached found none' => exact .of_neg ((socket_gives fresh found).nothing none') (by decide)
  | unsent found length sent => exact .of_neg (asked found length sent).close (by decide)
  | rejected found length sent room chunk =>
    exact .of_neg ((asked found length sent).using (List.forall_mem_singleton.mpr idle_recv)).close (by decide)
  | established found length sent room chunk =>
    exact (asked found length sent).using (List.forall_mem_singleton.mpr idle_recv)

/-- The loop that reads the response only uses its descriptor. -/
theorem recvLoop_idle {fd : Int} {total count : Nat} {answers : List Given}
    (returns : recvLoop fd total answers = some (count, acts)) : ∀ act ∈ acts, Idle bound (withFd opened fd) act := by
  induction answers generalizing total acts with
  | nil => cases returns
  | cons given answers ih =>
    unfold recvLoop at returns
    dsimp only at returns
    split at returns
    · split at returns
      · cases returns
        exact List.forall_mem_singleton.mpr idle_recv
      · obtain ⟨⟨_, later⟩, rest, made⟩ := Option.map_eq_some_iff.mp returns
        cases made
        exact List.forall_mem_cons.mpr ⟨idle_recv, ih rest⟩
    · cases returns
      exact List.forall_mem_singleton.mpr idle_recv

/-- **A plain exchange** leaves open what was open before. -/
theorem HttpRun.leads {host : List Byte} {port : Int} {request : HTTPRequest} {force : Int}
    (run : HttpRun host port request force env ret acts) (fresh : env.Fresh opened) : Leads bound opened acts bound opened := by
  have asked {fd : Int} {connecting : List Act} (found : Communicator.socket host port env = some (fd, connecting))
      (slice : Slice) (sent : Int) : Gives bound opened (connecting ++ [.send fd slice sent]) fd :=
    (socket_gives fresh found).using (List.forall_mem_singleton.mpr idle_send)
  cases run with
  | illegal none' => exact .nil bound opened
  | unreached found none' => exact (socket_gives fresh found).nothing none'
  | unsent found some' failed => exact (asked found _ _).close
  | forced found some' sent force => exact (asked found _ _).close
  | received found some' sent wait loop => exact ((asked found _ _).using (recvLoop_idle loop)).close

/-! ## The TLS session -/

/-- The calls on an SSL object between its set-up and its release. -/
inductive OnObject (ssl : Option Ptr) : Act → Prop
  | setHostName (host : List Byte) : OnObject ssl (.sslSetHostName ssl host)
  | connect (ret : Int) : OnObject ssl (.sslConnect ssl ret)
  | write (slice : Slice) (ret : Int) (error : SslError) : OnObject ssl (.sslWrite ssl slice ret error)
  | read (offset room : Nat) (chunk : List Byte) : OnObject ssl (.sslRead ssl offset room chunk)
  | shutdown : OnObject ssl (.sslShutdown ssl)

/-- What is open in a session. -/
def inSession (opened : Set Resource) (fd : Int) (ctx : Ptr) (ssl : Option Ptr) : Set Resource :=
  insert (.ssl ssl) (insert (.ctx ctx) (withFd opened fd))

section Session

variable {fd : Int} {ctx : Ptr} {ssl : Option Ptr} {act : Act} {thing : Resource}

theorem notMem_withFd (other : thing ≠ .fd fd) (fresh : thing ∉ opened) : thing ∉ withFd opened fd := by
  unfold withFd
  split
  · exact fun member => (Set.mem_insert_iff.mp member).elim other fresh
  · exact fresh

/-- The object and its descriptor are open. -/
theorem use_object (opened : Set Resource) (fd : Int) (ctx : Ptr) (ssl : Option Ptr) :
    ∀ touch ∈ .use (.ssl ssl) :: useFd fd, ∃ thing ∈ inSession opened fd ctx ssl, touch = .use thing := by
  intro touch member
  rcases List.mem_cons.mp member with rfl | member
  · exact ⟨.ssl ssl, Set.mem_insert _ _, rfl⟩
  · obtain ⟨thing, alive, same⟩ := useFd_withFd opened fd touch member
    exact ⟨thing, Set.mem_insert_of_mem _ (Set.mem_insert_of_mem _ alive), same⟩

/-- The calls between the set-up of an object and its release only use what the session holds. -/
theorem OnObject.idle (on : OnObject ssl act) (ctx : Ptr) :
    Idle (Function.update bound ssl fd) (inSession opened fd ctx ssl) act := by
  have used := use_object opened fd ctx ssl
  have given : Function.update bound ssl fd ssl = fd := Function.update_self ssl fd bound
  cases on with
  | setHostName host =>
    refine ⟨fun touch member => used touch ?_, rfl⟩
    exact List.mem_cons.mpr (.inl (List.mem_singleton.mp member))
  | connect ret | write slice ret error | read offset room chunk | shutdown =>
    refine ⟨fun touch member => used touch ?_, rfl⟩
    rwa [Act.touches, given] at member

/-- So any number of them leaves the session as it is. -/
theorem leads_onObject (on : ∀ act ∈ acts, OnObject ssl act) :
    Leads (Function.update bound ssl fd) (inSession opened fd ctx ssl) acts (Function.update bound ssl fd)
      (inSession opened fd ctx ssl) := .idle fun act member => (on act member).idle ctx

/-- The context and the object of a session are not open before it. -/
structure NewSession (opened : Set Resource) (fd : Int) (ctx : Ptr) (ssl : Option Ptr) : Prop where
  context : .ctx ctx ∉ withFd opened fd
  object : .ssl ssl ∉ insert (.ctx ctx) (withFd opened fd)

/-- What OpenSSL gives to a new session was not there before. -/
theorem Env.Fresh.newSession (fresh : env.Fresh opened) (fd : Int) (made : env.sslCtxNew = some ctx) :
    NewSession opened fd ctx env.sslNew where
  context := notMem_withFd nofun (fresh.ctx ctx made)
  object := fun member => (Set.mem_insert_iff.mp member).elim nofun (notMem_withFd nofun fresh.ssl)

/-- **The set-up** of a session, up to its handshake. -/
theorem Gives.setUp {p : Ptr} (gives : Gives bound opened acts fd) (new : NewSession opened fd ctx ssl) (made : ssl = some p)
    (host : List Byte) (connect : Int) :
    Leads bound opened (acts ++ [.sslCtxNew (some ctx)] ++
      [.sslNew ctx ssl, .sslSetFd ssl fd, .sslSetHostName ssl host, .sslConnect ssl connect])
      (Function.update bound ssl fd) (inSession opened fd ctx ssl) := by
  have context : Leads bound (withFd opened fd) [.sslCtxNew (some ctx)] bound (insert (.ctx ctx) (withFd opened fd)) :=
    .one (.cons new.context (.nil _)) rfl
  have object : Leads bound (insert (.ctx ctx) (withFd opened fd)) [.sslNew ctx ssl] (Function.update bound ssl (-1))
      (inSession opened fd ctx ssl) := by
    subst made
    exact .one (.cons (Set.mem_insert _ _) (.cons new.object (.nil _))) rfl
  have descriptor : Leads (Function.update bound ssl (-1)) (inSession opened fd ctx ssl) [.sslSetFd ssl fd]
      (Function.update bound ssl fd) (inSession opened fd ctx ssl) :=
    .one (.of_use (use_object opened fd ctx ssl))
      (show Function.update (Function.update bound ssl (-1)) ssl fd = _ from Function.update_idem (-1) fd bound)
  have shaken : ∀ act ∈ [.sslSetHostName ssl host, .sslConnect ssl connect], OnObject ssl act :=
    List.forall_mem_cons.mpr ⟨.setHostName host, List.forall_mem_singleton.mpr (.connect connect)⟩
  exact (gives.leads.append context).append ((object.append descriptor).append (leads_onObject shaken))

/-- **The releases**, in the opposite order. -/
theorem Gives.release (gives : Gives bound opened acts fd) (new : NewSession opened fd ctx ssl) (bound' : Option Ptr → Int) :
    Leads bound' (inSession opened fd ctx ssl) [.sslFree ssl, .sslCtxFree ctx, .close fd] bound' opened := by
  have object : Leads bound' (inSession opened fd ctx ssl) [.sslFree ssl] bound' (insert (.ctx ctx) (withFd opened fd)) :=
    .one (.release new.object) rfl
  have context : Leads bound' (insert (.ctx ctx) (withFd opened fd)) [.sslCtxFree ctx] bound' (withFd opened fd) :=
    .one (.release new.context) rfl
  exact (object.append context).append (leads_close gives.fresh)

/-- Sending over TLS only makes such calls. -/
theorem SendRun.onObject {len total : Nat} {result : Int} (run : SendRun ssl len total result acts) :
    ∀ act ∈ acts, OnObject ssl act := by
  induction run with
  | done => simp
  | fails left none' final => exact List.forall_mem_singleton.mpr (.write _ _ _)
  | retry left none' again later ih | more some' fits later ih => exact List.forall_mem_cons.mpr ⟨.write _ _ _, ih⟩

/-- So does receiving. -/
theorem RecvRun.onObject {size bound : Nat} {got : List Byte} {buffer buffer' : CharArray size} {answers : List ReadAnswer}
    (run : RecvRun ssl bound got buffer answers ret buffer' acts) : ∀ act ∈ acts, OnObject ssl act := by
  induction run with
  | full all => simp
  | fails left fatal | found some' short calm headers => exact List.forall_mem_singleton.mpr (.read _ _ _)
  | retry left again later ih | more some' short calm absent later ih =>
    exact List.forall_mem_cons.mpr ⟨.read _ _ _, ih⟩

/-- So does `send_tls_data`, whatever its arguments. -/
theorem sendTlsData_onObject {data : Option (List Byte)} {len : Nat} {answers : List WriteAnswer}
    (returns : sendTlsData ssl data len answers = some (ret, acts)) : ∀ act ∈ acts, OnObject ssl act := by
  unfold sendTlsData at returns
  split at returns
  · cases returns
    simp
  · exact (sendRun_of_loop (Nat.zero_le len) returns).onObject

end Session

/-- The descriptor of a session, from the proxy or not. -/
theorem tunnelOrSocket_gives {proxyHost targetHost : List Byte} {proxyPort targetPort : Int} (fresh : env.Fresh opened)
    (got : tunnelOrSocket proxyHost proxyPort targetHost targetPort env = some (ret, acts)) : Gives bound opened acts ret := by
  unfold tunnelOrSocket at got
  split at got
  · exact (proxyRun_of_returns got).gives fresh
  · exact socket_gives fresh got

/-- **An exchange over TLS** leaves open what was open before. -/
theorem HttpsRun.leads {found : Option (Int × List Act)} {host : List Byte} {request : HTTPRequest} {force : Int} {p : Ptr}
    (run : HttpsRun found host request force env ret acts) (fresh : env.Fresh opened) (object : env.sslNew = some p)
    (gives : ∀ fd acts, found = some (fd, acts) → Gives bound opened acts fd) :
    ∃ bound', Leads bound opened acts bound' opened := by
  have setUp {fd : Int} {connecting : List Act} {ctx : Ptr} (got : found = some (fd, connecting))
      (made : env.sslCtxNew = some ctx) :
      Leads bound opened (connecting ++ [.sslCtxNew (some ctx)] ++ setUpActs env ctx fd host)
        (Function.update bound env.sslNew fd) (inSession opened fd ctx env.sslNew) :=
    (gives _ _ got).setUp (fresh.newSession fd made) object host env.sslConnect
  have release {fd : Int} {connecting : List Act} {ctx : Ptr} (got : found = some (fd, connecting))
      (made : env.sslCtxNew = some ctx) (bound' : Option Ptr → Int) :
      Leads bound' (inSession opened fd ctx env.sslNew) (releaseActs env ctx fd) bound' opened :=
    (gives _ _ got).release (fresh.newSession fd made) bound'
  have shutdown : ∀ act ∈ [.sslShutdown env.sslNew], OnObject env.sslNew act := List.forall_mem_singleton.mpr .shutdown
  cases run with
  | @noContext fd connecting got none' =>
    have nothing : Leads bound (withFd opened fd) [.sslCtxNew none] bound (withFd opened fd) := .one (.nil _) rfl
    exact ⟨bound, ((gives _ _ got).leads.append nothing).append (leads_close (gives _ _ got).fresh)⟩
  | unshaken got made => exact ⟨_, (setUp got made).append (release got made _)⟩
  | unsent got made sending | forced got made sending all force =>
    have written := (setUp got made).append (leads_onObject (sendTlsData_onObject sending))
    exact ⟨_, written.append ((leads_onObject shutdown).append (release got made _))⟩
  | received got made sending all wait receiving =>
    have written := (setUp got made).append (leads_onObject (sendTlsData_onObject sending))
    have run := recvRun_of_returns (by decide) (Nat.le_refl _) receiving
    exact ⟨_, (written.append (leads_onObject run.onObject)).append ((leads_onObject shutdown).append (release got made _))⟩

/-- **One call of `communicate`** leaves open what was open before. -/
theorem communicate_leads {args : Arguments} {request : HTTPRequest} {p : Ptr} (fresh : env.Fresh opened)
    (made : env.sslNew = some p) (returns : communicate args request env = some (ret, acts)) :
    ∃ bound', Leads bound opened acts bound' opened := by
  unfold communicate at returns
  split at returns
  · split at returns
    · exact ⟨bound, (httpRun_of_returns returns).leads fresh⟩
    · exact ⟨bound, (httpRun_of_returns returns).leads fresh⟩
  split at returns
  · exact (httpsRun_of_returns returns).leads fresh made fun _ _ got => tunnelOrSocket_gives fresh got
  · cases returns
    exact ⟨bound, .nil bound opened⟩

end Functions

/-! ## The iterations of a worker -/

/-- The calls made in iterations of `bench_worker`'s loop, from the open resources on. -/
inductive Iterations (args : Arguments) (request : HTTPRequest) (opened : Set Resource) : List Act → Prop
  | none : Iterations args request opened []
  | next {acts later : List Act} {env : Env} {ret : Int} {p : Ptr} (before : Iterations args request opened acts)
      (fresh : env.Fresh (openedAfter opened (touches unbound acts))) (made : env.sslNew = some p)
      (returns : communicate args request env = some (ret, later)) : Iterations args request opened (acts ++ later)

/-- The calls touch only what is open, release once what they acquire, do not use
it behind that, and leave open what was open before them. -/
structure Releases (opened : Set Resource) (acts : List Act) : Prop where
  lawful : Uses opened (touches unbound acts) opened
  once : ∀ before thing after, touches unbound acts = before ++ .acquire thing :: after → ReleasedOnce thing after
  unchanged : openedAfter opened (touches unbound acts) = opened

section Iterations

variable {args : Arguments} {request : HTTPRequest} {opened : Set Resource} {acts : List Act}

/-- Where nothing is open everything is new. -/
theorem Env.fresh_empty (env : Env) : env.Fresh ∅ := ⟨fun _ _ _ => id, fun _ _ => id, id⟩

/-- The iterations replayed on what is open, and on nothing: they only release what they have acquired. -/
theorem Iterations.leads (iterations : Iterations args request opened acts) :
    (∃ bound, Leads unbound opened acts bound opened) ∧ ∃ bound, Leads unbound ∅ acts bound ∅ := by
  induction iterations with
  | none => exact ⟨⟨unbound, .nil _ _⟩, unbound, .nil _ _⟩
  | @next acts later env ret p before fresh made returns ih =>
    obtain ⟨⟨bound, leads⟩, bound', leads'⟩ := ih
    rw [leads.uses.openedAfter_eq] at fresh
    have more : ∃ bound₁, Leads bound opened later bound₁ opened := communicate_leads fresh made returns
    have more' : ∃ bound₁, Leads bound' ∅ later bound₁ ∅ := communicate_leads env.fresh_empty made returns
    exact ⟨more.imp fun _ => leads.append, more'.imp fun _ => leads'.append⟩

/-- Each iteration releases what it has acquired, and so do all of them together. -/
theorem Iterations.releases (iterations : Iterations args request opened acts) : Releases opened acts := by
  obtain ⟨⟨bound, leads⟩, bound', leads'⟩ := iterations.leads
  refine ⟨leads.uses, fun before thing after split => ?_, leads.uses.openedAfter_eq⟩
  have replayed := leads'.uses
  rw [split] at replayed
  exact replayed.acquired

end Iterations

/-- **Everything acquired is released.** When `communicate` returns, for every
request, all arguments and all answers, and after any number of iterations. -/
theorem communicate_releases (args : Arguments) (request : HTTPRequest) (opened : Set Resource) :
    (∀ env ret acts p, env.Fresh opened → env.sslNew = some p → communicate args request env = some (ret, acts) →
      Releases opened acts) ∧
    ∀ acts, Iterations args request opened acts → Releases opened acts := by
  refine ⟨fun env ret acts p fresh made returns => ?_, fun acts iterations => iterations.releases⟩
  have first : Iterations args request opened ([] ++ acts) := .next .none fresh made returns
  exact first.releases

/-- The arguments of `https://localhost/`. -/
def secureLocalArguments : Arguments := { localArguments with protocol := protocolHttps }

/-- The first address refuses, and the second gets the same descriptor. -/
def refusingEnv : Env where
  addresses := some [⟨2, 1, 6, [127, 0, 0, 1]⟩, ⟨2, 1, 6, [127, 0, 0, 2]⟩]
  sockets := [⟨3, -1⟩, ⟨3, 0⟩]
  connectSend := .failed
  connectRecv := .failed
  send := .failed
  recvs := []
  sslCtxNew := some 1
  sslNew := some 2
  sslConnect := 1
  writes := [⟨.bytes 18, .none⟩]
  reads := [⟨.failed, .syscall⟩]

/-- The three standard descriptors. -/
def standardFds : Set Resource := {.fd 0, .fd 1, .fd 2}

/-- What it gives is none of the standard descriptors. -/
theorem refusingEnv_fresh : refusingEnv.Fresh standardFds where
  sockets := by simp [refusingEnv, standardFds]
  ctx := by simp [refusingEnv, standardFds]
  ssl := by simp [refusingEnv, standardFds]

/-- The exchange goes through and fails. -/
theorem refusingEnv_returns : ∃ acts, communicate secureLocalArguments bareRequest refusingEnv = some (-1, acts) := ⟨_, rfl⟩

/-- A response that fails, once and after another one. -/
theorem communicate_releases_failing : ∃ acts,
    communicate secureLocalArguments bareRequest refusingEnv = some (-1, acts) ∧ Releases standardFds acts ∧
      Releases standardFds (acts ++ acts) := by
  obtain ⟨acts, returns⟩ := refusingEnv_returns
  obtain ⟨single, repeated⟩ := communicate_releases secureLocalArguments bareRequest standardFds
  have once := single refusingEnv (-1) acts 2 refusingEnv_fresh rfl returns
  have first : Iterations secureLocalArguments bareRequest standardFds ([] ++ acts) :=
    .next .none refusingEnv_fresh rfl returns
  have fresh : refusingEnv.Fresh (openedAfter standardFds (touches unbound ([] ++ acts))) := by
    rw [List.nil_append, once.unchanged]
    exact refusingEnv_fresh
  exact ⟨acts, returns, once, repeated _ (.next first fresh rfl returns)⟩

end WebBench.Communicator
