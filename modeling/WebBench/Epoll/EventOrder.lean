import WebBench.Epoll.Runs
import WebBench.Secrecy

/-!
# The order of events does not matter

`epoll_wait` reports events in no particular order. Handling an event changes its
own slot as if the slot were alone with the SSL context, and adds to the shared
state what the slot has created; so in whatever order the events of one wait are
handled, the slots and the shared state end up the same.
-/

namespace WebBench.Epoll
set_option autoImplicit false
open CLib Relation

/-- The answers of one handler call, with `ctx` for `SSL_CTX_new`. -/
def withContext (io : Io) (ctx : Option Ptr) : Io := { io with sslCtxNew := ctx }

/-- A state without a context and without SSL objects, in which every descriptor has its entry. -/
def blank : Sys := ⟨none, [], [], fun _ => some ⟨0, 0, false⟩⟩

/-- What the handler does to a slot that is alone with the context `ctx`. -/
def alone (args : Arguments) (ctx : Option Ptr) (errno : Int) (conn : Connection) (ev : BitVec 32) (io : Io) :
    Outcome Nat :=
  handleReadyConnection args blank errno conn ev (withContext io ctx)

/-- The blank state, but for its descriptors. -/
structure Blank (sys : Sys) : Prop where
  context : sys.globalSslCtx = none
  objects : sys.liveSsl = []

/-- A step in the shared state is the one in the blank state, whose context and objects are added to those there were. -/
structure Adds (sys : Sys) (ctx want : Option Ptr) (o o' : Outcome Nat) : Prop where
  ret : o.ret = o'.ret
  conn : o.conn = o'.conn
  context : o.sys.globalSslCtx = sys.globalSslCtx.or o'.sys.globalSslCtx
  objects : o.sys.liveSsl = o'.sys.liveSsl ++ sys.liveSsl
  made : o'.sys.globalSslCtx = none ∨ o'.sys.globalSslCtx = ctx
  new : ∀ ssl ∈ o'.sys.liveSsl, want = some ssl

namespace Adds

variable {sys sys' : Sys} {ctx want : Option Ptr} {a a' b b' : Outcome Nat}

/-- Steps that leave the shared state alone. -/
theorem of_same (empty : Blank sys') (ret : a.ret = a'.ret) (same : a.conn = a'.conn) (kept : a.sys = sys)
    (kept' : a'.sys = sys') : Adds sys ctx want a a' where
  ret := ret
  conn := same
  context := by rw [kept, kept', empty.context, Option.or_none]
  objects := by rw [kept, kept', empty.objects, List.nil_append]
  made := .inl (by rw [kept', empty.context])
  new := by
    rw [kept', empty.objects]
    exact fun _ none => absurd none List.not_mem_nil

/-- A test that decides the same for both. -/
theorem ite {c d : Prop} [Decidable c] [Decidable d] (same : c ↔ d) (yes : Adds sys ctx want a a')
    (no : Adds sys ctx want b b') : Adds sys ctx want (if c then a else b) (if d then a' else b') := by
  by_cases holds : d
  · rwa [if_pos holds, if_pos (same.mpr holds)]
  · rwa [if_neg holds, if_neg (fun c => holds (same.mp c))]

/-- What a handler makes of a step. -/
theorem then' (adds : Adds sys ctx want a a') (ret : Int) {conn conn' : Connection} (same : a.conn = a'.conn → conn = conn')
    (calls calls' : List Call) : Adds sys ctx want ⟨ret, conn, a.sys, calls⟩ ⟨ret, conn', a'.sys, calls'⟩ where
  ret := rfl
  conn := same adds.conn
  context := adds.context
  objects := adds.objects
  made := adds.made
  new := adds.new

end Adds

/-- What `setup_ssl_context` leaves of the record and the shared state, but for the calls. -/
theorem setupSslContext_eq (sys : Sys) (io : Io) (conn : Connection)
    (fresh : ∀ ssl, io.sslNew = some ssl → ssl ∉ sys.liveSsl) :
    let ctx := sys.globalSslCtx.or io.sslCtxNew
    let made := if ctx.isSome then io.sslNew else none
    let o := setupSslContext sys io conn
    o.ret = (if made.isSome ∧ io.sslSetFd ≠ 0 then 1 else -1) ∧
      o.conn = { conn with sslContext := ctx, ssl := if ctx.isSome then made else conn.ssl } ∧
      o.sys = { sys with globalSslCtx := ctx, liveSsl := made.toList ++ sys.liveSsl } := by
  -- `get_global_ssl_ctx` leaves the context it returns in the global
  have global : (getGlobalSslCtx sys io).1 = sys.globalSslCtx.or io.sslCtxNew ∧
      (getGlobalSslCtx sys io).2.1 = { sys with globalSslCtx := sys.globalSslCtx.or io.sslCtxNew } := by
    obtain ⟨found, live, opened, epoll⟩ := sys
    cases found with
    | none => exact ⟨rfl, rfl⟩
    | some ctx => exact ⟨rfl, rfl⟩
  unfold setupSslContext
  generalize getGlobalSslCtx sys io = got at global ⊢
  obtain ⟨_, _, calls⟩ := got
  obtain ⟨rfl, rfl⟩ := global
  generalize sys.globalSslCtx.or io.sslCtxNew = ctx
  cases ctx with
  | none => simp
  | some ctx =>
    cases new : io.sslNew with
    | none => simp [Sys.sslNew]
    | some ssl =>
      simp only [Sys.sslNew, if_neg (fresh ssl new)]
      split
      · rename_i unbound
        simp [unbound]
      · rename_i bound
        simp [bound]

section Cases

variable {sys sys' : Sys} (args : Arguments) (errno : Int) (conn : Connection) (ev : BitVec 32) (io : Io)
  (empty : Blank sys') (fresh : ∀ ssl, io.sslNew = some ssl → ssl ∉ sys.liveSsl)
include empty

theorem sendProxyConnect_adds (ctx want : Option Ptr) (proxyHost : List Byte) (proxyPort : Int)
    (targetHost : List Byte) (targetPort : Int) :
    Adds sys ctx want (sendProxyConnect sys errno conn io proxyHost proxyPort targetHost targetPort)
      (sendProxyConnect sys' errno conn (withContext io ctx) proxyHost proxyPort targetHost targetPort) := by
  unfold sendProxyConnect withContext
  dsimp only
  repeat' split
  all_goals exact .of_same empty rfl rfl rfl rfl

theorem handleProxyResponse_adds (ctx want : Option Ptr) :
    Adds sys ctx want (handleProxyResponse sys errno conn io) (handleProxyResponse sys' errno conn (withContext io ctx)) ∧
      (handleProxyResponse sys errno conn io).sys = sys ∧
      (handleProxyResponse sys' errno conn (withContext io ctx)).sys = sys' := by
  unfold handleProxyResponse WebBench.handleProxyResponse withContext
  dsimp only
  repeat' split
  all_goals exact ⟨.of_same empty rfl rfl rfl rfl, rfl, rfl⟩

include fresh

/-- The SSL set-up finds the context there is, or makes one, and adds its object. -/
theorem setupSslContext_adds :
    Adds sys (sys.globalSslCtx.or io.sslCtxNew) io.sslNew (setupSslContext sys io conn)
      (setupSslContext sys' (withContext io (sys.globalSslCtx.or io.sslCtxNew)) conn) := by
  obtain ⟨context, objects⟩ := empty
  obtain ⟨ret, same, kept⟩ := setupSslContext_eq sys io conn fresh
  obtain ⟨ret', same', kept'⟩ := setupSslContext_eq sys' (withContext io (sys.globalSslCtx.or io.sslCtxNew)) conn
    (by rw [objects]; exact fun _ _ => List.not_mem_nil)
  rw [context, Option.none_or] at ret' same' kept'
  constructor
  case ret => exact ret.trans ret'.symm
  case conn => exact same.trans same'.symm
  case context =>
    rw [kept, kept']
    show _ = sys.globalSslCtx.or (sys.globalSslCtx.or io.sslCtxNew)
    rw [← Option.or_assoc, Option.or_self]
  case objects =>
    rw [kept, kept']
    simp [withContext, objects]
  case made =>
    rw [kept']
    exact .inr rfl
  case new =>
    intro ssl member
    rw [kept', objects, List.append_nil, Option.mem_toList] at member
    split at member
    · exact member
    · cases member

theorem whenConnecting_adds :
    Adds sys (sys.globalSslCtx.or io.sslCtxNew) io.sslNew (whenConnecting args sys conn ev io)
      (whenConnecting args sys' conn ev (withContext io (sys.globalSslCtx.or io.sslCtxNew))) := by
  have quiet (ret : Int) (conn : Connection) (calls : List Call) :
      Adds sys (sys.globalSslCtx.or io.sslCtxNew) io.sslNew ⟨ret, conn, sys, calls⟩ ⟨ret, conn, sys', calls⟩ :=
    .of_same empty rfl rfl rfl rfl
  have setup (conn : Connection) := setupSslContext_adds conn io empty fresh
  unfold whenConnecting
  refine .ite .rfl (.ite .rfl (.ite .rfl (quiet ..) (.ite .rfl (.ite ?_ ?_ ?_) (quiet ..))) (quiet ..)) (quiet ..)
  · rw [(setup _).ret]
  · exact (setup _).then' 0 id _ _
  · exact (setup _).then' (-1) (congrArg ConnectionOf.toError) _ _

omit fresh in
theorem whenProxyConnect_adds :
    Adds sys (sys.globalSslCtx.or io.sslCtxNew) io.sslNew (whenProxyConnect args sys errno conn ev io)
      (whenProxyConnect args sys' errno conn ev (withContext io (sys.globalSslCtx.or io.sslCtxNew))) := by
  have sent : Adds sys (sys.globalSslCtx.or io.sslCtxNew) io.sslNew _ _ :=
    sendProxyConnect_adds errno conn io empty _ _ args.proxyHost.bytes args.proxyPort args.targetHost.bytes args.targetPort
  unfold whenProxyConnect
  refine .ite .rfl (.ite (by rw [sent.ret]) ?_ (.ite (by rw [sent.ret]) ?_ ?_)) (.of_same empty rfl rfl rfl rfl)
  · exact sent.then' 0 (fun same => by rw [same]) _ _
  · exact sent.then' 0 id _ _
  · exact sent.then' (-1) (congrArg ConnectionOf.toError) _ _

theorem whenProxyResponse_adds :
    Adds sys (sys.globalSslCtx.or io.sslCtxNew) io.sslNew (whenProxyResponse sys errno conn ev io)
      (whenProxyResponse sys' errno conn ev (withContext io (sys.globalSslCtx.or io.sslCtxNew))) := by
  obtain ⟨recv, kept, kept'⟩ : Adds sys (sys.globalSslCtx.or io.sslCtxNew) io.sslNew _ _ ∧ _ :=
    handleProxyResponse_adds errno conn io empty _ _
  unfold whenProxyResponse
  refine .ite .rfl (.ite (by rw [recv.ret]) ?_ (.ite (by rw [recv.ret]) ?_ ?_)) (.of_same empty rfl rfl rfl rfl)
  · rw [kept, kept', recv.conn]
    exact (setupSslContext_adds _ io empty fresh).then' 0 (fun same => by rw [same]) _ _
  · exact recv.then' 0 id _ _
  · exact recv.then' 0 (congrArg ConnectionOf.toError) _ _

theorem dispatchState_adds :
    Adds sys (sys.globalSslCtx.or io.sslCtxNew) io.sslNew (dispatchState args sys errno conn ev io)
      (dispatchState args sys' errno conn ev (withContext io (sys.globalSslCtx.or io.sslCtxNew))) := by
  unfold dispatchState
  cases conn.state with
  | connecting => exact whenConnecting_adds args conn ev io empty fresh
  | proxyConnect => exact whenProxyConnect_adds args errno conn ev io empty
  | proxyResponse => exact whenProxyResponse_adds errno conn ev io empty fresh
  | tlsHandshake =>
    unfold whenTlsHandshake withContext
    dsimp only
    repeat' split
    all_goals exact .of_same empty rfl rfl rfl rfl
  | sending =>
    unfold whenSending withContext
    dsimp only
    repeat' split
    all_goals exact .of_same empty rfl rfl rfl rfl
  | receiving =>
    unfold whenReceiving withContext
    dsimp only
    repeat' split
    all_goals exact .of_same empty rfl rfl rfl rfl
  | idle | completed | error => exact .of_same empty rfl rfl rfl rfl

omit empty in
/-- **The handler of one event** does to its slot what it would do to the slot
alone with the context, and adds what it makes to the shared state. -/
theorem handle_adds (present : (sys.epoll conn.sockfd).isSome = true) :
    Adds sys (sys.globalSslCtx.or io.sslCtxNew) io.sslNew (handleReadyConnection args sys errno conn ev io)
      (alone args (sys.globalSslCtx.or io.sslCtxNew) errno conn ev io) := by
  have blanked : (blank.epoll conn.sockfd).isSome = true := rfl
  have kept : sys.globalSslCtx = sys.globalSslCtx.or none := Option.or_none.symm
  have nothing : ∀ ssl ∈ ([] : List Ptr), io.sslNew = some ssl := fun _ none => absurd none List.not_mem_nil
  unfold alone handleReadyConnection Sys.epollDel
  rw [if_pos present, if_pos blanked]
  refine .ite .rfl ⟨rfl, rfl, kept, rfl, .inl rfl, nothing⟩ (.ite .rfl ⟨rfl, rfl, kept, rfl, .inl rfl, nothing⟩ ?_)
  -- the entries play no part in the switch
  have step (entries entries' : Int → Option Registration) :
      Adds { sys with epoll := entries } (sys.globalSslCtx.or io.sslCtxNew) io.sslNew
        (dispatchState args { sys with epoll := entries } errno conn ev io)
        (dispatchState args { blank with epoll := entries' } errno conn ev
          (withContext io (sys.globalSslCtx.or io.sslCtxNew))) :=
    dispatchState_adds args errno conn ev io ⟨rfl, rfl⟩ fresh
  obtain ⟨ret, same, context, objects, made, new⟩ := step (fun d => if d = conn.sockfd then none else sys.epoll d)
    fun d => if d = conn.sockfd then none else blank.epoll d
  exact ⟨ret, same, context, objects, made, new⟩

end Cases

/-! ## The events of one wait -/

/-- What the handler of an event does to its slot, alone with the context `ctx`. -/
def handledAlone (args : Arguments) (answers : Nat → Answers) (ctx : Option Ptr) (slots : List (Slot Nat))
    (event : EpollEvent) : Option (Outcome Nat) :=
  slots[event.slot]?.map fun slot =>
    alone args ctx (answers event.slot).errno slot.conn event.events (answers event.slot).io

/-- `SSL_new` gives every slot an object of its own, which is not live. -/
structure FreshObjects (answers : Nat → Answers) (events : List EpollEvent) (sys : Sys) : Prop where
  unused : ∀ event ∈ events, ∀ ssl, (answers event.slot).io.sslNew = some ssl → ssl ∉ sys.liveSsl
  apart : events.Pairwise fun event event' => ∀ ssl, (answers event.slot).io.sslNew = some ssl →
    (answers event'.slot).io.sslNew ≠ some ssl

/-- Every event has changed its own slot as if that were alone, and what the slots made has been added up. -/
structure InParallel (args : Arguments) (answers : Nat → Answers) (ctx : Option Ptr) (events : List EpollEvent)
    (slots : List (Slot Nat)) (sys : Sys) (slots' : List (Slot Nat)) (sys' : Sys) : Prop where
  length : slots'.length = slots.length
  others : ∀ i, (∀ event ∈ events, event.slot ≠ i) → slots'[i]? = slots[i]?
  each : ∀ event ∈ events, ∀ o, handledAlone args answers ctx slots event = some o →
    ∃ slot slot', slots[event.slot]? = some slot ∧ slots'[event.slot]? = some slot' ∧ slot'.conn = o.conn ∧
      slot'.moves = slot.moves ++ [⟨slot.conn, o.conn⟩]
  context : sys'.globalSslCtx =
    if (events.filterMap (handledAlone args answers ctx slots)).any (·.sys.globalSslCtx.isSome) then ctx
    else sys.globalSslCtx
  objects : sys'.liveSsl.Perm
    ((events.filterMap (handledAlone args answers ctx slots)).flatMap (·.sys.liveSsl) ++ sys.liveSsl)
  opened : sys'.opened = sys.opened
  removed : ∀ event ∈ events, ∀ slot, slots[event.slot]? = some slot → sys'.epoll slot.conn.sockfd = none
  kept : ∀ fd, (∀ event ∈ events, ∀ slot, slots[event.slot]? = some slot → slot.conn.sockfd ≠ fd) →
    sys'.epoll fd = sys.epoll fd

section Events

variable {args : Arguments} {answers : Nat → Answers} {ctx : Option Ptr} {slots : List (Slot Nat)} {sys : Sys}
  {event : EpollEvent} {rest : List EpollEvent} {slot : Slot Nat}

/-- What the handler leaves of descriptors and entries. -/
theorem ready_sys (args : Arguments) (present : (sys.epoll slot.conn.sockfd).isSome = true) (errno : Int) (ev : BitVec 32) (io : Io) :
    (driver.ready args sys errno ev io slot).2.opened = sys.opened ∧
      ∀ d, (driver.ready args sys errno ev io slot).2.epoll d = if d = slot.conn.sockfd then none else sys.epoll d := by
  have still := handle_still args sys errno slot.conn ev io
  have deleted : (sys.epollDel slot.conn.sockfd).2 =
      { sys with epoll := fun d => if d = slot.conn.sockfd then none else sys.epoll d } := by
    rw [Sys.epollDel, if_pos present]
  rw [deleted] at still
  exact ⟨still.opened, fun d => congrFun still.epoll d⟩

theorem handledAlone_of_some (here : slots[event.slot]? = some slot) :
    handledAlone args answers ctx slots event =
      some (alone args ctx (answers event.slot).errno slot.conn event.events (answers event.slot).io) := by
  rw [handledAlone, here]
  rfl

/-- Another slot's event is handled alone in the same way before and after. -/
theorem handledAlone_set {other : EpollEvent} (ne : other.slot ≠ event.slot) (slot' : Slot Nat) :
    handledAlone args answers ctx (slots.set event.slot slot') other = handledAlone args answers ctx slots other := by
  rw [handledAlone, handledAlone, List.getElem?_set_ne ne.symm]

/-- A context that has been found or made is the one every later handler finds. -/
theorem context_next {found made new : Option Ptr} (same : found.or new = ctx) (either : made = none ∨ made = ctx) :
    (found.or made).or new = ctx := by
  rcases either with rfl | rfl
  · rw [Option.or_none, same]
  · rw [← same, ← Option.or_assoc, Option.or_self, Option.or_assoc, Option.or_self]

/-- The first event, and the others after it. -/
theorem InParallel.cons {o o' : Outcome Nat} {slot' : Slot Nat} {slots' : List (Slot Nat)} {sys' : Sys} {new : Option Ptr}
    (inv : Registered ((event :: rest).map (·.slot)) slots sys) (here : slots[event.slot]? = some slot)
    (does : handledAlone args answers ctx slots event = some o') (adds : Adds sys ctx new o o')
    (same : sys.globalSslCtx.or ctx = ctx) (conn : slot'.conn = o.conn)
    (moves : slot'.moves = slot.moves ++ [⟨slot.conn, o.conn⟩]) (opened : o.sys.opened = sys.opened)
    (entries : ∀ d, o.sys.epoll d = if d = slot.conn.sockfd then none else sys.epoll d)
    (later : InParallel args answers ctx rest (slots.set event.slot slot') o.sys slots' sys') :
    InParallel args answers ctx (event :: rest) slots sys slots' sys' := by
  have bound : event.slot < slots.length := (List.getElem?_eq_some_iff.mp here).1
  have once := inv.once
  rw [List.map_cons, List.nodup_cons] at once
  have apart : ∀ other ∈ rest, other.slot ≠ event.slot := fun other member same =>
    once.1 (same ▸ List.mem_map_of_mem (f := (·.slot)) member)
  have deeds : rest.filterMap (handledAlone args answers ctx (slots.set event.slot slot')) =
      rest.filterMap (handledAlone args answers ctx slots) :=
    List.filterMap_congr fun other member => handledAlone_set (apart other member) slot'
  have unmoved : ∀ other ∈ rest, (slots.set event.slot slot')[other.slot]? = slots[other.slot]? :=
    fun other member => List.getElem?_set_ne (apart other member).symm
  have mine : slots'[event.slot]? = some slot' := by
    rw [later.others event.slot apart, List.getElem?_set_self bound]
  constructor
  case length => rw [later.length, List.length_set]
  case others =>
    intro i others
    rw [later.others i fun other member => others other (List.mem_cons_of_mem _ member),
      List.getElem?_set_ne (others event List.mem_cons_self)]
  case each =>
    intro other member result made
    rcases List.mem_cons.mp member with rfl | tail
    · obtain rfl : o' = result := Option.some.inj (does.symm.trans made)
      exact ⟨slot, slot', here, mine, conn.trans adds.conn, adds.conn ▸ moves⟩
    · rw [← handledAlone_set (apart other tail) slot'] at made
      obtain ⟨before, after, there, found, rest⟩ := later.each other tail result made
      exact ⟨before, after, unmoved other tail ▸ there, found, rest⟩
  case context =>
    rw [later.context, deeds, List.filterMap_cons_some does, List.any_cons, adds.context]
    rcases adds.made with none | some
    · rw [none, Option.or_none, Option.isSome_none, Bool.false_or]
    · rw [some, same]
      cases ctx with
      | none =>
        rw [Option.or_none] at same
        simp [same]
      | some _ => simp
  case objects =>
    rw [List.filterMap_cons_some does, List.flatMap_cons]
    refine later.objects.trans ?_
    rw [deeds, adds.objects, ← List.append_assoc]
    exact List.perm_append_comm.append_right _
  case opened => exact later.opened.trans opened
  case removed =>
    intro other member before there
    rcases List.mem_cons.mp member with rfl | tail
    · obtain rfl : slot = before := Option.some.inj (here.symm.trans there)
      rw [later.kept slot.conn.sockfd, entries, if_pos rfl]
      intro other tail before there same
      rw [unmoved other tail] at there
      have positive : 0 < before.conn.sockfd := by
        obtain ⟨owner, entry, owns, present, -⟩ := inv.pending other.slot (List.mem_cons_of_mem _ (List.mem_map_of_mem tail))
        obtain rfl : owner = before := Option.some.inj (owns.symm.trans there)
        exact (inv.positive present).1
      exact apart other tail (inv.distinct _ _ before slot there here positive same)
    · exact later.removed other tail before ((unmoved other tail).trans there)
  case kept =>
    intro fd free
    rw [later.kept fd fun other tail before there =>
        free other (List.mem_cons_of_mem _ tail) before ((unmoved other tail).symm.trans there),
      entries, if_neg (free event List.mem_cons_self slot here).symm]

/-- **One event at a time amounts to all at once.** -/
theorem handleEvents_inParallel : ∀ (events : List EpollEvent) (slots : List (Slot Nat)) (sys : Sys),
    Registered (events.map (·.slot)) slots sys → FreshObjects answers events sys →
    (∀ event ∈ events, sys.globalSslCtx.or (answers event.slot).io.sslCtxNew = ctx) →
    InParallel args answers ctx events slots sys (handleEvents args answers events slots sys).1
      (handleEvents args answers events slots sys).2 := by
  intro events
  induction events with
  | nil =>
    intro slots sys _ _ _
    exact ⟨rfl, fun _ _ => rfl, fun _ none => absurd none List.not_mem_nil, rfl, .refl _, rfl,
      fun _ none => absurd none List.not_mem_nil, fun _ _ => rfl⟩
  | cons event rest ih =>
    intro slots sys inv fresh same
    obtain ⟨slot, entry, here, present, -⟩ := inv.pending event.slot List.mem_cons_self
    have found : (sys.epoll slot.conn.sockfd).isSome = true := by rw [present]; rfl
    have context := same event List.mem_cons_self
    have adds := handle_adds args (answers event.slot).errno slot.conn event.events (answers event.slot).io
      (fresh.unused event List.mem_cons_self) found
    rw [context] at adds
    obtain ⟨opened, entries⟩ := ready_sys args found (answers event.slot).errno event.events (answers event.slot).io
    have step : Step args ⟨slots, sys, .events (event :: rest)⟩ _ :=
      .handle slots sys event rest slot here (answers event.slot)
    have next := step_registered (by exact inv) step
    have known : sys.globalSslCtx.or ctx = ctx := by rw [← context, ← Option.or_assoc, Option.or_self]
    simp only [handleEvents, here]
    refine .cons inv here (handledAlone_of_some here) adds known rfl rfl opened entries (ih _ _ next ⟨?_, ?_⟩ ?_)
    · intro other member ssl wanted used
      have used : ssl ∈ (handleReadyConnection args sys (answers event.slot).errno slot.conn event.events
        (answers event.slot).io).sys.liveSsl := used
      rw [adds.objects, List.mem_append] at used
      rcases used with mine | live
      · exact (List.pairwise_cons.mp fresh.apart).1 other member ssl (adds.new ssl mine) wanted
      · exact fresh.unused other (List.mem_cons_of_mem _ member) ssl wanted live
    · exact (List.pairwise_cons.mp fresh.apart).2
    · intro other member
      show (handleReadyConnection args sys _ slot.conn event.events _).sys.globalSslCtx.or _ = ctx
      rw [adds.context]
      exact context_next (same other (List.mem_cons_of_mem _ member)) adds.made

/-! ## Any order will do -/

theorem Registered.perm {pending pending' : List Nat} (inv : Registered pending slots sys) (order : pending.Perm pending') :
    Registered pending' slots sys where
  owned := fun fd entry present => by
    obtain ⟨slot, here, same, asked, armed⟩ := inv.owned fd entry present
    exact ⟨slot, here, same, asked, armed.imp_right order.mem_iff.mp⟩
  opened := inv.opened
  distinct := inv.distinct
  socket := inv.socket
  once := order.nodup_iff.mp inv.once
  pending := fun j member => inv.pending j (order.mem_iff.mpr member)

theorem FreshObjects.perm {events events' : List EpollEvent} (fresh : FreshObjects answers events sys)
    (order : events.Perm events') : FreshObjects answers events' sys where
  unused := fun event member => fresh.unused event (order.mem_iff.mpr member)
  apart := (order.pairwise_iff fun {_ _} apart ssl wanted other => apart ssl other wanted).mp fresh.apart

/-- `epoll_wait` might have reported the events in the other order as well. -/
theorem reports_perm {fds : List Int} {events events' : List EpollEvent}
    (reported : List.Forall₂ (Reports sys) fds events) (order : events.Perm events') :
    ∃ fds', fds.Perm fds' ∧ List.Forall₂ (Reports sys) fds' events' := by
  have swapped : (Relation.Comp (List.Forall₂ (Reports sys)) List.Perm) fds events' := ⟨events, reported, order⟩
  rw [List.forall₂_comp_perm_eq_perm_comp_forall₂] at swapped
  exact swapped

/-- Which descriptors are disarmed does not depend on the order they are listed in. -/
theorem disarm_perm (sys : Sys) {fds fds' : List Int} (same : fds.Perm fds') : sys.disarm fds = sys.disarm fds' := by
  unfold Sys.disarm
  simp only [same.mem_iff]

/-- **The other order is a run too.** The events that are left came from one wait: had it reported them in the other
order, the handlers before them would have done the same. -/
theorem run_perm {request : HTTPRequest} {w : World} (run : Run args request w) :
    ∀ {events events' : List EpollEvent}, w.loop = .events events → events.Perm events' →
      Run args request ⟨w.slots, w.sys, .events events'⟩ := by
  induction run with
  | start first =>
    obtain ⟨addresses⟩ := first
    intro _ _ loop _
    cases loop
  | next before step ih =>
    intro events events' loop order
    cases step with
    | pass slots sys addresses full =>
      dsimp only at loop
      unfold afterPass at loop
      split at loop
      · cases loop
      · split at loop <;> cases loop
    | timeUp | waitFailed | again => cases loop
    | wait slots sys activeFds fds reports distinct reported most =>
      cases loop
      obtain ⟨fds', same, reported'⟩ := reports_perm reported order
      have other := before.next (.wait slots sys activeFds fds' events' (same.nodup_iff.mp distinct) reported'
        (order.length_eq ▸ most))
      rwa [← disarm_perm sys same] at other
    | handle slots sys event rest slot here answers =>
      cases loop
      exact (ih rfl (order.cons event)).next (.handle slots sys event events' slot here answers)

/-- Two tables with the same records and histories, and shared states that differ
at most in the order in which the SSL objects are listed. -/
structure SameState (slots slots' : List (Slot Nat)) (sys sys' : Sys) : Prop where
  conns : slots.map (·.conn) = slots'.map (·.conn)
  moves : slots.map (·.moves) = slots'.map (·.moves)
  context : sys.globalSslCtx = sys'.globalSslCtx
  objects : sys.liveSsl.Perm sys'.liveSsl
  opened : sys.opened = sys'.opened
  entries : sys.epoll = sys'.epoll

/-- What the events do in parallel does not depend on their order. -/
theorem InParallel.sameState {events events' : List EpollEvent} {left right : List (Slot Nat)} {sysLeft sysRight : Sys}
    (inv : Registered (events.map (·.slot)) slots sys) (order : events.Perm events')
    (first : InParallel args answers ctx events slots sys left sysLeft)
    (second : InParallel args answers ctx events' slots sys right sysRight) : SameState left right sysLeft sysRight := by
  have found (i : Nat) : (left[i]?.map fun slot => (slot.conn, slot.moves)) =
      right[i]?.map fun slot => (slot.conn, slot.moves) := by
    by_cases reported : ∃ event ∈ events, event.slot = i
    · obtain ⟨event, member, rfl⟩ := reported
      obtain ⟨slot, -, here, -, -⟩ := inv.pending event.slot (List.mem_map_of_mem member)
      obtain ⟨before, after, there, made, conn, moves⟩ := first.each event member _ (handledAlone_of_some here)
      obtain ⟨before', after', there', made', conn', moves'⟩ :=
        second.each event (order.mem_iff.mp member) _ (handledAlone_of_some here)
      obtain rfl : before = before' := Option.some.inj (there.symm.trans there')
      rw [made, made', Option.map_some, Option.map_some, conn, conn', moves, moves']
    · push Not at reported
      rw [first.others i reported, second.others i fun event member => reported event (order.mem_iff.mpr member)]
  have deeds := order.filterMap (handledAlone args answers ctx slots)
  constructor
  case conns =>
    refine List.ext_getElem? fun i => ?_
    have both := congrArg (Option.map Prod.fst) (found i)
    rw [Option.map_map, Option.map_map] at both
    rw [List.getElem?_map, List.getElem?_map]
    exact both
  case moves =>
    refine List.ext_getElem? fun i => ?_
    have both := congrArg (Option.map Prod.snd) (found i)
    rw [Option.map_map, Option.map_map] at both
    rw [List.getElem?_map, List.getElem?_map]
    exact both
  case context => rw [first.context, second.context, deeds.any_eq]
  case objects =>
    exact first.objects.trans (((deeds.flatMap_right _).append_right _).trans second.objects.symm)
  case opened => rw [first.opened, second.opened]
  case entries =>
    funext fd
    by_cases mine : ∃ event ∈ events, ∃ slot, slots[event.slot]? = some slot ∧ slot.conn.sockfd = fd
    · obtain ⟨event, member, slot, here, rfl⟩ := mine
      rw [first.removed event member slot here, second.removed event (order.mem_iff.mp member) slot here]
    · push Not at mine
      rw [first.kept fd mine, second.kept fd fun event member => mine event (order.mem_iff.mpr member)]

end Events

/-- **The order of the events does not matter.** In every run of `bench_epoll`,
handling the events of a wait in any other order is a run as well, and as good:
it ends with the same records, the same counters and histories, and the same
shared state. Each slot gets its own answers, `SSL_CTX_new` gives `ctx` to
whoever asks first, and `SSL_new` a fresh object to each. -/
theorem eventOrder_of_run (args : Arguments) (request : HTTPRequest) {slots : List (Slot Nat)} {sys : Sys}
    {events events' : List EpollEvent} (run : Run args request ⟨slots, sys, .events events⟩)
    (order : events.Perm events') (answers : Nat → Answers) (ctx : Option Ptr)
    (context : ∀ event ∈ events, (answers event.slot).io.sslCtxNew = ctx) (fresh : FreshObjects answers events sys) :
    let left := handleEvents args answers events slots sys
    let right := handleEvents args answers events' slots sys
    Run args request ⟨left.1, left.2, .events []⟩ ∧ Run args request ⟨right.1, right.2, .events []⟩ ∧
      SameState left.1 right.1 left.2 right.2 := by
  have inv : Registered (events.map (·.slot)) slots sys := run_registered run
  have first : InParallel args answers (sys.globalSslCtx.or ctx) events slots sys _ _ :=
    handleEvents_inParallel events slots sys inv fresh fun event member => by rw [context event member]
  have second : InParallel args answers (sys.globalSslCtx.or ctx) events' slots sys _ _ :=
    handleEvents_inParallel events' slots sys (inv.perm (order.map _)) (fresh.perm order) fun event member => by
      rw [context event (order.mem_iff.mpr member)]
  exact ⟨handleEvents_run events slots sys run, handleEvents_run events' slots sys (run_perm run rfl order),
    first.sameState inv order second⟩

/-- Two clients with HTTPS. -/
def secureTwo : Arguments := { secureArguments with clients := 2 }

/-- Both are connected, and get an SSL object each. -/
def bothConnect (i : Nat) : Answers :=
  ⟨0, { Io.retry with getsockopt := 0, sslCtxNew := some 7, sslNew := some (1 + i), sslSetFd := 1 }⟩

/-- Two events that are handled one way or the other. -/
theorem eventOrder_of_run_two :
    ∃ slots sys, Run secureTwo .zero ⟨slots, sys, .events [⟨0, epollout⟩, ⟨1, epollout⟩]⟩ ∧
      Run secureTwo .zero ⟨(handleEvents secureTwo bothConnect [⟨1, epollout⟩, ⟨0, epollout⟩] slots sys).1,
        (handleEvents secureTwo bothConnect [⟨1, epollout⟩, ⟨0, epollout⟩] slots sys).2, .events []⟩ ∧
      SameState (handleEvents secureTwo bothConnect [⟨0, epollout⟩, ⟨1, epollout⟩] slots sys).1
        (handleEvents secureTwo bothConnect [⟨1, epollout⟩, ⟨0, epollout⟩] slots sys).1
        (handleEvents secureTwo bothConnect [⟨0, epollout⟩, ⟨1, epollout⟩] slots sys).2
        (handleEvents secureTwo bothConnect [⟨1, epollout⟩, ⟨0, epollout⟩] slots sys).2 := by
  let pass := setupConnectionToEpollInstance secureTwo (fun _ => none) (fun _ => false) (opened secureTwo .zero).slots
    (opened secureTwo .zero).sys
  have passed : Run secureTwo .zero ⟨pass.slots, pass.sys, .wait 2⟩ :=
    (opened_run secureTwo .zero).next (.pass _ _ (fun _ => none) fun _ => false)
  have reported : List.Forall₂ (Reports pass.sys) [3, 4] [⟨0, epollout⟩, ⟨1, epollout⟩] :=
    .cons ⟨⟨epollout ||| epollet, 0, true⟩, rfl, rfl, rfl⟩ (.cons ⟨⟨epollout ||| epollet, 1, true⟩, rfl, rfl, rfl⟩ .nil)
  have woken := passed.next (.wait _ _ 2 [3, 4] [⟨0, epollout⟩, ⟨1, epollout⟩] (by decide) reported (by decide))
  refine ⟨_, _, woken, ?_⟩
  refine (eventOrder_of_run secureTwo .zero woken (.swap _ _ _) bothConnect (some 7) ?_ ⟨?_, ?_⟩).2
  · intro event member
    rfl
  · intro event member ssl _ used
    exact absurd used List.not_mem_nil
  · refine .cons ?_ (.cons (fun _ none => absurd none List.not_mem_nil) .nil)
    intro event member ssl first second
    obtain rfl := List.mem_singleton.mp member
    exact absurd (first.trans second.symm) (by decide)

end WebBench.Epoll
