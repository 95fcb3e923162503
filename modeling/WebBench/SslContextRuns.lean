import WebBench.SslContext

/-!
# One context for a whole run

The loops of the engines hand the context from slot to slot. `Shifts` is what a
loop does about it, and `Contexts` what a table knows of it in any run.
-/

namespace WebBench
set_option autoImplicit false
open CLib

variable {κ ρ : Type} {args : Arguments} {request : HTTPRequest}

/-! ## Tables -/

/-- What an engine's functions do about the context. -/
structure Driver.Shares (d : Driver κ ρ) (args : Arguments) (request : HTTPRequest) : Prop where
  init : ∀ raw, d.raw raw → (d.initConnection args request raw).sslContext = none
  allocate : ∀ sys addresses conn, (d.allocateSocket args sys addresses conn).sys.globalSslCtx = sys.globalSslCtx ∧
    (d.allocateSocket args sys addresses conn).conn.sslContext = conn.sslContext
  cleanup : ∀ conn sys, (d.cleanupConnection conn sys).2.globalSslCtx = sys.globalSslCtx ∧
    (d.cleanupConnection conn sys).1.sslContext = none
  handle : ∀ sys errno conn mask io, ContextStep sys conn (d.handleReadyConnection args sys errno conn mask io)

/-- What a loop does about the context: the one that is there stays, one is made
for a secure connection only, and records point to it or to what they pointed to before. -/
structure Shifts (slots : List (Slot κ)) (sys : Sys) (slots' : List (Slot κ)) (sys' : Sys) : Prop where
  grows : ∀ ctx, sys.globalSslCtx = some ctx → sys'.globalSslCtx = some ctx
  made : sys'.globalSslCtx = sys.globalSslCtx ∨ ∃ slot ∈ slots, slot.conn.secured
  own : ∀ slot' ∈ slots', ∀ ctx, slot'.conn.sslContext = some ctx →
    sys'.globalSslCtx = some ctx ∨ ∃ slot ∈ slots, slot.conn.sslContext = some ctx

namespace Shifts

variable {slots slots' rest rest' : List (Slot κ)} {slot slot' : Slot κ} {sys sys' sys'' : Sys}

/-- The context is left alone, and so is what the records point to. -/
theorem still (same : sys'.globalSslCtx = sys.globalSslCtx)
    (own : ∀ slot' ∈ slots', slot'.conn.sslContext = none ∨ ∃ slot ∈ slots, slot.conn.sslContext = slot'.conn.sslContext) :
    Shifts slots sys slots' sys' where
  grows := fun _ there => same.trans there
  made := .inl same
  own := fun slot' member ctx points => by
    rcases own slot' member with none | ⟨slot, before, kept⟩
    · rw [none] at points
      cases points
    · exact .inr ⟨slot, before, kept.trans points⟩

/-- Nothing happens to the slots nor to the context. -/
theorem refl (slots : List (Slot κ)) (same : sys'.globalSslCtx = sys.globalSslCtx) : Shifts slots sys slots sys' :=
  still same fun slot member => .inr ⟨slot, member, rfl⟩

/-- One slot, and then the rest. -/
theorem cons (first : Shifts [slot] sys [slot'] sys') (later : Shifts rest sys' rest' sys'') :
    Shifts (slot :: rest) sys (slot' :: rest') sys'' where
  grows := fun ctx there => later.grows ctx (first.grows ctx there)
  made := by
    rcases later.made with same | ⟨other, member, secured⟩
    · rcases first.made with same' | ⟨other, member, secured⟩
      · exact .inl (same.trans same')
      · exact .inr ⟨other, List.mem_cons.mpr (.inl (List.mem_singleton.mp member)), secured⟩
    · exact .inr ⟨other, List.mem_cons_of_mem _ member, secured⟩
  own := by
    intro other member ctx points
    rcases List.mem_cons.mp member with rfl | behind
    · rcases first.own other (List.mem_singleton_self other) ctx points with here | ⟨before, member, pointed⟩
      · exact .inl (later.grows ctx here)
      · exact .inr ⟨before, List.mem_cons.mpr (.inl (List.mem_singleton.mp member)), pointed⟩
    · exact (later.own other behind ctx points).imp_right fun ⟨before, member, pointed⟩ =>
        ⟨before, List.mem_cons_of_mem _ member, pointed⟩

/-- One slot of a table. -/
theorem set {i : Nat} (here : slots[i]? = some slot) (step : Shifts [slot] sys [slot'] sys') :
    Shifts slots sys (slots.set i slot') sys' where
  grows := step.grows
  made := step.made.imp_right fun ⟨other, member, secured⟩ =>
    ⟨slot, List.mem_of_getElem? here, List.mem_singleton.mp member ▸ secured⟩
  own := by
    intro other member ctx points
    rcases List.mem_or_eq_of_mem_set member with old | rfl
    · exact .inr ⟨other, old, points⟩
    · refine (step.own other (List.mem_singleton_self other) ctx points).imp_right fun ⟨before, only, pointed⟩ => ?_
      exact ⟨slot, List.mem_of_getElem? here, List.mem_singleton.mp only ▸ pointed⟩

end Shifts

namespace Driver.Shares

variable {d : Driver κ ρ} (shares : d.Shares args request)
include shares

/-- A slot that is initialised and opened has no context and makes none. -/
theorem fresh (sys : Sys) (addresses : Option (List Address)) (raw : ConnectionOf κ) (allowed : d.raw raw) :
    (d.fresh args request sys addresses raw).2.globalSslCtx = sys.globalSslCtx ∧
      (d.fresh args request sys addresses raw).1.conn.sslContext = none := by
  obtain ⟨same, kept⟩ := shares.allocate sys addresses (d.initConnection args request raw)
  exact ⟨same, kept.trans (shares.init raw allowed)⟩

/-- A slot that is cleaned up and opened again makes no context. -/
theorem recycle (sys : Sys) (addresses : Option (List Address)) (slot : Slot κ) :
    Shifts [slot] sys [(d.recycle args sys addresses slot).1] (d.recycle args sys addresses slot).2 := by
  obtain ⟨cleaned, none⟩ := shares.cleanup slot.conn sys
  obtain ⟨same, kept⟩ := shares.allocate (d.cleanupConnection slot.conn sys).2 addresses
    (d.cleanupConnection slot.conn sys).1
  refine .still (same.trans cleaned) fun other member => .inl ?_
  rw [List.mem_singleton.mp member]
  exact kept.trans none

/-- A handler makes the context at most, for a connection that is to be secured. -/
theorem ready (sys : Sys) (errno : Int) (mask : ρ) (io : Io) (slot : Slot κ) :
    Shifts [slot] sys [(d.ready args sys errno mask io slot).1] (d.ready args sys errno mask io slot).2 := by
  have step := shares.handle sys errno slot.conn mask io
  refine ⟨fun ctx there => ?_, ?_, fun other member ctx points => ?_⟩
  · rcases step.global with same | ⟨none, -⟩
    · exact same.trans there
    · rw [none] at there
      cases there
  · exact step.global.imp_right fun ⟨_, secured⟩ => ⟨slot, List.mem_singleton_self slot, secured⟩
  · rw [List.mem_singleton.mp member] at points
    rcases step.own with kept | global
    · exact .inr ⟨slot, List.mem_singleton_self slot, kept.symm.trans points⟩
    · exact .inl (global.symm.trans points)

end Driver.Shares

/-- What a table knows about the context: records point to no other, and it takes HTTPS to have one. -/
structure Contexts (args : Arguments) (slots : List (Slot κ)) (sys : Sys) : Prop where
  held : ∀ slot ∈ slots, ∀ ctx, slot.conn.sslContext = some ctx → sys.globalSslCtx = some ctx
  secure : sys.globalSslCtx ≠ none → args.protocol = protocolHttps

/-- **A loop keeps it**, where only secure jobs have secure connections. -/
theorem Contexts.shift {slots slots' : List (Slot κ)} {sys sys' : Sys} (before : Contexts args slots sys)
    (shifts : Shifts slots sys slots' sys')
    (https : ∀ slot ∈ slots, slot.conn.secured → args.protocol = protocolHttps) : Contexts args slots' sys' where
  held := fun slot member ctx points => (shifts.own slot member ctx points).elim id fun ⟨old, here, pointed⟩ =>
    shifts.grows ctx (before.held old here ctx pointed)
  secure := fun there => by
    rcases shifts.made with same | ⟨slot, member, secured⟩
    · exact before.secure (same ▸ there)
    · exact https slot member secured

/-- Only the cycle of a secure job has a secure connection. -/
theorem secured_of_trace {job : Job} {calls : List Call} {p : Phase} {conn : ConnectionOf κ}
    (trace : job.Trace .idle calls p) (https : conn.isHttps = job.https) (state : conn.state = p.state)
    (secured : conn.secured) : job.https = true := by
  rcases secured with secure | waiting
  · exact https.symm.trans secure
  · have sound := Job.sound_of_trace trace trivial
    rw [waiting] at state
    cases p with
    | awaitingReply got => exact sound.1
    | _ => exact ConnState.noConfusion state

/-! ## Sockets -/

/-- Opening a socket leaves the context alone. -/
theorem connectLoop_context (noSocket : Int → Bool) (addresses : List Address) (sys : Sys) :
    (connectLoop noSocket addresses sys).2.1.globalSslCtx = sys.globalSslCtx := by
  have asked : ∀ (sys : Sys) (want : Int), (sys.socket want).2.globalSslCtx = sys.globalSslCtx := by
    intro sys want
    unfold Sys.socket
    split
    all_goals rfl
  induction addresses generalizing sys with
  | nil => rfl
  | cons address next ih =>
    unfold connectLoop
    dsimp only
    split
    · exact (ih _).trans (asked sys address.socket)
    · split
      · exact (ih _).trans (asked sys address.socket)
      · exact asked sys address.socket

theorem createNonblockingSocket_context (illegalPort noSocket : Int → Bool) (host : List Byte) (port : Int)
    (addresses : Option (List Address)) (sys : Sys) :
    (createNonblockingSocket illegalPort noSocket host port addresses sys).2.1.globalSslCtx = sys.globalSslCtx := by
  unfold createNonblockingSocket
  split
  · rfl
  · split
    · rfl
    · exact connectLoop_context noSocket _ sys

/-- `allocate_socket` keeps what `create_nonblocking_socket` returns. -/
theorem allocated_context {sys : Sys} {conn : ConnectionOf κ} {proxied : Prop} [Decidable proxied]
    {a b : Int × Sys × List Call} (first : a.2.1.globalSslCtx = sys.globalSslCtx)
    (second : b.2.1.globalSslCtx = sys.globalSslCtx) (closed : Int → Prop) [DecidablePred closed] (failed done : Int) :
    let socket := if proxied then a else b
    let o : Outcome κ := if closed socket.1 then ⟨failed, { conn with sockfd := socket.1 }, socket.2.1, socket.2.2⟩
      else ⟨done, { conn with sockfd := socket.1, state := .connecting }, socket.2.1, socket.2.2⟩
    o.sys.globalSslCtx = sys.globalSslCtx ∧ o.conn.sslContext = conn.sslContext := by
  have kept : (if proxied then a else b).2.1.globalSslCtx = sys.globalSslCtx := by
    split
    · exact first
    · exact second
  dsimp only
  generalize (if proxied then a else b) = socket at kept ⊢
  split
  · exact ⟨kept, rfl⟩
  · exact ⟨kept, rfl⟩

theorem closed_context (closes : Prop) [Decidable closes] (fd : Int) (sys : Sys) :
    (if closes then sys.close fd else sys).globalSslCtx = sys.globalSslCtx := by
  split
  all_goals rfl

/-! ## The engines -/

namespace Poll

/-- `bench_poll` hands the context around as it should. -/
theorem shares (args : Arguments) (request : HTTPRequest) : driver.Shares args request where
  init := fun _ _ => rfl
  allocate := fun sys addresses conn =>
    allocated_context (createNonblockingSocket_context _ _ args.proxyHost.bytes args.proxyPort addresses sys)
      (createNonblockingSocket_context _ _ args.targetHost.bytes args.targetPort addresses sys) (· ≤ 0) (-1) 1
  cleanup := by
    intro conn sys
    refine ⟨?_, rfl⟩
    show (cleanupConnection conn sys).2.globalSslCtx = sys.globalSslCtx
    unfold cleanupConnection
    cases conn.ssl with
    | none => exact closed_context _ conn.sockfd sys
    | some ssl => exact closed_context _ conn.sockfd (sys.sslFree ssl)
  handle := fun sys errno conn revents io => handle_context sys errno conn revents io args

/-- The loop that opens the table makes no context. -/
theorem openAll_contexts (addresses : Nat → Option (List Address)) (raw : Nat → Connection) :
    ∀ (k i : Nat) (sys : Sys), (openAll args request addresses raw i k sys).sys.globalSslCtx = sys.globalSslCtx ∧
      ∀ slot ∈ (openAll args request addresses raw i k sys).slots, slot.conn.sslContext = none := by
  intro k
  induction k with
  | zero => exact fun _ _ => ⟨rfl, fun _ member => absurd member List.not_mem_nil⟩
  | succ k ih =>
    intro i sys
    obtain ⟨same, none⟩ := (shares args request).fresh sys (addresses i) (raw i) trivial
    obtain ⟨later, others⟩ := ih (i + 1) (driver.fresh args request sys (addresses i) (raw i)).2
    exact ⟨later.trans same, List.forall_mem_cons.mpr ⟨none, others⟩⟩

/-- The set-up pass of `bench_poll` makes no context either. -/
theorem setupLoop_shifts (request : HTTPRequest) (addresses : Nat → Option (List Address)) (bitmapSize : Int) :
    ∀ (slots : List (Slot Nat)) (i : Nat) (sys : Sys) (num : Int) (fds : List PollFd) (bitmap : List Byte),
      Shifts slots sys (setupLoop args addresses bitmapSize i slots sys num fds bitmap).slots
        (setupLoop args addresses bitmapSize i slots sys num fds bitmap).sys := by
  intro slots
  induction slots with
  | nil => exact fun _ _ _ _ _ => .refl [] rfl
  | cons slot rest ih =>
    intro i sys num fds bitmap
    unfold setupLoop
    split
    · dsimp only
      split
      · exact .refl _ rfl
      · exact .cons (.refl [slot] rfl) (ih ..)
    · split
      · exact .cons (.refl [slot] rfl) (ih ..)
      · exact .cons ((shares args request).recycle sys (addresses i) slot) (ih ..)

theorem setupPass_shifts (request : HTTPRequest) (addresses : Nat → Option (List Address)) (w : World) :
    Shifts w.slots w.sys (setupPass args addresses w).slots (setupPass args addresses w).sys := by
  unfold setupPass setupConnectionFdsets
  dsimp only
  split
  · exact .refl _ rfl
  · split
    · exact .refl _ rfl
    · exact setupLoop_shifts request addresses ..

/-- The dispatch makes it once, whichever slots it comes to. -/
theorem dispatch_shifts (request : HTTPRequest) (answers : Nat → Answers) (bitmap : List Byte) (bitmapSize : Int) :
    ∀ (slots : List (Slot Nat)) (i : Nat) (fds : List PollFd) (sys : Sys),
      Shifts slots sys (dispatch args answers bitmap bitmapSize i slots fds sys).slots
        (dispatch args answers bitmap bitmapSize i slots fds sys).sys := by
  intro slots
  induction slots with
  | nil => exact fun _ _ _ => .refl [] rfl
  | cons slot rest ih =>
    intro i fds sys
    unfold dispatch
    split
    · cases fds with
      | nil => exact .refl _ rfl
      | cons fd fds => exact .cons ((shares args request).ready sys (answers i).errno fd.revents (answers i).io slot) (ih ..)
    · exact .cons (.refl [slot] rfl) (ih ..)

/-- A connection of a run is a secure one only with HTTPS. -/
theorem run_secured {w : World} (run : Run args request w) :
    ∀ slot ∈ w.slots, slot.conn.secured → args.protocol = protocolHttps := by
  intro slot member secured
  obtain ⟨p, trace, record⟩ := (follows args request).tracks (run_slot run slot member)
  exact eq_of_beq (secured_of_trace trace record.https record.state secured)

/-- In every state of a run of `bench_poll`, records point to the one context. -/
theorem run_contexts {w : World} (run : Run args request w) : Contexts args w.slots w.sys := by
  induction run with
  | start first =>
    obtain ⟨addresses, raw⟩ := first
    obtain ⟨same, none⟩ := @openAll_contexts args request addresses raw (numConnections args) 0 .initial
    exact ⟨fun slot member ctx points => absurd ((none slot member).symm.trans points) (by simp),
      fun there => absurd same there⟩
  | @next w w' before step ih =>
    have pass : ∀ addresses, Contexts args (setupPass args addresses w).slots (setupPass args addresses w).sys :=
      fun addresses => ih.shift (setupPass_shifts request addresses w) (run_secured before)
    cases step with
    | quiet addresses => exact pass addresses
    | ready addresses answers revents counted =>
      exact (pass addresses).shift (dispatch_shifts request answers ..) (run_secured (before.next (.quiet w addresses)))

/-- A pass keeps the context that is there. -/
theorem step_grows (request : HTTPRequest) {w w' : World} (step : Step args w w') :
    ∀ ctx, w.sys.globalSslCtx = some ctx → w'.sys.globalSslCtx = some ctx := by
  intro ctx there
  cases step with
  | quiet addresses => exact (setupPass_shifts request addresses w).grows ctx there
  | ready addresses answers revents counted =>
    exact (dispatch_shifts request answers ..).grows ctx ((setupPass_shifts request addresses w).grows ctx there)

end Poll

namespace Epoll

/-- `bench_epoll` hands the context around as it should. -/
theorem shares (args : Arguments) (request : HTTPRequest) : driver.Shares args request where
  init := by
    rintro _ rfl
    rfl
  allocate := fun sys addresses conn =>
    allocated_context (createNonblockingSocket_context _ _ args.proxyHost.bytes args.proxyPort addresses sys)
      (createNonblockingSocket_context _ _ args.targetHost.bytes args.targetPort addresses sys) (· ≤ 0) (-1) 1
  cleanup := by
    intro conn sys
    refine ⟨?_, rfl⟩
    show (cleanupConnection conn sys).2.globalSslCtx = sys.globalSslCtx
    unfold cleanupConnection
    cases conn.ssl with
    | none => exact closed_context _ conn.sockfd sys
    | some ssl => exact closed_context _ conn.sockfd (sys.sslFree ssl)
  handle := fun sys errno conn ev io => handle_context sys errno conn ev io args

theorem openAll_contexts (addresses : Nat → Option (List Address)) :
    ∀ (k i : Nat) (sys : Sys), (openAll args request addresses i k sys).2.globalSslCtx = sys.globalSslCtx ∧
      ∀ slot ∈ (openAll args request addresses i k sys).1, slot.conn.sslContext = none := by
  intro k
  induction k with
  | zero => exact fun _ _ => ⟨rfl, fun _ member => absurd member List.not_mem_nil⟩
  | succ k ih =>
    intro i sys
    obtain ⟨same, none⟩ := (shares args request).fresh sys (addresses i) (.zero 0) rfl
    obtain ⟨later, others⟩ := ih (i + 1) (driver.fresh args request sys (addresses i) (.zero 0)).2
    exact ⟨later.trans same, List.forall_mem_cons.mpr ⟨none, others⟩⟩

/-- Registering a descriptor has nothing to do with the context. -/
theorem epollAdd_context (sys : Sys) (fd : Int) (entry : Registration) (full : Bool) :
    (sys.epollAdd fd entry full).2.2.globalSslCtx = sys.globalSslCtx := by
  unfold Sys.epollAdd
  repeat' split
  all_goals rfl

theorem setupLoop_shifts (request : HTTPRequest) (addresses : Nat → Option (List Address)) (full : Nat → Bool) :
    ∀ (slots : List (Slot Nat)) (i : Nat) (sys : Sys) (num : Int),
      Shifts slots sys (setupLoop args addresses full i slots sys num).slots
        (setupLoop args addresses full i slots sys num).sys := by
  intro slots
  induction slots with
  | nil => exact fun _ _ _ => .refl [] rfl
  | cons slot rest ih =>
    intro i sys num
    unfold setupLoop
    split
    · rename_i events _
      have same := epollAdd_context sys slot.conn.sockfd ⟨events, i, true⟩ (full i)
      dsimp only
      split
      · exact .refl _ same
      · exact .cons (.refl [slot] same) (ih ..)
    · split
      · exact .cons (.refl [slot] rfl) (ih ..)
      · exact .cons ((shares args request).recycle sys (addresses i) slot) (ih ..)

/-- A connection of a run is a secure one only with HTTPS. -/
theorem run_secured {w : World} (run : Run args request w) :
    ∀ slot ∈ w.slots, slot.conn.secured → args.protocol = protocolHttps := by
  intro slot member secured
  obtain ⟨p, trace, record⟩ := (follows args request).tracks (run_slot run slot member)
  exact eq_of_beq (secured_of_trace trace record.https record.state secured)

theorem step_shifts (request : HTTPRequest) {w w' : World} (step : Step args w w') :
    Shifts w.slots w.sys w'.slots w'.sys := by
  cases step with
  | pass slots sys addresses full =>
    unfold setupConnectionToEpollInstance
    split
    · exact .refl slots rfl
    · exact setupLoop_shifts request addresses full slots 0 sys 0
  | handle slots sys event rest slot here answers =>
    exact .set here ((shares args request).ready sys answers.errno event.events answers.io slot)
  | wait slots sys activeFds fds events distinct reported most => exact .refl slots rfl
  | timeUp slots sys | waitFailed slots sys activeFds | again slots sys => exact .refl slots rfl

/-- In every state of a run of `bench_epoll`, records point to the one context. -/
theorem run_contexts {w : World} (run : Run args request w) : Contexts args w.slots w.sys := by
  induction run with
  | start first =>
    obtain ⟨addresses⟩ := first
    obtain ⟨same, none⟩ := @openAll_contexts args request addresses (numConnections args) 0 .initial
    exact ⟨fun slot member ctx points => absurd ((none slot member).symm.trans points) (by simp),
      fun there => absurd same there⟩
  | next before step ih => exact ih.shift (step_shifts request step) (run_secured before)

end Epoll

namespace Select

/-- `bench_select` hands the context around as it should. -/
theorem shares (args : Arguments) (request : HTTPRequest) : driver.Shares args request where
  init := fun _ _ => rfl
  allocate := fun sys addresses conn =>
    allocated_context (createNonblockingSocket_context _ _ args.proxyHost.bytes args.proxyPort addresses sys)
      (createNonblockingSocket_context _ _ args.targetHost.bytes args.targetPort addresses sys) (· < 0) (-1) 0
  cleanup := by
    intro conn sys
    refine ⟨?_, rfl⟩
    show (cleanupConnection conn sys).2.globalSslCtx = sys.globalSslCtx
    unfold cleanupConnection
    cases conn.ssl with
    | none => exact closed_context _ conn.sockfd sys
    | some ssl => exact closed_context _ conn.sockfd (sys.sslFree ssl)
  handle := fun sys errno conn fds io => handle_context sys errno conn fds io args

theorem openAll_contexts (addresses : Nat → Option (List Address)) (raw : Nat → Connection) :
    ∀ (k i : Nat) (sys : Sys) (slots : List (Slot Int)) (sys' : Sys),
      openAll args request addresses raw i k sys = some (slots, sys') → sys'.globalSslCtx = sys.globalSslCtx ∧
        ∀ slot ∈ slots, slot.conn.sslContext = none := by
  intro k
  induction k with
  | zero =>
    intro _ _ _ _ opened
    cases opened
    exact ⟨rfl, fun _ member => absurd member List.not_mem_nil⟩
  | succ k ih =>
    intro i sys slots sys' opened
    obtain ⟨same, none⟩ := (shares args request).fresh sys (addresses i) (raw i) trivial
    unfold openAll at opened
    dsimp only at opened
    split at opened
    · cases opened
    · obtain ⟨⟨rest, last⟩, later, made⟩ := Option.map_eq_some_iff.mp opened
      cases made
      obtain ⟨same', others⟩ := ih _ _ _ _ later
      exact ⟨same'.trans same, List.forall_mem_cons.mpr ⟨none, others⟩⟩

theorem setupLoop_shifts (request : HTTPRequest) (addresses : Nat → Option (List Address)) :
    ∀ (slots : List (Slot Int)) (i : Nat) (sys : Sys) (fds : FdSets) (maxFd : Int) (r : Setup),
      setupLoop args addresses i slots sys fds maxFd = some r → Shifts slots sys r.slots r.sys := by
  intro slots
  induction slots with
  | nil =>
    intro _ _ _ _ _ passed
    cases passed
    exact .refl [] rfl
  | cons slot rest ih =>
    intro i sys fds maxFd r passed
    unfold setupLoop at passed
    split at passed
    · dsimp only at passed
      split at passed
      · cases passed
      · obtain ⟨tail, later, rfl⟩ := Option.map_eq_some_iff.mp passed
        exact .cons ((shares args request).recycle sys (addresses i) slot) (ih _ _ _ _ _ later)
    · obtain ⟨tail, later, rfl⟩ := Option.map_eq_some_iff.mp passed
      exact .cons (.refl [slot] rfl) (ih _ _ _ _ _ later)

theorem dispatch_shifts (request : HTTPRequest) (answers : Nat → Answers) (ready : FdSets) :
    ∀ (slots : List (Slot Int)) (i : Nat) (sys : Sys), Shifts slots sys (dispatch args answers ready i slots sys).1
      (dispatch args answers ready i slots sys).2 := by
  intro slots
  induction slots with
  | nil => exact fun _ _ => .refl [] rfl
  | cons slot rest ih =>
    intro i sys
    exact .cons ((shares args request).ready sys (answers i).errno ready (answers i).io slot) (ih ..)

/-- A connection of a run is a secure one only with HTTPS. -/
theorem run_secured {w : World} (run : Run args request w) :
    ∀ slot ∈ w.slots, slot.conn.secured → args.protocol = protocolHttps := by
  intro slot member secured
  obtain ⟨p, trace, ⟨sizes, q, made, record, names, -⟩, -⟩ := (follows args request).tracks (run_slot run slot member)
  have https : slot.conn.isHttps = (job args request).https := by
    rw [made]
    exact record.https
  have state : slot.conn.state = p.state := by
    rw [made]
    exact record.state.trans names
  exact eq_of_beq (secured_of_trace trace https state secured)

/-- In every state of a run of `bench_select`, records point to the one context. -/
theorem run_contexts {w : World} (run : Run args request w) : Contexts args w.slots w.sys := by
  induction run with
  | start first =>
    obtain ⟨addresses, raw, opened⟩ := first
    obtain ⟨same, none⟩ := openAll_contexts addresses raw _ _ _ _ _ opened
    exact ⟨fun slot member ctx points => absurd ((none slot member).symm.trans points) (by simp),
      fun there => absurd same there⟩
  | @next w w' before step ih =>
    cases step with
    | quiet addresses pass => exact ih.shift (setupLoop_shifts request addresses _ _ _ _ _ _ pass) (run_secured before)
    | @ready addresses r pass watched answers fds selected =>
      have kept : Contexts args r.slots r.sys :=
        ih.shift (setupLoop_shifts request addresses _ _ _ _ _ _ pass) (run_secured before)
      exact kept.shift (dispatch_shifts request answers fds ..) (run_secured (before.next (.quiet w addresses pass)))

theorem step_grows (request : HTTPRequest) {w w' : World} (step : Step args w w') :
    ∀ ctx, w.sys.globalSslCtx = some ctx → w'.sys.globalSslCtx = some ctx := by
  intro ctx there
  cases step with
  | quiet addresses pass => exact (setupLoop_shifts request addresses _ _ _ _ _ _ pass).grows ctx there
  | ready addresses pass watched answers fds selected =>
    exact (dispatch_shifts request answers fds ..).grows ctx
      ((setupLoop_shifts request addresses _ _ _ _ _ _ pass).grows ctx there)

end Select

/-! ## Runs -/

/-- One context serves a whole run: the records point to it alone, no later step
makes another, none is asked for while it is there, and without HTTPS there is none. -/
structure OneContext {σ : Type} (d : Driver κ ρ) (args : Arguments) (run : σ → Prop) (step : σ → σ → Prop)
    (slots : σ → List (Slot κ)) (sys : σ → Sys) : Prop where
  held : ∀ w, run w → ∀ slot ∈ slots w, ∀ ctx, slot.conn.sslContext = some ctx → (sys w).globalSslCtx = some ctx
  once : ∀ w w', run w → step w w' → ∀ ctx, (sys w).globalSslCtx = some ctx → (sys w').globalSslCtx = some ctx
  asked : ∀ sys : Sys, sys.globalSslCtx ≠ none → ∀ errno conn mask io ctx,
    Call.sslCtxNew ctx ∉ (d.handleReadyConnection args sys errno conn mask io).calls
  secure : ∀ w, run w → (sys w).globalSslCtx ≠ none → args.protocol = protocolHttps

/-- **One context.** In every run of the three engines. -/
theorem oneContext_of_run (args : Arguments) (request : HTTPRequest) :
    OneContext Poll.driver args (Poll.Run args request) (Poll.Step args) Poll.World.slots Poll.World.sys ∧
      OneContext Epoll.driver args (Epoll.Run args request) (Epoll.Step args) Epoll.World.slots Epoll.World.sys ∧
      OneContext Select.driver args (Select.Run args request) (Select.Step args) Select.World.slots Select.World.sys := by
  refine ⟨⟨?_, ?_, ?_, ?_⟩, ⟨?_, ?_, ?_, ?_⟩, ⟨?_, ?_, ?_, ?_⟩⟩
  · exact fun w run => (Poll.run_contexts run).held
  · exact fun w w' _ step => Poll.step_grows request step
  · exact fun sys there errno conn mask io => ((Poll.shares args request).handle sys errno conn mask io).asked there
  · exact fun w run => (Poll.run_contexts run).secure
  · exact fun w run => (Epoll.run_contexts run).held
  · exact fun w w' _ step => (Epoll.step_shifts request step).grows
  · exact fun sys there errno conn mask io => ((Epoll.shares args request).handle sys errno conn mask io).asked there
  · exact fun w run => (Epoll.run_contexts run).secure
  · exact fun w run => (Select.run_contexts run).held
  · exact fun w w' _ step => Select.step_grows request step
  · exact fun sys there errno conn mask io => ((Select.shares args request).handle sys errno conn mask io).asked there
  · exact fun w run => (Select.run_contexts run).secure

end WebBench
