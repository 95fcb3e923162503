import WebBench.Slot
import WebBench.Poll.Handler

/-!
# Descriptors

What opening and closing sockets does to the open descriptors and to the epoll
instance, in terms both engines share: a slot gives up one descriptor and gets
another that no one else has (`Moved`).
-/

namespace WebBench
set_option autoImplicit false
open CLib

/-- Only open descriptors have entries in the epoll instance. -/
def Sys.Keyed (sys : Sys) : Prop := ∀ fd, fd ∉ sys.opened → sys.epoll fd = none

/-- One slot has given up `fd` and holds `fd'` now; nothing else has changed hands. -/
structure Moved (sys sys' : Sys) (fd fd' : Int) : Prop where
  entries : ∀ d, sys'.epoll d = if d = fd then none else sys.epoll d
  kept : ∀ d ∈ sys.opened, d ≠ fd → d ∈ sys'.opened
  fresh : 0 < fd' → fd' ∈ sys'.opened ∧ (fd' = fd ∨ fd' ∉ sys.opened)

/-- A descriptor that is opened and closed again leaves no trace. -/
theorem Sys.close_opened {sys : Sys} {fd : Int} (keyed : sys.Keyed) (free : fd ∉ sys.opened) :
    Sys.close { sys with opened := fd :: sys.opened } fd = sys := by
  have same : (fd :: sys.opened).filter (· ≠ fd) = sys.opened := by
    rw [List.filter_cons_of_neg (by simp), List.filter_eq_self]
    intro d member
    exact decide_eq_true fun here => free (here ▸ member)
  have absent : (fun d => if d = fd then none else sys.epoll d) = sys.epoll := by
    funext d
    split
    · rename_i here
      rw [here, keyed fd free]
    · rfl
  unfold Sys.close
  simp only [same, absent]

/-- What the search for an address leaves open: the descriptor it returns, and nothing else that matters. -/
structure Opened (sys : Sys) (fd : Int) (sys' : Sys) : Prop where
  result : fd = -1 ∨ 0 < fd ∧ fd ∉ sys.opened ∧ fd ∈ sys'.opened
  kept : ∀ d ∈ sys.opened, d ∈ sys'.opened
  epoll : sys'.epoll = sys.epoll

/-- The descriptor the loop over the addresses leaves is a new one, and no entry has changed. -/
theorem connectLoop_opened {noSocket : Int → Bool} (positive : ∀ fd, noSocket fd = decide (fd ≤ 0))
    (addresses : List Address) {sys : Sys} (keyed : sys.Keyed) :
    Opened sys (connectLoop noSocket addresses sys).1 (connectLoop noSocket addresses sys).2.1 := by
  induction addresses generalizing sys with
  | nil => exact ⟨.inl rfl, fun _ member => member, rfl⟩
  | cons address next ih =>
    unfold connectLoop Sys.socket
    dsimp only
    split
    · -- the kernel gives the descriptor
      rename_i given
      have keyed' : Sys.Keyed { sys with opened := address.socket :: sys.opened } := fun d absent =>
        keyed d fun member => absent (List.mem_cons_of_mem _ member)
      split
      · have rest := ih keyed'
        have kept : ∀ d ∈ sys.opened, d ∈ (connectLoop noSocket next _).2.1.opened :=
          fun d member => rest.kept d (List.mem_cons_of_mem _ member)
        refine ⟨rest.result.imp_right fun found => ⟨found.1, ?_, found.2.2⟩, kept, rest.epoll⟩
        exact fun member => found.2.1 (List.mem_cons_of_mem _ member)
      · rename_i some
        split
        · rw [Sys.close_opened keyed given.2]
          exact ih keyed
        · refine ⟨.inr ⟨?_, given.2, List.mem_cons_self⟩, fun d member => List.mem_cons_of_mem _ member, rfl⟩
          simpa [positive] using some
    · -- the kernel has none
      split
      · exact ih keyed
      · rename_i some
        exact absurd (positive (-1)) (by simpa using some)

/-- So is the one `create_nonblocking_socket` returns. -/
theorem createNonblockingSocket_opened {noSocket : Int → Bool} (positive : ∀ fd, noSocket fd = decide (fd ≤ 0))
    (illegalPort : Int → Bool) (host : List Byte) (port : Int) (addresses : Option (List Address)) {sys : Sys}
    (keyed : sys.Keyed) :
    Opened sys (createNonblockingSocket illegalPort noSocket host port addresses sys).1
      (createNonblockingSocket illegalPort noSocket host port addresses sys).2.1 := by
  have none : Opened sys (-1) sys := ⟨.inl rfl, fun _ member => member, rfl⟩
  unfold createNonblockingSocket
  split
  · exact none
  · cases addresses with
    | none => exact none
    | some list => exact connectLoop_opened positive list keyed

/-! ## Handlers open and close nothing -/

/-- A step leaves descriptors and entries alone. -/
structure Still (sys : Sys) (conn : Connection) (o : Outcome Nat) : Prop where
  opened : o.sys.opened = sys.opened
  epoll : o.sys.epoll = sys.epoll
  sockfd : o.conn.sockfd = conn.sockfd

section Cases

variable (sys : Sys) (conn : Connection) (io : Io)

theorem getGlobalSslCtx_still :
    (getGlobalSslCtx sys io).2.1.opened = sys.opened ∧ (getGlobalSslCtx sys io).2.1.epoll = sys.epoll := by
  unfold getGlobalSslCtx
  split
  · exact ⟨rfl, rfl⟩
  · exact ⟨rfl, rfl⟩

theorem sslNew_still (want : Option Ptr) :
    (sys.sslNew want).2.opened = sys.opened ∧ (sys.sslNew want).2.epoll = sys.epoll := by
  unfold Sys.sslNew
  split
  · split
    · exact ⟨rfl, rfl⟩
    · exact ⟨rfl, rfl⟩
  · exact ⟨rfl, rfl⟩

/-- The set-up of TLS opens and registers nothing. -/
theorem setupSslContext_still : Still sys conn (setupSslContext sys io conn) := by
  have context := getGlobalSslCtx_still sys io
  have object := sslNew_still (getGlobalSslCtx sys io).2.1 io.sslNew
  unfold setupSslContext
  generalize getGlobalSslCtx sys io = got at context object ⊢
  obtain ⟨ctx, sys', calls⟩ := got
  cases ctx with
  | none => exact ⟨context.1, context.2, rfl⟩
  | some ctx =>
    dsimp only at object ⊢
    generalize sys'.sslNew io.sslNew = made at object ⊢
    obtain ⟨ssl, sys''⟩ := made
    have both : sys''.opened = sys.opened ∧ sys''.epoll = sys.epoll :=
      ⟨object.1.trans context.1, object.2.trans context.2⟩
    cases ssl with
    | none => exact ⟨both.1, both.2, rfl⟩
    | some ssl =>
      dsimp only
      split
      · exact ⟨both.1, both.2, rfl⟩
      · exact ⟨both.1, both.2, rfl⟩

/-- Nor does reading the proxy's answer. -/
theorem handleProxyResponse_still (noSocket : Int → Bool) (errno : Int) :
    Still sys conn (handleProxyResponse noSocket sys errno conn io) := by
  unfold handleProxyResponse
  dsimp only
  repeat' split
  all_goals exact ⟨rfl, rfl, rfl⟩

theorem Still.proxyResponse {recv : Outcome Nat} (still : Still sys conn recv) :
    let calls := recv.calls ++ [.proxyReply recv.ret]
    Still sys conn
      (if recv.ret = 1 then
        let setup := setupSslContext recv.sys io recv.conn
        ⟨0, { setup.conn with state := .tlsHandshake }, setup.sys, calls ++ setup.calls⟩
      else if recv.ret = 0 then ⟨0, recv.conn, recv.sys, calls⟩
      else ⟨0, recv.conn.toError, recv.sys, calls⟩) := by
  have setup := setupSslContext_still recv.sys recv.conn io
  dsimp only
  split
  · exact ⟨setup.opened.trans still.opened, setup.epoll.trans still.epoll, setup.sockfd.trans still.sockfd⟩
  · split
    · exact ⟨still.opened, still.epoll, still.sockfd⟩
    · exact ⟨still.opened, still.epoll, still.sockfd⟩

theorem Poll.whenTlsHandshake_still (revents : BitVec 16) : Still sys conn (Poll.whenTlsHandshake sys conn revents io) := by
  unfold Poll.whenTlsHandshake
  dsimp only
  repeat' split
  all_goals exact ⟨rfl, rfl, rfl⟩

theorem Poll.whenSending_still (revents : BitVec 16) : Still sys conn (Poll.whenSending sys conn revents io) := by
  unfold Poll.whenSending
  dsimp only
  repeat' split
  all_goals exact ⟨rfl, rfl, rfl⟩

theorem Poll.whenReceiving_still (revents : BitVec 16) : Still sys conn (Poll.whenReceiving sys conn revents io) := by
  unfold Poll.whenReceiving
  dsimp only
  repeat' split
  all_goals exact ⟨rfl, rfl, rfl⟩

end Cases

end WebBench
