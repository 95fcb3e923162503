import WebBench.Lib.SizeT
import WebBench.Lib.CString

/-!
# System calls and OpenSSL calls

What the engines ask of the kernel and of OpenSSL, and what these answer. The
answers of one step are inputs (`Io`); where an answer depends on earlier calls
(descriptors in use, live SSL objects, the epoll instance) the state it depends
on is kept in `Sys`. A count of moved bytes is cut to the length the call
offered, so `send`, `recv`, `read`, `SSL_write` and `SSL_read` never move more
than they were asked to.
-/

namespace WebBench
set_option autoImplicit false
open CLib

/-- A non-NULL pointer to an OpenSSL object. -/
abbrev Ptr := Nat

/-! ## errno -/

def eagain : Int := 11
def ewouldblock : Int := 11
def eexist : Int := 17
def ebadf : Int := 9
def enospc : Int := 28
def einprogress : Int := 115

/-- `errno == EAGAIN || errno == EWOULDBLOCK`. -/
def tryAgain (errno : Int) : Bool := errno == eagain || errno == ewouldblock

/-- `errno` after a call: only a call that returned -1 has set it. -/
def errnoAfter (ret stale fresh : Int) : Int := if ret = -1 then fresh else stale

/-- The codes of `SSL_get_error`. -/
inductive SslError where
  | none | ssl | wantRead | wantWrite | wantX509Lookup | syscall | zeroReturn | wantConnect | wantAccept
  deriving DecidableEq, Repr

/-- `SSL_ERROR_WANT_READ` or `SSL_ERROR_WANT_WRITE`. -/
def SslError.wants (e : SslError) : Bool := e == .wantRead || e == .wantWrite

/-! ## Answers -/

/-- Outcome of `send` and `SSL_write`: how many bytes the peer takes. -/
inductive Taken where
  | bytes (n : Nat)
  | failed
  deriving DecidableEq, Repr

/-- Return value for `len` offered bytes. -/
def Taken.ret (len : Nat) : Taken → Int
  | .bytes n => (min n len : Nat)
  | .failed => -1

/-- Outcome of `recv`, `read` and `SSL_read`: the bytes waiting, empty when the peer closed. -/
inductive Given where
  | bytes (data : List Byte)
  | failed
  deriving DecidableEq, Repr

/-- What the call stores into a buffer with room for `room` bytes. -/
def Given.chunk (room : Nat) : Given → List Byte
  | .bytes data => data.take room
  | .failed => []

/-- Return value. -/
def Given.ret (room : Nat) : Given → Int
  | .bytes data => (data.take room).length
  | .failed => -1

namespace Taken

variable {len : Nat} {taken : Taken}

theorem ret_toNat_le (len : Nat) (taken : Taken) : (taken.ret len).toNat ≤ len := by
  cases taken with
  | bytes n => simp [ret]
  | failed => simp [ret]

end Taken

namespace Given

variable {room : Nat} {given : Given}

theorem chunk_length_le (room : Nat) (given : Given) : (given.chunk room).length ≤ room := by
  cases given with
  | bytes data => simp [chunk]
  | failed => simp [chunk]

theorem ret_of_pos (some : 0 < given.ret room) : given.ret room = (given.chunk room).length := by
  cases given with
  | bytes data => rfl
  | failed => exact absurd (show (0 : Int) < -1 from some) (by decide)

theorem chunk_of_nonpos (none : given.ret room ≤ 0) : given.chunk room = [] := by
  cases given with
  | bytes data =>
    have empty : ((data.take room).length : Int) ≤ 0 := none
    have zero : (data.take room).length = 0 := by omega
    exact List.eq_nil_of_length_eq_zero zero
  | failed => rfl

end Given

/-- The answers to the calls one handler step can make. -/
structure Io where
  getsockopt : Int
  soError : Int
  sslCtxNew : Option Ptr
  sslNew : Option Ptr
  sslSetFd : Int
  sslConnect : Int
  sslWrite : Taken
  sslRead : Given
  sslGetError : SslError
  send : Taken
  recv : Given
  read : Given
  errno : Int
  deriving DecidableEq, Repr

/-- Nothing is ready: every call fails and is to be tried again. -/
def Io.retry : Io where
  getsockopt := -1
  soError := 0
  sslCtxNew := none
  sslNew := none
  sslSetFd := 0
  sslConnect := -1
  sslWrite := .failed
  sslRead := .failed
  sslGetError := .wantRead
  send := .failed
  recv := .failed
  read := .failed
  errno := eagain

/-! ## Calls -/

/-- The buffers bytes are sent from. -/
inductive Source where
  | connectRequest
  | body
  deriving DecidableEq, Repr

/-- A pointer into a buffer and a length. -/
structure Slice where
  source : Source
  offset : Nat
  length : Nat
  deriving DecidableEq, Repr

/-- The calls of the engines, with their results. `read` is the call that reads a
response, which in `bench_select.c` is a `recv` without flags; `proxyReply` is
the return of `handle_proxy_response`. -/
inductive Call where
  | getaddrinfo (host : List Byte) (port : Int)
  | socket (fd : Int)
  | connect (fd ret : Int)
  | getsockopt (fd : Int)
  | send (fd : Int) (slice : Slice) (ret : Int)
  | recv (fd : Int) (offset room : Nat) (chunk : List Byte)
  | read (fd : Int) (offset room : Nat) (chunk : List Byte)
  | proxyReply (ret : Int)
  | sslCtxNew (ctx : Option Ptr)
  | sslNew (ssl : Option Ptr)
  | sslSetFd (ssl : Option Ptr) (fd ret : Int)
  | sslSetHostName (ssl : Option Ptr) (host : List Byte)
  | sslConnect (ssl : Ptr) (ret : Int)
  | sslWrite (ssl : Ptr) (slice : Slice) (ret : Int) (error : SslError)
  | sslRead (ssl : Option Ptr) (offset room : Nat) (chunk : List Byte)
  deriving DecidableEq, Repr

/-! ## State shared by the slots -/

/-- An entry of the epoll instance: event mask, `data.ptr`, and whether an edge is still to be reported. -/
structure Registration where
  mask : BitVec 32
  slot : Nat
  armed : Bool
  deriving DecidableEq, Repr

/-- `global_ssl_ctx`, the SSL objects not yet freed, the descriptors not yet
closed and the epoll instance, a map from open descriptors. -/
structure Sys where
  globalSslCtx : Option Ptr
  liveSsl : List Ptr
  opened : List Int
  epoll : Int → Option Registration

namespace Sys

/-- Nothing created yet. -/
def initial : Sys := ⟨none, [], [], fun _ => none⟩

/-- `socket()`: the descriptor `want` if it is free, -1 otherwise. -/
def socket (sys : Sys) (want : Int) : Int × Sys :=
  if 0 ≤ want ∧ want ∉ sys.opened then (want, { sys with opened := want :: sys.opened }) else (-1, sys)

/-- `close()` also drops the descriptor from the epoll instance. -/
def close (sys : Sys) (fd : Int) : Sys :=
  { sys with
    opened := sys.opened.filter (· ≠ fd)
    epoll := fun d => if d = fd then none else sys.epoll d }

/-- Closing a socket that has just been opened. -/
theorem close_fresh {sys : Sys} {fd : Int} (free : fd ∉ sys.opened) :
    (close { sys with opened := fd :: sys.opened } fd).opened = sys.opened := by
  show (fd :: sys.opened).filter (· ≠ fd) = sys.opened
  rw [List.filter_cons_of_neg (by simp), List.filter_eq_self]
  intro other member
  exact decide_eq_true fun same => free (same ▸ member)

/-- `SSL_new()`: an object that is not live, or NULL. -/
def sslNew (sys : Sys) (want : Option Ptr) : Option Ptr × Sys :=
  match want with
  | some ssl => if ssl ∈ sys.liveSsl then (none, sys) else (some ssl, { sys with liveSsl := ssl :: sys.liveSsl })
  | none => (none, sys)

/-- `SSL_free()`. -/
def sslFree (sys : Sys) (ssl : Ptr) : Sys := { sys with liveSsl := sys.liveSsl.filter (· ≠ ssl) }

/-- `epoll_ctl(EPOLL_CTL_ADD)`: return value and `errno`. A descriptor already
present yields `EEXIST`; `full` is a kernel that has no room for another entry. -/
def epollAdd (sys : Sys) (fd : Int) (entry : Registration) (full : Bool) : Int × Int × Sys :=
  if fd ∉ sys.opened then (-1, ebadf, sys)
  else if (sys.epoll fd).isSome then (-1, eexist, sys)
  else if full then (-1, enospc, sys)
  else (0, 0, { sys with epoll := fun d => if d = fd then some entry else sys.epoll d })

/-- `epoll_ctl(EPOLL_CTL_DEL)`. -/
def epollDel (sys : Sys) (fd : Int) : Int × Sys :=
  if (sys.epoll fd).isSome then (0, { sys with epoll := fun d => if d = fd then none else sys.epoll d })
  else (-1, sys)

/-- Reporting an event of an edge-triggered entry disarms it. -/
def disarm (sys : Sys) (fds : List Int) : Sys :=
  { sys with epoll := fun d =>
      if d ∈ fds then (sys.epoll d).map fun entry => { entry with armed := false } else sys.epoll d }

end Sys

/-! ## Event masks -/

/-- `mask & bits` is not zero. -/
def anyBit {w : Nat} (mask bits : BitVec w) : Bool := mask &&& bits != 0#w

theorem anyBit_or {w : Nat} (mask a b : BitVec w) : anyBit mask (a ||| b) = (anyBit mask a || anyBit mask b) := by
  have zero := BitVec.or_eq_zero_iff (x := mask &&& a) (y := mask &&& b)
  rw [Bool.eq_iff_iff]
  simp only [anyBit, BitVec.and_or_distrib_left, bne_iff_ne, Bool.or_eq_true, ne_eq, zero]
  exact not_and_or

def pollin : BitVec 16 := 0x001
def pollout : BitVec 16 := 0x004
def pollerr : BitVec 16 := 0x008
def pollhup : BitVec 16 := 0x010
def pollnval : BitVec 16 := 0x020

def epollin : BitVec 32 := 0x001
def epollout : BitVec 32 := 0x004
def epollerr : BitVec 32 := 0x008
def epollhup : BitVec 32 := 0x010
def epollet : BitVec 32 := 0x80000000

end WebBench
