import WebBench.Connection

/-!
# What a list of calls sent and received

The bytes a list of calls moved, read off the calls: those accepted by `send`
and by `SSL_write`, and those delivered by the proxy and by the server.
-/

namespace WebBench
set_option autoImplicit false
open CLib

/-- The bytes a slice points to. -/
def Slice.bytes (buffers : Source → List Byte) (slice : Slice) : List Byte :=
  ((buffers slice.source).drop slice.offset).take slice.length

/-- The buffers of a run. -/
def buffersOf (args : Arguments) (request : HTTPRequest) : Source → List Byte
  | .connectRequest => connectText args.targetHost.bytes args.targetPort
  | .body => request.body.bytes

/-- Accepted by `send`. -/
def Call.plain (buffers : Source → List Byte) : Call → List Byte
  | .send _ slice ret => (slice.bytes buffers).take ret.toNat
  | _ => []

/-- Accepted by `SSL_write`. -/
def Call.encrypted (buffers : Source → List Byte) : Call → List Byte
  | .sslWrite _ slice ret _ => (slice.bytes buffers).take ret.toNat
  | _ => []

/-- Delivered by `recv`. -/
def Call.reply : Call → List Byte
  | .recv _ _ _ chunk => chunk
  | _ => []

/-- Delivered by `read` and `SSL_read`. -/
def Call.response : Call → List Byte
  | .read _ _ _ chunk => chunk
  | .sslRead _ _ _ chunk => chunk
  | _ => []

/-- The bytes accepted by `send`, in order. -/
def plainSent (buffers : Source → List Byte) (calls : List Call) : List Byte := calls.flatMap (·.plain buffers)

/-- The bytes accepted by `SSL_write`, in order. -/
def tlsSent (buffers : Source → List Byte) (calls : List Call) : List Byte := calls.flatMap (·.encrypted buffers)

/-- The bytes of the proxy's reply, in order. -/
def replyBytes (calls : List Call) : List Byte := calls.flatMap Call.reply

/-- The bytes of the server's response, in order. -/
def responseBytes (calls : List Call) : List Byte := calls.flatMap Call.response

section

variable (buffers : Source → List Byte) (a b : List Call)

@[simp] theorem plainSent_append : plainSent buffers (a ++ b) = plainSent buffers a ++ plainSent buffers b :=
  List.flatMap_append

@[simp] theorem tlsSent_append : tlsSent buffers (a ++ b) = tlsSent buffers a ++ tlsSent buffers b :=
  List.flatMap_append

@[simp] theorem replyBytes_append : replyBytes (a ++ b) = replyBytes a ++ replyBytes b :=
  List.flatMap_append

@[simp] theorem responseBytes_append : responseBytes (a ++ b) = responseBytes a ++ responseBytes b :=
  List.flatMap_append

@[simp] theorem plainSent_nil : plainSent buffers [] = [] := rfl

@[simp] theorem tlsSent_nil : tlsSent buffers [] = [] := rfl

@[simp] theorem plainSent_cons (c : Call) : plainSent buffers (c :: a) = c.plain buffers ++ plainSent buffers a := rfl

@[simp] theorem tlsSent_cons (c : Call) : tlsSent buffers (c :: a) = c.encrypted buffers ++ tlsSent buffers a := rfl

@[simp] theorem replyBytes_nil : replyBytes [] = [] := rfl

@[simp] theorem responseBytes_nil : responseBytes [] = [] := rfl

@[simp] theorem replyBytes_cons (c : Call) : replyBytes (c :: a) = c.reply ++ replyBytes a := rfl

@[simp] theorem responseBytes_cons (c : Call) : responseBytes (c :: a) = c.response ++ responseBytes a := rfl

end

/-- `n` more bytes after the first `k`. -/
theorem take_append_slice {whole : List Byte} {k n len : Nat} (within : n ≤ len) :
    whole.take k ++ ((whole.drop k).take len).take n = whole.take (k + n) := by
  rw [List.take_take, Nat.min_eq_left within, List.take_add]

end WebBench
