import WebBench.Lib.CString

/-!
# Command-line arguments and the request

The records of `arguments.h` and `request.h`. Their strings are NUL-terminated
strings in arrays of fixed size, so a host of a `CString` type is never longer
than its array allows.
-/

namespace WebBench
set_option autoImplicit false
open CLib

/-- `PROTOCOL_HTTP`. -/
def protocolHttp : Int := 0

/-- `PROTOCOL_HTTPS`. -/
def protocolHttps : Int := 1

/-- `HOSTNAMELEN`. -/
def hostnameLen : Nat := 128

/-- `MAX_URL_LEN`. -/
def maxUrlLen : Nat := 1024

/-- `MAXHOSTNAMELENGTH`. -/
def maxHostNameLength : Nat := 128

/-- `REQUEST_BODY_SIZE`. -/
def requestBodySize : Nat := 2048

/-- `"\r\n"`. -/
def crlf : List Byte := text "\r\n"

/-- `Arguments`. -/
structure Arguments where
  clients : Int
  force : Int
  forceReload : Int
  proxyHost : CString hostnameLen
  proxyPort : Int
  targetHost : CString hostnameLen
  targetPort : Int
  benchTime : Int
  protocol : Int
  http10 : Int
  method : Int
  url : CString maxUrlLen
  deriving DecidableEq

/-- `create_default_arguments`. -/
def createDefaultArguments : Arguments where
  clients := 1
  force := 0
  forceReload := 0
  proxyHost := .empty _ (by decide)
  proxyPort := 80
  targetHost := .empty _ (by decide)
  targetPort := 80
  benchTime := 30
  protocol := protocolHttp
  http10 := 2
  method := 0
  url := .empty _ (by decide)

/-- `HTTPRequest`. -/
structure HTTPRequest where
  host : CString maxHostNameLength
  body : CString requestBodySize
  deriving DecidableEq

/-- The record `memset` leaves. -/
def HTTPRequest.zero : HTTPRequest :=
  ⟨.empty _ (by decide), .empty _ (by decide)⟩

/-- Two clients. -/
def twoClients : Arguments := { createDefaultArguments with clients := 2 }

end WebBench
