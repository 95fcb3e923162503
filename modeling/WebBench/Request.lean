import WebBench.Arguments

/-!
# `request.c`

`build_request` adjusts the HTTP version to what the method and the options
need, and puts the request together by `strncat`. The lines it appends are
functions of their own, in the order of the source.
-/

namespace WebBench
set_option autoImplicit false
open CLib

/-- `METHOD_GET`. -/
def methodGet : Int := 0

/-- `METHOD_HEAD`. -/
def methodHead : Int := 1

/-- `METHOD_OPTIONS`. -/
def methodOptions : Int := 2

/-- `METHOD_TRACE`. -/
def methodTrace : Int := 3

/-- `HTTP_VERSION_0_9`. -/
def httpVersion09 : Int := 0

/-- `HTTP_VERSION_1_0`. -/
def httpVersion10 : Int := 1

/-- `HTTP_VERSION_1_1`. -/
def httpVersion11 : Int := 2

theorem requestBodySize_pos : 0 < requestBodySize := by decide

theorem maxHostNameLength_pos : 0 < maxHostNameLength := by decide

/-- The body while it is put together. -/
abbrev Body := CString requestBodySize

/-- The adjustments of the HTTP version: for a reload through a proxy, for HEAD, and for OPTIONS and TRACE. -/
def adjustVersion (args : Arguments) : Arguments :=
  let args := if args.forceReload ≠ 0 ∧ 0 < args.proxyHost.bytes.length ∧ args.http10 = httpVersion09 then
    { args with http10 := httpVersion10 } else args
  let args := if args.method = methodHead ∧ args.http10 = httpVersion09 then
    { args with http10 := httpVersion10 } else args
  if (args.method = methodOptions ∨ args.method = methodTrace) ∧ args.http10 ≠ httpVersion11 then
    { args with http10 := httpVersion11 } else args

/-- The switch on the method. -/
def methodText (method : Int) : Option (List Byte) :=
  if method = methodGet then some (text "GET ")
  else if method = methodHead then some (text "HEAD ")
  else if method = methodOptions then some (text "OPTIONS ")
  else if method = methodTrace then some (text "TRACE ")
  else none

/-- The target of the request line: a slash, or through a proxy the url. -/
def appendTarget (args : Arguments) (body : Body) : Body :=
  if args.proxyHost.bytes.length = 0 then body.strncat (text "/") else body.strncat args.url.bytes

/-- The version at the end of the request line. -/
def appendVersion (args : Arguments) (body : Body) : Body :=
  if args.http10 = httpVersion10 then body.strncat (text " HTTP/1.0\r\n")
  else if args.http10 = httpVersion11 then body.strncat (text " HTTP/1.1\r\n")
  else body

def appendUserAgent (args : Arguments) (body : Body) : Body :=
  if 0 < args.http10 then body.strncat (text "User-Agent: WebBench 2\r\n") else body

/-- `sizeof(port_str)`. -/
def portStrSize : Nat := 12

def appendHost (args : Arguments) (body : Body) : Body :=
  if args.proxyHost.bytes.length = 0 ∧ (args.http10 = httpVersion10 ∨ args.http10 = httpVersion11) then
    let body := body.strncat (text "Host: ")
    let body := body.strncat args.targetHost.bytes
    let body := body.strncat (snprintf portStrSize (text ":" ++ decimal args.targetPort))
    body.strncat (text "\r\n")
  else body

def appendCacheControl (args : Arguments) (body : Body) : Body :=
  if args.proxyHost.bytes.length ≠ 0 ∧ args.forceReload ≠ 0 then
    if args.http10 = httpVersion10 then body.strncat (text "Pragma: no-cache\r\n")
    else if args.http10 = httpVersion11 then body.strncat (text "Cache-Control: no-cache\r\n")
    else body
  else body

def appendConnection (args : Arguments) (body : Body) : Body :=
  if args.http10 = httpVersion11 then body.strncat (text "Connection: close\r\n") else body

/-- The empty line after the headers. -/
def appendEmptyLine (args : Arguments) (body : Body) : Body :=
  if args.http10 = httpVersion10 ∨ args.http10 = httpVersion11 then body.strncat (text "\r\n") else body

/-- What follows the target. -/
def appendHeaders (args : Arguments) (body : Body) : Body :=
  let body := appendVersion args body
  let body := appendUserAgent args body
  let body := appendHost args body
  let body := appendCacheControl args body
  let body := appendConnection args body
  appendEmptyLine args body

/-- `build_request`: its return value, the arguments it leaves and the request. -/
def buildRequest (args : Arguments) : Int × Arguments × HTTPRequest :=
  let args := adjustVersion args
  match methodText args.method with
  | none => (-1, args, .zero)
  | some method =>
    let body : Body := appendTarget args (.print requestBodySize_pos method)
    (0, args, ⟨.print maxHostNameLength_pos args.targetHost.bytes, appendHeaders args body⟩)

/-! ## The request line -/

variable (args : Arguments)

/-- Only the version is adjusted. -/
theorem adjustVersion_spec : ∃ version, adjustVersion args = { args with http10 := version } := by
  unfold adjustVersion
  dsimp only
  repeat' split
  all_goals exact ⟨_, rfl⟩

theorem methodText_spec {method : Int} {name : List Byte} (supported : methodText method = some name) :
    (∀ b ∈ name, b ≠ 0) ∧ name.length ≤ 8 := by
  unfold methodText at supported
  split at supported
  · cases supported
    exact ⟨by simp [text], Nat.le_of_ble_eq_true rfl⟩
  split at supported
  · cases supported
    exact ⟨by simp [text], Nat.le_of_ble_eq_true rfl⟩
  split at supported
  · cases supported
    exact ⟨by simp [text], Nat.le_of_ble_eq_true rfl⟩
  split at supported
  · cases supported
    exact ⟨by simp [text], Nat.le_of_ble_eq_true rfl⟩
  · cases supported

section Prefix

variable (body : Body)

/-- A line that depends on a condition is appended to what is there. -/
theorem prefix_of_line (c : Prop) [Decidable c] (line : List Byte) :
    body.bytes <+: (if c then body.strncat line else body).bytes := by
  split
  · exact body.strncat_prefix line
  · exact List.prefix_rfl

theorem appendVersion_prefix : body.bytes <+: (appendVersion args body).bytes := by
  unfold appendVersion
  split
  · exact body.strncat_prefix _
  · exact prefix_of_line body _ _

theorem appendHost_prefix : body.bytes <+: (appendHost args body).bytes := by
  unfold appendHost
  split
  · have name := (body.strncat_prefix (text "Host: ")).trans (CString.strncat_prefix _ args.targetHost.bytes)
    exact (name.trans (CString.strncat_prefix _ _)).trans (CString.strncat_prefix _ _)
  · exact List.prefix_rfl

theorem appendCacheControl_prefix : body.bytes <+: (appendCacheControl args body).bytes := by
  unfold appendCacheControl
  split
  · split
    · exact body.strncat_prefix _
    · exact prefix_of_line body _ _
  · exact List.prefix_rfl

/-- The lines after the target are appended to what is there. -/
theorem appendHeaders_prefix : body.bytes <+: (appendHeaders args body).bytes :=
  calc body.bytes <+: _ := appendVersion_prefix args body
    _ <+: _ := prefix_of_line _ _ _
    _ <+: _ := appendHost_prefix args _
    _ <+: _ := appendCacheControl_prefix args _
    _ <+: _ := prefix_of_line _ _ _
    _ <+: (appendHeaders args body).bytes := prefix_of_line _ _ _

end Prefix

/-- **The absolute form.** With a proxy host the request line of a request that
is built has the whole url as its target. -/
theorem buildRequest_absolute (proxied : args.proxyHost.bytes ≠ []) (built : (buildRequest args).1 = 0) :
    ∃ method, methodText args.method = some method ∧
      method ++ args.url.bytes <+: (buildRequest args).2.2.body.bytes := by
  obtain ⟨version, adjusted⟩ := adjustVersion_spec args
  unfold buildRequest at built ⊢
  rw [adjusted] at built ⊢
  dsimp only at built ⊢
  cases supported : methodText args.method with
  | none =>
    rw [supported] at built
    exact absurd built (show ¬ (-1 : Int) = 0 by decide)
  | some method =>
    obtain ⟨noNul, short⟩ := methodText_spec supported
    have size : requestBodySize = 2048 := rfl
    have limit : maxUrlLen = 1024 := rfl
    have fits := args.url.fits
    have name : (CString.print requestBodySize_pos method).bytes = method :=
      CString.print_of_fits noNul (by omega)
    have target : (appendTarget args (.print requestBodySize_pos method)).bytes = method ++ args.url.bytes := by
      unfold appendTarget
      rw [if_neg (fun none => proxied (List.length_eq_zero_iff.mp none)),
        CString.strncat_of_fits args.url.noNul (by rw [name]; omega), name]
    refine ⟨method, rfl, ?_⟩
    have rest := appendHeaders_prefix { args with http10 := version }
      (appendTarget { args with http10 := version } (.print requestBodySize_pos method))
    exact target ▸ rest

end WebBench
