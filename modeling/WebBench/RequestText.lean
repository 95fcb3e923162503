import Mathlib.Order.Bounds.Basic
import WebBench.Lib.SizeT
import WebBench.Lib.Strtol
import WebBench.Request
import WebBench.Url

/-!
# The text of a request

`build_request` appends piece after piece with `strncat`, and there is room for
all of them: the body is their concatenation. The version it settles on is the
least one that the method and the options allow, so that nothing is left to
adjust when the request is built again.
-/

namespace WebBench
set_option autoImplicit false
open CLib

/-- What `appendVersion` appends for HTTP/1.0 and HTTP/1.1. -/
def versionText (http10 : Int) : List Byte :=
  if http10 = httpVersion10 then text " HTTP/1.0\r\n" else text " HTTP/1.1\r\n"

/-- What `appendConnection` appends. -/
def connectionText (http10 : Int) : List Byte := if http10 = httpVersion11 then text "Connection: close\r\n" else []

/-- The version is one that has headers. -/
abbrev HasHeaders (http10 : Int) : Prop := http10 = httpVersion10 ∨ http10 = httpVersion11

/-- A line that a condition decides about. -/
def lineIf (c : Prop) [Decidable c] (line : List Byte) : List Byte := if c then line else []

/-- The target of the request line. -/
def targetText (args : Arguments) : List Byte :=
  if args.proxyHost.bytes = [] then text "/" else args.url.bytes

/-- The `Host` line with a port as it is printed. -/
def hostText (args : Arguments) (port : List Byte) : List Byte :=
  text "Host: " ++ args.targetHost.bytes ++ port ++ text "\r\n"

/-- What `snprintf` leaves in `port_str`. -/
def portStr (args : Arguments) : List Byte := snprintf portStrSize (text ":" ++ decimal args.targetPort)

/-- What `appendCacheControl` appends for a reload through a proxy. -/
def cacheControlText (http10 : Int) : List Byte :=
  lineIf (http10 = httpVersion10) (text "Pragma: no-cache\r\n") ++
    lineIf (http10 = httpVersion11) (text "Cache-Control: no-cache\r\n")

/-- Everything behind the target, with a port as it is printed. -/
def headersText (args : Arguments) (port : List Byte) : List Byte :=
  lineIf (HasHeaders args.http10) (versionText args.http10) ++
    lineIf (0 < args.http10) (text "User-Agent: WebBench 2\r\n") ++
    lineIf (args.proxyHost.bytes = [] ∧ HasHeaders args.http10) (hostText args port) ++
    lineIf (args.proxyHost.bytes ≠ [] ∧ args.forceReload ≠ 0) (cacheControlText args.http10) ++
    connectionText args.http10 ++
    lineIf (HasHeaders args.http10) (text "\r\n")

/-- The whole request. -/
def requestText (args : Arguments) : List Byte :=
  (methodText args.method).getD [] ++ targetText args ++ headersText args (text ":" ++ decimal args.targetPort)

/-! ## The pieces -/

variable (args : Arguments) (body : Body)

/-- The pieces of the `Host` line. -/
def hostPieces : List (List Byte) :=
  if args.proxyHost.bytes = [] ∧ HasHeaders args.http10 then
    [text "Host: ", args.targetHost.bytes, portStr args, text "\r\n"]
  else []

/-- What is appended behind the target, in its order. -/
def headerPieces : List (List Byte) :=
  lineIf (HasHeaders args.http10) (versionText args.http10) ::
    lineIf (0 < args.http10) (text "User-Agent: WebBench 2\r\n") ::
    (hostPieces args ++
      [lineIf (args.proxyHost.bytes ≠ [] ∧ args.forceReload ≠ 0) (cacheControlText args.http10),
        connectionText args.http10, lineIf (HasHeaders args.http10) (text "\r\n")])

/-- A line that is appended on a condition is an append of a text that may be empty. -/
theorem strncat_lineIf (c : Prop) [Decidable c] (line : List Byte) :
    (if c then body.strncat line else body) = body.strncat (lineIf c line) := by
  unfold lineIf
  split
  · rfl
  · exact body.strncat_nil.symm

theorem appendVersion_eq :
    appendVersion args body = body.strncat (lineIf (HasHeaders args.http10) (versionText args.http10)) := by
  unfold appendVersion versionText
  rw [← strncat_lineIf]
  by_cases old : args.http10 = httpVersion10
  · rw [if_pos old, if_pos (.inl old), if_pos old]
  · rw [if_neg old, if_neg old]
    exact if_congr (or_iff_right old).symm rfl rfl

/-- The Host line is appended in pieces. -/
theorem appendHost_eq : appendHost args body = (hostPieces args).foldl CString.strncat body := by
  unfold appendHost hostPieces
  simp only [List.length_eq_zero_iff]
  split <;> rfl

theorem appendCacheControl_eq :
    appendCacheControl args body =
      body.strncat (lineIf (args.proxyHost.bytes ≠ [] ∧ args.forceReload ≠ 0) (cacheControlText args.http10)) := by
  rw [← strncat_lineIf, appendCacheControl]
  refine if_congr (by simp) ?_ rfl
  unfold cacheControlText lineIf
  by_cases old : args.http10 = httpVersion10
  · have other : args.http10 ≠ httpVersion11 := by rw [old]; decide
    rw [if_pos old, if_pos old, if_neg other, List.append_nil]
  · rw [if_neg old, if_neg old, List.nil_append, ← lineIf, ← strncat_lineIf]

theorem appendConnection_eq : appendConnection args body = body.strncat (connectionText args.http10) :=
  strncat_lineIf body _ _

/-- The lines behind the target are the pieces, one after the other. -/
theorem appendHeaders_eq : appendHeaders args body = (headerPieces args).foldl CString.strncat body := by
  unfold appendHeaders headerPieces
  simp only [List.foldl_cons, List.foldl_append, List.foldl_nil]
  rw [appendVersion_eq, appendHost_eq, appendCacheControl_eq, appendConnection_eq, appendUserAgent, strncat_lineIf,
    appendEmptyLine, strncat_lineIf]

/-- The pieces of the Host line, put together. -/
theorem hostPieces_flatten :
    (hostPieces args).flatten = lineIf (args.proxyHost.bytes = [] ∧ HasHeaders args.http10) (hostText args (portStr args)) := by
  unfold hostPieces lineIf hostText
  split
  · simp
  · rfl

/-- The pieces of all header lines, put together. -/
theorem headerPieces_flatten : (headerPieces args).flatten = headersText args (portStr args) := by
  simp only [headerPieces, headersText, List.flatten_cons, List.flatten_append, hostPieces_flatten, List.flatten_nil,
    List.append_nil, List.append_assoc]

/-! ## There is room for them -/

theorem lineIf_length (c : Prop) [Decidable c] (line : List Byte) : (lineIf c line).length ≤ line.length := by
  unfold lineIf
  split
  · exact Nat.le_refl _
  · exact Nat.zero_le _

theorem versionText_length (http10 : Int) : (versionText http10).length = 11 := by
  unfold versionText
  split <;> rfl

theorem connectionText_length (http10 : Int) : (connectionText http10).length ≤ 19 :=
  (lineIf_length _ _).trans (Nat.le_of_eq rfl)

/-- `:` and a port, cut to the 11 bytes `port_str` has room for. -/
theorem portStr_length : (portStr args).length ≤ 11 := List.length_take_le _ _

/-- `Host: `, 127 bytes of a name, a port and the line end. -/
theorem hostText_length : (hostText args (portStr args)).length ≤ 146 := by
  have size : hostnameLen = 128 := rfl
  have fits := args.targetHost.fits
  have portFits := portStr_length args
  have title : (text "Host: ").length = 6 := rfl
  have ending : (text "\r\n").length = 2 := rfl
  simp only [hostText, List.length_append]
  omega

theorem cacheControlText_length (http10 : Int) : (cacheControlText http10).length ≤ 43 := by
  have old := lineIf_length (http10 = httpVersion10) (text "Pragma: no-cache\r\n")
  have new := lineIf_length (http10 = httpVersion11) (text "Cache-Control: no-cache\r\n")
  have oldLength : (text "Pragma: no-cache\r\n").length = 18 := rfl
  have newLength : (text "Cache-Control: no-cache\r\n").length = 25 := rfl
  simp only [cacheControlText, List.length_append]
  omega

/-- All header lines together need 245 bytes at most. -/
theorem headersText_length : (headersText args (portStr args)).length ≤ 245 := by
  have version := lineIf_length (HasHeaders args.http10) (versionText args.http10)
  have agent := lineIf_length (0 < args.http10) (text "User-Agent: WebBench 2\r\n")
  have host := lineIf_length (args.proxyHost.bytes = [] ∧ HasHeaders args.http10) (hostText args (portStr args))
  have cache := lineIf_length (args.proxyHost.bytes ≠ [] ∧ args.forceReload ≠ 0) (cacheControlText args.http10)
  have last := lineIf_length (HasHeaders args.http10) (text "\r\n")
  have agentLength : (text "User-Agent: WebBench 2\r\n").length = 24 := rfl
  have lastLength : (text "\r\n").length = 2 := rfl
  have versionLength := versionText_length args.http10
  have hostLength := hostText_length args
  have cacheLength := cacheControlText_length args.http10
  have connectionLength := connectionText_length args.http10
  simp only [headersText, List.length_append]
  omega

theorem lineIf_noNul (c : Prop) [Decidable c] {line : List Byte} (noNul : ∀ b ∈ line, b ≠ 0) :
    ∀ b ∈ lineIf c line, b ≠ 0 := by
  unfold lineIf
  split
  · exact noNul
  · simp

theorem portStr_noNul : ∀ b ∈ portStr args, b ≠ 0 := fun b member =>
  append_noNul (by decide) (decimal_noNul args.targetPort) b (List.mem_of_mem_take member)

theorem versionText_noNul (http10 : Int) : ∀ b ∈ versionText http10, b ≠ 0 := by
  unfold versionText
  split <;> simp [text]

theorem cacheControlText_noNul (http10 : Int) : ∀ b ∈ cacheControlText http10, b ≠ 0 :=
  append_noNul (lineIf_noNul _ (by simp [text])) (lineIf_noNul _ (by simp [text]))

theorem connectionText_noNul (http10 : Int) : ∀ b ∈ connectionText http10, b ≠ 0 := lineIf_noNul _ (by simp [text])

/-- No piece holds a zero byte, so `strncat` appends each of them whole. -/
theorem hostPieces_noNul : ∀ piece ∈ hostPieces args, ∀ b ∈ piece, b ≠ 0 := by
  unfold hostPieces
  split
  · simp only [List.forall_mem_cons]
    exact ⟨by simp [text], args.targetHost.noNul, portStr_noNul args, by simp [text], by simp⟩
  · simp

/-- Nor does any piece of the other header lines. -/
theorem headerPieces_noNul : ∀ piece ∈ headerPieces args, ∀ b ∈ piece, b ≠ 0 := by
  unfold headerPieces
  simp only [List.forall_mem_cons, List.forall_mem_append]
  refine ⟨lineIf_noNul _ (versionText_noNul _), lineIf_noNul _ (by simp [text]), hostPieces_noNul args,
    lineIf_noNul _ (cacheControlText_noNul _), connectionText_noNul _, lineIf_noNul _ (by decide), by simp⟩

/-- **The lines behind the target**, none of them cut. -/
theorem appendHeaders_bytes (room : body.bytes.length ≤ 1031) :
    (appendHeaders args body).bytes = body.bytes ++ headersText args (portStr args) := by
  have size : requestBodySize = 2048 := rfl
  have length := headersText_length args
  rw [← headerPieces_flatten] at length ⊢
  rw [appendHeaders_eq]
  exact CString.foldl_strncat (headerPieces_noNul args) (by omega)

/-- The request line up to the target of a method that is supported. -/
theorem appendTarget_bytes {name : List Byte} (supported : methodText args.method = some name) :
    (appendTarget args (.print requestBodySize_pos name)).bytes = name ++ targetText args := by
  obtain ⟨noNul, short⟩ := methodText_spec supported
  have size : requestBodySize = 2048 := rfl
  have limit : maxUrlLen = 1024 := rfl
  have fits := args.url.fits
  have slashLength : (text "/").length = 1 := rfl
  have named : (CString.print requestBodySize_pos name).bytes = name := CString.print_of_fits noNul (by omega)
  unfold appendTarget targetText
  simp only [List.length_eq_zero_iff]
  split
  · rw [CString.strncat_of_fits (by decide) (by rw [named]; omega), named]
  · rw [CString.strncat_of_fits args.url.noNul (by rw [named]; omega), named]

/-- The target is a slash or the URL that was stored. -/
theorem targetText_length : (targetText args).length ≤ 1023 := by
  have limit : maxUrlLen = 1024 := rfl
  have fits := args.url.fits
  unfold targetText
  split
  · exact Nat.le_of_ble_eq_true rfl
  · omega

/-- `build_request` on a method it knows: the host name is printed, and the body is made of three
parts. -/
theorem buildRequest_eq {name : List Byte} (supported : methodText (adjustVersion args).method = some name) :
    buildRequest args = (0, adjustVersion args, ⟨.print maxHostNameLength_pos (adjustVersion args).targetHost.bytes,
      appendHeaders (adjustVersion args) (appendTarget (adjustVersion args) (.print requestBodySize_pos name))⟩) := by
  unfold buildRequest
  dsimp only
  rw [supported]

/-- **The body of a request**, for any arguments with a method that is supported. -/
theorem buildRequest_body {name : List Byte} (supported : methodText args.method = some name) :
    (buildRequest args).1 = 0 ∧ (buildRequest args).2.1 = adjustVersion args ∧
      (buildRequest args).2.2.host.bytes = args.targetHost.bytes ∧
      (buildRequest args).2.2.body.bytes = name ++ targetText args ++ headersText (adjustVersion args) (portStr args) := by
  obtain ⟨version, adjusted⟩ := adjustVersion_spec args
  have supported' : methodText (adjustVersion args).method = some name := by rw [adjusted]; exact supported
  have target := appendTarget_bytes (adjustVersion args) supported'
  have short := (methodText_spec supported).2
  have targetLength := targetText_length (adjustVersion args)
  have lines := appendHeaders_bytes (adjustVersion args) _ (by
    rw [target, List.length_append]
    omega)
  have same : targetText (adjustVersion args) = targetText args := by rw [adjusted]; rfl
  have port : portStr (adjustVersion args) = portStr args := by rw [adjusted]; rfl
  have host : (adjustVersion args).targetHost = args.targetHost := by rw [adjusted]
  have hosted : (CString.print maxHostNameLength_pos args.targetHost.bytes).bytes = args.targetHost.bytes :=
    CString.print_of_fits args.targetHost.noNul args.targetHost.fits
  rw [buildRequest_eq args supported']
  refine ⟨rfl, rfl, ?_, ?_⟩
  · rw [host, hosted]
  · rw [lines, target, same, port]

/-! ## The version -/

/-- What the method and a reload through a proxy ask of the version. -/
structure Allows (args : Arguments) (version : Int) : Prop where
  head : args.method = methodHead → httpVersion10 ≤ version
  options : args.method = methodOptions ∨ args.method = methodTrace → httpVersion11 ≤ version
  reload : args.forceReload ≠ 0 → args.proxyHost.bytes ≠ [] → httpVersion10 ≤ version

/-- One of the three versions. -/
def IsVersion (version : Int) : Prop := version = httpVersion09 ∨ version = httpVersion10 ∨ version = httpVersion11

/-- The version after the adjustments, one for each kind of request. -/
theorem adjustVersion_http10 :
    (adjustVersion args).http10 =
      if (args.method = methodOptions ∨ args.method = methodTrace) then httpVersion11
      else if args.http10 = httpVersion09 ∧ (args.method = methodHead ∨ args.forceReload ≠ 0 ∧ args.proxyHost.bytes ≠ []) then
        httpVersion10
      else args.http10 := by
  have proxied : 0 < args.proxyHost.bytes.length ↔ args.proxyHost.bytes ≠ [] := List.length_pos_iff
  unfold adjustVersion
  simp only [proxied, methodHead, methodOptions, methodTrace, httpVersion09, httpVersion10, httpVersion11]
  grind

/-- **The least version** from the one asked for that the method and the options allow. -/
theorem adjustVersion_isLeast (version : IsVersion args.http10) :
    IsLeast {v | IsVersion v ∧ args.http10 ≤ v ∧ Allows args v} (adjustVersion args).http10 := by
  have order : httpVersion09 < httpVersion10 ∧ httpVersion10 < httpVersion11 := by decide
  obtain ⟨low, high⟩ := order
  have methods : methodHead ≠ methodOptions ∧ methodHead ≠ methodTrace := by decide
  rw [adjustVersion_http10]
  split
  case isTrue newest =>
    refine ⟨⟨.inr (.inr rfl), ?_, ⟨fun _ => by omega, fun _ => by omega, fun _ _ => by omega⟩⟩, fun v above => ?_⟩
    · rcases version with same | same | same <;> omega
    · exact above.2.2.options newest
  case isFalse older =>
    split
    case isTrue raised =>
      refine ⟨⟨.inr (.inl rfl), by omega, ⟨fun _ => by omega, fun newest => absurd newest older, fun _ _ => by omega⟩⟩,
        fun v above => ?_⟩
      rcases raised.2 with head | ⟨reload, proxied⟩
      · exact above.2.2.head head
      · exact above.2.2.reload reload proxied
    case isFalse kept =>
      have above : args.http10 = httpVersion09 ∨ httpVersion10 ≤ args.http10 := by
        rcases version with same | same | same <;> omega
      refine ⟨⟨version, by omega, ⟨fun head => ?_, fun newest => absurd newest older, fun reload proxied => ?_⟩⟩,
        fun v above => above.2.1⟩
      · exact above.resolve_left fun same => kept ⟨same, .inl head⟩
      · exact above.resolve_left fun same => kept ⟨same, .inr ⟨reload, proxied⟩⟩

/-- There is nothing left to adjust. -/
theorem adjustVersion_adjustVersion : adjustVersion (adjustVersion args) = adjustVersion args := by
  have first := adjustVersion_http10 args
  obtain ⟨version, adjusted⟩ := adjustVersion_spec args
  rw [adjusted] at first ⊢
  obtain ⟨again, adjusted'⟩ := adjustVersion_spec { args with http10 := version }
  have second := adjustVersion_http10 { args with http10 := version }
  rw [adjusted'] at second ⊢
  dsimp only at first second
  have same : again = version := by
    rw [second]
    split
    case isTrue newest => rw [first, if_pos newest]
    case isFalse older =>
      rw [if_neg older] at first
      split
      case isTrue raised =>
        -- the version was 0.9 before as well, and would have been raised then
        obtain ⟨old, reason⟩ := raised
        by_cases before : args.http10 = httpVersion09
        · rw [first, if_pos ⟨before, reason⟩]
        · rw [if_neg fun both => before both.1] at first
          exact absurd (first ▸ old) before
      case isFalse => rfl
  rw [same]

/-- Raising the version beforehand changes nothing. -/
theorem buildRequest_adjustVersion : buildRequest (adjustVersion args) = buildRequest args := by
  unfold buildRequest
  rw [adjustVersion_adjustVersion]

/-! ## The whole request -/

/-- A positive `int` has ten digits at most. -/
theorem decimal_length_intMax {i : Int} (positive : 1 ≤ i) (bound : i ≤ intMax) : (decimal i).length ≤ 10 := by
  have limit : intMax = 2147483647 := rfl
  have digits : (Nat.toDigits 10 i.natAbs).length ≤ 10 := Nat.toDigits_length 10 _ 10 (by decide) (by omega)
  have sign : ¬ i < 0 := by omega
  simpa [decimal, sign] using digits

/-- A port of ten digits fits. -/
theorem portStr_eq (digits : (decimal args.targetPort).length ≤ 10) : portStr args = text ":" ++ decimal args.targetPort := by
  have size : portStrSize = 12 := rfl
  have mark : (text ":").length = 1 := rfl
  apply snprintf_of_lt
  rw [List.length_append]
  omega

/-- **The request is built whole, and once is enough.** For any url and hosts the
body is the text of the request for the least version that is allowed, and a
second call changes neither the arguments nor the request. -/
theorem buildRequest_whole (supported : args.method ∈ [methodGet, methodHead, methodOptions, methodTrace])
    (version : IsVersion args.http10) (positive : 1 ≤ args.targetPort) (bound : args.targetPort ≤ intMax) :
    ∃ least request, buildRequest args = (0, { args with http10 := least }, request) ∧
      IsLeast {v | IsVersion v ∧ args.http10 ≤ v ∧ Allows args v} least ∧
      request.host.bytes = args.targetHost.bytes ∧
      request.body.bytes = requestText { args with http10 := least } ∧
      buildRequest { args with http10 := least } = (0, { args with http10 := least }, request) := by
  have named : ∃ name, methodText args.method = some name := by
    simp only [List.mem_cons, List.not_mem_nil, or_false] at supported
    rcases supported with same | same | same | same <;> exact ⟨_, by rw [same]; rfl⟩
  obtain ⟨name, found⟩ := named
  obtain ⟨least, adjusted⟩ := adjustVersion_spec args
  have smallest := adjustVersion_isLeast args version
  have again := buildRequest_adjustVersion args
  obtain ⟨returned, left, host, body⟩ := buildRequest_body args found
  rw [adjusted] at smallest again left body
  have whole : buildRequest args = (0, { args with http10 := least }, (buildRequest args).2.2) :=
    Prod.ext returned (Prod.ext left rfl)
  refine ⟨least, (buildRequest args).2.2, whole, smallest, host, ?_, again.trans whole⟩
  rw [body, portStr_eq args (decimal_length_intMax positive bound), requestText]
  dsimp only
  rw [found]
  rfl

/-- A reload through a proxy, asked for as HTTP/0.9 and for the largest port. -/
def reloadArguments : Arguments :=
  { createDefaultArguments with
    forceReload := 1, proxyHost := .print hostnameLen_pos (text "p"), targetPort := intMax, http10 := httpVersion09
    url := .print maxUrlLen_pos (text "http://a:2147483647/b") }

/-- `reloadArguments`, which become HTTP/1.0. -/
theorem buildRequest_whole_one : ∃ least request,
    buildRequest reloadArguments = (0, { reloadArguments with http10 := least }, request) ∧
      IsLeast {v | IsVersion v ∧ reloadArguments.http10 ≤ v ∧ Allows reloadArguments v} least ∧
      request.host.bytes = reloadArguments.targetHost.bytes ∧
      request.body.bytes = requestText { reloadArguments with http10 := least } ∧
      buildRequest { reloadArguments with http10 := least } = (0, { reloadArguments with http10 := least }, request) :=
  buildRequest_whole reloadArguments (by decide) (.inl rfl) (by decide) (by decide)

end WebBench
