import WebBench.RequestText

/-!
# How a request ends

A request with headers ends each of its lines with CRLF, and itself with an
empty line. The CRLF of the request line comes with the version, and an
HTTP/0.9 request has no version in it: it ends with its target.
-/

namespace WebBench
set_option autoImplicit false
open CLib

/-- The version in a request line. -/
def versionName (http10 : Int) : List Byte :=
  if http10 = httpVersion10 then text " HTTP/1.0" else if http10 = httpVersion11 then text " HTTP/1.1" else []

/-- A server can tell that the request is complete: its request line is ended, and where there are headers each of
them is ended and an empty line follows the last. -/
def Terminated (args : Arguments) (body : List Byte) : Prop :=
  ∃ name rest, methodText args.method = some name ∧
    body = name ++ targetText args ++ versionName args.http10 ++ crlf ++ rest ∧
    (HasHeaders args.http10 → ∃ fields : List (List Byte), (∀ field ∈ fields, field ≠ []) ∧
      rest = (fields.map (· ++ crlf)).flatten ++ crlf)

variable (args : Arguments)

/-- The header fields of a request. -/
def headerFields (port : List Byte) : List (List Byte) :=
  [text "User-Agent: WebBench 2"] ++
    (if args.proxyHost.bytes = [] then [text "Host: " ++ args.targetHost.bytes ++ port] else []) ++
    (if args.proxyHost.bytes ≠ [] ∧ args.forceReload ≠ 0 then
      [if args.http10 = httpVersion10 then text "Pragma: no-cache" else text "Cache-Control: no-cache"] else []) ++
    (if args.http10 = httpVersion11 then [text "Connection: close"] else [])

theorem headerFields_nonempty (port : List Byte) : ∀ field ∈ headerFields args port, field ≠ [] := by
  have host : text "Host: " ++ args.targetHost.bytes ++ port ≠ [] := List.cons_ne_nil _ _
  unfold headerFields
  simp only [List.forall_mem_append, List.forall_mem_singleton]
  refine ⟨⟨⟨by decide, ?_⟩, ?_⟩, ?_⟩
  · split
    · simpa using host
    · simp
  · split
    · rw [List.forall_mem_singleton]
      split <;> decide
    · simp
  · split
    · rw [List.forall_mem_singleton]
      decide
    · simp

theorem versionText_line {http10 : Int} (headers : HasHeaders http10) : versionText http10 = versionName http10 ++ crlf := by
  unfold versionText versionName
  by_cases old : http10 = httpVersion10
  · rw [if_pos old, if_pos old]
    rfl
  · rw [if_neg old, if_neg old, if_pos (headers.resolve_left old)]
    rfl

theorem cacheControlText_line {http10 : Int} (headers : HasHeaders http10) :
    cacheControlText http10 =
      (if http10 = httpVersion10 then text "Pragma: no-cache" else text "Cache-Control: no-cache") ++ crlf := by
  unfold cacheControlText lineIf
  by_cases old : http10 = httpVersion10
  · have other : http10 ≠ httpVersion11 := by rw [old]; decide
    rw [if_pos old, if_neg other, if_pos old, List.append_nil]
    rfl
  · rw [if_neg old, if_pos (headers.resolve_left old), if_neg old, List.nil_append]
    rfl

/-- Lines that a condition decides about, each with its end. -/
theorem flatten_if (c : Prop) [Decidable c] (field : List Byte) :
    ((if c then [field] else []).map (· ++ crlf)).flatten = lineIf c (field ++ crlf) := by
  unfold lineIf
  split <;> simp

/-- Every line of a request with headers has its end. -/
theorem headersText_lines (port : List Byte) (headers : HasHeaders args.http10) :
    headersText args port =
      versionName args.http10 ++ crlf ++ (((headerFields args port).map (· ++ crlf)).flatten ++ crlf) := by
  have agent : text "User-Agent: WebBench 2\r\n" = text "User-Agent: WebBench 2" ++ crlf := rfl
  have connection : text "Connection: close\r\n" = text "Connection: close" ++ crlf := rfl
  have positive : 0 < args.http10 := by
    rcases headers with version | version <;> rw [version] <;> decide
  have present : ∀ line, lineIf (HasHeaders args.http10) line = line := fun line => if_pos headers
  have numbered : ∀ line, lineIf (0 < args.http10) line = line := fun line => if_pos positive
  have hosted : args.proxyHost.bytes = [] ∧ HasHeaders args.http10 ↔ args.proxyHost.bytes = [] := and_iff_left headers
  have ending : text "\r\n" = crlf := rfl
  have closed : connectionText args.http10 = lineIf (args.http10 = httpVersion11) (text "Connection: close" ++ crlf) := by
    rw [connectionText, connection, lineIf]
  simp only [headersText, headerFields, List.map_append, List.flatten_append, flatten_if, List.map_cons, List.map_nil,
    List.flatten_cons, List.flatten_nil, List.append_nil, hosted, present, numbered, versionText_line headers,
    cacheControlText_line headers, closed, agent, hostText, ending, List.append_assoc]

/-- An HTTP/0.9 request has nothing behind its target. -/
theorem headersText_old (port : List Byte) (old : args.http10 = httpVersion09) : headersText args port = [] := by
  have none' : ¬ HasHeaders httpVersion09 := by decide
  have zero : ¬ 0 < httpVersion09 := by decide
  have other : ¬ httpVersion09 = httpVersion10 ∧ ¬ httpVersion09 = httpVersion11 := by decide
  simp only [headersText, connectionText, cacheControlText, lineIf, old, if_neg zero, if_neg other.1,
    if_neg other.2, none', and_false, if_false, ite_self, List.append_nil]

/-- What keeps a request that is asked for as HTTP/0.9 from staying one. -/
def LeavesOld (args : Arguments) : Prop :=
  args.http10 ≠ httpVersion09 ∨ args.method ≠ methodGet ∨ (args.forceReload ≠ 0 ∧ args.proxyHost.bytes ≠ [])

/-- The methods that can be given. -/
theorem methods_of_valid (valid : validateArguments args = true) :
    (∃ name, methodText args.method = some name) ∧
      (args.method ≠ methodGet → args.method = methodHead ∨ args.method = methodOptions ∨ args.method = methodTrace) := by
  simp only [validateArguments, Bool.or_eq_true, beq_iff_eq] at valid
  rcases valid with ((get | head) | options) | trace
  · exact ⟨⟨_, by rw [get]; rfl⟩, fun other => absurd get other⟩
  · exact ⟨⟨_, by rw [head]; rfl⟩, fun _ => .inl head⟩
  · exact ⟨⟨_, by rw [options]; rfl⟩, fun _ => .inr (.inl options)⟩
  · exact ⟨⟨_, by rw [trace]; rfl⟩, fun _ => .inr (.inr trace)⟩

/-- The version that is settled on has headers, unless nothing keeps the request from HTTP/0.9. -/
theorem hasHeaders_iff (version : IsVersion args.http10) (valid : validateArguments args = true) :
    HasHeaders (adjustVersion args).http10 ↔ LeavesOld args := by
  have apart : httpVersion09 ≠ httpVersion10 ∧ httpVersion09 ≠ httpVersion11 := by decide
  have getOnly : methodGet ≠ methodHead ∧ methodGet ≠ methodOptions ∧ methodGet ≠ methodTrace := by decide
  obtain ⟨-, others⟩ := methods_of_valid args valid
  rw [adjustVersion_http10]
  split
  case isTrue newest =>
    refine iff_of_true (.inr rfl) (.inr (.inl fun get => ?_))
    rw [get] at newest
    exact newest.elim getOnly.2.1 getOnly.2.2
  case isFalse older =>
    split
    case isTrue raised =>
      refine iff_of_true (.inl rfl) (raised.2.elim (fun head => .inr (.inl fun get => ?_)) fun both => .inr (.inr both))
      exact getOnly.1 (get.symm.trans head)
    case isFalse kept =>
      constructor
      · rintro (same | same) <;> refine .inl fun old => ?_
        · exact apart.1 (old.symm.trans same)
        · exact apart.2 (old.symm.trans same)
      · rintro (young | other | both)
        · exact version.resolve_left young
        · refine version.resolve_left fun old => kept ⟨old, .inl ((others other).resolve_right older)⟩
        · exact version.resolve_left fun old => kept ⟨old, .inr both⟩

/-- Only the three versions are ever set. -/
theorem setArgumentsValues_version {errno : Int} {opts : List Opt} {url : CText} {args : Arguments}
    (returned : setArgumentsValues errno opts (some url) createDefaultArguments = .returned args) : IsVersion args.http10 := by
  obtain ⟨errno', left, options, -, -, -, ⟨host, port, protocol, rfl⟩, -⟩ := setArgumentsValues_returned returned
  refine show IsVersion left.http10 from
    handleOptions_invariant (motive := fun args => IsVersion args.http10) (.inr (.inr rfl)) ?_ options
  intro opt _ called update effect args version
  cases update with
  | version http10 =>
    have about := Opt.setting_of_effect effect
    cases opt with
    | http09 =>
      cases effect
      exact .inl rfl
    | http10 =>
      cases effect
      exact .inr (.inl rfl)
    | http11 =>
      cases effect
      exact .inr (.inr rfl)
    | _ => cases about
  | _ => exact version

theorem terminated_headers (args : Arguments) {name : List Byte} (port : List Byte)
    (found : methodText args.method = some name) (headers : HasHeaders args.http10) :
    Terminated args (name ++ targetText args ++ headersText args port) := by
  refine ⟨name, ((headerFields args port).map (· ++ crlf)).flatten ++ crlf, found, ?_, fun _ =>
    ⟨headerFields args port, headerFields_nonempty args port, rfl⟩⟩
  rw [headersText_lines args port headers]
  simp only [List.append_assoc]

theorem not_terminated_old (args : Arguments) {name : List Byte} (found : methodText args.method = some name) :
    ¬ Terminated args (name ++ targetText args) := by
  rintro ⟨name', rest, found', whole, -⟩
  obtain rfl := Option.some.inj (found.symm.trans found')
  have length := congrArg List.length whole
  have ending : crlf.length = 2 := rfl
  simp only [List.length_append] at length
  omega

/-- **When a request is terminated.** For every command line that is accepted,
the request has its line ends if and only if it is not an HTTP/0.9 request. -/
theorem buildRequest_terminated_iff {errno : Int} {opts : List Opt} {url : CText} {args : Arguments}
    (returned : setArgumentsValues errno opts (some url) createDefaultArguments = .returned args) :
    Terminated (buildRequest args).2.1 (buildRequest args).2.2.body.bytes ↔ LeavesOld args := by
  have version := setArgumentsValues_version returned
  obtain ⟨-, -, -, -, -, -, -, valid⟩ := setArgumentsValues_returned returned
  obtain ⟨⟨name, found⟩, -⟩ := methods_of_valid args valid
  obtain ⟨-, left, -, whole⟩ := buildRequest_body args found
  obtain ⟨least, adjusted⟩ := adjustVersion_spec args
  have found' : methodText (adjustVersion args).method = some name := by rw [adjusted]; exact found
  have target : targetText args = targetText (adjustVersion args) := by rw [adjusted]; rfl
  rw [← hasHeaders_iff args version valid, left, whole, target]
  constructor
  · refine fun terminated => (adjustVersion_isLeast args version).1.1.resolve_left fun old => ?_
    rw [headersText_old _ _ old, List.append_nil] at terminated
    exact not_terminated_old _ found' terminated
  · exact terminated_headers _ _ found'

/-- A url with the root for its path. -/
def rootUrl : CText := .literal "http://a/"

/-- The arguments of `http://a/` with a version. -/
def rootArguments (http10 : Int) : Arguments :=
  { createDefaultArguments with
    targetHost := .print hostnameLen_pos (text "a"), http10 := http10, url := storeUrl rootUrl }

/-- `-1 http://a/`. -/
theorem buildRequest_terminated_one :
    setArgumentsValues 0 [.http10] (some rootUrl) createDefaultArguments = .returned (rootArguments 1) ∧
      (Terminated (buildRequest (rootArguments 1)).2.1 (buildRequest (rootArguments 1)).2.2.body.bytes ↔
        LeavesOld (rootArguments 1)) := by
  have returned : setArgumentsValues 0 [.http10] (some rootUrl) createDefaultArguments = .returned (rootArguments 1) := by
    decide +kernel
  exact ⟨returned, buildRequest_terminated_iff returned⟩

/-- `-9 http://a/` makes the request `GET /`, which has no end. -/
theorem request_unended :
    setArgumentsValues 0 [.http09] (some rootUrl) createDefaultArguments = .returned (rootArguments 0) ∧
      (buildRequest (rootArguments 0)).2.2.body.bytes = text "GET /" ∧
      ¬ Terminated (buildRequest (rootArguments 0)).2.1 (buildRequest (rootArguments 0)).2.2.body.bytes := by
  have body : (buildRequest (rootArguments 0)).2.2.body.bytes = text "GET " ++ targetText (rootArguments 0) := by
    decide +kernel
  refine ⟨by decide +kernel, by rw [body]; rfl, ?_⟩
  have left : (buildRequest (rootArguments 0)).2.1 = rootArguments 0 := by decide +kernel
  rw [body, left]
  exact not_terminated_old (rootArguments 0) rfl

end WebBench
