import WebBench.RequestText

/-!
# From the url to the `Host` header

The url gives `set_arguments_values` the protocol, the host and the port of the
target, and `build_request` puts them into the one `Host` line of the request.
Without a port the host is found only if the path has no colon.
-/

namespace WebBench
set_option autoImplicit false
open CLib

/-- The arguments a url leaves: the protocol of its scheme, its host and its port. -/
def Targets (https : Bool) (host : List Byte) (port : Int) (args : Arguments) : Prop :=
  args.protocol = (if https then protocolHttps else protocolHttp) ∧ args.targetHost.bytes = host ∧ args.targetPort = port

/-- A url in parts: a scheme in any letter case, a host that fits its array and a path. -/
structure UrlParts (https : Bool) (name host path : List Byte) : Prop where
  scheme : IsScheme https name
  nonempty : host ≠ []
  short : host.length ≤ 127
  plain : ∀ b ∈ host, b ≠ colon ∧ b ≠ slash
  begins : path = [] ∨ path.head? = some slash

section Accepted

variable {errno errno' : Int} {opts : List Opt} {args : Arguments} {https : Bool} {name host path : List Byte} {url : CText}

/-- What `set_arguments_from_url` begins with after the options and behind the scheme. -/
theorem setProtocol_options (url : CText) (options : handleOptions errno createDefaultArguments opts = .returned (errno', args))
    (scheme : IsScheme https name) {rest : List Byte} (stored : (storeUrl url).bytes = name ++ text "://" ++ rest) :
    Targets https [] (if https then 443 else 80) (setProtocol { args with url := storeUrl url }) := by
  obtain ⟨host, port, protocol⟩ := handleOptions_target options
  rw [setProtocol_eq { args with url := storeUrl url } scheme stored]
  cases https with
  | false => exact ⟨protocol, by rw [if_neg (by decide), host]; rfl, port⟩
  | true => exact ⟨rfl, by rw [if_pos rfl, host]; rfl, rfl⟩

theorem validate_setProtocol (url : CText)
    (options : handleOptions errno createDefaultArguments opts = .returned (errno', args)) :
    validateArguments (setProtocol { args with url := storeUrl url }) := by
  have valid : validateArguments args := handleOptions_valid rfl options
  unfold setProtocol
  split <;> exact valid

/-- Where `set_arguments_from_url` reads the authority: the arguments so far, what is left of the url, and what
becomes of the result. -/
structure AtAuthority (errno errno' : Int) (opts : List Opt) (url : CText) (https : Bool) (name authority path : List Byte)
    (args start : Arguments) (tail : List Byte) : Prop where
  target : Targets https [] (if https then 443 else 80) start
  behind : start.url.bytes.drop (name.length + 3) = authority ++ slash :: tail
  colons : colon ∈ tail ↔ colon ∈ path
  proxyHost : start.proxyHost = args.proxyHost
  valid : validateArguments start
  accepts : ∀ result, (readAuthority errno' start name.length).outcome = some (0, result) →
    validateArguments result → setArgumentsValues errno opts (some url) createDefaultArguments = .returned result

/-- A supported url whose authority does not end with a slash gets that far. -/
theorem exists_atAuthority {authority : List Byte}
    (options : handleOptions errno createDefaultArguments opts = .returned (errno', args)) (scheme : IsScheme https name)
    (whole : url.bytes = name ++ text "://" ++ authority ++ path) (fits : url.bytes.length < 1023)
    (nonempty : authority ≠ []) (unslashed : authority.getLast? ≠ some slash)
    (begins : path = [] ∨ path.head? = some slash) :
    ∃ start tail, AtAuthority errno errno' opts url https name authority path args start tail := by
  have limit : maxUrlLen = 1024 := rfl
  have supported : isSupportedUrl url.bytes :=
    isSupportedUrl_iff.mpr ⟨https, name, authority ++ path, scheme, by rw [whole, List.append_assoc _ authority]⟩
  have front : (name ++ text "://" ++ authority).getLast? ≠ some slash := by
    rwa [List.getLast?_append_of_ne_nil _ nonempty]
  obtain ⟨ends, tail, stored, same⟩ := storeUrl_path whole (by omega) front begins
  rw [List.append_assoc _ authority] at stored
  refine ⟨setProtocol { args with url := storeUrl url }, tail, ?_⟩
  constructor
  case target => exact setProtocol_options url options scheme stored
  case behind => exact setProtocol_behind { args with url := storeUrl url } stored
  case colons => exact same
  case proxyHost => exact setProtocol_proxyHost _
  case valid => exact validate_setProtocol url options
  case accepts =>
    intro result outcome
    rw [← setArgumentsFromUrl_eq scheme stored ends] at outcome
    exact setArgumentsValues_of_zero result options (by omega) supported outcome

/-- **A url without a port** is taken for what it says if and only if its path has no colon. -/
theorem setArgumentsValues_bare_iff (options : handleOptions errno createDefaultArguments opts = .returned (errno', args))
    (parts : UrlParts https name host path) (whole : url.bytes = name ++ text "://" ++ host ++ path)
    (fits : url.bytes.length < 1023) :
    (∃ result, setArgumentsValues errno opts (some url) createDefaultArguments = .returned result ∧
      Targets https host (if https then 443 else 80) result) ↔ colon ∉ path := by
  have size : hostnameLen = 128 := rfl
  have short := parts.short
  have unslashed : host.getLast? ≠ some slash := fun last =>
    (parts.plain slash (List.mem_of_getLast? last)).2 rfl
  obtain ⟨start, tail, there⟩ :=
    exists_atAuthority options parts.scheme whole fits parts.nonempty unslashed parts.begins
  obtain ⟨protocol, noHost, port⟩ := there.target
  rw [← there.colons]
  by_cases later : colon ∈ tail
  · refine iff_of_false ?_ (not_not.mpr later)
    rintro ⟨result, returned, -, named, -⟩
    rw [there.accepts start (by rw [readAuthority_colonInPath there.behind parts.plain later]) there.valid] at returned
    obtain rfl := Ending.returned.inj returned
    exact parts.nonempty (named.symm.trans noHost)
  · obtain ⟨hostname, filled, copied⟩ := copyHost_of_lt noHost (by omega) there.behind
    refine iff_of_true ⟨{ start with targetHost := hostname }, there.accepts _ ?_ there.valid, protocol, filled, port⟩ later
    rw [readAuthority_bare there.behind parts.plain later]
    simp only [copied, Option.map_some]

/-- A url without a port. -/
def bareUrl : CText := .literal "HTTP://a/b?c"

theorem bareUrl_parts : UrlParts false (text "HTTP") (text "a") (text "/b?c") :=
  ⟨by decide, by decide, by decide, by decide, .inr rfl⟩

/-- `HTTP://a/b?c` on default arguments. -/
theorem setArgumentsValues_bare_one : ∃ result,
    setArgumentsValues 0 [] (some bareUrl) createDefaultArguments = .returned result ∧ Targets false (text "a") 80 result :=
  (setArgumentsValues_bare_iff rfl bareUrl_parts (by decide +kernel) (by decide +kernel)).mpr (by decide)

/-- A url with a colon in its path. -/
def colonUrl : CText := .literal "http://a/b:c"

/-- `http://a/b:c` is accepted, and its host is lost. -/
theorem host_lost : UrlParts false (text "http") (text "a") (text "/b:c") ∧
    colonUrl.bytes = text "http" ++ text "://" ++ text "a" ++ text "/b:c" ∧
    (∃ result, setArgumentsValues 0 [] (some colonUrl) createDefaultArguments = .returned result ∧
      result.targetHost.bytes = []) ∧
    ¬ ∃ result, setArgumentsValues 0 [] (some colonUrl) createDefaultArguments = .returned result ∧
      Targets false (text "a") 80 result := by
  have returned : setArgumentsValues 0 [] (some colonUrl) createDefaultArguments =
      .returned { createDefaultArguments with url := storeUrl colonUrl } := by decide +kernel
  refine ⟨⟨by decide, by decide, by decide, by decide, .inr rfl⟩, by decide +kernel, ⟨_, returned, rfl⟩, ?_⟩
  rintro ⟨result, other, -, host, -⟩
  obtain rfl := Ending.returned.inj (returned.symm.trans other)
  exact absurd host (by decide)

end Accepted

/-! ## The lines of a request without a proxy -/

section Lines

variable (args : Arguments)

/-- Everything behind the target of a request that has no proxy. -/
theorem headersText_noProxy (port : List Byte) (noProxy : args.proxyHost.bytes = []) (headers : HasHeaders args.http10) :
    headersText args port =
      versionText args.http10 ++ text "User-Agent: WebBench 2\r\n" ++
        (text "Host: " ++ args.targetHost.bytes ++ port ++ text "\r\n") ++ connectionText args.http10 ++ text "\r\n" := by
  have positive : 0 < args.http10 := by
    rcases headers with version | version <;> rw [version] <;> decide
  have noCache : ¬ (args.proxyHost.bytes ≠ [] ∧ args.forceReload ≠ 0) := fun both => both.1 noProxy
  simp only [headersText, hostText, lineIf, if_pos headers, if_pos positive, if_pos (And.intro noProxy headers),
    if_neg noCache, List.append_nil, List.append_assoc]

end Lines

/-! ## One `Host` line -/

/-- The line for `host` and `port` follows the user agent at once, and `Host: ` is nowhere else. -/
def OneHost (host : List Byte) (port : Int) (body : List Byte) : Prop :=
  ∃ before after, body = before ++ text "User-Agent: WebBench 2\r\n" ++
      (text "Host: " ++ host ++ text ":" ++ decimal port ++ text "\r\n") ++ after ∧
    ∀ a b, body = a ++ text "Host: " ++ b → a = before ++ text "User-Agent: WebBench 2\r\n"

theorem not_suffix {a front last word : List Byte} (same : a ++ word = front ++ last) (length : word.length = last.length)
    (differ : word ≠ last) : False :=
  differ (List.append_inj_right' same length)

theorem decimal_ne_space {n : Nat} {rest b : List Byte} (same : text " " ++ b = decimal n ++ rest) : False := by
  obtain ⟨d, more, shape⟩ := List.exists_cons_of_ne_nil (decimal_ne_nil n)
  have digit := isdigit_of_mem_decimal n d (shape ▸ List.mem_cons_self)
  rw [shape] at same
  have space : (32 : Byte) = d := (List.cons.inj same).1
  exact absurd (space ▸ digit) (by decide)

/-- Behind the port no colon has the word `Host` before it. -/
theorem no_host_behind_port {a before z b after : List Byte} {port : Nat}
    (tail : colon ∉ after ∨ ∃ v, after = text "Connection" ++ colon :: v ∧ colon ∉ v)
    (front : a ++ text "Host" = before ++ z)
    (behind : decimal port ++ text "\r\n" ++ after = z ++ colon :: (text " " ++ b)) : False := by
  have noEnd : colon ∉ text "\r\n" := by decide
  have noPort : colon ∉ decimal port ++ text "\r\n" := fun member =>
    (List.mem_append.mp member).elim (colon_notMem_decimal port) noEnd
  rcases tail with plain | ⟨v, rfl, plain⟩
  · have member : colon ∈ decimal port ++ text "\r\n" ++ after := behind ▸ List.mem_append_right z List.mem_cons_self
    exact (List.mem_append.mp member).elim noPort plain
  · have noConnection : colon ∉ text "Connection" := by decide
    have cut : colon ∉ decimal port ++ text "\r\n" ++ text "Connection" := fun member =>
      (List.mem_append.mp member).elim noPort noConnection
    rw [← List.append_assoc] at behind
    rcases cut_at_first cut behind.symm with ⟨same, -⟩ | ⟨z', -, beyond⟩
    · -- the word before that colon is `Connection`
      have ending : text "Connection" = text "Connec" ++ text "tion" := by decide
      rw [same, ending, ← List.append_assoc, ← List.append_assoc] at front
      exact not_suffix front (by decide) (by decide)
    · exact plain (beyond ▸ List.mem_append_right z' List.mem_cons_self)

/-- Of the colons of a request only the one behind `Host` has that word before it and a space behind it. -/
theorem oneHost_of_lines {before host after : List Byte} {port : Nat} (plainBefore : colon ∉ before)
    (plainHost : colon ∉ host) (tail : colon ∉ after ∨ ∃ v, after = text "Connection" ++ colon :: v ∧ colon ∉ v) :
    OneHost host port (before ++ text "User-Agent: WebBench 2\r\n" ++
      (text "Host: " ++ host ++ text ":" ++ decimal port ++ text "\r\n") ++ after) := by
  refine ⟨before, after, rfl, fun a b occurs => ?_⟩
  have agent : text "User-Agent: WebBench 2\r\n" = text "User-Agent" ++ colon :: text " WebBench 2\r\n" := rfl
  have title : text "Host: " = text "Host" ++ colon :: text " " := by decide
  have mark : text ":" = [colon] := by decide
  have regrouped : (a ++ text "Host") ++ colon :: (text " " ++ b) =
      (before ++ text "User-Agent") ++ colon :: ((text " WebBench 2\r\n" ++ text "Host") ++
        colon :: ((text " " ++ host) ++ colon :: (decimal port ++ text "\r\n" ++ after))) := by
    have shape := occurs.symm
    rw [agent, title, mark] at shape
    simpa only [List.append_assoc, List.cons_append, List.nil_append] using shape
  have noColon : colon ∉ text "User-Agent" ∧ colon ∉ text " WebBench 2\r\n" ++ text "Host" ∧ colon ∉ text " " := by
    simp [text, colon]
  obtain ⟨noAgent, noHost, noSpace⟩ := noColon
  have firstCut : colon ∉ before ++ text "User-Agent" := fun member =>
    (List.mem_append.mp member).elim plainBefore noAgent
  have thirdCut : colon ∉ text " " ++ host := fun member => (List.mem_append.mp member).elim noSpace plainHost
  rcases cut_at_first firstCut regrouped with ⟨same, -⟩ | ⟨z, front, later⟩
  · -- the word before the first colon is the agent's
    have ending : text "User-Agent" = text "User-A" ++ text "gent" := by decide
    rw [ending, ← List.append_assoc] at same
    exact (not_suffix same (by decide) (by decide)).elim
  rcases cut_at_first noHost later with ⟨same, -⟩ | ⟨z', front', later'⟩
  · have whole : a ++ text "Host" = before ++ text "User-Agent: WebBench 2\r\n" ++ text "Host" := by
      rw [front, same, agent]
      simp only [List.append_assoc, List.cons_append]
    exact List.append_cancel_right whole
  rcases cut_at_first thirdCut later' with ⟨-, digits⟩ | ⟨z'', front'', later''⟩
  · rw [List.append_assoc] at digits
    exact (decimal_ne_space digits).elim
  · have whole : a ++ text "Host" = (before ++ text "User-Agent" ++ colon :: (text " WebBench 2\r\n" ++ text "Host" ++
        colon :: (text " " ++ host ++ [colon]))) ++ z'' := by
      rw [front, front', front'']
      simp only [List.append_assoc, List.cons_append, List.nil_append]
    exact (no_host_behind_port tail whole later''.symm).elim

theorem methodText_of_valid {args : Arguments} (valid : validateArguments args) :
    ∃ name, methodText args.method = some name ∧ colon ∉ name := by
  simp only [validateArguments, Bool.or_eq_true, beq_iff_eq] at valid
  rcases valid with ((get | head) | options) | trace
  · exact ⟨text "GET ", by rw [get]; rfl, by decide⟩
  · exact ⟨text "HEAD ", by rw [head]; rfl, by decide⟩
  · exact ⟨text "OPTIONS ", by rw [options]; rfl, by decide⟩
  · exact ⟨text "TRACE ", by rw [trace]; rfl, by decide⟩

theorem versionText_noColon (http10 : Int) : colon ∉ versionText http10 := by
  unfold versionText
  split <;> simp [text, colon]

/-- Behind the `Host` line there is no colon, or that of `Connection`. -/
theorem connection_tail (http10 : Int) : colon ∉ connectionText http10 ++ text "\r\n" ∨
    ∃ v, connectionText http10 ++ text "\r\n" = text "Connection" ++ colon :: v ∧ colon ∉ v := by
  unfold connectionText
  split
  · exact .inr ⟨text " close\r\n\r\n", rfl, by simp [text, colon]⟩
  · exact .inl (by decide)

/-- **One `Host` line.** A request with headers and without a proxy has one, and it is that of the target. -/
theorem buildRequest_oneHost (args : Arguments) {port : Nat} (noProxy : args.proxyHost.bytes = [])
    (valid : validateArguments args) (headers : HasHeaders (adjustVersion args).http10) (target : args.targetPort = port)
    (digits : (decimal port).length ≤ 9) (plain : colon ∉ args.targetHost.bytes) :
    (buildRequest args).1 = 0 ∧ OneHost args.targetHost.bytes port (buildRequest args).2.2.body.bytes ∧
      (buildRequest args).2.2.host.bytes = args.targetHost.bytes := by
  obtain ⟨name, supported, noColon⟩ := methodText_of_valid valid
  obtain ⟨built, -, hosted, whole⟩ := buildRequest_body args supported
  obtain ⟨version, adjusted⟩ := adjustVersion_spec args
  have printed : portStr args = text ":" ++ decimal port := by
    rw [portStr_eq args (by rw [target]; omega), target]
  have lines := headersText_noProxy { args with http10 := version } (portStr args) noProxy (by rwa [adjusted] at headers)
  have slashed : targetText args = text "/" := if_pos noProxy
  refine ⟨built, ?_, hosted⟩
  rw [adjusted] at whole
  rw [whole, lines, slashed, printed, List.append_assoc _ (connectionText version)]
  simp only [← List.append_assoc (name ++ text "/"), ← List.append_assoc _ (text ":") (decimal port)]
  refine oneHost_of_lines (fun member => ?_) plain (connection_tail version)
  rcases List.mem_append.mp member with early | late
  · have noSlash : colon ∉ text "/" := by decide
    exact (List.mem_append.mp early).elim noColon noSlash
  · exact versionText_noColon version late

/-! ## The whole way -/

section Accepted

variable {errno' : Int} {opts : List Opt} {args : Arguments} {https : Bool} {name host path : List Byte} {url : CText}

/-- Nine digits make a number that fits an `int`. -/
theorem fits_of_digits {port : Nat} (digits : (decimal port).length ≤ 9) : (port : Int) ≤ intMax := by
  rw [decimal_natCast, List.length_map, Nat.length_toDigits_le_iff (by decide) (by decide)] at digits
  unfold intMax
  omega

/-- **From the url to the `Host` header.** For every option list that is taken
and has no proxy in it, a url with a port gives the arguments its protocol, host
and port, and a request with headers that names that host and port once. -/
theorem setArgumentsValues_oneHost {port : Nat}
    (options : handleOptions 0 createDefaultArguments opts = .returned (errno', args))
    (noProxy : ∀ opt ∈ opts, opt.setting ≠ some .proxy) (parts : UrlParts https name host path) (positive : 0 < port)
    (digits : (decimal port).length ≤ 9) (whole : url.bytes = name ++ text "://" ++ host ++ colon :: decimal port ++ path)
    (fits : url.bytes.length < 1023) :
    ∃ result, setArgumentsValues 0 opts (some url) createDefaultArguments = .returned result ∧
      Targets https host port result ∧
      (HasHeaders (adjustVersion result).http10 → (buildRequest result).1 = 0 ∧
        OneHost host port (buildRequest result).2.2.body.bytes ∧ (buildRequest result).2.2.host.bytes = host) := by
  have size : hostnameLen = 128 := rfl
  have portSize : urlPortStrSize = 10 := rfl
  have short := parts.short
  have small := fits_of_digits digits
  have noSlash : slash ∉ decimal port := fun member => absurd (isdigit_of_mem_decimal port slash member) (by decide)
  have unslashed : (host ++ colon :: decimal port).getLast? ≠ some slash := by
    rw [List.getLast?_append_of_ne_nil _ (List.cons_ne_nil _ _), List.getLast?_cons_of_ne_nil (decimal_ne_nil port)]
    exact fun last => noSlash (List.mem_of_getLast? last)
  obtain ⟨start, tail, there⟩ := exists_atAuthority options parts.scheme (by rw [whole, ← List.append_assoc]) fits
    (List.append_ne_nil_of_right_ne_nil _ (List.cons_ne_nil _ _)) unslashed parts.begins
  obtain ⟨protocol, noHost, -⟩ := there.target
  have behind : start.url.bytes.drop (name.length + 3) = host ++ colon :: (decimal port ++ slash :: tail) := by
    rw [there.behind, List.append_assoc, List.cons_append]
  have unproxied : start.proxyHost.bytes = [] := by
    have kept : args.proxyHost = createDefaultArguments.proxyHost :=
      handleOptions_frame Arguments.proxyHost .proxy (fun update other _ => by cases update <;> first | rfl | exact absurd rfl other)
        noProxy options
    rw [there.proxyHost, kept]
    rfl
  obtain ⟨hostname, filled, copied⟩ := copyHost_of_lt noHost (by omega) behind
  obtain rfl : errno' = 0 := or_self_iff.mp (handleOptions_errno options)
  have accepted := positiveLong_port positive small
  have read := readPort_of_lt 0 { start with targetHost := hostname } (by omega) (drop_past behind)
  have same : int32 port = port := int32_of_fits (by omega) small
  have returned := there.accepts { start with targetHost := hostname, targetPort := port } (by
    rw [readAuthority_withPort behind parts.plain noSlash, copied]
    simp only [read, accepted, same]) there.valid
  refine ⟨{ start with targetHost := hostname, targetPort := port }, returned, ⟨protocol, filled, rfl⟩, fun headers => ?_⟩
  have plain : colon ∉ hostname.bytes := by
    rw [filled]
    exact fun member => (parts.plain _ member).1 rfl
  have request := buildRequest_oneHost { start with targetHost := hostname, targetPort := port } unproxied there.valid
    headers rfl digits plain
  dsimp only at request
  rwa [filled] at request

/-- A url with a port, and both delimiters again in its path. -/
def portUrl : CText := .literal "https://a:8080/b:c"

theorem portUrl_parts : UrlParts true (text "https") (text "a") (text "/b:c") :=
  ⟨by decide, by decide, by decide, by decide, .inr rfl⟩

/-- `https://a:8080/b:c` on default arguments. -/
theorem setArgumentsValues_oneHost_one : ∃ result,
    setArgumentsValues 0 [] (some portUrl) createDefaultArguments = .returned result ∧
      Targets true (text "a") (8080 : Nat) result ∧
      (HasHeaders (adjustVersion result).http10 → (buildRequest result).1 = 0 ∧
        OneHost (text "a") (8080 : Nat) (buildRequest result).2.2.body.bytes ∧
        (buildRequest result).2.2.host.bytes = text "a") :=
  setArgumentsValues_oneHost rfl (by simp) portUrl_parts (by decide) (by decide) (by decide +kernel) (by decide +kernel)

end Accepted

end WebBench
