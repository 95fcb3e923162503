import WebBench.Lib.HttpMessage
import WebBench.RequestEnd

/-!
# The request as a message

What a request says, apart from how `build_request` puts it together: a method,
a target, a version and header fields. A strict reader gets it back from the
body unless the url or the host brings a separator of its own.
-/

namespace WebBench
set_option autoImplicit false
open CLib

/-! ## The request of some arguments -/

/-- The word for a method. -/
def methodWord (method : Int) : List Byte :=
  if method = methodGet then text "GET"
  else if method = methodHead then text "HEAD"
  else if method = methodOptions then text "OPTIONS"
  else text "TRACE"

/-- The word for a version that has headers. -/
def versionWord (http10 : Int) : List Byte := if http10 = httpVersion10 then text "HTTP/1.0" else text "HTTP/1.1"

/-- What a request says. -/
def requestMessage (args : Arguments) : Http.Message where
  method := methodWord args.method
  target := targetText args
  version := versionWord args.http10
  fields :=
    [⟨text "User-Agent", text "WebBench 2"⟩] ++
      (if args.proxyHost.bytes = [] then [⟨text "Host", args.targetHost.bytes ++ portStr args⟩] else []) ++
      (if args.proxyHost.bytes ≠ [] ∧ args.forceReload ≠ 0 then
        [⟨if args.http10 = httpVersion10 then text "Pragma" else text "Cache-Control", text "no-cache"⟩] else []) ++
      (if args.http10 = httpVersion11 then [⟨text "Connection", text "close"⟩] else [])

/-- No separator comes with the url or the host a request names. -/
structure Unforged (args : Arguments) : Prop where
  direct : args.proxyHost.bytes = [] → ¬ crlf <:+: args.targetHost.bytes
  proxied : args.proxyHost.bytes ≠ [] → 32 ∉ args.url.bytes ∧ ¬ crlf <:+: args.url.bytes

instance (args : Arguments) : Decidable (Unforged args) :=
  decidable_of_iff ((args.proxyHost.bytes = [] → ¬ crlf <:+: args.targetHost.bytes) ∧
      (args.proxyHost.bytes ≠ [] → args.url.bytes.contains 32 = false ∧ ¬ crlf <:+: args.url.bytes)) (by
    simp only [Bool.eq_false_iff, ne_eq, List.contains_iff_mem]
    exact ⟨fun both => ⟨both.1, both.2⟩, fun unforged => ⟨unforged.direct, unforged.proxied⟩⟩)

variable {args : Arguments}

theorem methodText_word {name : List Byte} (supported : methodText args.method = some name) :
    name = methodWord args.method ++ Http.wordEnd := by
  unfold methodText at supported
  unfold methodWord
  by_cases get : args.method = methodGet
  · rw [if_pos get] at supported ⊢
    exact (Option.some.inj supported).symm
  rw [if_neg get] at supported ⊢
  by_cases head : args.method = methodHead
  · rw [if_pos head] at supported ⊢
    exact (Option.some.inj supported).symm
  rw [if_neg head] at supported ⊢
  by_cases options : args.method = methodOptions
  · rw [if_pos options] at supported ⊢
    exact (Option.some.inj supported).symm
  rw [if_neg options] at supported ⊢
  by_cases trace : args.method = methodTrace
  · rw [if_pos trace] at supported
    exact (Option.some.inj supported).symm
  · rw [if_neg trace] at supported
    cases supported

theorem versionName_word (headers : HasHeaders args.http10) :
    versionName args.http10 = Http.wordEnd ++ versionWord args.http10 := by
  unfold versionName versionWord
  split
  · rfl
  · rw [if_pos (headers.resolve_left ‹_›)]
    rfl

theorem map_if {α β : Type} (c : Prop) [Decidable c] (f : α → β) (a : α) :
    (if c then [a] else []).map f = if c then [f a] else [] := by
  split <;> rfl

/-- The header fields are those `build_request` appends. -/
theorem requestMessage_fields : (requestMessage args).fields.map Http.Field.line = headerFields args (portStr args) := by
  have cache : ∀ c : Prop, [Decidable c] →
      (Http.Field.line ⟨if c then text "Pragma" else text "Cache-Control", text "no-cache"⟩) =
        if c then text "Pragma: no-cache" else text "Cache-Control: no-cache" := by
    intro c _
    split <;> rfl
  have host : Http.Field.line ⟨text "Host", args.targetHost.bytes ++ portStr args⟩ =
      text "Host: " ++ args.targetHost.bytes ++ portStr args := by
    rw [List.append_assoc]
    rfl
  simp only [requestMessage, headerFields, List.map_append, map_if, List.map_cons, List.map_nil, cache, host]
  rfl

/-- **The body is the message, written out.** -/
theorem render_requestMessage {name : List Byte} (supported : methodText args.method = some name)
    (headers : HasHeaders args.http10) :
    name ++ targetText args ++ headersText args (portStr args) = (requestMessage args).render := by
  have lines : ((requestMessage args).fields.map fun field => field.line ++ lineEnd).flatten =
      ((headerFields args (portStr args)).map (· ++ crlf)).flatten := by
    rw [← requestMessage_fields, List.map_map]
    rfl
  rw [headersText_lines args _ headers, methodText_word supported, versionName_word headers, Http.Message.render,
    Http.renderFields, lines, Http.Message.line]
  simp only [List.append_assoc]
  rfl

/-! ## When it can be read back -/

theorem crlf_ne_nil : crlf ≠ [] := List.cons_ne_nil _ _

/-- A field whose name is a word. -/
theorem formed_field {name value : List Byte} (word : Plain Http.nameEnd name) (single : ¬ crlf <:+: name ++ text ":") :
    Http.Field.Formed ⟨name, value⟩ ↔ ¬ crlf <:+: value := by
  have space : (32 : Byte) ∉ crlf := by decide
  have line : Http.Field.line ⟨name, value⟩ = (name ++ text ":") ++ 32 :: value := by
    simp [Http.Field.line, Http.nameEnd, text]
  have whole : Plain lineEnd (Http.Field.line ⟨name, value⟩) ↔ ¬ crlf <:+: value := by
    rw [plain_lineEnd, line, show lineEnd = crlf from rfl, infix_around crlf_ne_nil space, or_iff_right single]
  exact ⟨fun formed => whole.mp formed.line, fun free => ⟨word, whole.mpr free⟩⟩

/-- There is no line end in a number. -/
theorem portStr_single : ¬ crlf <:+: portStr args := by
  intro inside
  have member : (13 : Byte) ∈ text ":" ++ decimal args.targetPort :=
    List.mem_of_mem_take (inside.subset List.mem_cons_self)
  rcases List.mem_append.mp member with mark | number
  · exact absurd mark (by decide)
  · rcases List.mem_append.mp number with sign | digits
    · split at sign
      · exact absurd sign (by decide)
      · exact absurd sign List.not_mem_nil
    · rw [← decimal_natCast] at digits
      exact absurd (isdigit_of_mem_decimal _ 13 digits) (by decide)

/-- A host and a port in one line. -/
theorem host_single : ¬ crlf <:+: args.targetHost.bytes ++ portStr args ↔ ¬ crlf <:+: args.targetHost.bytes := by
  have marked : portStr args = 58 :: snprintf (portStrSize - 1) (decimal args.targetPort) := rfl
  have mark : (58 : Byte) ∉ crlf := by decide
  rw [marked, infix_around crlf_ne_nil mark, or_iff_left]
  intro inside
  have whole : crlf <:+: portStr args := by
    rw [marked]
    exact inside.trans (List.suffix_cons _ _).isInfix
  exact portStr_single whole

theorem methodWord_plain (method : Int) : (32 : Byte) ∉ methodWord method ∧ ¬ crlf <:+: methodWord method := by
  unfold methodWord
  repeat' split
  all_goals decide

theorem versionWord_single (http10 : Int) : ¬ crlf <:+: versionWord http10 := by
  unfold versionWord
  split <;> decide

/-- The request line is one of three words. -/
theorem formed_line (args : Arguments) :
    Plain Http.wordEnd (requestMessage args).target ∧ Plain lineEnd (requestMessage args).line ↔
      32 ∉ targetText args ∧ ¬ crlf <:+: targetText args := by
  have space : (32 : Byte) ∉ crlf := by decide
  have shape : (requestMessage args).line =
      methodWord args.method ++ 32 :: (targetText args ++ 32 :: versionWord args.http10) := by
    simp [Http.Message.line, requestMessage, Http.wordEnd, text]
  rw [plain_lineEnd, shape, show lineEnd = crlf from rfl, infix_around crlf_ne_nil space,
    or_iff_right (methodWord_plain args.method).2, infix_around crlf_ne_nil space,
    or_iff_left (versionWord_single args.http10)]
  exact and_congr_left' plain_singleton

/-- The fields are in one line each. -/
theorem formed_fields (args : Arguments) :
    (∀ field ∈ (requestMessage args).fields, field.Formed) ↔
      (args.proxyHost.bytes = [] → ¬ crlf <:+: args.targetHost.bytes) := by
  have agent : Http.Field.Formed ⟨text "User-Agent", text "WebBench 2"⟩ := ⟨by decide, by decide⟩
  have host : Http.Field.Formed ⟨text "Host", args.targetHost.bytes ++ portStr args⟩ ↔ ¬ crlf <:+: args.targetHost.bytes :=
    (formed_field (by decide) (by decide)).trans host_single
  have cache : ∀ c : Prop, [Decidable c] →
      Http.Field.Formed ⟨if c then text "Pragma" else text "Cache-Control", text "no-cache"⟩ := by
    intro c _
    split <;> exact ⟨by decide, by decide⟩
  have connection : Http.Field.Formed ⟨text "Connection", text "close"⟩ := ⟨by decide, by decide⟩
  have each (c : Prop) [Decidable c] (field : Http.Field) :
      (∀ other ∈ (if c then [field] else []), other.Formed) ↔ (c → field.Formed) := by
    split
    · rename_i holds
      simp [holds]
    · rename_i fails
      simp [fails]
  simp only [requestMessage, List.forall_mem_append, each, List.forall_mem_singleton, agent, host, cache, connection,
    true_and, and_true, implies_true]

/-- **What a reader can get back.** A request with headers is a message exactly when nothing in it is forged. -/
theorem formed_iff (args : Arguments) : (requestMessage args).Formed ↔ Unforged args := by
  have method : Plain Http.wordEnd (requestMessage args).method := plain_singleton.mpr (methodWord_plain args.method).1
  have slash : (32 : Byte) ∉ text "/" ∧ ¬ crlf <:+: text "/" := by decide
  constructor
  · intro formed
    have line := (formed_line args).mp ⟨formed.target, formed.line⟩
    refine ⟨(formed_fields args).mp formed.fields, fun proxied => ?_⟩
    rwa [targetText, if_neg proxied] at line
  · intro unforged
    have line : 32 ∉ targetText args ∧ ¬ crlf <:+: targetText args := by
      unfold targetText
      split
      · exact slash
      · rename_i proxied
        exact unforged.proxied proxied
    obtain ⟨target, whole⟩ := (formed_line args).mpr line
    exact ⟨method, target, whole, (formed_fields args).mpr unforged.direct⟩

/-- Building a request changes nothing its fields depend on but the version. -/
theorem unforged_built : Unforged (buildRequest args).2.1 ↔ Unforged args := by
  obtain ⟨version, adjusted⟩ := adjustVersion_spec args
  have left : (buildRequest args).2.1 = adjustVersion args := by
    unfold buildRequest
    dsimp only
    split <;> rfl
  rw [left, adjusted]
  exact ⟨fun unforged => ⟨unforged.direct, unforged.proxied⟩, fun unforged => ⟨unforged.direct, unforged.proxied⟩⟩

/-- The body that is built is the message of the arguments that are left. -/
theorem buildRequest_rendered {name : List Byte} (supported : methodText args.method = some name)
    (headers : HasHeaders (adjustVersion args).http10) :
    (buildRequest args).2.2.body.bytes = (requestMessage (buildRequest args).2.1).render := by
  obtain ⟨-, left, -, whole⟩ := buildRequest_body args supported
  obtain ⟨version, adjusted⟩ := adjustVersion_spec args
  have supported' : methodText (adjustVersion args).method = some name := by rw [adjusted]; exact supported
  have same : targetText (adjustVersion args) = targetText args := by rw [adjusted]; rfl
  have port : portStr (adjustVersion args) = portStr args := by rw [adjusted]; rfl
  rw [left, whole, ← render_requestMessage supported' headers, same, port]

/-- **The request can be read back** exactly when nothing in it is forged: a space or a line end in the url of a
proxied request, or a line end in the host of a direct one. -/
theorem buildRequest_parses_iff (args : Arguments) {name : List Byte} (supported : methodText args.method = some name)
    (headers : HasHeaders (adjustVersion args).http10) :
    Http.parse (buildRequest args).2.2.body.bytes = some (requestMessage (buildRequest args).2.1, []) ↔ Unforged args := by
  rw [(buildRequest_rendered supported headers), Http.parse_render_iff, formed_iff, unforged_built]

/-- A host with a header line of its own. -/
def forgedArguments : Arguments :=
  { createDefaultArguments with targetHost := .print hostnameLen_pos (text "a\r\nX: b") }

/-- The request of `forgedArguments` is not read back, that of the default arguments is. -/
theorem buildRequest_parses_iff_forged :
    Http.parse (buildRequest createDefaultArguments).2.2.body.bytes =
        some (requestMessage (buildRequest createDefaultArguments).2.1, []) ∧
      ¬ Http.parse (buildRequest forgedArguments).2.2.body.bytes =
        some (requestMessage (buildRequest forgedArguments).2.1, []) :=
  ⟨(buildRequest_parses_iff createDefaultArguments rfl (by decide)).mpr (by decide), fun parses =>
    absurd ((buildRequest_parses_iff forgedArguments rfl (by decide)).mp parses) (by decide)⟩

end WebBench
