import WebBench.RequestEnd
import WebBench.UrlBounds

/-!
# The target of a direct request

Through a proxy the request line has the whole url for its target. A direct
request always asks for the root, so both name the same resource if and only if
the url has no path, or the root for its path.
-/

namespace WebBench
set_option autoImplicit false
open CLib

/-- Everything from the first slash behind the authority. -/
def pathPart (url : List Byte) : List Byte := (behindScheme url).dropWhile (· ≠ slash)

/-- The target stands between the method and what follows it in the request. -/
def Writes (args : Arguments) (target : List Byte) : Prop :=
  ∃ name, methodText args.method = some name ∧
    (buildRequest args).2.2.body.bytes = name ++ target ++ headersText (adjustVersion args) (portStr args)

/-- The direct request asks for the path of the url, which is the resource that any request through a proxy names for
the same url. -/
def NamesPath (url : CText) (args : Arguments) : Prop :=
  ∃ target, Writes args target ∧ target = pathPart args.url.bytes ∧
    ∀ errno opts proxied, setArgumentsValues errno opts (some url) createDefaultArguments = .returned proxied →
      proxied.proxyHost.bytes ≠ [] → ∃ absolute, Writes proxied absolute ∧ pathPart absolute = target

section Target

variable {errno : Int} {opts : List Opt} {url : CText} {args : Arguments}

/-- A request has one target. -/
theorem writes_iff (valid : validateArguments args = true) {target : List Byte} :
    Writes args target ↔ target = targetText args := by
  obtain ⟨⟨name, found⟩, -⟩ := methods_of_valid args valid
  have whole := (buildRequest_body args found).2.2.2
  constructor
  · rintro ⟨name', found', body⟩
    obtain rfl := Option.some.inj (found.symm.trans found')
    rw [whole] at body
    exact (List.append_cancel_left (List.append_cancel_right body)).symm
  · rintro rfl
    exact ⟨name, found, whole⟩

theorem setArgumentsValues_url (returned : setArgumentsValues errno opts (some url) createDefaultArguments = .returned args) :
    args.url = storeUrl url ∧ validateArguments args = true := by
  obtain ⟨-, left, -, -, -, -, ⟨host, port, protocol, rfl⟩, valid⟩ := setArgumentsValues_returned returned
  exact ⟨rfl, valid⟩

/-- A url that is accepted has a path once it is stored. -/
theorem pathPart_ne_nil (returned : setArgumentsValues errno opts (some url) createDefaultArguments = .returned args) :
    pathPart (storeUrl url).bytes ≠ [] := by
  obtain ⟨errno', left, options, short, supported, ends, -⟩ := setArgumentsValues_returned returned
  obtain ⟨https, name, rest, scheme, whole, -⟩ := exists_authority short supported ends
  rw [pathPart, whole, behindScheme_eq scheme]
  have some' : rest ≠ [] := by
    rintro rfl
    have behind := setProtocol_behind { left with url := storeUrl url } whole
    rw [setArgumentsValues_eq options short supported, setArgumentsFromUrl_eq scheme whole ends,
      readAuthority_nothing behind] at returned
    cases returned
  rw [whole, List.getLast?_append_of_ne_nil _ some'] at ends
  intro none'
  have plain := List.dropWhile_eq_nil_iff.mp none' slash (List.mem_of_getLast? ends)
  exact absurd plain (by decide)

theorem pathPart_suffix (s : List Byte) : pathPart s <:+ s := (List.dropWhile_suffix _).trans (List.drop_suffix _ _)

theorem pathPart_append (supported : isSupportedUrl url.bytes = true) : pathPart (url.bytes ++ [slash]) =
    pathPart url.bytes ++ [slash] := by
  obtain ⟨https, name, rest, scheme, whole⟩ := isSupportedUrl_iff.mp supported
  have stop : [slash].dropWhile (fun b : Byte => decide (b ≠ slash)) = [slash] := by decide
  unfold pathPart
  rw [whole, List.append_assoc _ rest, behindScheme_eq scheme, behindScheme_eq scheme, List.dropWhile_append, stop]
  split
  case isTrue none' => rw [List.isEmpty_iff.mp none', List.nil_append]
  case isFalse => rfl

/-- The path of the stored url is the root when that of the url is, or when the url has none. -/
theorem pathPart_storeUrl (returned : setArgumentsValues errno opts (some url) createDefaultArguments = .returned args) :
    pathPart (storeUrl url).bytes = text "/" ↔ pathPart url.bytes = [] ∨ pathPart url.bytes = text "/" := by
  obtain ⟨-, -, -, short, supported, ends, -⟩ := setArgumentsValues_returned returned
  have stored := storeUrl_bytes short
  have path := pathPart_ne_nil returned
  by_cases slashed : url.bytes.getLast? = some slash
  · rw [if_pos (.inl slashed)] at stored
    rw [stored] at path ⊢
    exact (or_iff_right path).symm
  · have full : ¬ url.bytes.length + 1 = maxUrlLen := by
      intro full
      rw [if_pos (.inr full)] at stored
      exact slashed (stored ▸ ends)
    rw [if_neg (not_or.mpr ⟨slashed, full⟩)] at stored
    have other : pathPart url.bytes ≠ text "/" := by
      intro root
      have last := pathPart_suffix url.bytes
      rw [root] at last
      exact slashed (List.singleton_suffix_iff_getLast?_eq_some.mp last)
    rw [stored, pathPart_append supported, or_iff_left other]
    exact List.append_left_eq_self

/-- **When a direct request asks for the path of its url.** -/
theorem namesPath_iff (returned : setArgumentsValues errno opts (some url) createDefaultArguments = .returned args)
    (direct : args.proxyHost.bytes = []) :
    NamesPath url args ↔ pathPart url.bytes = [] ∨ pathPart url.bytes = text "/" := by
  obtain ⟨stored, valid⟩ := setArgumentsValues_url returned
  have target : targetText args = text "/" := if_pos direct
  rw [← pathPart_storeUrl returned, ← stored]
  constructor
  · rintro ⟨written, writes, same, -⟩
    rw [← same, (writes_iff valid).mp writes, target]
  · intro root
    refine ⟨text "/", (writes_iff valid).mpr target.symm, root.symm, fun errno' opts' proxied returned' proxy => ?_⟩
    obtain ⟨stored', valid'⟩ := setArgumentsValues_url returned'
    have absolute : targetText proxied = proxied.url.bytes := if_neg proxy
    exact ⟨proxied.url.bytes, (writes_iff valid').mpr absolute.symm, by rw [stored', ← stored, root]⟩

/-- `http://a/`. -/
theorem namesPath_one :
    setArgumentsValues 0 [] (some rootUrl) createDefaultArguments = .returned (rootArguments 2) ∧
      NamesPath rootUrl (rootArguments 2) := by
  have returned : setArgumentsValues 0 [] (some rootUrl) createDefaultArguments = .returned (rootArguments 2) := by
    decide +kernel
  exact ⟨returned, (namesPath_iff returned rfl).mpr (.inr (by decide +kernel))⟩

/-- A url with a page for its path. -/
def pageUrl : CText := .literal "http://a/b"

/-- The arguments of `http://a/b`, with a proxy host that may be empty. -/
def pageArguments (proxy : String) : Arguments :=
  { createDefaultArguments with
    targetHost := .print hostnameLen_pos (text "a"), proxyHost := .print hostnameLen_pos (text proxy), url := storeUrl pageUrl }

/-- For `http://a/b` the proxy is asked for `http://a/b/`, and the host itself for `/`. -/
theorem path_dropped :
    setArgumentsValues 0 [] (some pageUrl) createDefaultArguments = .returned (pageArguments "") ∧
      setArgumentsValues 0 [.proxy (.literal "p")] (some pageUrl) createDefaultArguments = .returned (pageArguments "p") ∧
      Writes (pageArguments "") (text "/") ∧ Writes (pageArguments "p") (text "http://a/b/") ∧
      ¬ NamesPath pageUrl (pageArguments "") := by
  have valid : validateArguments (pageArguments "") = true := by decide
  have valid' : validateArguments (pageArguments "p") = true := by decide
  have other : text "/" ≠ pathPart (pageArguments "").url.bytes := by decide +kernel
  refine ⟨by decide +kernel, by decide +kernel, (writes_iff valid).mpr rfl, (writes_iff valid').mpr (by decide +kernel), ?_⟩
  rintro ⟨target, writes, same, -⟩
  rw [(writes_iff valid).mp writes] at same
  exact other same

end Target

end WebBench
