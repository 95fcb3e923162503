import WebBench.Url

/-!
# The bounds of the url parser

`set_arguments_from_url` relies on finding both delimiters and on a host and a
port that fit their arrays, and checks neither. The urls with which it stays
within its buffers and fills in the host are described here byte for byte.
-/

namespace WebBench
set_option autoImplicit false
open CLib

namespace UrlRun

/-- Every pointer subtracted is there, and the lengths copied leave room for a terminator. -/
structure InBounds (run : UrlRun) : Prop where
  pointers : ∀ p ∈ run.subtracted, p ≠ none
  host : ∀ n, run.hostLength = some n → 0 ≤ n ∧ n ≤ hostnameLen - 1
  port : ∀ n, run.portLength = some n → 0 ≤ n ∧ n ≤ urlPortStrSize - 1

/-- A negative value is returned, and nothing has been copied. -/
def Refused (run : UrlRun) : Prop :=
  run.hostLength = none ∧ run.portLength = none ∧ ∃ ret args, run.outcome = some (ret, args) ∧ ret < 0

/-- Where zero is returned the host is not empty. -/
def Named (run : UrlRun) : Prop := ∀ args, run.outcome = some (0, args) → args.targetHost.bytes ≠ []

/-- The parser has kept to its buffers and given a host to the urls it accepts. -/
def Safe (run : UrlRun) : Prop := (run.InBounds ∨ run.Refused) ∧ run.Named

theorem safe_iff_named {run : UrlRun} (bounds : run.InBounds) : run.Safe ↔ run.Named :=
  and_iff_right (.inl bounds)

/-- A run that has copied a host is safe only within its bounds. -/
theorem Safe.inBounds {run : UrlRun} {n : Int} (safe : run.Safe) (copied : run.hostLength = some n) : run.InBounds := by
  refine safe.1.resolve_right fun refused => ?_
  cases copied.symm.trans refused.1

end UrlRun

/-- What follows the scheme. -/
def behindScheme (url : List Byte) : List Byte := url.drop (if isHttps url then 8 else 7)

/-- What follows the scheme can be split: a host that fits its array, and then
either a port that fits its own, where the host may be empty only if the port is
rejected, or a path without a colon behind a host that is not empty. -/
def canSplit (errno : Int) (rest : List Byte) : Bool :=
  let host := rest.takeWhile fun b => b ≠ colon ∧ b ≠ slash
  decide (host.length < hostnameLen) &&
    match rest.drop host.length with
    | [] => false
    | b :: more =>
      if b = colon then
        let port := more.takeWhile fun b => b ≠ slash
        decide (port.length < urlPortStrSize) && (decide (host ≠ []) || decide (positiveLong errno port = none))
      else decide (host ≠ []) && decide (colon ∉ more)

/-! ## The shapes of what follows the scheme -/

section Shapes

variable {errno : Int} {host port path : List Byte}

theorem takeWhile_plain {b : Byte} {more : List Byte} (plain : ∀ b ∈ host, b ≠ colon ∧ b ≠ slash)
    (mark : b = colon ∨ b = slash) :
    (host ++ b :: more).takeWhile (fun b => decide (b ≠ colon ∧ b ≠ slash)) = host := by
  rw [List.takeWhile_append_of_pos fun b member => decide_eq_true (plain b member), List.takeWhile_cons_of_neg,
    List.append_nil]
  simp only [decide_eq_true_eq]
  exact fun both => mark.elim both.1 both.2

theorem canSplit_withPort (plain : ∀ b ∈ host, b ≠ colon ∧ b ≠ slash) (noSlash : slash ∉ port) :
    canSplit errno (host ++ colon :: (port ++ slash :: path)) = true ↔
      host.length < hostnameLen ∧ port.length < urlPortStrSize ∧ (host ≠ [] ∨ positiveLong errno port = none) := by
  have until' : (port ++ slash :: path).takeWhile (fun b => decide (b ≠ slash)) = port := by
    rw [List.takeWhile_append_of_pos, List.takeWhile_cons_of_neg (by simp), List.append_nil]
    exact fun b member => decide_eq_true fun same => noSlash (same ▸ member)
  simp only [canSplit, takeWhile_plain plain (.inl rfl), List.drop_left, if_true, until', Bool.and_eq_true, Bool.or_eq_true,
    decide_eq_true_eq]

theorem canSplit_slash (plain : ∀ b ∈ host, b ≠ colon ∧ b ≠ slash) :
    canSplit errno (host ++ slash :: path) = true ↔ host.length < hostnameLen ∧ host ≠ [] ∧ colon ∉ path := by
  have other : slash ≠ colon := by decide
  simp only [canSplit, takeWhile_plain plain (.inr rfl), List.drop_left, if_neg other, Bool.and_eq_true, decide_eq_true_eq]

end Shapes

/-! ## The parser on each shape -/

section Safe

variable {errno : Int} {args : Arguments} {scheme : Nat} {host port path : List Byte}

theorem not_safe_nothing (behind : args.url.bytes.drop (scheme + 3) = []) : ¬ (readAuthority errno args scheme).Safe := by
  rw [readAuthority_nothing behind]
  rintro ⟨bounds | refused, -⟩
  · exact bounds.pointers none (by simp) rfl
  · obtain ⟨-, -, ret, args, none, -⟩ := refused
    cases none

/-- A colon in the path hides the end of the host. -/
theorem not_safe_colonInPath (behind : args.url.bytes.drop (scheme + 3) = host ++ slash :: path)
    (plain : ∀ b ∈ host, b ≠ colon ∧ b ≠ slash) (later : colon ∈ path) (empty : args.targetHost.bytes = []) :
    ¬ (readAuthority errno args scheme).Safe := by
  rw [readAuthority_colonInPath behind plain later]
  exact fun safe => safe.2 args rfl empty

theorem safe_bare_iff (behind : args.url.bytes.drop (scheme + 3) = host ++ slash :: path)
    (plain : ∀ b ∈ host, b ≠ colon ∧ b ≠ slash) (noColon : colon ∉ path) (empty : args.targetHost.bytes = []) :
    (readAuthority errno args scheme).Safe ↔ host.length < hostnameLen ∧ host ≠ [] := by
  have size : hostnameLen = 128 := rfl
  rw [readAuthority_bare behind plain noColon]
  constructor
  · intro safe
    have bound := ((safe.inBounds rfl).host _ rfl).2
    have short : host.length < hostnameLen := by omega
    obtain ⟨name, same, copied⟩ := copyHost_of_lt empty short behind
    refine ⟨short, ?_⟩
    have filled := safe.2 { args with targetHost := name } (by simp only [copied, Option.map_some])
    rwa [same] at filled
  · rintro ⟨short, nonempty⟩
    obtain ⟨name, same, copied⟩ := copyHost_of_lt empty short behind
    refine ⟨.inl ⟨?_, ?_, nofun⟩, ?_⟩
    · simp
    · rintro _ ⟨⟩
      omega
    · intro left returned
      simp only [copied, Option.map_some, Option.some.injEq, Prod.mk.injEq, true_and] at returned
      rw [← returned, same]
      exact nonempty

theorem safe_withPort_iff (behind : args.url.bytes.drop (scheme + 3) = host ++ colon :: (port ++ slash :: path))
    (plain : ∀ b ∈ host, b ≠ colon ∧ b ≠ slash) (noSlash : slash ∉ port) (empty : args.targetHost.bytes = []) :
    (readAuthority errno args scheme).Safe ↔
      host.length < hostnameLen ∧ port.length < urlPortStrSize ∧ (host ≠ [] ∨ positiveLong errno port = none) := by
  have size : hostnameLen = 128 := rfl
  have portSize : urlPortStrSize = 10 := rfl
  have limit : maxUrlLen = 1024 := rfl
  have fits := args.url.fits
  have length := congrArg List.length behind
  simp only [List.length_drop, List.length_append, List.length_cons] at length
  rw [readAuthority_withPort behind plain noSlash]
  rcases Nat.lt_or_ge host.length hostnameLen with short | long
  · obtain ⟨name, same, copied⟩ := copyHost_of_lt empty short behind
    rw [copied]
    have pointers : ∀ p ∈ [some scheme, some (scheme + 3 + host.length), some (scheme + 3 + (host.length + 1 + port.length))],
        p ≠ none := by simp
    rcases Nat.lt_or_ge port.length urlPortStrSize with fitting | overflow
    · have read := readPort_of_lt errno { args with targetHost := name } fitting (drop_past behind)
      have bounds : (⟨[some scheme, some (scheme + 3 + host.length), some (scheme + 3 + (host.length + 1 + port.length))],
          some host.length, some port.length,
          readPort errno { args with targetHost := name } (scheme + 3 + host.length) port.length⟩ : UrlRun).InBounds := by
        refine ⟨pointers, ?_, ?_⟩
        · rintro _ ⟨⟩
          omega
        · rintro _ ⟨⟩
          omega
      rw [UrlRun.safe_iff_named bounds]
      simp only [UrlRun.Named, read, short, fitting, true_and]
      cases accepted : positiveLong errno port with
      | none => simp
      | some t => simp [same]
    · refine iff_of_false ?_ fun cond => absurd cond.2.1 (Nat.not_lt.mpr overflow)
      intro safe
      have bound := ((safe.inBounds rfl).port _ rfl).2
      omega
  · rw [copyHost_of_le long (by omega)]
    refine iff_of_false ?_ fun cond => absurd cond.1 (Nat.not_lt.mpr long)
    intro safe
    have bound := ((safe.inBounds rfl).host _ rfl).2
    omega

end Safe

/-! ## Every url that passes the checks -/

theorem behindScheme_eq {https : Bool} {name rest : List Byte} (scheme : IsScheme https name) :
    behindScheme (name ++ text "://" ++ rest) = rest := by
  rw [behindScheme, scheme.isHttps_eq]
  apply List.drop_left'
  rw [List.length_append, scheme.length]
  cases https <;> rfl

/-- A stored url that ends with a slash is a scheme and one of the shapes. -/
theorem exists_authority {url : CText} (short : url.bytes.length < maxUrlLen) (supported : isSupportedUrl url.bytes)
    (ends : (storeUrl url).bytes.getLast? = some slash) : ∃ https name rest, IsScheme https name ∧
      (storeUrl url).bytes = name ++ text "://" ++ rest ∧ Authority rest := by
  obtain ⟨https, name, rest, scheme, whole⟩ := isSupportedUrl_iff.mp supported
  have stored : ∃ rest, (storeUrl url).bytes = name ++ text "://" ++ rest := by
    rw [storeUrl_bytes short, whole]
    split
    · exact ⟨rest, rfl⟩
    · exact ⟨rest ++ [slash], List.append_assoc _ _ _⟩
  obtain ⟨rest, stored⟩ := stored
  refine ⟨https, name, rest, scheme, stored, authority_of_ends fun b last => ?_⟩
  rw [stored, List.getLast?_append, Option.mem_def.mp last, Option.some_or] at ends
  exact Option.some.inj ends

/-- **When the url parser is safe.** For every url that passes the checks of
`set_arguments_values`, whatever options came before it: the parser keeps to its
buffers and gives a host to what it accepts if and only if there was no room for
the slash, or what follows the scheme can be split. -/
theorem setArgumentsFromUrl_safe_iff (errno : Int) (opts : List Opt) (errno' : Int) (args : Arguments)
    (options : handleOptions errno createDefaultArguments opts = .returned (errno', args)) (url : CText)
    (short : url.bytes.length < maxUrlLen) (supported : isSupportedUrl url.bytes) :
    (setArgumentsFromUrl errno' { args with url := storeUrl url }).Safe ↔
      (storeUrl url).bytes.getLast? ≠ some slash ∨ canSplit errno' (behindScheme (storeUrl url).bytes) := by
  have empty : (setProtocol { args with url := storeUrl url }).targetHost.bytes = [] := by
    rw [setProtocol_targetHost, (handleOptions_target options).1]
    rfl
  by_cases ends : (storeUrl url).bytes.getLast? = some slash
  · obtain ⟨https, name, rest, scheme, whole, shape⟩ := exists_authority short supported ends
    have behind := setProtocol_behind { args with url := storeUrl url } whole
    rw [setArgumentsFromUrl_eq scheme whole ends, whole, behindScheme_eq scheme, ← whole, or_iff_right (not_not.mpr ends)]
    cases shape with
    | nothing => exact iff_of_false (not_safe_nothing behind) (by simp [canSplit])
    | withPort host port path plain noSlash =>
      rw [safe_withPort_iff behind plain noSlash empty, canSplit_withPort plain noSlash]
    | bare host path plain noColon =>
      rw [safe_bare_iff behind plain noColon empty, canSplit_slash plain]
      exact ⟨fun both => ⟨both.1, both.2, noColon⟩, fun all => ⟨all.1, all.2.1⟩⟩
    | colonInPath host path plain later =>
      rw [canSplit_slash plain]
      exact iff_of_false (not_safe_colonInPath behind plain later empty) fun all => all.2.2 later
  · rw [setArgumentsFromUrl_refused ends]
    refine iff_of_true ⟨.inr ⟨rfl, rfl, -1, _, rfl, by decide⟩, fun args zero => ?_⟩ (.inl ends)
    exact absurd (Prod.mk.inj (Option.some.inj zero)).1 (by decide)

/-- A url with a port. -/
def plainUrl : CText := .literal "http://a:80/b"

theorem setArgumentsFromUrl_safe_one :
    (setArgumentsFromUrl 0 { createDefaultArguments with url := storeUrl plainUrl }).Safe :=
  (setArgumentsFromUrl_safe_iff 0 [] 0 createDefaultArguments rfl plainUrl (by decide +kernel)
    (by decide +kernel)).mpr (by decide +kernel)

/-- The scheme alone. -/
def schemeUrl : CText := .literal "http://"

/-- `http://` passes the checks, and the pointer subtracted behind it is null. -/
theorem null_subtracted : schemeUrl.bytes.length < maxUrlLen ∧ isSupportedUrl schemeUrl.bytes = true ∧
    (setArgumentsFromUrl 0 { createDefaultArguments with url := storeUrl schemeUrl }).subtracted = [some 4, none] ∧
    ¬ (setArgumentsFromUrl 0 { createDefaultArguments with url := storeUrl schemeUrl }).Safe := by
  have run : setArgumentsFromUrl 0 { createDefaultArguments with url := storeUrl schemeUrl } =
      ⟨[some 4, none], none, none, none⟩ := by decide +kernel
  refine ⟨by decide +kernel, by decide +kernel, by rw [run], ?_⟩
  rw [run]
  rintro ⟨bounds | refused, -⟩
  · exact bounds.pointers none (by simp) rfl
  · obtain ⟨-, -, ret, args, none, -⟩ := refused
    cases none

end WebBench
