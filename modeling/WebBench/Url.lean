import WebBench.Options

/-!
# The url of `arguments.c`

`set_arguments_values` checks and stores the url, and `set_arguments_from_url`
splits it at the first colon and the first slash behind the scheme. What it
subtracts and copies is recorded with its result.
-/

namespace WebBench
set_option autoImplicit false
open CLib

theorem maxUrlLen_pos : 0 < maxUrlLen := by decide

/-- `is_https`. -/
def isHttps (url : List Byte) : Bool := decide (strncasecmpEq (text "https://") url 8)

/-- `is_supported_url`. -/
def isSupportedUrl (url : List Byte) : Bool :=
  decide (strncasecmpEq (text "http://") url 7) || decide (strncasecmpEq (text "https://") url 8)

/-- `sizeof(port_str)` of `set_arguments_from_url`. -/
def urlPortStrSize : Nat := 10

theorem urlPortStrSize_pos : 0 < urlPortStrSize := by decide

/-- The pointers a run of `set_arguments_from_url` subtracts, the lengths it gives
to the two copies, and what it returns with the arguments it leaves; nothing
when its behaviour is undefined. -/
structure UrlRun where
  subtracted : List (Option Nat)
  hostLength : Option Int
  portLength : Option Int
  outcome : Option (Int × Arguments)
  deriving DecidableEq

/-- The copy into `target_host`. -/
def copyHost (args : Arguments) (start : Nat) (length : Int) : Option Arguments :=
  (args.targetHost.strncpy (args.url.behind start) (sizeOfInt length)).map fun host => { args with targetHost := host }

/-- The copy into `port_str`, and the port it gives. -/
def readPort (errno : Int) (args : Arguments) (comma : Nat) (length : Int) : Option (Int × Arguments) :=
  ((CString.empty urlPortStrSize urlPortStrSize_pos).strncpy (args.url.behind (comma + 1)) (sizeOfInt length)).map
    fun portStr =>
      match positiveLong errno portStr.bytes with
      | none => (-1, args)
      | some t => (0, { args with targetPort := int32 t })

/-- `set_arguments_from_url` behind the scheme, whose `://` stands at `scheme`. -/
def readAuthority (errno : Int) (args : Arguments) (scheme : Nat) : UrlRun :=
  let start := scheme + 3
  let firstComma := (strchr (args.url.bytes.drop start) colon).map (start + ·)
  let firstSplash := (strchr (args.url.bytes.drop start) slash).map (start + ·)
  match firstComma, firstSplash with
  | some comma, some splash =>
    if comma < splash then
      let hostLength : Int := comma - start
      let portLength : Int := splash - comma - 1
      match copyHost args start hostLength with
      | none => ⟨[some scheme, some comma], some hostLength, none, none⟩
      | some args =>
        ⟨[some scheme, some comma, some splash], some hostLength, some portLength, readPort errno args comma portLength⟩
    else ⟨[some scheme], none, none, some (0, args)⟩
  | some _, none => ⟨[some scheme], none, none, some (0, args)⟩
  | none, some splash =>
    let hostLength : Int := splash - start
    ⟨[some scheme, some splash], some hostLength, none, (copyHost args start hostLength).map fun args => (0, args)⟩
  | none, none => ⟨[some scheme, none], none, none, none⟩

/-- The protocol of a url with `https`, and its port. -/
def setProtocol (args : Arguments) : Arguments :=
  if isHttps args.url.bytes then { args with protocol := protocolHttps, targetPort := 443 } else args

/-- `set_arguments_from_url`. -/
def setArgumentsFromUrl (errno : Int) (args : Arguments) : UrlRun :=
  if args.url.bytes.length = 0 then ⟨[], none, none, some (-1, args)⟩
  else if args.url.bytes.getLast? ≠ some slash then ⟨[], none, none, some (-1, args)⟩
  else
    let args := setProtocol args
    match strstrAt args.url.bytes (text "://") with
    | none => ⟨[none], none, none, none⟩
    | some scheme => readAuthority errno args scheme

/-- `validate_arguments`. -/
def validateArguments (args : Arguments) : Bool :=
  args.method == 0 || args.method == 1 || args.method == 2 || args.method == 3

/-- The url as `set_arguments_values` stores it, with a slash at its end where there is room for one. -/
def storeUrl (url : CText) : CString maxUrlLen :=
  let stored := CString.print maxUrlLen_pos url.bytes
  if url.bytes.getLast? ≠ some slash then stored.strncat [slash] else stored

/-- `set_arguments_values`, given `errno` on entry, the options and the url that `getopt_long` finds. -/
def setArgumentsValues (errno : Int) (opts : List Opt) (url : Option CText) (args : Arguments) : Ending Arguments :=
  match handleOptions errno args opts with
  | .exited success => .exited success
  | .undefined => .undefined
  | .returned (errno, args) =>
    match url with
    | none => .exited false
    | some url =>
      if maxUrlLen ≤ url.bytes.length then .exited false
      else if ¬ isSupportedUrl url.bytes then .exited false
      else
        match (setArgumentsFromUrl errno { args with url := storeUrl url }).outcome with
        | none => .undefined
        | some (ret, args) =>
          if ret < 0 then .exited false
          else if validateArguments args = false then .exited false
          else .returned args

/-! ## Host, port and path -/

/-- What can stand behind the scheme of a url that ends with a slash, by the
first colon and the first slash. -/
inductive Authority : List Byte → Prop
  | nothing : Authority []
  | withPort (host port path : List Byte) (plain : ∀ b ∈ host, b ≠ colon ∧ b ≠ slash) (noSlash : slash ∉ port) :
      Authority (host ++ colon :: (port ++ slash :: path))
  | bare (host path : List Byte) (plain : ∀ b ∈ host, b ≠ colon ∧ b ≠ slash) (noColon : colon ∉ path) :
      Authority (host ++ slash :: path)
  | colonInPath (host path : List Byte) (plain : ∀ b ∈ host, b ≠ colon ∧ b ≠ slash) (later : colon ∈ path) :
      Authority (host ++ slash :: path)

/-- A text that is empty or ends in a slash has one of the four forms. -/
theorem authority_of_ends {rest : List Byte} (ends : ∀ b ∈ rest.getLast?, b = slash) : Authority rest := by
  cases rest using List.reverseRecOn with
  | nil => exact .nothing
  | append_singleton front last =>
    obtain rfl := ends last (by simp)
    obtain ⟨before, path, whole, first⟩ := List.eq_append_cons_of_mem (List.mem_append_right front (List.mem_singleton_self slash))
    rw [whole]
    by_cases marked : colon ∈ before
    · obtain ⟨host, port, rfl, firstColon⟩ := List.eq_append_cons_of_mem marked
      rw [List.append_assoc, List.cons_append]
      refine .withPort host port path (fun b member => ⟨?_, ?_⟩) fun member => first (by simp [member])
      · exact fun same => firstColon (same ▸ member)
      · exact fun same => first (same ▸ List.mem_append_left _ member)
    · have plain : ∀ b ∈ before, b ≠ colon ∧ b ≠ slash := fun b member =>
        ⟨fun same => marked (same ▸ member), fun same => first (same ▸ member)⟩
      by_cases later : colon ∈ path
      · exact .colonInPath before path plain later
      · exact .bare before path plain later

section Reading

variable {errno : Int} {args : Arguments} {scheme : Nat} {host port path : List Byte}

/-- A host of 128 bytes or more leaves no terminator in `target_host`: the model has no result for
it. -/
theorem copyHost_of_le {start : Nat} (long : hostnameLen ≤ host.length) (few : host.length ≤ maxUrlLen) :
    copyHost args start host.length = none := by
  have size : maxUrlLen = 1024 := rfl
  rw [copyHost, sizeOfInt_natCast (by omega), CString.strncpy_of_le long]
  rfl

/-- A shorter host is copied whole. -/
theorem copyHost_of_lt {start : Nat} {more : List Byte} (empty : args.targetHost.bytes = [])
    (short : host.length < hostnameLen) (behind : args.url.bytes.drop start = host ++ more) :
    ∃ name : CString hostnameLen, name.bytes = host ∧
      copyHost args start host.length = some { args with targetHost := name } := by
  have size : hostnameLen = 128 := rfl
  have source : (args.url.behind start).bytes = host ++ more := behind
  obtain ⟨name, copied, same⟩ := CString.strncpy_of_lt (args.url.behind start) empty short
    (by rw [source, List.length_append]; omega)
  refine ⟨name, ?_, ?_⟩
  · rw [same, source, List.take_left]
  · rw [copyHost, sizeOfInt_natCast (by omega), copied]
    rfl

/-- Nothing behind `://`: the pointer to the slash is NULL, and it is subtracted from. -/
theorem readAuthority_nothing (behind : args.url.bytes.drop (scheme + 3) = []) :
    readAuthority errno args scheme = ⟨[some scheme, none], none, none, none⟩ := by
  unfold readAuthority
  simp [behind, strchr]

/-- A colon in the path only: neither branch is taken, and the host stays empty. -/
theorem readAuthority_colonInPath (behind : args.url.bytes.drop (scheme + 3) = host ++ slash :: path)
    (plain : ∀ b ∈ host, b ≠ colon ∧ b ≠ slash) (later : colon ∈ path) :
    readAuthority errno args scheme = ⟨[some scheme], none, none, some (0, args)⟩ := by
  obtain ⟨before, after, rfl, first⟩ := List.eq_append_cons_of_mem later
  have splash : strchr (host ++ slash :: (before ++ colon :: after)) slash = some host.length :=
    strchr_append fun member => (plain _ member).2 rfl
  have comma : strchr (host ++ slash :: (before ++ colon :: after)) colon = some (host ++ slash :: before).length := by
    rw [← List.cons_append, ← List.append_assoc]
    refine strchr_append fun member => ?_
    rcases List.mem_append.mp member with inHost | inRest
    · exact (plain _ inHost).1 rfl
    · rcases List.mem_cons.mp inRest with same | inPath
      · exact absurd same (by decide)
      · exact first inPath
  simp only [readAuthority, behind, splash, comma, Option.map_some, List.length_append, List.length_cons]
  rw [if_neg (by omega)]

/-- No colon at all: the host is what stands before the slash. -/
theorem readAuthority_bare (behind : args.url.bytes.drop (scheme + 3) = host ++ slash :: path)
    (plain : ∀ b ∈ host, b ≠ colon ∧ b ≠ slash) (noColon : colon ∉ path) :
    readAuthority errno args scheme =
      ⟨[some scheme, some (scheme + 3 + host.length)], some host.length, none,
        (copyHost args (scheme + 3) host.length).map fun args => (0, args)⟩ := by
  have splash : strchr (host ++ slash :: path) slash = some host.length :=
    strchr_append fun member => (plain _ member).2 rfl
  have comma : strchr (host ++ slash :: path) colon = none := by
    rw [strchr_eq_none]
    intro member
    rcases List.mem_append.mp member with inHost | inRest
    · exact (plain _ inHost).1 rfl
    · rcases List.mem_cons.mp inRest with same | inPath
      · exact absurd same (by decide)
      · exact noColon inPath
  have length : ((scheme + 3 + host.length : Nat) : Int) - ((scheme + 3 : Nat) : Int) = host.length := by omega
  simp only [readAuthority, behind, splash, comma, Option.map_some, Option.map_none, length]

/-- A colon before the first slash: the host stands before it and the port behind it. -/
theorem readAuthority_withPort (behind : args.url.bytes.drop (scheme + 3) = host ++ colon :: (port ++ slash :: path))
    (plain : ∀ b ∈ host, b ≠ colon ∧ b ≠ slash) (noSlash : slash ∉ port) :
    readAuthority errno args scheme =
      match copyHost args (scheme + 3) host.length with
      | none => ⟨[some scheme, some (scheme + 3 + host.length)], some host.length, none, none⟩
      | some args =>
        ⟨[some scheme, some (scheme + 3 + host.length), some (scheme + 3 + (host.length + 1 + port.length))],
          some host.length, some port.length, readPort errno args (scheme + 3 + host.length) port.length⟩ := by
  have comma : strchr (host ++ colon :: (port ++ slash :: path)) colon = some host.length :=
    strchr_append fun member => (plain _ member).1 rfl
  have splash : strchr (host ++ colon :: (port ++ slash :: path)) slash = some (host.length + 1 + port.length) := by
    have regrouped : host ++ colon :: (port ++ slash :: path) = (host ++ colon :: port) ++ slash :: path := by simp
    rw [regrouped, strchr_append]
    · rw [List.length_append, List.length_cons]
      congr 1
      omega
    · intro member
      rcases List.mem_append.mp member with inHost | inRest
      · exact (plain _ inHost).2 rfl
      · rcases List.mem_cons.mp inRest with same | inPort
        · exact absurd same (by decide)
        · exact noSlash inPort
  have hostLength : ((scheme + 3 + host.length : Nat) : Int) - ((scheme + 3 : Nat) : Int) = host.length := by omega
  have portLength : ((scheme + 3 + (host.length + 1 + port.length) : Nat) : Int) -
      ((scheme + 3 + host.length : Nat) : Int) - 1 = port.length := by omega
  simp only [readAuthority, behind, splash, comma, Option.map_some, hostLength, portLength]
  rw [if_pos (by omega)]

/-- A port text that fits `port_str` is read by `positive_long`. -/
theorem readPort_of_lt (errno : Int) (args : Arguments) {comma : Nat} {more : List Byte} (short : port.length < urlPortStrSize)
    (behind : args.url.bytes.drop (comma + 1) = port ++ more) :
    readPort errno args comma port.length =
      some (match positiveLong errno port with
        | none => (-1, args)
        | some t => (0, { args with targetPort := int32 t })) := by
  have size : urlPortStrSize = 10 := rfl
  have source : (args.url.behind (comma + 1)).bytes = port ++ more := behind
  obtain ⟨portStr, copied, same⟩ := CString.strncpy_of_lt (s := .empty urlPortStrSize urlPortStrSize_pos)
    (args.url.behind (comma + 1)) rfl short (by rw [source, List.length_append]; omega)
  rw [readPort, sizeOfInt_natCast (by omega), copied, Option.map_some, same, source, List.take_left]

end Reading

/-! ## The scheme -/

/-- The name of a scheme in any letter case: `https`, or else `http`. -/
def IsScheme (https : Bool) (name : List Byte) : Prop := name.map tolower = if https then text "https" else text "http"

instance (https : Bool) (name : List Byte) : Decidable (IsScheme https name) := decEq _ _

/-- `tolower` makes neither a colon nor a slash of another byte. -/
theorem tolower_eq_iff {b c : Byte} (mark : c = 58 ∨ c = 47) : tolower b = c ↔ b = c := by
  rcases mark with rfl | rfl <;> revert b <;> decide

/-- Lower case changes neither colons nor slashes. -/
theorem map_tolower_eq_mark {s : List Byte} : s.map tolower = text "://" ↔ s = text "://" := by
  constructor
  · intro same
    have length := congrArg List.length same
    rw [List.length_map] at length
    obtain ⟨a, b, c, rfl⟩ := List.length_eq_three.mp length
    have cells : tolower a = 58 ∧ tolower b = 47 ∧ tolower c = 47 := by simpa [text] using same
    rw [tolower_eq_iff (.inl rfl), tolower_eq_iff (.inr rfl), tolower_eq_iff (.inr rfl)] at cells
    obtain ⟨rfl, rfl, rfl⟩ := cells
    rfl
  · rintro rfl
    decide

namespace IsScheme

variable {https : Bool} {name rest : List Byte}

/-- The scheme has as many letters as its name, in either case. -/
theorem length (scheme : IsScheme https name) : name.length = if https then 5 else 4 := by
  have same := congrArg List.length scheme
  rw [List.length_map] at same
  rw [same]
  cases https <;> rfl

/-- No byte of the name is a colon. -/
theorem noColon (scheme : IsScheme https name) : colon ∉ name := by
  intro member
  have lower := List.mem_map_of_mem (f := tolower) member
  rw [scheme] at lower
  revert lower
  cases https <;> decide

/-- `strstr` finds `://` right behind the scheme. -/
theorem strstrAt_eq (scheme : IsScheme https name) :
    strstrAt (name ++ text "://" ++ rest) (text "://") = some name.length := by
  apply strstrAt_append
  rintro i less ⟨after, same⟩
  -- the needle begins with a colon
  rw [List.append_assoc, List.drop_append_of_le_length (by omega), List.drop_eq_getElem_cons less] at same
  have head : colon = name[i] := (List.cons.inj same).1
  exact scheme.noColon (head ▸ List.getElem_mem less)

theorem lower_eq (scheme : IsScheme https name) :
    (name ++ text "://").map tolower = if https then text "https://" else text "http://" := by
  rw [List.map_append, scheme]
  cases https <;> decide

/-- `is_https` tells the two schemes apart, in either case. -/
theorem isHttps_eq (scheme : IsScheme https name) : isHttps (name ++ text "://" ++ rest) = https := by
  unfold isHttps
  have word := strncasecmpEq_iff (text "https://") (name ++ text "://" ++ rest) (by decide)
  have whole := scheme.lower_eq
  cases https with
  | true => exact decide_eq_true (word.mpr ⟨name ++ text "://", rest, rfl, whole⟩)
  | false =>
    refine decide_eq_false fun match' => ?_
    obtain ⟨front, rest', same, lower⟩ := word.mp match'
    have both : (name ++ text "://").map tolower ++ rest.map tolower = front.map tolower ++ rest'.map tolower := by
      rw [← List.map_append, ← List.map_append, same]
    rw [lower, whole] at both
    -- the fifth byte is a colon on one side and an `s` on the other
    exact absurd (congrArg (fun s => s[4]?) both) (by simp [text])

end IsScheme

/-- The urls that pass the check are those of the two schemes. -/
theorem isSupportedUrl_iff {url : List Byte} :
    isSupportedUrl url ↔ ∃ https name rest, IsScheme https name ∧ url = name ++ text "://" ++ rest := by
  have http := strncasecmpEq_iff (text "http://") url (by decide)
  have secure := strncasecmpEq_iff (text "https://") url (by decide)
  have parts : ∀ (https : Bool) (front : List Byte),
      front.map tolower = (if https then text "https" else text "http") ++ text "://" →
      ∃ name, IsScheme https name ∧ front = name ++ text "://" := by
    intro https front lower
    obtain ⟨name, marks, rfl, named, marked⟩ := List.map_eq_append_iff.mp lower
    exact ⟨name, named, by rw [map_tolower_eq_mark.mp marked]⟩
  simp only [isSupportedUrl, Bool.or_eq_true, decide_eq_true_eq]
  constructor
  · rintro (plain | tls)
    · obtain ⟨front, rest, rfl, lower⟩ := http.mp plain
      obtain ⟨name, scheme, rfl⟩ := parts false front lower
      exact ⟨false, name, rest, scheme, rfl⟩
    · obtain ⟨front, rest, rfl, lower⟩ := secure.mp tls
      obtain ⟨name, scheme, rfl⟩ := parts true front lower
      exact ⟨true, name, rest, scheme, rfl⟩
  · rintro ⟨https, name, rest, scheme, rfl⟩
    have lower := scheme.lower_eq
    cases https with
    | false => exact .inl (http.mpr ⟨_, rest, rfl, lower⟩)
    | true => exact .inr (secure.mpr ⟨_, rest, rfl, lower⟩)

/-! ## The stored url -/

/-- The stored URL ends in a slash, unless the one added would not fit. -/
theorem storeUrl_bytes {url : CText} (short : url.bytes.length < maxUrlLen) :
    (storeUrl url).bytes =
      if url.bytes.getLast? = some slash ∨ url.bytes.length + 1 = maxUrlLen then url.bytes else url.bytes ++ [slash] := by
  have stored : (CString.print maxUrlLen_pos url.bytes).bytes = url.bytes := CString.print_of_fits url.noNul short
  unfold storeUrl
  dsimp only
  by_cases slashed : url.bytes.getLast? = some slash
  · rw [if_neg (not_not.mpr slashed), if_pos (.inl slashed), stored]
  · rw [if_pos slashed]
    by_cases full : url.bytes.length + 1 = maxUrlLen
    · rw [if_pos (.inr full)]
      show (CString.print maxUrlLen_pos url.bytes).bytes ++ (cstr [slash]).take (maxUrlLen - _ - 1) = _
      rw [stored, show maxUrlLen - url.bytes.length - 1 = 0 by omega, List.take_zero, List.append_nil]
    · rw [if_neg (not_or.mpr ⟨slashed, full⟩), CString.strncat_of_fits (by decide), stored]
      rw [stored, List.length_singleton]
      omega

section Protocol

variable (args : Arguments)

@[simp] theorem setProtocol_url : (setProtocol args).url = args.url := by
  unfold setProtocol
  split <;> rfl

@[simp] theorem setProtocol_targetHost : (setProtocol args).targetHost = args.targetHost := by
  unfold setProtocol
  split <;> rfl

@[simp] theorem setProtocol_proxyHost : (setProtocol args).proxyHost = args.proxyHost := by
  unfold setProtocol
  split <;> rfl

end Protocol

section Scheme

variable {errno : Int} {args : Arguments} {https : Bool} {name rest : List Byte}

/-- `set_arguments_from_url` goes on behind the scheme of a url that ends with a slash. -/
theorem setArgumentsFromUrl_eq (scheme : IsScheme https name) (whole : args.url.bytes = name ++ text "://" ++ rest)
    (ends : args.url.bytes.getLast? = some slash) :
    setArgumentsFromUrl errno args = readAuthority errno (setProtocol args) name.length := by
  have nonempty : args.url.bytes.length ≠ 0 := by
    intro zero
    rw [List.length_eq_zero_iff.mp zero] at ends
    cases ends
  have found : strstrAt args.url.bytes (text "://") = some name.length := by rw [whole, scheme.strstrAt_eq]
  simp only [setArgumentsFromUrl, if_neg nonempty, if_neg (not_not.mpr ends), setProtocol_url, found]

/-- The protocol does not change what stands behind `://`. -/
theorem setProtocol_behind (args : Arguments) (whole : args.url.bytes = name ++ text "://" ++ rest) :
    (setProtocol args).url.bytes.drop (name.length + 3) = rest := by
  rw [setProtocol_url, whole]
  exact List.drop_left' (by simp [text])

/-- An https URL sets the protocol and port 443; an http one leaves the defaults. -/
theorem setProtocol_eq (args : Arguments) (scheme : IsScheme https name) (whole : args.url.bytes = name ++ text "://" ++ rest) :
    setProtocol args = if https then { args with protocol := protocolHttps, targetPort := 443 } else args := by
  rw [setProtocol, whole, scheme.isHttps_eq]

/-- A url without a slash at its end is refused at once. -/
theorem setArgumentsFromUrl_refused (ends : args.url.bytes.getLast? ≠ some slash) :
    setArgumentsFromUrl errno args = ⟨[], none, none, some (-1, args)⟩ := by
  rw [setArgumentsFromUrl, if_pos ends, ite_self]

end Scheme

/-! ## Accepting a url -/

section Accept

variable {errno errno' : Int} {opts : List Opt} {args args' : Arguments} {url : CText}

/-- With options that are handled and a supported URL, what is left is `set_arguments_from_url` and
`validate_arguments`. -/
theorem setArgumentsValues_eq (options : handleOptions errno args opts = .returned (errno', args'))
    (short : url.bytes.length < maxUrlLen) (supported : isSupportedUrl url.bytes) :
    setArgumentsValues errno opts (some url) args =
      match (setArgumentsFromUrl errno' { args' with url := storeUrl url }).outcome with
      | none => .undefined
      | some (ret, args) =>
        if ret < 0 then .exited false else if validateArguments args = false then .exited false else .returned args := by
  unfold setArgumentsValues
  rw [options]
  dsimp only
  rw [if_neg (Nat.not_le.mpr short), if_neg (not_not.mpr supported)]

/-- Where `set_arguments_from_url` gives 0, its arguments are the ones `set_arguments_values`
leaves. -/
theorem setArgumentsValues_of_zero (result : Arguments)
    (options : handleOptions errno args opts = .returned (errno', args')) (short : url.bytes.length < maxUrlLen)
    (supported : isSupportedUrl url.bytes)
    (zero : (setArgumentsFromUrl errno' { args' with url := storeUrl url }).outcome = some (0, result))
    (valid : validateArguments result) : setArgumentsValues errno opts (some url) args = .returned result := by
  rw [setArgumentsValues_eq options short supported, zero]
  dsimp only
  rw [if_neg (by decide), if_neg (by rw [valid]; decide)]

/-- Only the methods that can be given are ever set. -/
theorem handleOptions_valid (start : validateArguments args)
    (options : handleOptions errno args opts = .returned (errno', args')) : validateArguments args' := by
  refine handleOptions_invariant (motive := fun args => validateArguments args) start ?_ options
  intro opt _ called update effect args valid
  cases update with
  | method m =>
    have about := Opt.setting_of_effect effect
    cases opt with
    | get | head | options | trace =>
      cases effect
      rfl
    | _ => cases about
  | _ => exact valid

/-- The stored url when what is before the path does not end with a slash. -/
theorem storeUrl_path {front path : List Byte} (whole : url.bytes = front ++ path) (fits : url.bytes.length + 1 < maxUrlLen)
    (unslashed : front.getLast? ≠ some slash) (begins : path = [] ∨ path.head? = some slash) :
    (storeUrl url).bytes.getLast? = some slash ∧
      ∃ tail, (storeUrl url).bytes = front ++ slash :: tail ∧ (colon ∈ tail ↔ colon ∈ path) := by
  have other : colon ≠ slash := by decide
  have room : ¬ url.bytes.length + 1 = maxUrlLen := by omega
  rw [storeUrl_bytes (by omega)]
  rcases begins with rfl | begins
  · rw [List.append_nil] at whole
    rw [if_neg (not_or.mpr ⟨whole ▸ unslashed, room⟩), whole]
    exact ⟨List.getLast?_concat, [], rfl, Iff.rfl⟩
  · obtain ⟨tail, rfl⟩ := List.head?_eq_some_iff.mp begins
    by_cases slashed : url.bytes.getLast? = some slash
    · rw [if_pos (.inl slashed)]
      exact ⟨slashed, tail, whole, by simp [other]⟩
    · rw [if_neg (not_or.mpr ⟨slashed, room⟩)]
      exact ⟨List.getLast?_concat, tail ++ [slash], by simp [whole], by simp [other]⟩

end Accept

/-! ## What is set -/

/-- Nothing but the target differs: its host, its port and the protocol. -/
def TargetOnly (args result : Arguments) : Prop :=
  ∃ host port protocol, result = { args with targetHost := host, targetPort := port, protocol := protocol }

namespace TargetOnly

variable {errno ret : Int} {args middle result : Arguments}

theorem refl (args : Arguments) : TargetOnly args args := ⟨args.targetHost, args.targetPort, args.protocol, rfl⟩

theorem trans (first : TargetOnly args middle) (second : TargetOnly middle result) : TargetOnly args result := by
  obtain ⟨_, _, _, rfl⟩ := first
  obtain ⟨host, port, protocol, rfl⟩ := second
  exact ⟨host, port, protocol, rfl⟩

theorem of_copyHost {start : Nat} {length : Int} (copied : copyHost args start length = some result) :
    TargetOnly args result := by
  obtain ⟨host, -, rfl⟩ := Option.map_eq_some_iff.mp copied
  exact ⟨host, args.targetPort, args.protocol, rfl⟩

theorem of_readPort {comma : Nat} {length : Int} (read : readPort errno args comma length = some (ret, result)) :
    TargetOnly args result := by
  obtain ⟨portStr, -, same⟩ := Option.map_eq_some_iff.mp read
  split at same
  · cases same
    exact refl args
  · cases same
    exact ⟨args.targetHost, _, args.protocol, rfl⟩

theorem of_readAuthority {scheme : Nat} (returned : (readAuthority errno args scheme).outcome = some (ret, result)) :
    TargetOnly args result := by
  unfold readAuthority at returned
  dsimp only at returned
  split at returned
  · split at returned
    · split at returned
      · cases returned
      · rename_i copied
        exact (of_copyHost copied).trans (of_readPort returned)
    · cases returned
      exact refl args
  · cases returned
    exact refl args
  · obtain ⟨left, copied, same⟩ := Option.map_eq_some_iff.mp returned
    cases same
    exact of_copyHost copied
  · cases returned

theorem of_setProtocol (args : Arguments) : TargetOnly args (setProtocol args) := by
  unfold setProtocol
  split
  · exact ⟨args.targetHost, 443, protocolHttps, rfl⟩
  · exact refl args

/-- `set_arguments_from_url` writes nothing else, and not even that unless the url ends with a slash. -/
theorem of_setArgumentsFromUrl (returned : (setArgumentsFromUrl errno args).outcome = some (ret, result)) :
    TargetOnly args result ∧ (0 ≤ ret → args.url.bytes.getLast? = some slash) := by
  unfold setArgumentsFromUrl at returned
  dsimp only at returned
  split at returned
  · cases returned
    exact ⟨refl args, fun nonneg => absurd nonneg (by decide)⟩
  split at returned
  · cases returned
    exact ⟨refl args, fun nonneg => absurd nonneg (by decide)⟩
  rename_i ends
  refine ⟨?_, fun _ => not_not.mp ends⟩
  split at returned
  · cases returned
  · exact (of_setProtocol args).trans (of_readAuthority returned)

end TargetOnly

/-- **What is accepted**: the options end, the url is short enough, supported and ends with a slash once it is
stored, and the result has the options' values, the stored url and a target. -/
theorem setArgumentsValues_returned {errno : Int} {opts : List Opt} {args result : Arguments} {url : CText}
    (returned : setArgumentsValues errno opts (some url) args = .returned result) :
    ∃ errno' left, handleOptions errno args opts = .returned (errno', left) ∧ url.bytes.length < maxUrlLen ∧
      isSupportedUrl url.bytes = true ∧ (storeUrl url).bytes.getLast? = some slash ∧
      TargetOnly { left with url := storeUrl url } result ∧ validateArguments result = true := by
  unfold setArgumentsValues at returned
  cases loop : handleOptions errno args opts with
  | exited success =>
    rw [loop] at returned
    cases returned
  | undefined =>
    rw [loop] at returned
    cases returned
  | returned left =>
    rw [loop] at returned
    dsimp only at returned
    split at returned
    · cases returned
    split at returned
    · cases returned
    rename_i short supported
    split at returned
    · cases returned
    rename_i ret end' read
    split at returned
    · cases returned
    split at returned
    · cases returned
    rename_i nonneg valid
    cases returned
    obtain ⟨set, ends⟩ := TargetOnly.of_setArgumentsFromUrl read
    exact ⟨left.1, left.2, rfl, Nat.lt_of_not_le short, by simpa using supported, ends (by omega), set, by simpa using valid⟩

end WebBench
