import WebBench.HostHeader
import WebBench.Lib.GetOpt
import WebBench.ProxyOption
import WebBench.RequestRead
import WebBench.Settings

/-!
# The command line

`set_arguments_values` gives `getopt_long` its two tables. What can be typed is
what the tables spell, and the program gets to `bench_epoll` with what was asked
for, whatever spelling and order were chosen, and on no other command line.
-/

namespace WebBench
set_option autoImplicit false
open CLib

/-- A letter of `short_opts`. -/
def letter (c : Char) : Byte := BitVec.ofNat 8 c.toNat

/-- `short_opts` and `long_options`. Help and every error are a `'?'`. -/
def optionTable : OptionTable Opt where
  short := [
    (letter '9', .plain .http09), (letter '2', .plain .http11), (letter '1', .plain .http10),
    (letter 'V', .plain .version), (letter 'f', .plain .force), (letter 'r', .plain .reload),
    (letter 't', .taking .time), (letter 'p', .taking .proxy), (letter 'c', .taking .clients),
    (letter '?', .plain .usage), (letter 'h', .plain .usage)]
  long := [
    (text "force", .plain .force), (text "reload", .plain .reload), (text "time", .taking .time),
    (text "help", .plain .usage), (text "http09", .plain .http09), (text "http10", .plain .http10),
    (text "http11", .plain .http11), (text "get", .plain .get), (text "head", .plain .head),
    (text "options", .plain .options), (text "trace", .plain .trace), (text "version", .plain .version),
    (text "proxy", .taking .proxy), (text "clients", .taking .clients)]
  bad := .usage
  noDash := rfl

/-- The program up to `bench_epoll`, on the words behind its name. -/
def webbench2 (argv : List CText) : Ending (Arguments × HTTPRequest) :=
  main (argv.length + 1) (optionTable.getopt argv).1 (optionTable.getopt argv).2.head?

/-! ## What is accepted -/

/-- The arguments the options leave. -/
def optionArguments (opts : List Opt) : Arguments := opts.foldl (fun args opt => opt.write args) createDefaultArguments

/-- A command line that is accepted: its options can all be carried out, and its
first operand is a url the rest of the arguments can be read from. -/
structure Accepted (opts : List Opt) (url : CText) (args : Arguments) : Prop where
  options : ∀ opt ∈ opts, ∃ written, opt.effect = .ok written
  short : url.bytes.length < maxUrlLen
  supported : isSupportedUrl url.bytes = true
  read : ∃ ret, 0 ≤ ret ∧ (setArgumentsFromUrl 0 { optionArguments opts with url := storeUrl url }).outcome = some (ret, args)

section Accepting

variable {opts : List Opt} {url : CText} {args : Arguments}

theorem effects_of_returned {errno errno' : Int} {before after : Arguments}
    (returned : handleOptions errno before opts = .returned (errno', after)) : ∀ opt ∈ opts, ∃ written, opt.effect = .ok written := by
  induction opts generalizing errno before with
  | nil => exact fun _ member => absurd member List.not_mem_nil
  | cons opt opts ih =>
    obtain ⟨called, update, effect, rest⟩ := handleOptions_cons returned
    exact List.forall_mem_cons.mpr ⟨⟨_, effect⟩, ih rest⟩

/-- Options that can all be carried out leave `errno` as it is, which is zero. -/
theorem handleOptions_default (options : ∀ opt ∈ opts, ∃ written, opt.effect = .ok written) :
    handleOptions 0 createDefaultArguments opts = .returned (0, optionArguments opts) := by
  rw [handleOptions_go 0 createDefaultArguments options, ite_self]
  rfl

/-- What is returned keeps the method of the options, so the last check never fails. -/
theorem validate_target {before after : Arguments} (target : TargetOnly before after) (valid : validateArguments before = true) :
    validateArguments after = true := by
  obtain ⟨_, _, _, rfl⟩ := target
  exact valid

theorem setArgumentsValues_iff :
    setArgumentsValues 0 opts (some url) createDefaultArguments = .returned args ↔ Accepted opts url args := by
  constructor
  · intro returned
    obtain ⟨errno', left, options, short, supported, -, -, -⟩ := setArgumentsValues_returned returned
    have effects := effects_of_returned options
    have loop := handleOptions_default effects
    refine ⟨effects, short, supported, ?_⟩
    rw [setArgumentsValues_eq loop short supported] at returned
    split at returned
    · cases returned
    · rename_i ret result outcome
      split at returned
      · cases returned
      · rename_i nonneg
        split at returned
        · cases returned
        · cases returned
          exact ⟨ret, Int.not_lt.mp nonneg, outcome⟩
  · rintro ⟨options, short, supported, ret, nonneg, outcome⟩
    have loop := handleOptions_default options
    have start : validateArguments (optionArguments opts) = true := handleOptions_valid rfl loop
    have valid : validateArguments args = true := validate_target (TargetOnly.of_setArgumentsFromUrl outcome).1 start
    rw [setArgumentsValues_eq loop short supported, outcome]
    simp [valid, not_lt.mpr nonneg]

/-- No option that is carried out is an error. -/
theorem clean_of_effects (options : ∀ opt ∈ opts, ∃ written, opt.effect = .ok written) : Opt.usage ∉ opts := by
  intro member
  obtain ⟨written, effect⟩ := options _ member
  cases effect

end Accepting

/-- **The command lines that are accepted.** The program gets to `bench_epoll` with these arguments and this request if
and only if the words are spelled by the tables, the options among them can be carried out, and the first operand is a
url that can be read; what `build_request` leaves is then handed over. -/
theorem webbench2_iff (argv : List CText) (args : Arguments) (request : HTTPRequest) :
    webbench2 argv = .returned (args, request) ↔
      ∃ opts url others parsed, optionTable.Spells argv opts (url :: others) ∧ Accepted opts url parsed ∧
        (buildRequest parsed).2 = (args, request) := by
  constructor
  · intro started
    unfold webbench2 main at started
    split at started
    · cases started
    cases read : optionTable.getopt argv with
    | mk opts operands =>
      rw [read] at started
      dsimp only at started
      cases parsed : setArgumentsValues 0 opts operands.head? createDefaultArguments with
      | exited success => rw [parsed] at started; cases started
      | undefined => rw [parsed] at started; cases started
      | returned left =>
        rw [parsed] at started
        cases operands with
        | nil =>
          simp only [List.head?_nil, setArgumentsValues] at parsed
          split at parsed <;> cases parsed
        | cons url others =>
          have accepted := setArgumentsValues_iff.mp parsed
          have written := (OptionTable.getopt_iff (clean_of_effects accepted.options)).mp read
          exact ⟨opts, url, others, left, written, accepted, Ending.returned.inj started⟩
  · rintro ⟨opts, url, others, parsed, written, accepted, built⟩
    have words : argv.length + 1 ≠ 1 := by
      intro none'
      rw [List.length_eq_zero_iff.mp (Nat.succ.inj none')] at written
      cases written.getopt
    simp only [webbench2, main, if_neg words, written.getopt, List.head?_cons, setArgumentsValues_iff.mpr accepted, built]

/-! ## From what is asked for to the arguments -/

/-- What a command line can ask for. What is not asked for keeps its default. -/
structure Plan where
  force : Bool
  reload : Bool
  version : Option (Fin 3)
  method : Option (Fin 4)
  benchTime : Option Nat
  clients : Option Nat
  proxy : Option ProxyArg
  timeFits : ∀ n ∈ benchTime, 0 < n ∧ (n : Int) ≤ intMax
  clientsFit : ∀ n ∈ clients, 0 < n ∧ (n : Int) ≤ intMax
  proxyFits : ∀ arg ∈ proxy, arg.Legal ∧ arg.bytes.length < hostnameLen ∧ ∀ b ∈ arg.bytes, b ≠ 0

/-- The option of a version. -/
def versionOpt : Fin 3 → Opt
  | 0 => .http09
  | 1 => .http10
  | 2 => .http11

/-- The option of a method. -/
def methodOpt : Fin 4 → Opt
  | 0 => .get
  | 1 => .head
  | 2 => .options
  | 3 => .trace

namespace Plan

variable (plan : Plan)

/-- The options that ask for it. -/
def opts : List Opt :=
  (if plan.force then [.force] else []) ++ (if plan.reload then [.reload] else []) ++
    plan.version.toList.map versionOpt ++ plan.method.toList.map methodOpt ++
    plan.benchTime.toList.map (fun n => .time (.read (decimal n))) ++
    plan.clients.toList.map (fun n => .clients (.read (decimal n))) ++
    plan.proxy.toList.map (fun arg => .proxy (.read arg.bytes))

/-- The arguments that are asked for. -/
def arguments : Arguments :=
  { createDefaultArguments with
    force := if plan.force then 1 else 0
    forceReload := if plan.reload then 1 else 0
    http10 := plan.version.elim 2 fun version => version.val
    method := plan.method.elim 0 fun m => m.val
    benchTime := plan.benchTime.elim 30 fun n => n
    clients := plan.clients.elim 1 fun n => n
    proxyHost := plan.proxy.elim createDefaultArguments.proxyHost fun arg => .print hostnameLen_pos arg.hostBytes
    proxyPort := plan.proxy.elim 80 fun arg => arg.portNumber }

/-- No two of its options are about one setting. -/
theorem apart : plan.opts.Pairwise fun opt other => opt.setting ≠ other.setting := by
  have one (about : Setting) {β : Type} (asked : Option β) (opt : β → Opt) (same : ∀ b, (opt b).setting = some about) :
      ((asked.toList.map opt).map Opt.setting).Sublist [some about] := by
    cases asked with
    | none => exact List.nil_sublist _
    | some b => simp [same]
  have flag (about : Setting) (asked : Bool) (opt : Opt) (same : opt.setting = some about) :
      ((if asked then [opt] else []).map Opt.setting).Sublist [some about] := by
    cases asked <;> simp [same]
  have settings : (plan.opts.map Opt.setting).Sublist
      ([some .force] ++ [some .reload] ++ [some .version] ++ [some .method] ++ [some .time] ++ [some .clients] ++ [some .proxy]) := by
    simp only [opts, List.map_append]
    refine ((((((flag .force plan.force .force rfl).append (flag .reload plan.reload .reload rfl)).append
      (one .version plan.version versionOpt ?_)).append (one .method plan.method methodOpt ?_)).append
      (one .time plan.benchTime _ fun _ => rfl)).append (one .clients plan.clients _ fun _ => rfl)).append
      (one .proxy plan.proxy _ fun _ => rfl)
    · decide
    · decide
  exact List.pairwise_map.mp (List.Nodup.sublist settings (by decide))

end Plan

/-! ### The options are carried out -/

/-- An option is carried out by an update. -/
def Opt.Carries (opt : Opt) (update : Update) : Prop := ∃ called, opt.effect = .ok (called, update)

theorem Opt.Carries.write {opt : Opt} {update : Update} (carries : opt.Carries update) (args : Arguments) :
    opt.write args = update.apply args := by
  obtain ⟨called, effect⟩ := carries
  simp only [Opt.write, effect]

/-- A number that is written out is carried out as it is. -/
theorem number_carries {n : Nat} (fits : 0 < n ∧ (n : Int) ≤ intMax) (update : Int → Update) :
    number (CText.read (decimal n)).bytes update = .ok (true, update n) := by
  have whole : (CText.read (decimal n)).bytes = decimal n := cstr_of_noNul (decimal_noNul n)
  rw [whole, number, positiveLong_port fits.1 fits.2]
  dsimp only
  rw [int32_of_fits (by omega) fits.2]

/-- A proxy that is not cut is carried out as it is written. -/
theorem proxy_carries {arg : ProxyArg} (legal : arg.Legal) (short : arg.bytes.length < hostnameLen)
    (noNul : ∀ b ∈ arg.bytes, b ≠ 0) :
    (Opt.proxy (.read arg.bytes)).Carries (.proxy (.print hostnameLen_pos arg.hostBytes) arg.portNumber) := by
  have whole : (CText.read arg.bytes).bytes = arg.bytes := cstr_of_noNul noNul
  have split := ProxyArg.split_short legal short
  obtain ⟨errno', result, returned, host, port⟩ :=
    (handleProxy_split 0 createDefaultArguments (.read arg.bytes)).1 _ _ (by rw [whole]; exact split)
  rw [handleOption_eq] at returned
  cases effect : (Opt.proxy (.read arg.bytes)).effect with
  | error success =>
    rw [effect] at returned
    cases returned
  | ok written =>
    obtain ⟨called, update⟩ := written
    have about := Opt.setting_of_effect effect
    rw [effect] at returned
    cases update with
    | proxy host' port' =>
      cases returned
      change host'.bytes = arg.hostBytes at host
      change port' = arg.portNumber at port
      have same : CString.print hostnameLen_pos arg.hostBytes = host' := by
        have fits : arg.hostBytes.length < hostnameLen := host ▸ host'.fits
        have bytes : (CString.print hostnameLen_pos arg.hostBytes).bytes = arg.hostBytes :=
          CString.print_of_fits (by rw [← host]; exact host'.noNul) fits
        cases host'
        cases made : CString.print hostnameLen_pos arg.hostBytes
        rw [made] at bytes
        simp_all
      rw [same, ← port]
      exact ⟨called, effect⟩
    | _ => cases about

theorem foldl_asked {β : Type} {asked : Option β} {opt : β → Opt} {update : β → Update}
    (carried : ∀ b ∈ asked, (opt b).Carries (update b)) (args : Arguments) :
    (asked.toList.map opt).foldl (fun args opt => opt.write args) args = asked.elim args fun b => (update b).apply args := by
  cases asked with
  | none => rfl
  | some b => exact (carried b rfl).write args

theorem version_carries : ∀ version : Fin 3, (versionOpt version).Carries (.version version.val)
  | 0 => ⟨false, rfl⟩
  | 1 => ⟨false, rfl⟩
  | 2 => ⟨false, rfl⟩

theorem method_carries : ∀ m : Fin 4, (methodOpt m).Carries (.method m.val)
  | 0 => ⟨false, rfl⟩
  | 1 => ⟨false, rfl⟩
  | 2 => ⟨false, rfl⟩
  | 3 => ⟨false, rfl⟩

namespace Plan

variable (plan : Plan)

/-- Every option of a plan is carried out. -/
theorem carried : ∀ opt ∈ plan.opts, ∃ written, opt.effect = .ok written := by
  intro opt member
  have of {update : Update} (carries : opt.Carries update) : ∃ written, opt.effect = .ok written :=
    ⟨_, carries.choose_spec⟩
  simp only [opts, List.mem_append, List.mem_map, Option.mem_toList] at member
  rcases member with (((((flag | flag) | ⟨version, -, rfl⟩) | ⟨m, -, rfl⟩) | ⟨n, given, rfl⟩) | ⟨n, given, rfl⟩) | ⟨arg, given, rfl⟩
  · obtain rfl : opt = .force := by
      split at flag
      · exact List.mem_singleton.mp flag
      · cases flag
    exact ⟨_, rfl⟩
  · obtain rfl : opt = .reload := by
      split at flag
      · exact List.mem_singleton.mp flag
      · cases flag
    exact ⟨_, rfl⟩
  · exact of (version_carries version)
  · exact of (method_carries m)
  · exact ⟨_, number_carries (plan.timeFits n given) .time⟩
  · exact ⟨_, number_carries (plan.clientsFit n given) .clients⟩
  · obtain ⟨legal, short, noNul⟩ := plan.proxyFits arg given
    exact of (proxy_carries legal short noNul)

/-- **What the options of a plan leave.** -/
theorem optionArguments_opts : optionArguments plan.opts = plan.arguments := by
  have time : ∀ n ∈ plan.benchTime, (Opt.time (.read (decimal n))).Carries (.time n) :=
    fun n given => ⟨true, number_carries (plan.timeFits n given) .time⟩
  have clients : ∀ n ∈ plan.clients, (Opt.clients (.read (decimal n))).Carries (.clients n) :=
    fun n given => ⟨true, number_carries (plan.clientsFit n given) .clients⟩
  have proxy : ∀ arg ∈ plan.proxy,
      (Opt.proxy (.read arg.bytes)).Carries (.proxy (.print hostnameLen_pos arg.hostBytes) arg.portNumber) :=
    fun arg given => proxy_carries (plan.proxyFits arg given).1 (plan.proxyFits arg given).2.1 (plan.proxyFits arg given).2.2
  simp only [optionArguments, opts, List.foldl_append, foldl_asked proxy, foldl_asked clients, foldl_asked time,
    foldl_asked fun m _ => method_carries m, foldl_asked fun version _ => version_carries version]
  -- each part changes its own field
  have forced (args : Arguments) : (if plan.force then [Opt.force] else []).foldl (fun args opt => opt.write args) args =
      { args with force := if plan.force then 1 else args.force } := by cases plan.force <;> rfl
  have reloaded (args : Arguments) : (if plan.reload then [Opt.reload] else []).foldl (fun args opt => opt.write args) args =
      { args with forceReload := if plan.reload then 1 else args.forceReload } := by cases plan.reload <;> rfl
  have versioned (args : Arguments) : (plan.version.elim args fun version => (Update.version version.val).apply args) =
      { args with http10 := plan.version.elim args.http10 fun version => version.val } := by cases plan.version <;> rfl
  have methods (args : Arguments) : (plan.method.elim args fun m => (Update.method m.val).apply args) =
      { args with method := plan.method.elim args.method fun m => m.val } := by cases plan.method <;> rfl
  have timed (args : Arguments) : (plan.benchTime.elim args fun n => (Update.time n).apply args) =
      { args with benchTime := plan.benchTime.elim args.benchTime fun n => n } := by cases plan.benchTime <;> rfl
  have counted (args : Arguments) : (plan.clients.elim args fun n => (Update.clients n).apply args) =
      { args with clients := plan.clients.elim args.clients fun n => n } := by cases plan.clients <;> rfl
  have proxied (args : Arguments) :
      (plan.proxy.elim args fun arg => (Update.proxy (.print hostnameLen_pos arg.hostBytes) arg.portNumber).apply args) =
      { args with
        proxyHost := plan.proxy.elim args.proxyHost fun arg => .print hostnameLen_pos arg.hostBytes
        proxyPort := plan.proxy.elim args.proxyPort fun arg => arg.portNumber } := by cases plan.proxy <;> rfl
  simp only [forced, reloaded, versioned, methods, timed, counted, proxied]
  rfl

end Plan

/-! ### The url is read -/

/-- A port as a url has it. -/
def portText : Option Nat → List Byte
  | none => []
  | some port => colon :: decimal port

/-- When the host is found: a port has up to nine digits, and without one the path has no colon. -/
def PortReads (port : Option Nat) (path : List Byte) : Prop :=
  match port with
  | none => colon ∉ path
  | some port => 0 < port ∧ (decimal port).length ≤ 9

theorem slash_notMem_decimal (n : Nat) : slash ∉ decimal n := fun member =>
  absurd (isdigit_of_mem_decimal n slash member) (by decide)

/-- An authority does not end with a slash. -/
theorem authority_unslashed {host : List Byte} (plain : ∀ b ∈ host, b ≠ colon ∧ b ≠ slash) (port : Option Nat) :
    (host ++ portText port).getLast? ≠ some slash := by
  intro last
  rcases List.mem_append.mp (List.mem_of_getLast? last) with inside | behind
  · exact (plain slash inside).2 rfl
  · cases port with
    | none => cases behind
    | some port =>
      rcases List.mem_cons.mp behind with mark | digit
      · exact absurd mark (by decide)
      · exact slash_notMem_decimal port digit

section Target

variable {opts : List Opt} {args : Arguments} {url : CText} {https : Bool} {name host path : List Byte} {port : Option Nat}

theorem setArgumentsValues_target (options : handleOptions 0 createDefaultArguments opts = .returned (0, args))
    (parts : UrlParts https name host path) (reads : PortReads port path)
    (whole : url.bytes = name ++ text "://" ++ (host ++ portText port) ++ path) (fits : url.bytes.length < 1023) :
    ∃ result, setArgumentsValues 0 opts (some url) createDefaultArguments = .returned result ∧
      Targets https host (port.elim (if https then 443 else 80) fun n => n) result := by
  have size : hostnameLen = 128 := rfl
  have portSize : urlPortStrSize = 10 := rfl
  have short := parts.short
  obtain ⟨start, tail, there⟩ := exists_atAuthority options parts.scheme whole fits
    (List.append_ne_nil_of_left_ne_nil parts.nonempty _) (authority_unslashed parts.plain port) parts.begins
  obtain ⟨protocol, noHost, standard⟩ := there.target
  cases port with
  | none =>
    have behind := there.behind
    rw [portText, List.append_nil] at behind
    have later : colon ∉ tail := there.colons.not.mpr reads
    obtain ⟨hostname, filled, copied⟩ := copyHost_of_lt noHost (by omega) behind
    refine ⟨{ start with targetHost := hostname }, there.accepts _ ?_ there.valid, protocol, filled, standard⟩
    rw [readAuthority_bare behind parts.plain later]
    simp only [copied, Option.map_some]
  | some port =>
    obtain ⟨positive, digits⟩ := reads
    have behind : start.url.bytes.drop (name.length + 3) = host ++ colon :: (decimal port ++ slash :: tail) := by
      rw [there.behind, portText, List.append_assoc, List.cons_append]
    obtain ⟨hostname, filled, copied⟩ := copyHost_of_lt noHost (by omega) behind
    have small := fits_of_digits digits
    have read := readPort_of_lt 0 { start with targetHost := hostname } (by omega) (drop_past behind)
    have same : int32 port = port := int32_of_fits (by omega) small
    refine ⟨{ start with targetHost := hostname, targetPort := port }, there.accepts _ ?_ there.valid, protocol, filled, rfl⟩
    rw [readAuthority_withPort behind parts.plain (slash_notMem_decimal port), copied]
    simp only [read, positiveLong_port positive small, same]

end Target

/-- The version follows from the options. -/
theorem adjustVersion_options (args : Arguments) : (adjustVersion args).options = adjustVersion args.options := by
  unfold adjustVersion Arguments.options
  dsimp only
  repeat' split
  all_goals rfl

/-- What the program starts with for a plan and a url. -/
structure Starts (plan : Plan) (url : CText) (https : Bool) (host : List Byte) (port : Option Nat) (args : Arguments)
    (request : HTTPRequest) : Prop where
  /-- The options are as they were asked for, but for a version that the method does not allow. -/
  options : args.options = adjustVersion plan.arguments
  target : Targets https host (port.elim (if https then 443 else 80) fun n => n) args
  url : args.url = storeUrl url
  request : buildRequest args = (0, args, request)

/-- **What is asked for is done, however it is spelled.** For every plan, every order and spelling of its options and
every place of the url among them. -/
theorem webbench2_starts (plan : Plan) {argv others : List CText} {opts : List Opt} {url : CText} {https : Bool}
    {name host path : List Byte} {port : Option Nat} (written : optionTable.Spells argv opts (url :: others))
    (asked : plan.opts.Perm opts) (parts : UrlParts https name host path) (reads : PortReads port path)
    (whole : url.bytes = name ++ text "://" ++ (host ++ portText port) ++ path) (fits : url.bytes.length < 1023) :
    ∃ args request, webbench2 argv = .returned (args, request) ∧ Starts plan url https host port args request := by
  have noVersion : ∀ opt ∈ plan.opts, opt ≠ .version := by
    rintro opt member rfl
    obtain ⟨written, effect⟩ := plan.carried _ member
    cases effect
  have loop : handleOptions 0 createDefaultArguments opts = .returned (0, plan.arguments) := by
    rw [← handleOptions_perm 0 createDefaultArguments noVersion plan.apart asked, handleOptions_default plan.carried,
      plan.optionArguments_opts]
  obtain ⟨parsed, returned, target⟩ := setArgumentsValues_target loop parts reads whole fits
  obtain ⟨errno', left, same, -, -, -, only, valid⟩ := setArgumentsValues_returned returned
  cases loop.symm.trans same
  obtain ⟨name', supported, -⟩ := methodText_of_valid valid
  obtain ⟨zero, adjusted, -⟩ := buildRequest_body parsed supported
  refine ⟨adjustVersion parsed, (buildRequest parsed).2.2, ?_, ?_⟩
  · exact (webbench2_iff argv _ _).mpr ⟨opts, url, others, parsed, written, setArgumentsValues_iff.mp returned,
      Prod.ext adjusted rfl⟩
  · obtain ⟨version, same⟩ := adjustVersion_spec parsed
    constructor
    case options =>
      rw [adjustVersion_options]
      obtain ⟨_, _, _, rfl⟩ := only
      rfl
    case target =>
      rw [same]
      exact target
    case url =>
      rw [same]
      obtain ⟨_, _, _, rfl⟩ := only
      rfl
    case request =>
      rw [buildRequest_adjustVersion]
      exact Prod.ext zero (Prod.ext adjusted rfl)

/-- `-fr1 http://a:8080/b --ti=5 -c2 --head -p p:3128`. -/
def mixedLine : List CText :=
  [.literal "-fr1", .literal "http://a:8080/b", .literal "--ti=5", .literal "-c2", .literal "--head", .literal "-p",
    .literal "p:3128"]

/-- What it asks for. -/
def mixedPlan : Plan where
  force := true
  reload := true
  version := some 1
  method := some 1
  benchTime := some 5
  clients := some 2
  proxy := some (.hostPort (text "p") 3128)
  timeFits := by decide
  clientsFit := by decide
  proxyFits := by
    rintro arg ⟨⟩
    exact ⟨⟨by decide, by decide, by decide⟩, by decide, by decide⟩

/-- Letters together, an attached argument, an abbreviation, and the url in between. -/
theorem webbench2_starts_mixed : ∃ args request, webbench2 mixedLine = .returned (args, request) ∧
    Starts mixedPlan (.literal "http://a:8080/b") false (text "a") (some 8080) args request := by
  have parts : UrlParts false (text "http") (text "a") (text "/b") := ⟨by decide, by decide, by decide, by decide, .inr rfl⟩
  have written : optionTable.Spells mixedLine [.force, .reload, .http10, .time (.read (decimal 5)), .clients (.read (decimal 2)),
      .head, .proxy (.read (ProxyArg.hostPort (text "p") 3128).bytes)] [.literal "http://a:8080/b"] :=
    OptionTable.spells_of_getopt (by rfl) (by simp [optionTable])
  have asked : mixedPlan.opts.Perm [.force, .reload, .http10, .time (.read (decimal 5)), .clients (.read (decimal 2)), .head,
      .proxy (.read (ProxyArg.hostPort (text "p") 3128).bytes)] :=
    .cons _ (.cons _ (.cons _ (.trans (.swap _ _ _) (.cons _ (.swap _ _ _)))))
  have reads : PortReads (some 8080) (text "/b") := ⟨by decide, by decide⟩
  exact webbench2_starts mixedPlan written asked parts reads (by decide +kernel) (by decide +kernel)

end WebBench
