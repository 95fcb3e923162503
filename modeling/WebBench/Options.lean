import Mathlib.Data.List.Pairwise
import WebBench.Arguments
import WebBench.Lib.Search
import WebBench.Lib.SizeT
import WebBench.Lib.Strtol

/-!
# The options of `arguments.c`

`getopt_long` delivers the options in the order of the command line, and the
switch of `set_arguments_values` handles them one by one. An option either stops
the program or writes a setting, whatever the other settings are.
-/

namespace WebBench
set_option autoImplicit false
open CLib

theorem hostnameLen_pos : 0 < hostnameLen := by decide

/-- `':'`. -/
def colon : Byte := 58

/-- `'/'`. -/
def slash : Byte := 47

/-- An option as `getopt_long` delivers it. -/
inductive Opt where
  | force | reload
  | http09 | http10 | http11
  | get | head | options | trace
  | version
  /-- `-?`, `-h`, an option that does not exist and one without its argument. -/
  | usage
  | time (optarg : CText)
  | proxy (optarg : CText)
  | clients (optarg : CText)

/-- How a function ends: it returns, calls `exit`, or has undefined behaviour. -/
inductive Ending (α : Type) where
  | returned (value : α)
  | exited (success : Bool)
  | undefined
  deriving DecidableEq

/-- `strtol` and the check behind it: the number it lets through, given `errno` before the call. -/
def positiveLong (errno : Int) (s : List Byte) : Option Int :=
  let t := strtol s
  if t.erange ∨ errno ≠ 0 ∨ t.endptr = 0 ∨ t.value ≤ 0 then none else some t.value

/-- The case `'p'`, which leaves `errno` zero where it has called `strtol`. -/
def handleProxy (errno : Int) (args : Arguments) (optarg : CText) : Ending (Int × Arguments) :=
  let host := CString.print hostnameLen_pos optarg.bytes
  match strrchr host.bytes colon with
  | none => .returned (errno, { args with proxyHost := host, proxyPort := 80 })
  | some tmp =>
    if tmp = host.bytes.length - 1 then
      .returned (errno, { args with proxyHost := host.setNul tmp, proxyPort := 80 })
    else
      match positiveLong 0 (host.bytes.drop (tmp + 1)) with
      | none => .exited false
      | some t =>
        if tmp = 0 then
          .returned (0, { args with
            proxyHost := .print hostnameLen_pos (text "127.0.0.1"), proxyPort := int32 t })
        else .returned (0, { args with proxyHost := host.setNul tmp, proxyPort := int32 t })

/-- The switch on an option: `errno` and the arguments it leaves. -/
def handleOption (errno : Int) (args : Arguments) : Opt → Ending (Int × Arguments)
  | .force => .returned (errno, { args with force := 1 })
  | .reload => .returned (errno, { args with forceReload := 1 })
  | .http09 => .returned (errno, { args with http10 := 0 })
  | .http10 => .returned (errno, { args with http10 := 1 })
  | .http11 => .returned (errno, { args with http10 := 2 })
  | .get => .returned (errno, { args with method := 0 })
  | .head => .returned (errno, { args with method := 1 })
  | .options => .returned (errno, { args with method := 2 })
  | .trace => .returned (errno, { args with method := 3 })
  | .version => .exited true
  | .usage => .exited false
  | .time optarg =>
    match positiveLong 0 optarg.bytes with
    | none => .exited false
    | some t => .returned (0, { args with benchTime := int32 t })
  | .proxy optarg => handleProxy errno args optarg
  | .clients optarg =>
    match positiveLong 0 optarg.bytes with
    | none => .exited false
    | some t => .returned (0, { args with clients := int32 t })

/-- The loop over the options. -/
def handleOptions (errno : Int) (args : Arguments) : List Opt → Ending (Int × Arguments)
  | [] => .returned (errno, args)
  | opt :: rest =>
    match handleOption errno args opt with
    | .returned (errno, args) => handleOptions errno args rest
    | .exited success => .exited success
    | .undefined => .undefined

/-! ## Positive numbers -/

variable {errno : Int} {s : List Byte} {t : Int}

/-- **What the check lets through**: the number `strtol` reads, when it is positive and fits a `long`. -/
theorem positiveLong_iff :
    positiveLong errno s = some t ↔ errno = 0 ∧ (∃ used, numeral s = some (t, used)) ∧ 0 < t ∧ t ≤ longMax := by
  have low : longMin < 0 := by decide
  unfold positiveLong strtol
  cases read : numeral s with
  | none => simp
  | some found =>
    obtain ⟨value, used⟩ := found
    have behind := numeral_used read
    dsimp only
    constructor
    · intro accepted
      split at accepted
      · cases accepted
      rename_i passed
      simp only [decide_eq_true_eq, not_or, not_lt, not_le, Option.some.injEq, not_not] at passed accepted
      obtain ⟨⟨-, high⟩, clear, -, positive⟩ := passed
      have same : t = value := by omega
      subst same
      exact ⟨clear, ⟨used, rfl⟩, by omega, high⟩
    · rintro ⟨rfl, ⟨_, same⟩, positive, high⟩
      simp only [Option.some.injEq, Prod.mk.injEq] at same
      obtain ⟨rfl, rfl⟩ := same
      have exact' : max longMin (min value longMax) = value := by omega
      rw [if_neg, exact']
      simp only [decide_eq_true_eq, exact']
      omega

/-- A positive number that fits a `long` is read up to its end. -/
theorem positiveLong_decimal {n : Nat} {rest : List Byte} (positive : 0 < n) (fits : (n : Int) ≤ longMax)
    (ends : ∀ b ∈ rest.head?, ¬ isdigit b) : positiveLong 0 (decimal n ++ rest) = some (n : Int) :=
  positiveLong_iff.mpr ⟨rfl, ⟨_, numeral_decimal ends⟩, by omega, fits⟩

theorem positiveLong_port {n : Nat} (positive : 0 < n) (fits : (n : Int) ≤ intMax) :
    positiveLong 0 (decimal n) = some (n : Int) := by
  have wide : intMax ≤ longMax := by decide
  have read := positiveLong_decimal positive (fits.trans wide) (show ∀ b ∈ ([] : List Byte).head?, ¬ isdigit b by simp)
  rwa [List.append_nil] at read

theorem colon_notMem_decimal (n : Nat) : colon ∉ decimal n := fun member =>
  absurd (isdigit_of_mem_decimal n colon member) (by decide)

/-! ## What an option comes to -/

/-- The setting an option writes. -/
inductive Setting where
  | force | reload | version | method | time | proxy | clients
  deriving DecidableEq, Repr

/-- A setting with its new value. -/
inductive Update where
  | force
  | reload
  | version (http10 : Int)
  | method (method : Int)
  | time (benchTime : Int)
  | proxy (host : CString hostnameLen) (port : Int)
  | clients (clients : Int)

namespace Update

def setting : Update → Setting
  | .force => .force
  | .reload => .reload
  | .version _ => .version
  | .method _ => .method
  | .time _ => .time
  | .proxy _ _ => .proxy
  | .clients _ => .clients

/-- The arguments with the new value. -/
def apply : Update → Arguments → Arguments
  | .force, args => { args with force := 1 }
  | .reload, args => { args with forceReload := 1 }
  | .version http10, args => { args with http10 := http10 }
  | .method m, args => { args with method := m }
  | .time benchTime, args => { args with benchTime := benchTime }
  | .proxy host port, args => { args with proxyHost := host, proxyPort := port }
  | .clients n, args => { args with clients := n }

/-- **Updates of two settings commute.** -/
theorem apply_comm {u v : Update} (apart : u.setting ≠ v.setting) (args : Arguments) :
    u.apply (v.apply args) = v.apply (u.apply args) := by
  cases u <;> cases v <;> first | exact absurd rfl apart | rfl

end Update

/-- A setting that takes the number of a string, when it is let through. -/
def number (s : List Byte) (update : Int → Update) : Except Bool (Bool × Update) :=
  match positiveLong 0 s with
  | none => .error false
  | some t => .ok (true, update (int32 t))

/-- A number that is let through is cast to `int`. -/
theorem number_ok {update : Int → Update} {written : Bool × Update} (effect : number s update = .ok written) :
    ∃ t, positiveLong 0 s = some t ∧ written = (true, update (int32 t)) := by
  unfold number at effect
  cases accepted : positiveLong 0 s with
  | none =>
    rw [accepted] at effect
    cases effect
  | some t =>
    rw [accepted] at effect
    cases effect
    exact ⟨t, rfl, rfl⟩

theorem number_error {update : Int → Update} {success : Bool} (effect : number s update = .error success) :
    success = false := by
  unfold number at effect
  split at effect <;> cases effect
  rfl

/-- What an option does whatever the arguments are: it stops the program, or it
writes a setting and says whether `strtol` has been called. -/
def Opt.effect : Opt → Except Bool (Bool × Update)
  | .force => .ok (false, .force)
  | .reload => .ok (false, .reload)
  | .http09 => .ok (false, .version 0)
  | .http10 => .ok (false, .version 1)
  | .http11 => .ok (false, .version 2)
  | .get => .ok (false, .method 0)
  | .head => .ok (false, .method 1)
  | .options => .ok (false, .method 2)
  | .trace => .ok (false, .method 3)
  | .version => .error true
  | .usage => .error false
  | .time optarg => number optarg.bytes .time
  | .proxy optarg =>
    let host := CString.print hostnameLen_pos optarg.bytes
    match strrchr host.bytes colon with
    | none => .ok (false, .proxy host 80)
    | some tmp =>
      if tmp = host.bytes.length - 1 then .ok (false, .proxy (host.setNul tmp) 80)
      else number (host.bytes.drop (tmp + 1))
        (.proxy (if tmp = 0 then .print hostnameLen_pos (text "127.0.0.1") else host.setNul tmp))
  | .clients optarg => number optarg.bytes .clients

theorem handleOption_eq (errno : Int) (args : Arguments) (opt : Opt) :
    handleOption errno args opt =
      match opt.effect with
      | .error success => .exited success
      | .ok (called, update) => .returned (if called then 0 else errno, update.apply args) := by
  cases opt with
  | time optarg | clients optarg =>
    simp only [handleOption, Opt.effect, number]
    cases positiveLong 0 optarg.bytes <;> rfl
  | proxy optarg =>
    simp only [handleOption, handleProxy, Opt.effect, number]
    cases strrchr (CString.print hostnameLen_pos optarg.bytes).bytes colon with
    | none => rfl
    | some tmp =>
      dsimp only
      split
      · rfl
      · cases positiveLong 0 ((CString.print hostnameLen_pos optarg.bytes).bytes.drop (tmp + 1)) with
        | none => rfl
        | some t => by_cases first : tmp = 0 <;> simp [first, Update.apply]
  | _ => rfl

namespace Opt

/-- The setting an option is about. -/
def setting : Opt → Option Setting
  | .force => some .force
  | .reload => some .reload
  | .http09 | .http10 | .http11 => some .version
  | .get | .head | .options | .trace => some .method
  | .version | .usage => none
  | .time _ => some .time
  | .proxy _ => some .proxy
  | .clients _ => some .clients

/-- The arguments an option leaves. -/
def write (opt : Opt) (args : Arguments) : Arguments :=
  match opt.effect with
  | .ok (_, update) => update.apply args
  | .error _ => args

/-- The option has its number read by `strtol`, and so resets `errno`. -/
def parses (opt : Opt) : Bool :=
  match opt.effect with
  | .ok (called, _) => called
  | .error _ => false

theorem setting_of_effect {opt : Opt} {called : Bool} {update : Update} (effect : opt.effect = .ok (called, update)) :
    opt.setting = some update.setting := by
  cases opt with
  | time optarg | clients optarg =>
    obtain ⟨t, -, same⟩ := number_ok effect
    cases same
    rfl
  | proxy optarg =>
    simp only [Opt.effect] at effect
    split at effect
    · cases effect
      rfl
    · split at effect
      · cases effect
        rfl
      · obtain ⟨t, -, same⟩ := number_ok effect
        cases same
        rfl
  | version | usage => cases effect
  | _ =>
    cases effect
    rfl

/-- Only `-V` ends with success. -/
theorem version_of_effect {opt : Opt} (effect : opt.effect = .error true) : opt = .version := by
  cases opt with
  | version => rfl
  | time optarg | clients optarg => cases number_error effect
  | proxy optarg =>
    simp only [Opt.effect] at effect
    split at effect
    · cases effect
    · split at effect
      · cases effect
      · cases number_error effect
  | _ => cases effect

/-- **Options about two settings commute.** -/
theorem write_comm {opt other : Opt} (apart : opt.setting ≠ other.setting) (args : Arguments) :
    opt.write (other.write args) = other.write (opt.write args) := by
  unfold write
  cases here : opt.effect with
  | error success => rfl
  | ok written =>
    cases there : other.effect with
    | error success => rfl
    | ok written' =>
      refine Update.apply_comm (fun same => apart ?_) args
      rw [setting_of_effect here, setting_of_effect there, same]

end Opt

/-! ## The loop over the options -/

section Loop

variable {opts pre post : List Opt} {args args' : Arguments} {errno' : Int}

/-- Options are handled one after the other. -/
theorem handleOptions_append (errno : Int) (args : Arguments) (pre post : List Opt) :
    handleOptions errno args (pre ++ post) =
      match handleOptions errno args pre with
      | .returned (errno, args) => handleOptions errno args post
      | .exited success => .exited success
      | .undefined => .undefined := by
  induction pre generalizing errno args with
  | nil => rfl
  | cons opt pre ih =>
    simp only [List.cons_append, handleOptions]
    cases handleOption errno args opt with
    | returned left => exact ih left.1 left.2
    | _ => rfl

/-- Options none of which stops the program write their settings one after the other. -/
theorem handleOptions_go (errno : Int) (args : Arguments) (go : ∀ opt ∈ opts, ∃ written, opt.effect = .ok written) :
    handleOptions errno args opts =
      .returned (if opts.any Opt.parses then 0 else errno, opts.foldl (fun args opt => opt.write args) args) := by
  induction opts generalizing errno args with
  | nil => rfl
  | cons opt opts ih =>
    obtain ⟨⟨called, update⟩, effect⟩ := go opt List.mem_cons_self
    have rest := ih (if called then 0 else errno) (update.apply args) fun o member => go o (List.mem_cons_of_mem _ member)
    simp only [handleOptions, handleOption_eq, effect, rest, List.foldl_cons, List.any_cons]
    simp only [Opt.write, Opt.parses, effect]
    cases called <;> simp

/-- One option that stops the program is enough, when none asks for the version. -/
theorem handleOptions_stop (errno : Int) (args : Arguments) (noVersion : ∀ opt ∈ opts, opt ≠ .version)
    (stop : ∃ opt ∈ opts, ∃ success, opt.effect = .error success) :
    handleOptions errno args opts = .exited false := by
  induction opts generalizing errno args with
  | nil => simp at stop
  | cons opt opts ih =>
    simp only [handleOptions, handleOption_eq]
    cases effect : opt.effect with
    | error success =>
      cases success with
      | false => rfl
      | true => exact absurd (Opt.version_of_effect effect) (noVersion opt List.mem_cons_self)
    | ok written =>
      obtain ⟨o, member, success, stops⟩ := stop
      rcases List.mem_cons.mp member with rfl | later
      · cases effect.symm.trans stops
      · exact ih _ _ (fun o member => noVersion o (List.mem_cons_of_mem _ member)) ⟨o, later, success, stops⟩

/-- Some option stops the program, or none does. -/
theorem stops_or_goes (opts : List Opt) : (∃ opt ∈ opts, ∃ success, opt.effect = .error success) ∨
    ∀ opt ∈ opts, ∃ written, opt.effect = .ok written := by
  refine or_iff_not_imp_left.mpr fun goes opt member => ?_
  cases effect : opt.effect with
  | ok written => exact ⟨written, rfl⟩
  | error success => exact absurd ⟨opt, member, success, effect⟩ goes

/-- Without `-V` the loop ends with failure or comes to its end. -/
theorem handleOptions_noVersion (errno : Int) (args : Arguments) (noVersion : ∀ opt ∈ opts, opt ≠ .version) :
    handleOptions errno args opts = .exited false ∨ ∃ left, handleOptions errno args opts = .returned left := by
  rcases stops_or_goes opts with stop | go
  · exact .inl (handleOptions_stop errno args noVersion stop)
  · exact .inr ⟨_, handleOptions_go errno args go⟩

/-- An option in front of a list that comes to its end has written its setting. -/
theorem handleOptions_cons {opt : Opt} (returned : handleOptions errno args (opt :: opts) = .returned (errno', args')) :
    ∃ called update, opt.effect = .ok (called, update) ∧
      handleOptions (if called then 0 else errno) (update.apply args) opts = .returned (errno', args') := by
  simp only [handleOptions, handleOption_eq] at returned
  cases effect : opt.effect with
  | error success =>
    rw [effect] at returned
    cases returned
  | ok written =>
    rw [effect] at returned
    exact ⟨written.1, written.2, rfl, returned⟩

/-- **The loop and the order of the options**: what it leaves is the same in any
order, when no option asks for the version and no two are about one setting. -/
theorem handleOptions_perm {opts' : List Opt} (errno : Int) (args : Arguments) (noVersion : ∀ opt ∈ opts, opt ≠ .version)
    (apart : opts.Pairwise fun opt other => opt.setting ≠ other.setting) (perm : opts.Perm opts') :
    handleOptions errno args opts = handleOptions errno args opts' := by
  rcases stops_or_goes opts with ⟨opt, member, stops⟩ | go
  · rw [handleOptions_stop errno args noVersion ⟨opt, member, stops⟩,
      handleOptions_stop errno args (fun o there => noVersion o (perm.mem_iff.mpr there)) ⟨opt, perm.mem_iff.mp member, stops⟩]
  · have written : opts.foldl (fun args opt => opt.write args) args = opts'.foldl (fun args opt => opt.write args) args := by
      refine perm.foldl_eq' (fun opt here other there args => ?_) args
      by_cases same : opt = other
      · rw [same]
      · have symm : Std.Symm fun opt other : Opt => opt.setting ≠ other.setting := ⟨fun _ _ ne => ne.symm⟩
        exact Opt.write_comm (apart.forall here there same).symm args
    rw [handleOptions_go errno args go, handleOptions_go errno args fun o there => go o (perm.mem_iff.mpr there),
      written, perm.any_eq]

/-- **The invariant rule for options.** -/
theorem handleOptions_invariant {motive : Arguments → Prop} (start : motive args)
    (keeps : ∀ opt ∈ opts, ∀ called update, opt.effect = .ok (called, update) →
      ∀ args, motive args → motive (update.apply args))
    (returned : handleOptions errno args opts = .returned (errno', args')) : motive args' := by
  induction opts generalizing errno args with
  | nil =>
    cases returned
    exact start
  | cons opt opts ih =>
    obtain ⟨called, update, effect, rest⟩ := handleOptions_cons returned
    exact ih (keeps opt List.mem_cons_self called update effect args start)
      (fun o member => keeps o (List.mem_cons_of_mem _ member)) rest

/-- What no option in the list is about stays as it is. -/
theorem handleOptions_keeps {α : Type} (field : Arguments → α)
    (keeps : ∀ opt ∈ opts, ∀ called update, opt.effect = .ok (called, update) →
      ∀ args, field (update.apply args) = field args)
    (returned : handleOptions errno args opts = .returned (errno', args')) : field args' = field args :=
  handleOptions_invariant (motive := fun current => field current = field args) rfl
    (fun opt member called update effect current same => (keeps opt member called update effect current).trans same) returned

/-- A setting that no option in the list is about stays as it is. -/
theorem handleOptions_frame {α : Type} (field : Arguments → α) (about : Setting)
    (frame : ∀ update : Update, update.setting ≠ about → ∀ args, field (update.apply args) = field args)
    (absent : ∀ opt ∈ opts, opt.setting ≠ some about)
    (returned : handleOptions errno args opts = .returned (errno', args')) : field args' = field args :=
  handleOptions_keeps field (fun opt member _ update effect args =>
    frame update (fun same => absent opt member (same ▸ Opt.setting_of_effect effect)) args) returned

/-- A setting has what the last option about it writes. -/
theorem handleOptions_last {α : Type} {opt : Opt} (field : Arguments → α) (about : Setting)
    (frame : ∀ update : Update, update.setting ≠ about → ∀ args, field (update.apply args) = field args)
    (absent : ∀ opt ∈ post, opt.setting ≠ some about)
    (returned : handleOptions errno args (pre ++ opt :: post) = .returned (errno', args')) :
    ∃ called update before, opt.effect = .ok (called, update) ∧ field args' = field (update.apply before) := by
  rw [handleOptions_append] at returned
  cases early : handleOptions errno args pre with
  | returned left =>
    rw [early] at returned
    obtain ⟨called, update, effect, rest⟩ := handleOptions_cons returned
    exact ⟨called, update, left.2, effect, handleOptions_frame field about frame absent rest⟩
  | exited success =>
    rw [early] at returned
    cases returned
  | undefined =>
    rw [early] at returned
    cases returned

/-- Options leave `errno` as it is or reset it. -/
theorem handleOptions_errno (returned : handleOptions errno args opts = .returned (errno', args')) :
    errno' = 0 ∨ errno' = errno := by
  induction opts generalizing errno args with
  | nil =>
    cases returned
    exact .inr rfl
  | cons opt opts ih =>
    obtain ⟨called, update, -, rest⟩ := handleOptions_cons returned
    rcases ih rest with reset | kept
    · exact .inl reset
    · cases called with
      | true => exact .inl kept
      | false => exact .inr kept

/-- No option is about the target. -/
theorem handleOptions_target (returned : handleOptions errno args opts = .returned (errno', args')) :
    args'.targetHost = args.targetHost ∧ args'.targetPort = args.targetPort ∧ args'.protocol = args.protocol := by
  have same := handleOptions_keeps (fun args => (args.targetHost, args.targetPort, args.protocol)) (fun _ _ _ update _ _ => by
    cases update <;> rfl) returned
  simpa only [Prod.mk.injEq] using same

end Loop

end WebBench
