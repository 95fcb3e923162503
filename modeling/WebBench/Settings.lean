import WebBench.UrlBounds

/-!
# The settings `set_arguments_values` leaves

Options about different settings commute. The numbers are checked as `long` and
stored as `int`, which keeps them only up to `INT_MAX`.
-/

namespace WebBench
set_option autoImplicit false
open CLib

/-! ## The order of the options -/

/-- Only `-V` makes the program exit with success. -/
theorem not_exited_true {errno : Int} {args : Arguments} {url : Option CText} {opts : List Opt}
    (noVersion : ∀ opt ∈ opts, opt ≠ .version) : setArgumentsValues errno opts url args ≠ .exited true := by
  intro exited
  unfold setArgumentsValues at exited
  rcases handleOptions_noVersion errno args noVersion with stopped | ⟨left, returned⟩
  · rw [stopped] at exited
    cases exited
  · rw [returned] at exited
    dsimp only at exited
    repeat' split at exited
    all_goals cases exited

/-- **Options commute.** For every list of options without `-V` and help in
which no two are about one setting, every order of the list and every url: the
program is in the same state when the options are done, and either exits with
failure for both orders, or leaves the same arguments for both, or reaches the
same undefined behaviour with the url. -/
theorem setArgumentsValues_perm (errno : Int) (args : Arguments) (url : Option CText) (opts opts' : List Opt)
    (plain : ∀ opt ∈ opts, opt ≠ .version ∧ opt ≠ .usage)
    (apart : opts.Pairwise fun opt other => opt.setting ≠ other.setting) (perm : opts.Perm opts') :
    handleOptions errno args opts = handleOptions errno args opts' ∧
      ((setArgumentsValues errno opts url args = .exited false ∧ setArgumentsValues errno opts' url args = .exited false) ∨
        (∃ result, setArgumentsValues errno opts url args = .returned result ∧
          setArgumentsValues errno opts' url args = .returned result) ∨
        (setArgumentsValues errno opts url args = .undefined ∧ setArgumentsValues errno opts' url args = .undefined)) := by
  have same := handleOptions_perm errno args (fun opt member => (plain opt member).1) apart perm
  have ending : setArgumentsValues errno opts' url args = setArgumentsValues errno opts url args := by
    rw [setArgumentsValues, ← same, setArgumentsValues]
  refine ⟨same, ?_⟩
  rw [ending]
  cases reached : setArgumentsValues errno opts url args with
  | returned result => exact .inr (.inl ⟨result, rfl, rfl⟩)
  | undefined => exact .inr (.inr ⟨rfl, rfl⟩)
  | exited success =>
    cases success with
    | false => exact .inl ⟨rfl, rfl⟩
    | true => exact absurd reached (not_exited_true fun opt member => (plain opt member).1)

/-- `-f -t 10` and `-t 10 -f`. -/
theorem setArgumentsValues_perm_two : ∃ result,
    setArgumentsValues 0 [.force, .time (.literal "10")] (some plainUrl) createDefaultArguments = .returned result ∧
      setArgumentsValues 0 [.time (.literal "10"), .force] (some plainUrl) createDefaultArguments = .returned result := by
  have ways := (setArgumentsValues_perm 0 createDefaultArguments (some plainUrl) [.force, .time (.literal "10")]
    [.time (.literal "10"), .force] (by simp) (by simp [Opt.setting]) (List.Perm.swap _ _ _)).2
  have taken : setArgumentsValues 0 [.force, .time (.literal "10")] (some plainUrl) createDefaultArguments ≠ .exited false ∧
      setArgumentsValues 0 [.force, .time (.literal "10")] (some plainUrl) createDefaultArguments ≠ .undefined := by
    decide +kernel
  rcases ways with failed | both | lost
  · exact absurd failed.1 taken.1
  · exact both
  · exact absurd lost.1 taken.2

/-! ## The numbers -/

/-- The arguments without what the url gives them. -/
def Arguments.options (args : Arguments) : Arguments :=
  { createDefaultArguments with
    clients := args.clients, force := args.force, forceReload := args.forceReload, proxyHost := args.proxyHost,
    proxyPort := args.proxyPort, benchTime := args.benchTime, http10 := args.http10, method := args.method }

/-- What is returned has the options as the loop left them. -/
theorem setArgumentsValues_options {errno : Int} {args result : Arguments} {opts : List Opt} {url : Option CText}
    (returned : setArgumentsValues errno opts url args = .returned result) :
    ∃ errno' left, handleOptions errno args opts = .returned (errno', left) ∧ result.options = left.options := by
  cases url with
  | none =>
    unfold setArgumentsValues at returned
    split at returned <;> cases returned
  | some url =>
    obtain ⟨errno', left, options, -, -, -, set, -⟩ := setArgumentsValues_returned returned
    obtain ⟨host, port, protocol, rfl⟩ := set
    exact ⟨errno', left, options, rfl⟩

/-- A number that has been let through is stored as it is if and only if it is no larger than `INT_MAX`. -/
theorem stored_iff {s : List Byte} {t : Int} (accepted : positiveLong 0 s = some t) :
    ∃ used, numeral s = some (t, used) ∧ (int32 t = t ∧ 0 < int32 t ↔ t ≤ intMax) := by
  obtain ⟨-, ⟨used, read⟩, positive, -⟩ := positiveLong_iff.mp accepted
  refine ⟨used, read, ?_⟩
  rw [← int32_eq_iff positive.le]
  exact ⟨fun both => both.1, fun same => ⟨same, by rw [same]; exact positive⟩⟩

section Numbers

variable {errno : Int} {opts : List Opt} {url : Option CText} {args result : Arguments}

/-- What the last option about a setting leaves in the arguments returned. -/
theorem last_option {α : Type} {pre post : List Opt} {opt : Opt} (field : Arguments → α) (about : Setting)
    (frame : ∀ update : Update, update.setting ≠ about → ∀ args, field (update.apply args) = field args)
    (ofOptions : ∀ args, field args.options = field args) (last : opts = pre ++ opt :: post)
    (absent : ∀ opt ∈ post, opt.setting ≠ some about)
    (returned : setArgumentsValues errno opts url args = .returned result) :
    ∃ called update before, opt.effect = .ok (called, update) ∧ field result = field (update.apply before) := by
  obtain ⟨errno', left, loop, same⟩ := setArgumentsValues_options returned
  rw [last] at loop
  obtain ⟨called, update, before, effect, written⟩ := handleOptions_last field about frame absent loop
  refine ⟨called, update, before, effect, ?_⟩
  rw [← ofOptions result, same, ofOptions left, written]

theorem time_stored {pre post : List Opt} {s : CText} (last : opts = pre ++ .time s :: post)
    (absent : ∀ opt ∈ post, opt.setting ≠ some .time) (returned : setArgumentsValues errno opts url args = .returned result) :
    ∃ t, positiveLong 0 s.bytes = some t ∧ result.benchTime = int32 t := by
  obtain ⟨called, update, before, effect, written⟩ := last_option Arguments.benchTime .time
    (fun update other _ => by cases update <;> first | rfl | exact absurd rfl other) (fun _ => rfl) last absent returned
  obtain ⟨t, accepted, same⟩ := number_ok effect
  cases same
  exact ⟨t, accepted, written⟩

theorem clients_stored {pre post : List Opt} {s : CText} (last : opts = pre ++ .clients s :: post)
    (absent : ∀ opt ∈ post, opt.setting ≠ some .clients)
    (returned : setArgumentsValues errno opts url args = .returned result) :
    ∃ t, positiveLong 0 s.bytes = some t ∧ result.clients = int32 t := by
  obtain ⟨called, update, before, effect, written⟩ := last_option Arguments.clients .clients
    (fun update other _ => by cases update <;> first | rfl | exact absurd rfl other) (fun _ => rfl) last absent returned
  obtain ⟨t, accepted, same⟩ := number_ok effect
  cases same
  exact ⟨t, accepted, written⟩

/-- The port is what stands behind the last colon of the 127 bytes that are kept. -/
theorem proxy_stored {pre post : List Opt} {s : CText} {front rest : List Byte} (last : opts = pre ++ .proxy s :: post)
    (absent : ∀ opt ∈ post, opt.setting ≠ some .proxy)
    (returned : setArgumentsValues errno opts url args = .returned result)
    (cut : s.bytes.take (hostnameLen - 1) = front ++ colon :: rest) (lastColon : colon ∉ rest) (more : rest ≠ []) :
    ∃ t, positiveLong 0 rest = some t ∧ result.proxyPort = int32 t := by
  obtain ⟨called, update, before, effect, written⟩ := last_option Arguments.proxyPort .proxy
    (fun update other _ => by cases update <;> first | rfl | exact absurd rfl other) (fun _ => rfl) last absent returned
  have kept : (CString.print hostnameLen_pos s.bytes).bytes = front ++ colon :: rest := by
    rw [← cut]
    show snprintf hostnameLen (cstr s.bytes) = _
    rw [cstr_of_noNul s.noNul, snprintf]
  have positive := List.length_pos_iff.mpr more
  have behind : (front ++ colon :: rest).drop (front.length + 1) = rest := drop_mark front rest
  have notLast : front.length ≠ (front ++ colon :: rest).length - 1 := by
    rw [List.length_append, List.length_cons]
    omega
  simp only [Opt.effect, kept, strrchr_append front lastColon, if_neg notLast, behind] at effect
  obtain ⟨t, accepted, same⟩ := number_ok effect
  cases same
  exact ⟨t, accepted, written⟩

/-- **When the numbers are stored as they are written.** For every list of
options and every url that are taken: the time, the clients and the port of the
proxy are the numbers `strtol` reads for the last of their options, and positive,
if and only if these numbers are no larger than `INT_MAX`. -/
theorem numbers_stored_iff (returned : setArgumentsValues errno opts url args = .returned result) :
    (∀ pre s post, opts = pre ++ .time s :: post → (∀ opt ∈ post, opt.setting ≠ some .time) →
      ∃ value used, numeral s.bytes = some (value, used) ∧
        (result.benchTime = value ∧ 0 < result.benchTime ↔ value ≤ intMax)) ∧
    (∀ pre s post, opts = pre ++ .clients s :: post → (∀ opt ∈ post, opt.setting ≠ some .clients) →
      ∃ value used, numeral s.bytes = some (value, used) ∧
        (result.clients = value ∧ 0 < result.clients ↔ value ≤ intMax)) ∧
    (∀ pre s post front rest, opts = pre ++ .proxy s :: post → (∀ opt ∈ post, opt.setting ≠ some .proxy) →
      s.bytes.take (hostnameLen - 1) = front ++ colon :: rest → colon ∉ rest → rest ≠ [] →
      ∃ value used, numeral rest = some (value, used) ∧
        (result.proxyPort = value ∧ 0 < result.proxyPort ↔ value ≤ intMax)) := by
  refine ⟨fun pre s post last absent => ?_, fun pre s post last absent => ?_,
    fun pre s post front rest last absent cut lastColon more => ?_⟩
  · obtain ⟨t, accepted, stored⟩ := time_stored last absent returned
    rw [stored]
    exact ⟨t, stored_iff accepted⟩
  · obtain ⟨t, accepted, stored⟩ := clients_stored last absent returned
    rw [stored]
    exact ⟨t, stored_iff accepted⟩
  · obtain ⟨t, accepted, stored⟩ := proxy_stored last absent returned cut lastColon more
    rw [stored]
    exact ⟨t, stored_iff accepted⟩

end Numbers

/-- `--time 60` is stored as it is written. -/
theorem numbers_stored_iff_one : ∃ result,
    setArgumentsValues 0 [.time (.literal "60")] (some plainUrl) createDefaultArguments = .returned result ∧
      result.benchTime = 60 := by
  cases reached : setArgumentsValues 0 [.time (.literal "60")] (some plainUrl) createDefaultArguments with
  | returned result =>
    obtain ⟨value, used, read, stored⟩ := (numbers_stored_iff reached).1 [] (.literal "60") [] rfl (by simp)
    have sixty : numeral (CText.literal "60").bytes = some (60, 2) := by decide +kernel
    obtain ⟨rfl, rfl⟩ := Prod.mk.inj (Option.some.inj (read.symm.trans sixty))
    exact ⟨result, rfl, (stored.mpr (by decide)).1⟩
  | exited success => exact absurd reached (by cases success <;> decide +kernel)
  | undefined => exact absurd reached (by decide +kernel)

/-- `--clients 4294967296` passes the check and leaves no client. -/
theorem clients_wrapped : ∃ result,
    setArgumentsValues 0 [.clients (.literal "4294967296")] (some plainUrl) createDefaultArguments = .returned result ∧
      numeral (text "4294967296") = some (4294967296, 10) ∧ result.clients = 0 := by
  have read : numeral (text "4294967296") = some (4294967296, 10) := by decide +kernel
  have wrapped : (match setArgumentsValues 0 [.clients (.literal "4294967296")] (some plainUrl) createDefaultArguments with
      | .returned result => decide (result.clients = 0)
      | _ => false) = true := by decide +kernel
  cases reached : setArgumentsValues 0 [.clients (.literal "4294967296")] (some plainUrl) createDefaultArguments with
  | returned result =>
    rw [reached] at wrapped
    exact ⟨result, rfl, read, of_decide_eq_true wrapped⟩
  | exited success =>
    rw [reached] at wrapped
    cases wrapped
  | undefined =>
    rw [reached] at wrapped
    cases wrapped

end WebBench
