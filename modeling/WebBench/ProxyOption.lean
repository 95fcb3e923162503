import WebBench.Options

/-!
# The argument of `--proxy`

The argument is copied into an array of 128 bytes before it is split at its last
colon. What is written is what is taken, except where the copy cuts it short.
-/

namespace WebBench
set_option autoImplicit false
open CLib

/-- The four forms in which a proxy is written. -/
inductive ProxyArg where
  | hostPort (host : List Byte) (port : Nat)
  | host (host : List Byte)
  | hostColon (host : List Byte)
  | port (port : Nat)

namespace ProxyArg

/-- The argument. -/
def bytes : ProxyArg → List Byte
  | hostPort name number => name ++ colon :: decimal number
  | host name => name
  | hostColon name => name ++ [colon]
  | port number => colon :: decimal number

/-- The host that is written. -/
def hostBytes : ProxyArg → List Byte
  | hostPort name _ | host name | hostColon name => name
  | port _ => text "127.0.0.1"

/-- The port that is written. -/
def portNumber : ProxyArg → Nat
  | hostPort _ number | port number => number
  | host _ | hostColon _ => 80

/-- A host is not empty, a bare one has no colon, and a port is legal. -/
def Legal : ProxyArg → Prop
  | hostPort name number => name ≠ [] ∧ 0 < number ∧ number ≤ 65535
  | host name => name ≠ [] ∧ colon ∉ name
  | hostColon name => name ≠ []
  | port number => 0 < number ∧ number ≤ 65535

/-- What is written is taken, or the program ends with an error, which a port alone gives no reason for. -/
def Exact (arg : ProxyArg) (ending : Ending (Int × Arguments)) : Prop :=
  (∃ errno args, ending = .returned (errno, args) ∧ args.proxyHost.bytes = arg.hostBytes ∧ args.proxyPort = arg.portNumber) ∨
    (ending = .exited false ∧ ∀ number, arg ≠ port number)

/-- What `proxy_host` can hold of the argument. -/
def kept (arg : ProxyArg) : List Byte := arg.bytes.take (hostnameLen - 1)

/-- The text behind the last colon is there and is not a positive number. -/
def Rejected (s : List Byte) : Prop :=
  ∃ front rest, s = front ++ colon :: rest ∧ colon ∉ rest ∧ rest ≠ [] ∧ positiveLong 0 rest = none

/-- Nothing is cut off, or what is left is rejected, or it stands for the same host and the port 80. -/
def Survives (arg : ProxyArg) : Prop :=
  arg.bytes.length < hostnameLen ∨ Rejected arg.kept ∨
    (arg.portNumber = 80 ∧ (arg.kept = arg.hostBytes ∧ colon ∉ arg.kept ∨ arg.kept = arg.hostBytes ++ [colon]))

end ProxyArg

/-! ## What the option makes of the string it keeps -/

/-- The host and the port of a string in `proxy_host`; nothing when the port is rejected. -/
def splitProxy (s : List Byte) : Option (List Byte × Int) :=
  match strrchr s colon with
  | none => some (s, 80)
  | some tmp =>
    if tmp = s.length - 1 then some (s.take tmp, 80)
    else (positiveLong 0 (s.drop (tmp + 1))).map fun t => (if tmp = 0 then text "127.0.0.1" else s.take tmp, int32 t)

section Split

variable {s rest : List Byte}

theorem splitProxy_noColon (none' : colon ∉ s) : splitProxy s = some (s, 80) := by
  rw [splitProxy, strrchr_eq_none.mpr none']

theorem splitProxy_colonLast (front : List Byte) : splitProxy (front ++ [colon]) = some (front, 80) := by
  rw [splitProxy, strrchr_append front List.not_mem_nil]
  simp

theorem splitProxy_rest (front : List Byte) (last : colon ∉ rest) (more : rest ≠ []) :
    splitProxy (front ++ colon :: rest) =
      (positiveLong 0 rest).map fun t => (if front = [] then text "127.0.0.1" else front, int32 t) := by
  have positive := List.length_pos_iff.mpr more
  have behind : (front ++ colon :: rest).drop (front.length + 1) = rest := drop_mark front rest
  simp only [splitProxy, strrchr_append front last, behind, List.take_left, List.length_eq_zero_iff]
  rw [if_neg]
  rw [List.length_append, List.length_cons]
  omega

/-- **The option in terms of the string it keeps.** -/
theorem handleProxy_split (errno : Int) (args : Arguments) (optarg : CText) :
    (∀ host port, splitProxy (optarg.bytes.take (hostnameLen - 1)) = some (host, port) →
      ∃ errno' result, handleOption errno args (.proxy optarg) = .returned (errno', result) ∧
        result.proxyHost.bytes = host ∧ result.proxyPort = port) ∧
    (splitProxy (optarg.bytes.take (hostnameLen - 1)) = none →
      handleOption errno args (.proxy optarg) = .exited false) := by
  have kept : (CString.print hostnameLen_pos optarg.bytes).bytes = optarg.bytes.take (hostnameLen - 1) := by
    show snprintf hostnameLen (cstr optarg.bytes) = _
    rw [cstr_of_noNul optarg.noNul, snprintf]
  have localhost : (CString.print hostnameLen_pos (text "127.0.0.1")).bytes = text "127.0.0.1" :=
    CString.print_of_fits (by simp [text]) (Nat.le_of_ble_eq_true rfl)
  rw [← kept]
  simp only [handleOption, handleProxy, splitProxy]
  cases strrchr (CString.print hostnameLen_pos optarg.bytes).bytes colon with
  | none =>
    refine ⟨fun host port same => ⟨_, _, rfl, ?_⟩, fun none => ?_⟩
    · simpa using same
    · cases none
  | some tmp =>
    dsimp only
    split
    · refine ⟨fun host port same => ⟨_, _, rfl, ?_⟩, fun none => ?_⟩
      · exact Prod.mk.inj (Option.some.inj same)
      · cases none
    · cases positiveLong 0 ((CString.print hostnameLen_pos optarg.bytes).bytes.drop (tmp + 1)) with
      | none =>
        refine ⟨fun host port same => ?_, fun _ => rfl⟩
        cases same
      | some t =>
        refine ⟨fun host port same => ?_, fun none => ?_⟩
        · simp only [Option.map_some, Option.some.injEq, Prod.mk.injEq] at same
          by_cases first : tmp = 0
          · exact ⟨_, _, if_pos first, by rw [← same.1, if_pos first, localhost], same.2⟩
          · exact ⟨_, _, if_neg first, by rw [← same.1, if_neg first]; rfl, same.2⟩
        · cases none

end Split

namespace ProxyArg

variable {arg : ProxyArg} {errno : Int} {args : Arguments} {optarg : CText}

theorem exact_iff (written : optarg.bytes = arg.bytes) :
    arg.Exact (handleOption errno args (.proxy optarg)) ↔
      match splitProxy arg.kept with
      | none => ∀ number, arg ≠ port number
      | some (name, number) => name = arg.hostBytes ∧ number = arg.portNumber := by
  obtain ⟨taken, refused⟩ := handleProxy_split errno args optarg
  rw [written] at taken refused
  change (∀ host port, splitProxy arg.kept = some (host, port) → _) at taken
  change splitProxy arg.kept = none → _ at refused
  cases split : splitProxy arg.kept with
  | none =>
    rw [refused split]
    refine ⟨fun exact' => ?_, fun other => .inr ⟨rfl, other⟩⟩
    rcases exact' with ⟨errno', result, returned, -⟩ | ⟨-, other⟩
    · cases returned
    · exact other
  | some found =>
    obtain ⟨host, port⟩ := found
    obtain ⟨errno', result, returned, named, numbered⟩ := taken host port split
    rw [returned]
    constructor
    · rintro (⟨_, _, same, host', port'⟩ | ⟨exited, -⟩)
      · cases same
        exact ⟨named.symm.trans host', numbered.symm.trans port'⟩
      · cases exited
    · rintro ⟨rfl, rfl⟩
      exact .inl ⟨errno', result, rfl, named, numbered⟩

/-- What is not cut is taken as it is written. -/
theorem split_short (legal : arg.Legal) (short : arg.bytes.length < hostnameLen) :
    splitProxy arg.kept = some (arg.hostBytes, (arg.portNumber : Int)) := by
  have whole : arg.kept = arg.bytes := List.take_of_length_le (by omega)
  have high : (65535 : Int) ≤ intMax := by decide
  have read : ∀ number : Nat, 0 < number → number ≤ 65535 →
      positiveLong 0 (decimal number) = some (number : Int) ∧ int32 number = number := fun number positive legal =>
    ⟨positiveLong_port positive (by omega), int32_of_fits (by omega) (by omega)⟩
  rw [whole]
  cases arg with
  | hostPort name number =>
    obtain ⟨named, positive, high⟩ := legal
    obtain ⟨accepted, same⟩ := read number positive high
    rw [bytes, splitProxy_rest name (colon_notMem_decimal number) (decimal_ne_nil number), accepted, Option.map_some,
      if_neg named, same]
    rfl
  | host name => exact splitProxy_noColon legal.2
  | hostColon name => exact splitProxy_colonLast name
  | port number =>
    obtain ⟨positive, high⟩ := legal
    obtain ⟨accepted, same⟩ := read number positive high
    have split := splitProxy_rest [] (colon_notMem_decimal number) (decimal_ne_nil number)
    rw [accepted, Option.map_some, if_pos rfl, same] at split
    exact split

/-- A name that fills the array loses something, if it is split at all. -/
theorem front_ne {name front rest : List Byte} (long : hostnameLen - 1 ≤ name.length)
    (cut : name.take (hostnameLen - 1) = front ++ colon :: rest) :
    (if front = [] then text "127.0.0.1" else front) ≠ name := by
  have size : hostnameLen = 128 := rfl
  have length := congrArg List.length cut
  rw [List.length_take, List.length_append, List.length_cons] at length
  rintro rfl
  split at long
  · exact absurd long (by decide)
  · rename_i named
    rw [if_neg named] at length
    omega

/-- A port that is cut down is a smaller one. -/
theorem port_ne {number k : Nat} (legal : number ≤ 65535) (some' : 0 < k) (short : k < (decimal number).length) {t : Int}
    (accepted : positiveLong 0 ((decimal number).take k) = some t) : int32 t ≠ number := by
  obtain ⟨m, cut, positive, less⟩ := decimal_take some' short
  have high : (65535 : Int) ≤ intMax := by decide
  have read := positiveLong_port positive (show (m : Int) ≤ intMax by omega)
  rw [← cut, accepted] at read
  rw [Option.some.inj read, int32_of_fits (by omega) (by omega)]
  omega

/-- A port alone is never cut. -/
theorem ne_port (legal : arg.Legal) (long : hostnameLen ≤ arg.bytes.length) (number : Nat) : arg ≠ port number := by
  have size : hostnameLen = 128 := rfl
  rintro rfl
  have few := decimal_length_le (i := (number : Int)) (by have := legal.1; omega) (by have := legal.2; omega)
  simp only [bytes, List.length_cons] at long
  omega

/-- Where the argument is cut and a port is still read, the host or the port is another. -/
theorem split_long (legal : arg.Legal) (long : hostnameLen ≤ arg.bytes.length) {front rest : List Byte}
    (cut : arg.kept = front ++ colon :: rest) (last : colon ∉ rest) (more : rest ≠ []) {t : Int}
    (accepted : positiveLong 0 rest = some t) :
    ¬ ((if front = [] then text "127.0.0.1" else front) = arg.hostBytes ∧ int32 t = arg.portNumber) := by
  have size : hostnameLen = 128 := rfl
  cases arg with
  | hostPort name number =>
    simp only [bytes, List.length_append, List.length_cons] at long
    simp only [kept, bytes, List.take_append] at cut
    rcases Nat.lt_trichotomy name.length (hostnameLen - 2) with shorter | edge | longer
    · -- part of the port is left
      have left : hostnameLen - 1 - name.length = (hostnameLen - 2 - name.length) + 1 := by omega
      rw [List.take_of_length_le (by omega), left, List.take_succ_cons] at cut
      obtain ⟨-, rfl⟩ := last_unique (fun member => colon_notMem_decimal number (List.mem_of_mem_take member)) last cut
      exact fun both => port_ne legal.2.2 (by omega) (by omega) accepted both.2
    · -- the colon is the last byte
      have left : hostnameLen - 1 - name.length = 0 + 1 := by omega
      rw [List.take_of_length_le (by omega), left, List.take_succ_cons, List.take_zero] at cut
      exact absurd (last_unique List.not_mem_nil last cut).2.symm more
    · rw [show hostnameLen - 1 - name.length = 0 by omega, List.take_zero, List.append_nil] at cut
      exact fun both => front_ne (by omega) cut both.1
  | host name =>
    have member : colon ∈ (host name).kept := cut ▸ List.mem_append_right front List.mem_cons_self
    exact absurd (List.mem_of_mem_take member) legal.2
  | hostColon name =>
    simp only [bytes, List.length_append, List.length_singleton] at long
    simp only [kept, bytes, List.take_append] at cut
    rw [show hostnameLen - 1 - name.length = 0 by omega, List.take_zero, List.append_nil] at cut
    exact fun both => front_ne (by omega) cut both.1
  | port number => exact absurd rfl (ne_port legal long number)

theorem rejected_iff {front rest : List Byte} (last : colon ∉ rest) :
    Rejected (front ++ colon :: rest) ↔ rest ≠ [] ∧ positiveLong 0 rest = none := by
  constructor
  · rintro ⟨front', rest', same, last', more, refused⟩
    obtain ⟨-, rfl⟩ := last_unique last last' same
    exact ⟨more, refused⟩
  · rintro ⟨more, refused⟩
    exact ⟨front, rest, rfl, last, more, refused⟩

/-- **The option takes what is written** if and only if cutting it to 127 bytes
leaves it whole, or leaves a port that is rejected, or leaves the host with the
port 80 that is written. -/
theorem exact_iff_survives (arg : ProxyArg) (legal : arg.Legal) (errno : Int) (args : Arguments) (optarg : CText)
    (written : optarg.bytes = arg.bytes) : arg.Exact (handleOption errno args (.proxy optarg)) ↔ arg.Survives := by
  rw [exact_iff written]
  rcases Nat.lt_or_ge arg.bytes.length hostnameLen with short | long
  · rw [split_short legal short]
    exact iff_of_true ⟨rfl, rfl⟩ (.inl short)
  have cutting : arg.Survives ↔ Rejected arg.kept ∨
      (arg.portNumber = 80 ∧ (arg.kept = arg.hostBytes ∧ colon ∉ arg.kept ∨ arg.kept = arg.hostBytes ++ [colon])) :=
    or_iff_right (Nat.not_lt.mpr long)
  rw [cutting]
  by_cases marked : colon ∈ arg.kept
  · obtain ⟨front, rest, cut, last⟩ := exists_last marked
    have twice : ¬ (arg.kept = arg.hostBytes ∧ colon ∉ arg.kept) := fun both => both.2 marked
    rw [or_iff_right twice, cut, rejected_iff last]
    by_cases more : rest = []
    · subst more
      simp only [splitProxy_colonLast, List.append_cancel_right_eq]
      constructor
      · rintro ⟨host, number⟩
        exact .inr ⟨by omega, host⟩
      · rintro (⟨some', -⟩ | ⟨number, host⟩)
        · exact absurd rfl some'
        · exact ⟨host, by omega⟩
    · rw [splitProxy_rest front last more]
      cases accepted : positiveLong 0 rest with
      | none => exact iff_of_true (ne_port legal long) (.inl ⟨more, rfl⟩)
      | some t =>
        refine iff_of_false (split_long legal long cut last more accepted) ?_
        rintro (⟨-, refused⟩ | ⟨-, host⟩)
        · cases refused
        · exact more (last_unique last List.not_mem_nil host).2
  · have unmarked : ¬ Rejected arg.kept := by
      rintro ⟨front, rest, cut, -⟩
      exact marked (cut ▸ List.mem_append_right front List.mem_cons_self)
    have other : arg.kept ≠ arg.hostBytes ++ [colon] := fun same =>
      marked (same ▸ List.mem_append_right _ List.mem_cons_self)
    rw [splitProxy_noColon marked, or_iff_right unmarked]
    constructor
    · rintro ⟨host, number⟩
      exact ⟨by omega, .inl ⟨host, marked⟩⟩
    · rintro ⟨number, ⟨host, -⟩ | host⟩
      · exact ⟨host, by omega⟩
      · exact absurd host other

/-- The host `proxy` with the port 3128. -/
theorem exact_iff_survives_one :
    (hostPort (text "proxy") 3128).Exact
      (handleOption 0 createDefaultArguments (.proxy (.literal "proxy:3128"))) :=
  (exact_iff_survives (hostPort (text "proxy") 3128) ⟨by decide, by decide, by decide⟩ 0 createDefaultArguments
    (.literal "proxy:3128") (by decide +kernel)).mpr (.inl (by decide))

/-- A host of 124 bytes with the port 8080. -/
def longProxy : ProxyArg := hostPort (List.replicate 124 104) 8080

theorem longProxy_noNul : ∀ b ∈ longProxy.bytes, b ≠ 0 := by
  have host : ∀ b ∈ List.replicate 124 (104 : Byte), b ≠ 0 := replicate_noNul 124 (by decide)
  have mark : ∀ b ∈ [colon], b ≠ 0 := by decide
  exact append_noNul host (append_noNul mark (decimal_noNul 8080))

/-- Of that port the array keeps the digits 80, and the program goes on with them. -/
theorem port_cut : longProxy.Legal ∧
    (∃ errno result, handleOption 0 createDefaultArguments (.proxy ⟨longProxy.bytes, longProxy_noNul⟩) =
      .returned (errno, result) ∧ result.proxyHost.bytes = longProxy.hostBytes ∧ result.proxyPort = 80) ∧
    ¬ longProxy.Exact (handleOption 0 createDefaultArguments (.proxy ⟨longProxy.bytes, longProxy_noNul⟩)) := by
  have kept : longProxy.kept = longProxy.hostBytes ++ colon :: text "80" := by decide +kernel
  have split : splitProxy longProxy.kept = some (longProxy.hostBytes, 80) := by
    rw [kept, splitProxy_rest _ (by decide) (by decide)]
    rfl
  refine ⟨⟨by decide, by decide, by decide⟩,
    (handleProxy_split 0 createDefaultArguments ⟨longProxy.bytes, longProxy_noNul⟩).1 _ _ split, ?_⟩
  rw [exact_iff rfl, split]
  exact fun both => absurd both.2 (by decide)

end ProxyArg

end WebBench
