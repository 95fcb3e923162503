import Mathlib.Data.List.Forall2
import WebBench.Lib.Search

/-!
# `getopt_long`

A command line is read as the library reads it by default. Operands may stand
between the options, `--` ends the options, letters share a dash, an argument
may be attached, and a long name may be cut short while it stays clear which
option is meant. The options there are come from a table. `Spells` says how a
command line is written, and what is read without an error is what was written.
-/

namespace CLib
set_option autoImplicit false

/-- `'-'`. -/
def dash : Byte := 45

/-- `'='`. -/
def equals : Byte := 61

/-- The string at a pointer into an element. -/
def CText.read (cells : List Byte) : CText := ⟨cstr cells, cstr_noNul cells⟩

/-- Reading a text gives it back. -/
theorem CText.read_bytes (s : CText) : CText.read s.bytes = s := by
  cases s with
  | mk bytes noNul => simp only [read, cstr_of_noNul noNul]

/-- An option stands alone or takes an argument. -/
inductive OptionKind (α : Type) where
  | plain (opt : α)
  | taking (opt : CText → α)

/-- The letters and the names of a program's options, and what an error is reported as. -/
structure OptionTable (α : Type) where
  short : List (Byte × OptionKind α)
  long : List (List Byte × OptionKind α)
  bad : α
  noDash : short.lookup dash = none

/-- What an element of options comes to, and the option that takes the element behind it. -/
structure Element (α : Type) where
  opts : List α
  pending : Option (CText → α)

namespace OptionTable

variable {α : Type} (t : OptionTable α)

/-- The long option a name stands for: the one that has it, or the only one that begins with it. -/
def named (name : List Byte) : Option (OptionKind α) :=
  match t.long.lookup name with
  | some kind => some kind
  | none =>
    match t.long.filter fun entry => name.isPrefixOf entry.1 with
    | [entry] => some entry.2
    | _ => none

/-- The letters behind a dash. -/
def letters : List Byte → Element α
  | [] => ⟨[], none⟩
  | letter :: rest =>
    match t.short.lookup letter with
    | none => ⟨t.bad :: (letters rest).opts, (letters rest).pending⟩
    | some (.plain opt) => ⟨opt :: (letters rest).opts, (letters rest).pending⟩
    | some (.taking opt) => if rest = [] then ⟨[], some opt⟩ else ⟨[opt (.read rest)], none⟩

/-- The name behind two dashes. -/
def word (s : List Byte) : Element α :=
  match strchr s equals with
  | none =>
    match t.named s with
    | none => ⟨[t.bad], none⟩
    | some (.plain opt) => ⟨[opt], none⟩
    | some (.taking opt) => ⟨[], some opt⟩
  | some i =>
    match t.named (s.take i) with
    | some (.taking opt) => ⟨[opt (.read (s.drop (i + 1)))], none⟩
    | some (.plain _) | none => ⟨[t.bad], none⟩

/-- What an element holds; an operand holds nothing. -/
def element : List Byte → Option (Element α)
  | first :: second :: rest =>
    if first ≠ dash then none
    else if second = dash then some (t.word rest)
    else some (t.letters (second :: rest))
  | _ => none

/-- The options and the operands of a command line. -/
def getopt : List CText → List α × List CText
  | [] => ([], [])
  | arg :: rest =>
    if arg.bytes = [dash, dash] then ([], rest)
    else
      match t.element arg.bytes with
      | none => ((getopt rest).1, arg :: (getopt rest).2)
      | some ⟨opts, none⟩ => (opts ++ (getopt rest).1, (getopt rest).2)
      | some ⟨opts, some opt⟩ =>
        match rest with
        | [] => (opts ++ [t.bad], [])
        | value :: rest => (opts ++ opt value :: (getopt rest).1, (getopt rest).2)

/-! ## How a command line is written -/

/-- Letters that stand alone, and their options. -/
def Flags (flags : List Byte) (opts : List α) : Prop :=
  List.Forall₂ (fun letter opt => t.short.lookup letter = some (.plain opt)) flags opts

/-- The ways to write options that belong together: in one element, or in two if the last one takes the second. -/
inductive Group : List CText → List α → Prop
  | flags (arg : CText) (flags : List Byte) (opts : List α) (written : arg.bytes = dash :: flags) (some' : flags ≠ [])
      (are : t.Flags flags opts) : Group [arg] opts
  | attached (arg value : CText) (flags : List Byte) (opts : List α) (letter : Byte) (opt : CText → α)
      (written : arg.bytes = dash :: (flags ++ letter :: value.bytes)) (some' : value.bytes ≠ []) (are : t.Flags flags opts)
      (takes : t.short.lookup letter = some (.taking opt)) : Group [arg] (opts ++ [opt value])
  | separate (arg value : CText) (flags : List Byte) (opts : List α) (letter : Byte) (opt : CText → α)
      (written : arg.bytes = dash :: (flags ++ [letter])) (are : t.Flags flags opts)
      (takes : t.short.lookup letter = some (.taking opt)) : Group [arg, value] (opts ++ [opt value])
  | long (arg : CText) (name : List Byte) (opt : α) (written : arg.bytes = dash :: dash :: name) (some' : name ≠ [])
      (noEquals : equals ∉ name) (means : t.named name = some (.plain opt)) : Group [arg] [opt]
  | longAttached (arg value : CText) (name : List Byte) (opt : CText → α)
      (written : arg.bytes = dash :: dash :: (name ++ equals :: value.bytes)) (noEquals : equals ∉ name)
      (means : t.named name = some (.taking opt)) : Group [arg] [opt value]
  | longSeparate (arg value : CText) (name : List Byte) (opt : CText → α) (written : arg.bytes = dash :: dash :: name)
      (some' : name ≠ []) (noEquals : equals ∉ name) (means : t.named name = some (.taking opt)) :
      Group [arg, value] [opt value]

/-- A command line, the options it names and its operands. -/
inductive Spells : List CText → List α → List CText → Prop
  | nil : Spells [] [] []
  | operand (arg : CText) (rest : List CText) (opts : List α) (operands : List CText)
      (noOption : t.element arg.bytes = none) (behind : Spells rest opts operands) :
      Spells (arg :: rest) opts (arg :: operands)
  | group (words rest : List CText) (opts opts' : List α) (operands : List CText) (written : t.Group words opts)
      (behind : Spells rest opts' operands) : Spells (words ++ rest) (opts ++ opts') operands
  | dashes (arg : CText) (operands : List CText) (written : arg.bytes = [dash, dash]) : Spells (arg :: operands) [] operands

/-! ## What is written is read -/

section Reading

variable {t}

/-- Letters that take no value are read one by one. -/
theorem letters_flags {flags : List Byte} {opts : List α} (are : t.Flags flags opts) (more : List Byte) :
    t.letters (flags ++ more) = ⟨opts ++ (t.letters more).opts, (t.letters more).pending⟩ := by
  induction are with
  | nil => rfl
  | cons letter _ ih => simp only [List.cons_append, letters, letter, ih]

/-- A letter at the end of its word takes the next word. -/
theorem letters_separate {letter : Byte} {opt : CText → α} (takes : t.short.lookup letter = some (.taking opt)) :
    t.letters [letter] = ⟨[], some opt⟩ := by simp only [letters, takes, if_true]

/-- Elsewhere it takes what follows it. -/
theorem letters_attached {letter : Byte} {opt : CText → α} {value : CText} (some' : value.bytes ≠ [])
    (takes : t.short.lookup letter = some (.taking opt)) : t.letters (letter :: value.bytes) = ⟨[opt value], none⟩ := by
  simp only [letters, takes, if_neg some', CText.read_bytes]

theorem word_plain {name : List Byte} {opt : α} (noEquals : equals ∉ name) (means : t.named name = some (.plain opt)) :
    t.word name = ⟨[opt], none⟩ := by simp only [word, strchr_eq_none.mpr noEquals, means]

/-- A long option without `=` takes the next word. -/
theorem word_separate {name : List Byte} {opt : CText → α} (noEquals : equals ∉ name)
    (means : t.named name = some (.taking opt)) : t.word name = ⟨[], some opt⟩ := by
  simp only [word, strchr_eq_none.mpr noEquals, means]

/-- With `=` it takes what follows that. -/
theorem word_attached {name : List Byte} {opt : CText → α} (value : CText) (noEquals : equals ∉ name)
    (means : t.named name = some (.taking opt)) : t.word (name ++ equals :: value.bytes) = ⟨[opt value], none⟩ := by
  have behind : (name ++ equals :: value.bytes).drop (name.length + 1) = value.bytes := by simp
  simp only [word, strchr_append noEquals, List.take_left, means, behind, CText.read_bytes]

/-- A letter of the table is not the second dash. -/
theorem element_letters {letter : Byte} {kind : OptionKind α} (known : t.short.lookup letter = some kind) (rest : List Byte) :
    t.element (dash :: letter :: rest) = some (t.letters (letter :: rest)) ∧ letter ≠ dash := by
  have other : letter ≠ dash := fun same => Option.some_ne_none kind (known.symm.trans (same ▸ t.noDash))
  exact ⟨by simp [element, other], other⟩

/-- What is behind the dash begins with a letter of the table. -/
theorem element_flags {flags more : List Byte} {opts : List α} {letter : Byte} {kind : OptionKind α} (are : t.Flags flags opts)
    (known : t.short.lookup letter = some kind) :
    t.element (dash :: (flags ++ letter :: more)) = some (t.letters (flags ++ letter :: more)) ∧
      dash :: (flags ++ letter :: more) ≠ [dash, dash] := by
  cases are with
  | nil =>
    obtain ⟨read, other⟩ := element_letters known more
    exact ⟨read, fun same => other (by simpa using congrArg List.head? (List.cons.inj same).2)⟩
  | cons first _ =>
    obtain ⟨read, other⟩ := element_letters first _
    exact ⟨read, fun same => other (by simpa using congrArg List.head? (List.cons.inj same).2)⟩

theorem element_word (t : OptionTable α) (name : List Byte) : t.element (dash :: dash :: name) = some (t.word name) := by simp [element]

/-- One element of options in front of a command line. -/
theorem getopt_element {arg : CText} {opts : List α} (other : arg.bytes ≠ [dash, dash])
    (read : t.element arg.bytes = some ⟨opts, none⟩) (rest : List CText) :
    t.getopt (arg :: rest) = (opts ++ (t.getopt rest).1, (t.getopt rest).2) := by
  simp only [getopt, if_neg other, read]

/-- An element of options and the argument of the last one. -/
theorem getopt_pair {arg : CText} {opts : List α} {opt : CText → α} (other : arg.bytes ≠ [dash, dash])
    (read : t.element arg.bytes = some ⟨opts, some opt⟩) (value : CText) (rest : List CText) :
    t.getopt (arg :: value :: rest) = (opts ++ [opt value] ++ (t.getopt rest).1, (t.getopt rest).2) := by
  simp only [getopt, if_neg other, read, List.append_assoc, List.singleton_append]

/-- The options of a group come first, whatever follows. -/
theorem Group.getopt {words : List CText} {opts : List α} (written : t.Group words opts) (rest : List CText) :
    t.getopt (words ++ rest) = (opts ++ (t.getopt rest).1, (t.getopt rest).2) := by
  cases written with
  | flags arg flags opts written some' are =>
    obtain ⟨read, other⟩ : t.element arg.bytes = some ⟨opts, none⟩ ∧ arg.bytes ≠ [dash, dash] := by
      have all := letters_flags are []
      cases are with
      | nil => exact absurd rfl some'
      | cons first are =>
        obtain ⟨read, other⟩ := element_flags .nil first
        rw [written]
        refine ⟨?_, other⟩
        rw [List.nil_append] at read
        rw [read, ← List.append_nil (_ :: _), all]
        simp [letters]
    exact getopt_element other read rest
  | attached arg value flags opts letter opt written some' are takes =>
    obtain ⟨read, other⟩ := element_flags are takes
    rw [letters_flags are, letters_attached some' takes] at read
    rw [← written] at read other
    exact getopt_element other read rest
  | separate arg value flags opts letter opt written are takes =>
    obtain ⟨read, other⟩ := element_flags are takes
    rw [letters_flags are, letters_separate takes, List.append_nil] at read
    rw [← written] at read other
    exact getopt_pair other read value rest
  | long arg name opt written some' noEquals means =>
    have read := element_word t name
    rw [word_plain noEquals means, ← written] at read
    refine getopt_element (fun same => some' ?_) read rest
    simpa using written.symm.trans same
  | longAttached arg value name opt written noEquals means =>
    have read := element_word t (name ++ equals :: value.bytes)
    rw [word_attached value noEquals means, ← written] at read
    refine getopt_element (fun same => ?_) read rest
    simpa using written.symm.trans same
  | longSeparate arg value name opt written some' noEquals means =>
    have read := element_word t name
    rw [word_separate noEquals means, ← written] at read
    refine getopt_pair (fun same => some' ?_) read value rest
    simpa using written.symm.trans same

/-- **What is written is read.** -/
theorem Spells.getopt {argv operands : List CText} {opts : List α} (written : t.Spells argv opts operands) :
    t.getopt argv = (opts, operands) := by
  induction written with
  | nil => rfl
  | operand arg rest opts operands noOption _ ih =>
    have other : arg.bytes ≠ [dash, dash] := by
      intro same
      rw [same, element_word] at noOption
      cases noOption
    simp only [OptionTable.getopt, if_neg other, noOption, ih]
  | group words rest opts opts' operands written _ ih => rw [written.getopt, ih]
  | dashes arg operands written => rw [OptionTable.getopt, if_pos written]

/-! ## What is read without an error was written -/

/-- Letters without an error: flags, or flags and a letter that takes what is behind it, here or in the next element. -/
theorem letters_cases {s : List Byte} (clean : t.bad ∉ (t.letters s).opts) : ∃ flags opts, t.Flags flags opts ∧
    ((s = flags ∧ t.letters s = ⟨opts, none⟩) ∨
      ∃ letter opt rest, t.short.lookup letter = some (.taking opt) ∧ s = flags ++ letter :: rest ∧
        t.letters s = if rest = [] then ⟨opts, some opt⟩ else ⟨opts ++ [opt (.read rest)], none⟩) := by
  induction s with
  | nil => exact ⟨[], [], .nil, .inl ⟨rfl, rfl⟩⟩
  | cons letter rest ih =>
    cases known : t.short.lookup letter with
    | none => simp [letters, known] at clean
    | some kind =>
      cases kind with
      | taking opt =>
        refine ⟨[], [], .nil, .inr ⟨letter, opt, rest, known, rfl, ?_⟩⟩
        simp only [letters, known, List.nil_append]
      | plain opt =>
        simp only [letters, known, List.mem_cons, not_or] at clean
        obtain ⟨flags, opts, are, read⟩ := ih clean.2
        refine ⟨letter :: flags, opt :: opts, .cons known are, ?_⟩
        rcases read with ⟨same, read⟩ | ⟨taker, takes, behind, known', same, read⟩
        · exact .inl ⟨by rw [same], by simp only [letters, known, read]⟩
        · refine .inr ⟨taker, takes, behind, known', by rw [same, List.cons_append], ?_⟩
          simp only [letters, known, read]
          split <;> rfl

/-- An element without an error is a group, or becomes one with the element behind it. -/
def Completes (t : OptionTable α) (arg : CText) (e : Element α) : Prop :=
  match e.pending with
  | none => t.Group [arg] e.opts
  | some opt => ∀ value, t.Group [arg, value] (e.opts ++ [opt value])

/-- Letters without an error are a group, or become one. -/
theorem completes_letters {arg : CText} {s : List Byte} (written : arg.bytes = dash :: s) (some' : s ≠ [])
    (clean : t.bad ∉ (t.letters s).opts) : t.Completes arg (t.letters s) := by
  obtain ⟨flags, opts, are, ⟨same, read⟩ | ⟨letter, opt, rest, takes, same, read⟩⟩ := letters_cases clean
  · rw [read]
    exact .flags arg flags opts (by rw [written, same]) (same ▸ some') are
  · rw [same] at written
    by_cases last : rest = []
    · rw [read, if_pos last]
      exact fun value => .separate arg value flags opts letter opt (by rw [written, last]) are takes
    · have whole : (CText.read rest).bytes = rest :=
        cstr_of_noNul fun b member => arg.noNul b (by rw [written]; simp [member])
      rw [read, if_neg last]
      exact .attached arg (.read rest) flags opts letter opt (by rw [written, whole]) (by rwa [whole]) are takes

/-- So is a long option, or becomes one. -/
theorem completes_word {arg : CText} {name : List Byte} (written : arg.bytes = dash :: dash :: name)
    (other : arg.bytes ≠ [dash, dash]) (clean : t.bad ∉ (t.word name).opts) : t.Completes arg (t.word name) := by
  have some' : name ≠ [] := fun empty => other (by rw [written, empty])
  cases mark : strchr name equals with
  | none =>
    have noEquals := strchr_eq_none.mp mark
    cases means : t.named name with
    | none => simp [word, mark, means] at clean
    | some kind =>
      cases kind with
      | plain opt =>
        rw [word_plain noEquals means]
        exact .long arg name opt written some' noEquals means
      | taking opt =>
        rw [word_separate noEquals means]
        exact fun value => .longSeparate arg value name opt written some' noEquals means
  | some i =>
    obtain ⟨front, value, rfl, noEquals⟩ : ∃ front value, name = front ++ equals :: value ∧ equals ∉ front := by
      have there : equals ∈ name := by
        by_contra absent
        exact Option.some_ne_none i (mark.symm.trans (strchr_eq_none.mpr absent))
      obtain ⟨front, value, whole, first⟩ := List.eq_append_cons_of_mem there
      exact ⟨front, value, whole, first⟩
    have whole : (CText.read value).bytes = value :=
      cstr_of_noNul fun b member => arg.noNul b (by rw [written]; simp [member])
    cases means : t.named front with
    | none => simp [word, strchr_append noEquals, means] at clean
    | some kind =>
      cases kind with
      | plain opt => simp [word, strchr_append noEquals, means] at clean
      | taking opt =>
        have read := word_attached (.read value) noEquals means
        rw [whole] at read
        rw [read]
        exact .longAttached arg (.read value) front opt (by rw [written, whole]) noEquals means

theorem completes_element {arg : CText} {e : Element α} (other : arg.bytes ≠ [dash, dash])
    (read : t.element arg.bytes = some e) (clean : t.bad ∉ e.opts) : t.Completes arg e := by
  unfold element at read
  split at read
  · rename_i first second rest whole
    split at read
    · cases read
    · rename_i begins
      obtain rfl := not_not.mp begins
      split at read
      · rename_i again
        cases read
        exact completes_word (again ▸ whole) other clean
      · cases read
        exact completes_letters whole (List.cons_ne_nil _ _) clean
  · cases read

/-- **What is read without an error was written.** -/
theorem spells_of_getopt {argv operands : List CText} {opts : List α} (read : t.getopt argv = (opts, operands))
    (clean : t.bad ∉ opts) : t.Spells argv opts operands := by
  induction argv using getopt.induct t generalizing opts operands with
  | case1 =>
    cases read
    exact .nil
  | case2 arg rest two =>
    simp only [getopt, if_pos two, Prod.mk.injEq] at read
    obtain ⟨rfl, rfl⟩ := read
    exact .dashes arg rest two
  | case3 arg rest other noOption ih =>
    simp only [getopt, if_neg other, noOption, Prod.mk.injEq] at read
    obtain ⟨rfl, rfl⟩ := read
    exact .operand arg rest _ _ noOption (ih rfl clean)
  | case4 arg rest other front here ih =>
    simp only [getopt, if_neg other, here, Prod.mk.injEq] at read
    obtain ⟨rfl, rfl⟩ := read
    have both := List.mem_append.not.mp clean
    exact .group [arg] rest _ _ _ (completes_element other here (not_or.mp both).1) (ih rfl (not_or.mp both).2)
  | case5 arg other front opt here =>
    simp only [getopt, if_neg other, here, Prod.mk.injEq] at read
    obtain ⟨rfl, rfl⟩ := read
    simp at clean
  | case6 arg other front opt here value rest ih =>
    simp only [getopt, if_neg other, here, Prod.mk.injEq] at read
    obtain ⟨rfl, rfl⟩ := read
    have apart : t.bad ∉ front ∧ t.bad ∉ (t.getopt rest).1 := by
      simp only [List.mem_append, List.mem_cons, not_or] at clean
      exact ⟨clean.1, clean.2.2⟩
    have made := completes_element other here apart.1 value
    rw [List.append_cons]
    exact .group [arg, value] rest _ _ _ made (ih rfl apart.2)

/-- **A command line is read without an error if and only if it is written so.** -/
theorem getopt_iff {argv operands : List CText} {opts : List α} (clean : t.bad ∉ opts) :
    t.getopt argv = (opts, operands) ↔ t.Spells argv opts operands :=
  ⟨fun read => spells_of_getopt read clean, Spells.getopt⟩

end Reading

end OptionTable
end CLib
