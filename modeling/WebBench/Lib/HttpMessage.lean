import WebBench.Lib.Search

/-!
# The head of an HTTP request

A request line of three words, header fields, and an empty line. `render` writes
it, and `parse` reads it from the front of a stream. A head that can be written
so that it is read back is read back from any stream it begins, and what is
parsed is what was written, so nothing shorter than a head can be taken for one.
-/

namespace CLib
set_option autoImplicit false

/-! ## Cutting at a mark -/

/-- What stands before and behind the first `mark`. -/
def cut (mark s : List Byte) : Option (List Byte × List Byte) :=
  (strstrAt s mark).map fun i => (s.take i, s.drop (i + mark.length))

/-- A `mark` that follows `s` is the first one. -/
def Plain (mark s : List Byte) : Prop := ∀ i < s.length, ¬ mark <+: (s ++ mark).drop i

instance (mark s : List Byte) : Decidable (Plain mark s) := Nat.decidableBallLT _ _

variable {mark s front back : List Byte} {x : Byte}

/-- What follows the mark has no part in it. -/
theorem prefix_drop_iff {i : Nat} (rest : List Byte) (within : i < s.length) :
    mark <+: (s ++ mark ++ rest).drop i ↔ mark <+: (s ++ mark).drop i := by
  rw [List.drop_append_of_le_length (by rw [List.length_append]; omega)]
  refine ⟨fun front => ?_, fun front => front.trans (List.prefix_append _ _)⟩
  refine List.prefix_of_prefix_length_le front (List.prefix_append _ _) ?_
  rw [List.length_drop, List.length_append]
  omega

/-- `strstr` finds the needle, and nothing earlier. -/
theorem strstrAt_some {i : Nat} (found : strstrAt s mark = some i) :
    i ≤ s.length ∧ s.take i ++ mark ++ s.drop (i + mark.length) = s ∧ ∀ j < i, ¬ mark <+: s.drop j := by
  induction s generalizing i with
  | nil =>
    unfold strstrAt at found
    split at found
    · rename_i empty
      cases found
      simp [empty]
    · cases found
  | cons b rest ih =>
    unfold strstrAt at found
    split at found
    · rename_i here
      cases found
      obtain ⟨behind, whole⟩ := here
      refine ⟨Nat.zero_le _, ?_, fun j less => absurd less (Nat.not_lt_zero j)⟩
      rw [← whole]
      simp
    · rename_i absent
      obtain ⟨k, later, rfl⟩ := Option.map_eq_some_iff.mp found
      obtain ⟨within, whole, first⟩ := ih later
      refine ⟨Nat.succ_le_succ within, ?_, fun j less => ?_⟩
      · rw [Nat.add_right_comm, List.take_succ_cons, List.drop_succ_cons, List.cons_append, List.cons_append, whole]
      · cases j with
        | zero => exact absent
        | succ j => exact first j (by omega)

theorem cut_append (plain : Plain mark front) (back : List Byte) : cut mark (front ++ mark ++ back) = some (front, back) := by
  have found : strstrAt (front ++ mark ++ back) mark = some front.length :=
    strstrAt_append fun i less => mt (prefix_drop_iff back less).mp (plain i less)
  rw [cut, found, Option.map_some, List.append_assoc, List.take_left, ← List.append_assoc, ← List.length_append,
    List.drop_left]

theorem cut_some (parts : cut mark s = some (front, back)) : s = front ++ mark ++ back ∧ Plain mark front := by
  obtain ⟨i, found, same⟩ := Option.map_eq_some_iff.mp parts
  obtain ⟨within, whole, first⟩ := strstrAt_some found
  obtain ⟨rfl, rfl⟩ := Prod.mk.inj same
  have length : (s.take i).length = i := List.length_take_of_le within
  refine ⟨whole.symm, fun j less here => first j (length ▸ less) ?_⟩
  rw [← whole]
  exact (prefix_drop_iff _ less).mpr here

/-- A mark of one byte. -/
theorem plain_singleton : Plain [x] s ↔ x ∉ s := by
  constructor
  · intro plain member
    obtain ⟨i, within, here⟩ := List.getElem_of_mem member
    refine plain i within ?_
    rw [List.drop_append_of_le_length (Nat.le_of_lt within), List.drop_eq_getElem_cons within, here]
    exact List.prefix_append [x] _
  · intro absent i within here
    rw [List.drop_append_of_le_length (Nat.le_of_lt within), List.drop_eq_getElem_cons within] at here
    exact absent ((List.prefix_cons_iff.mp here).elim (fun none => by cases none) fun ⟨_, same, _⟩ =>
      (List.cons.inj same).1 ▸ List.getElem_mem within)

/-- The end of a line. -/
def lineEnd : List Byte := text "\r\n"

/-- The bytes of `lineEnd` differ, so the first one is not half of the one that follows. -/
theorem plain_lineEnd : Plain lineEnd s ↔ ¬ lineEnd <:+: s := by
  constructor
  · rintro plain ⟨before, after, rfl⟩
    refine plain before.length ?_ ?_
    · have two : lineEnd.length = 2 := rfl
      simp only [List.length_append]
      omega
    · rw [List.append_assoc, List.append_assoc, List.drop_left]
      exact List.prefix_append _ _
  · intro absent i within here
    rw [List.drop_append_of_le_length (Nat.le_of_lt within)] at here
    have rest : s.drop i ≠ [] := by simpa using within
    have inside : s.drop i <:+: s := (List.drop_suffix i s).isInfix
    generalize s.drop i = tail at here rest inside
    obtain ⟨b, tail, rfl⟩ := List.exists_cons_of_ne_nil rest
    cases tail with
    | nil => exact absurd here (by simp [lineEnd, text])
    | cons c tail =>
      have both : lineEnd = [b, c] := by
        have first : lineEnd <+: [b, c] ++ (tail ++ lineEnd) := here
        exact (List.prefix_of_prefix_length_le first (List.prefix_append _ _) (Nat.le_refl 2)).eq_of_length rfl
      exact absent (both ▸ List.IsInfix.trans (List.prefix_append [b, c] tail).isInfix inside)

/-- A byte the mark does not have keeps apart what stands before and behind it. -/
theorem infix_around (some : mark ≠ []) (other : x ∉ mark) : mark <:+: front ++ x :: back ↔ mark <:+: front ∨ mark <:+: back := by
  constructor
  · rintro ⟨p, q, same⟩
    rw [List.append_assoc] at same
    rcases List.append_eq_append_iff.mp same with ⟨a, rfl, later⟩ | ⟨a, rfl, later⟩
    · rcases List.append_eq_append_iff.mp later with ⟨b, rfl, -⟩ | ⟨b, rfl, later'⟩
      · exact .inl ⟨p, b, by simp⟩
      · cases b with
        | nil => exact .inl ⟨p, [], by simp⟩
        | cons c b => exact absurd ((List.cons.inj later').1 ▸ List.mem_append_right a List.mem_cons_self) other
    · cases a with
      | nil =>
        obtain ⟨b, rest, rfl⟩ := List.exists_cons_of_ne_nil some
        exact absurd ((List.cons.inj later).1 ▸ List.mem_cons_self) other
      | cons c a =>
        exact .inr ⟨a, q, by rw [List.append_assoc]; exact (List.cons.inj later).2.symm⟩
  · rintro (inside | inside)
    · exact inside.trans (List.prefix_append _ _).isInfix
    · exact inside.trans ((List.suffix_cons x back).trans (List.suffix_append _ _)).isInfix

end CLib

/-! ## Messages -/

namespace CLib.Http

/-- A header field. -/
structure Field where
  name : List Byte
  value : List Byte
  deriving DecidableEq

/-- A request line and the header fields that follow it. -/
structure Message where
  method : List Byte
  target : List Byte
  version : List Byte
  fields : List Field
  deriving DecidableEq

/-- What separates the words of a request line. -/
def wordEnd : List Byte := text " "

/-- What separates a name from its value. -/
def nameEnd : List Byte := text ": "

/-- The line of a field. -/
def Field.line (field : Field) : List Byte := field.name ++ nameEnd ++ field.value

/-- The lines of fields and the empty line. -/
def renderFields (fields : List Field) : List Byte := (fields.map fun field => field.line ++ lineEnd).flatten ++ lineEnd

/-- The request line. -/
def Message.line (message : Message) : List Byte :=
  message.method ++ wordEnd ++ (message.target ++ wordEnd ++ message.version)

/-- The head of a request. -/
def Message.render (message : Message) : List Byte := message.line ++ lineEnd ++ renderFields message.fields

/-- A field whose name ends with its first colon and space, and whose line is one. -/
structure Field.Formed (field : Field) : Prop where
  name : Plain nameEnd field.name
  line : Plain lineEnd field.line

/-- A request line of three words, in one line, and fields in one line each. -/
structure Message.Formed (message : Message) : Prop where
  method : Plain wordEnd message.method
  target : Plain wordEnd message.target
  line : Plain lineEnd message.line
  fields : ∀ field ∈ message.fields, field.Formed

/-- A field from its line. -/
def parseField (line : List Byte) : Option Field := (cut nameEnd line).map fun parts => ⟨parts.1, parts.2⟩

/-- The fields up to the empty line, `n` lines at most, and the bytes behind it. -/
def parseFields : Nat → List Byte → Option (List Field × List Byte)
  | 0, _ => none
  | n + 1, s =>
    (cut lineEnd s).bind fun first =>
      if first.1 = [] then some ([], first.2)
      else
        (parseField first.1).bind fun field =>
          (parseFields n first.2).map fun others => (field :: others.1, others.2)

/-- The head of the request at the front of a stream, and the bytes behind it. -/
def parse (s : List Byte) : Option (Message × List Byte) :=
  (cut lineEnd s).bind fun first =>
    (cut wordEnd first.1).bind fun method =>
      (cut wordEnd method.2).bind fun target =>
        (parseFields s.length first.2).map fun fields => (⟨method.1, target.1, target.2, fields.1⟩, fields.2)

variable {field : Field} {fields : List Field} {message : Message} {s back : List Byte}

theorem Field.line_ne_nil : field.line ≠ [] :=
  List.append_ne_nil_of_left_ne_nil (List.append_ne_nil_of_right_ne_nil _ (List.cons_ne_nil _ _)) _

theorem renderFields_cons :
    renderFields (field :: fields) = field.line ++ lineEnd ++ renderFields fields := by
  simp [renderFields]

/-- Every line takes bytes. -/
theorem length_lt_renderFields : fields.length < (renderFields fields).length := by
  have two : lineEnd.length = 2 := rfl
  induction fields with
  | nil => exact Nat.two_pos
  | cons field fields ih =>
    rw [renderFields_cons]
    simp only [List.length_cons, List.length_append]
    omega

theorem parseFields_render (formed : ∀ field ∈ fields, field.Formed) (back : List Byte) {n : Nat} (enough : fields.length < n) :
    parseFields n (renderFields fields ++ back) = some (fields, back) := by
  induction fields generalizing n with
  | nil =>
    obtain ⟨n, rfl⟩ := Nat.exists_eq_add_of_lt enough
    have plain : Plain lineEnd [] := fun i less => absurd less (Nat.not_lt_zero i)
    have first := cut_append plain back
    simp only [parseFields, renderFields, List.map_nil, List.flatten_nil, first, Option.bind_some, if_pos]
  | cons field fields ih =>
    obtain ⟨here, later⟩ := List.forall_mem_cons.mp formed
    cases n with
    | zero => exact absurd enough (Nat.not_lt_zero _)
    | succ n =>
      have rest := ih later (Nat.lt_of_succ_lt_succ enough)
      have first := cut_append here.line (renderFields fields ++ back)
      have parts : parseField field.line = some field := by
        rw [parseField, Field.line, cut_append here.name, Option.map_some]
      rw [← List.append_assoc, ← renderFields_cons] at first
      simp only [parseFields, first, Option.bind_some, if_neg Field.line_ne_nil, parts, rest, Option.map_some]

theorem parseFields_some {n : Nat} (found : parseFields n s = some (fields, back)) :
    s = renderFields fields ++ back ∧ ∀ field ∈ fields, field.Formed := by
  induction n generalizing s fields with
  | zero => cases found
  | succ n ih =>
    obtain ⟨⟨line, rest⟩, first, more⟩ := Option.bind_eq_some_iff.mp found
    obtain ⟨rfl, plain⟩ := cut_some first
    dsimp only at more
    split at more
    · rename_i empty
      cases more
      subst empty
      exact ⟨rfl, fun field member => absurd member List.not_mem_nil⟩
    · obtain ⟨field, parts, more⟩ := Option.bind_eq_some_iff.mp more
      obtain ⟨⟨name, value⟩, named, rfl⟩ := Option.map_eq_some_iff.mp parts
      obtain ⟨⟨others, back'⟩, later, same⟩ := Option.map_eq_some_iff.mp more
      obtain ⟨rfl, rfl⟩ := Prod.mk.inj same
      obtain ⟨rfl, formed⟩ := ih later
      obtain ⟨rfl, plainName⟩ := cut_some named
      refine ⟨?_, List.forall_mem_cons.mpr ⟨⟨plainName, plain⟩, formed⟩⟩
      rw [renderFields_cons, List.append_assoc _ (renderFields others)]
      rfl

/-- **What is written is read back**, from any stream it begins. -/
theorem parse_render (formed : message.Formed) (back : List Byte) :
    parse (message.render ++ back) = some (message, back) := by
  have first := cut_append formed.line (renderFields message.fields ++ back)
  have method := cut_append formed.method (message.target ++ wordEnd ++ message.version)
  have target := cut_append formed.target message.version
  have enough : message.fields.length < (message.render ++ back).length := by
    have lines : message.fields.length < (renderFields message.fields).length := length_lt_renderFields
    simp only [Message.render, List.length_append]
    omega
  have fields := parseFields_render formed.fields back enough
  rw [← List.append_assoc] at first
  rw [parse, show cut lineEnd (message.render ++ back) = _ from first]
  simp only [Option.bind_some, show cut wordEnd message.line = _ from method, target, fields, Option.map_some]

/-- **What is read is what was written.** -/
theorem parse_some (found : parse s = some (message, back)) : s = message.render ++ back ∧ message.Formed := by
  obtain ⟨⟨line, rest⟩, first, found⟩ := Option.bind_eq_some_iff.mp found
  obtain ⟨⟨method, words⟩, second, found⟩ := Option.bind_eq_some_iff.mp found
  obtain ⟨⟨target, version⟩, third, found⟩ := Option.bind_eq_some_iff.mp found
  obtain ⟨⟨fields, back'⟩, lines, same⟩ := Option.map_eq_some_iff.mp found
  obtain ⟨rfl, rfl⟩ := Prod.mk.inj same
  obtain ⟨rfl, whole⟩ := cut_some first
  obtain ⟨rfl, one⟩ := cut_some second
  obtain ⟨rfl, two⟩ := cut_some third
  obtain ⟨rfl, formed⟩ := parseFields_some lines
  exact ⟨(List.append_assoc _ _ _).symm, one, two, whole, formed⟩

theorem parse_render_iff : parse message.render = some (message, []) ↔ message.Formed := by
  refine ⟨fun found => (parse_some found).2, fun formed => ?_⟩
  simpa using parse_render formed []

/-- **No head is read before its end.** -/
theorem parse_of_prefix (formed : message.Formed) (front : s <+: message.render) :
    parse s = if s = message.render then some (message, []) else none := by
  split
  · rename_i whole
    rw [whole]
    exact parse_render_iff.mpr formed
  · rename_i short
    obtain ⟨more, whole⟩ := front
    cases found : parse s with
    | none => rfl
    | some parts =>
      obtain ⟨message', back⟩ := parts
      obtain ⟨rfl, formed'⟩ := parse_some found
      have again := parse_render formed' (back ++ more)
      rw [← List.append_assoc, whole, parse_render_iff.mpr formed] at again
      obtain ⟨rfl, nothing⟩ := Prod.mk.inj (Option.some.inj again)
      rw [(List.append_eq_nil_iff.mp nothing.symm).1, List.append_nil] at short
      exact absurd rfl short

end CLib.Http
