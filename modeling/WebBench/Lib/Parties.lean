import Mathlib.Data.Set.Lattice
import Mathlib.Logic.Function.Basic
import WebBench.Lib.Lifetime

/-!
# Parties that share what is handed out

Several parties take turns. What each of them does is lawful for what it holds
itself, and nothing is handed out that is open. Then the parties hold different
things, and what they do together is lawful for all that is open.
-/

namespace CLib
set_option autoImplicit false

variable {ι β : Type}

/-- What is open: what has been all along, and what the parties hold. -/
def pool (base : Set β) (held : ι → Set β) : Set β := base ∪ ⋃ i, held i

/-- No two parties hold one thing, and none holds what has been open all along. -/
structure Apart (base : Set β) (held : ι → Set β) : Prop where
  base : ∀ i, ∀ thing ∈ held i, thing ∉ base
  parties : ∀ i j, i ≠ j → ∀ thing ∈ held i, thing ∉ held j

/-- What is acquired is not open at that moment. -/
def New (opened : Set β) : List (Touch β) → Prop
  | [] => True
  | touch :: touches => (∀ thing, touch = .acquire thing → thing ∉ opened) ∧ New (touch.effect opened) touches

variable {base : Set β} {held : ι → Set β} {i j : ι} {thing : β} {touches : List (Touch β)}

theorem mem_pool_of_held (member : thing ∈ held i) : thing ∈ pool base held := .inr (Set.mem_iUnion.mpr ⟨i, member⟩)

theorem pool_empty (base : Set β) : pool base (fun _ : ι => (∅ : Set β)) = base := by simp [pool]

/-- What is open before a touch that only uses precede is what was open at first. -/
theorem Uses.allowed {opened opened' : Set β} (uses : Uses opened touches opened')
    (front : ∀ touch ∈ touches.dropLast, ∃ thing, touch = .use thing) : ∀ touch ∈ touches, touch.Allowed opened := by
  induction uses with
  | nil => exact fun _ member => absurd member List.not_mem_nil
  | @cons opened opened' first touches allowed later ih =>
    refine List.forall_mem_cons.mpr ⟨allowed, ?_⟩
    cases touches with
    | nil => exact fun _ member => absurd member List.not_mem_nil
    | cons second touches =>
      obtain ⟨used, others⟩ := List.forall_mem_cons.mp front
      obtain ⟨thing, rfl⟩ := used
      exact ih others

/-- What nobody acquires does not come to be open. -/
theorem notMem_openedAfter {opened : Set β} (absent : thing ∉ opened) (others : .acquire thing ∉ touches) :
    thing ∉ openedAfter opened touches := by
  induction touches generalizing opened with
  | nil => exact absent
  | cons touch touches ih =>
    obtain ⟨other, others⟩ := List.ne_and_not_mem_of_not_mem_cons others
    refine ih ?_ others
    cases touch with
    | acquire thing => exact fun member => member.elim (fun same => other (same ▸ rfl)) absent
    | use thing => exact absent
    | release thing => exact fun member => absent member.1

/-- Before the first turn nobody holds anything. -/
theorem Apart.empty (base : Set β) : Apart base (fun _ : ι => (∅ : Set β)) :=
  ⟨fun _ _ member => absurd member (Set.notMem_empty _), fun _ _ _ _ member => absurd member (Set.notMem_empty _)⟩

variable [DecidableEq ι]

theorem mem_pool : thing ∈ pool base held ↔ thing ∈ base ∨ thing ∈ held i ∨ ∃ j, j ≠ i ∧ thing ∈ held j := by
  refine or_congr Iff.rfl (Set.mem_iUnion.trans ⟨?_, ?_⟩)
  · rintro ⟨j, member⟩
    by_cases same : j = i
    · exact .inl (same ▸ member)
    · exact .inr ⟨j, same, member⟩
  · rintro (mine | ⟨j, -, member⟩)
    · exact ⟨i, mine⟩
    · exact ⟨j, member⟩

/-- What is open when one party holds something else. -/
theorem mem_pool_update {mine : Set β} :
    thing ∈ pool base (Function.update held i mine) ↔ thing ∈ base ∨ thing ∈ mine ∨ ∃ j, j ≠ i ∧ thing ∈ held j := by
  rw [mem_pool, Function.update_self]
  refine or_congr Iff.rfl (or_congr Iff.rfl (exists_congr fun j => and_congr_right fun other => ?_))
  rw [Function.update_of_ne other]

namespace Apart

/-- One party holds something else than before. -/
theorem update {mine : Set β} (apart : Apart base held) (fromBase : ∀ thing ∈ mine, thing ∉ base)
    (others : ∀ j, j ≠ i → ∀ thing ∈ mine, thing ∉ held j) : Apart base (Function.update held i mine) := by
  constructor
  case base =>
    intro j
    by_cases same : j = i
    · rw [same, Function.update_self]
      exact fromBase
    · rw [Function.update_of_ne same]
      exact apart.base j
  case parties =>
    intro j k other
    by_cases here : j = i
    · subst here
      rw [Function.update_self, Function.update_of_ne other.symm]
      exact others k other.symm
    · rw [Function.update_of_ne here]
      by_cases there : k = i
      · rw [there, Function.update_self]
        exact fun thing theirs ours => others j here thing ours theirs
      · rw [Function.update_of_ne there]
        exact apart.parties j k other

/-- **A touch.** It is allowed on all that is open, and the parties stay apart. -/
theorem step {touch : Touch β} (apart : Apart base held) (allowed : touch.Allowed (held i))
    (new : ∀ thing, touch = .acquire thing → thing ∉ pool base held) :
    touch.Allowed (pool base held) ∧
      touch.effect (pool base held) = pool base (Function.update held i (touch.effect (held i))) ∧
      Apart base (Function.update held i (touch.effect (held i))) := by
  cases touch with
  | use thing =>
    have same : Function.update held i (Touch.effect (held i) (.use thing)) = held := Function.update_eq_self i held
    rw [same]
    exact ⟨mem_pool_of_held allowed, rfl, apart⟩
  | acquire thing =>
    have fresh := new thing rfl
    refine ⟨fresh, ?_, apart.update ?_ ?_⟩
    · ext other
      rw [mem_pool_update]
      simp only [Touch.effect, Set.mem_insert_iff, @mem_pool _ _ base held i]
      rw [or_left_comm, or_assoc]
    · rintro other (rfl | mine) before
      · exact fresh (.inl before)
      · exact apart.base i other mine before
    · rintro j different other (rfl | mine) there
      · exact fresh (mem_pool_of_held there)
      · exact apart.parties i j different.symm other mine there
  | release thing =>
    refine ⟨mem_pool_of_held allowed, ?_, apart.update ?_ ?_⟩
    · ext other
      rw [mem_pool_update]
      simp only [Touch.effect, Set.mem_sdiff, Set.mem_singleton_iff, @mem_pool _ _ base held i]
      -- nobody else has the thing that is released
      constructor
      · rintro ⟨before | mine | there, different⟩
        · exact .inl before
        · exact .inr (.inl ⟨mine, different⟩)
        · exact .inr (.inr there)
      · rintro (before | mine | ⟨j, different, there⟩)
        · refine ⟨.inl before, ?_⟩
          rintro rfl
          exact apart.base i _ allowed before
        · exact ⟨.inr (.inl mine.1), mine.2⟩
        · refine ⟨.inr (.inr ⟨j, different, there⟩), ?_⟩
          rintro rfl
          exact apart.parties i j different.symm _ allowed there
    · exact fun other mine => apart.base i other mine.1
    · exact fun j different other mine => apart.parties i j different.symm other mine.1

/-- **A turn.** What a party does lawfully for itself is lawful for all that is open. -/
theorem turn {mine mine' : Set β} (apart : Apart base held) (own : held i = mine) (uses : Uses mine touches mine')
    (new : New (pool base held) touches) :
    Uses (pool base held) touches (pool base (Function.update held i mine')) ∧ Apart base (Function.update held i mine') := by
  induction uses generalizing held with
  | nil =>
    rw [← own, Function.update_eq_self]
    exact ⟨.nil _, apart⟩
  | cons allowed later ih =>
    subst own
    obtain ⟨fine, effect, apart'⟩ := apart.step allowed new.1
    have new' := new.2
    rw [effect] at new'
    obtain ⟨uses, apart''⟩ := ih apart' (Function.update_self i _ held) new'
    rw [Function.update_idem] at uses apart''
    refine ⟨.cons fine ?_, apart''⟩
    rw [effect]
    exact uses

end Apart

end CLib
