import Mathlib.Order.BooleanAlgebra.Set

/-!
# Lifetimes

Things are acquired, used and released. `Uses` replays such touches on the set
of the things that are open: what is acquired is not open yet, what is used or
released is open. In a replay that leaves nothing open everything acquired is
released exactly once and not used behind that.
-/

namespace CLib
set_option autoImplicit false

variable {β : Type}

/-- What is done to a thing. -/
inductive Touch (β : Type) where
  | acquire (thing : β)
  | use (thing : β)
  | release (thing : β)
  deriving DecidableEq, Repr

/-- The thing it is done to. -/
def Touch.thing : Touch β → β
  | acquire thing | use thing | release thing => thing

/-- What is open after a touch. -/
def Touch.effect (opened : Set β) : Touch β → Set β
  | acquire thing => insert thing opened
  | use _ => opened
  | release thing => opened \ {thing}

/-- What must hold before a touch. -/
def Touch.Allowed (opened : Set β) : Touch β → Prop
  | acquire thing => thing ∉ opened
  | use thing | release thing => thing ∈ opened

/-- What is open after all of them, allowed or not. -/
def openedAfter (opened : Set β) (touches : List (Touch β)) : Set β := touches.foldl Touch.effect opened

/-- Every touch is allowed when it comes. -/
inductive Uses : Set β → List (Touch β) → Set β → Prop
  | nil (opened : Set β) : Uses opened [] opened
  | cons {opened opened' : Set β} {touch : Touch β} {touches : List (Touch β)} (allowed : touch.Allowed opened)
      (later : Uses (touch.effect opened) touches opened') : Uses opened (touch :: touches) opened'

/-- Until it is acquired again the thing is not touched. -/
def Gone (thing : β) (touches : List (Touch β)) : Prop :=
  ∀ front touch later, touches = front ++ touch :: later → touch.thing = thing →
    touch = .acquire thing ∨ .acquire thing ∈ front

/-- The thing is used at most, then released, and then gone. -/
def ReleasedOnce (thing : β) (touches : List (Touch β)) : Prop :=
  ∃ busy rest, touches = busy ++ .release thing :: rest ∧ (∀ touch ∈ busy, touch.thing = thing → touch = .use thing) ∧
    Gone thing rest

namespace Uses

variable {opened mid opened' : Set β} {touches later before after : List (Touch β)} {thing : β}

theorem openedAfter_eq (uses : Uses opened touches opened') : openedAfter opened touches = opened' := by
  induction uses with
  | nil => rfl
  | cons allowed later ih => exact ih

theorem append (first : Uses opened touches mid) (second : Uses mid later opened') :
    Uses opened (touches ++ later) opened' := by
  induction first with
  | nil => exact second
  | cons allowed _ ih => exact .cons allowed (ih second)

theorem split (uses : Uses opened (before ++ after) opened') : ∃ mid, Uses opened before mid ∧ Uses mid after opened' := by
  induction before generalizing opened with
  | nil => exact ⟨opened, .nil opened, uses⟩
  | cons touch before ih =>
    cases uses with
    | cons allowed rest =>
      obtain ⟨mid, first, second⟩ := ih rest
      exact ⟨mid, .cons allowed first, second⟩

/-- What has just been acquired is released. -/
theorem release (fresh : thing ∉ opened) : Uses (insert thing opened) [.release thing] opened := by
  have back : insert thing opened \ {thing} = opened := Set.insert_sdiff_self_of_notMem fresh
  have released : Uses (insert thing opened \ {thing}) [] opened := back.symm ▸ .nil opened
  exact .cons (Set.mem_insert thing opened) released

/-- Touches that only use what is open. -/
theorem of_use (only : ∀ touch ∈ touches, ∃ thing ∈ opened, touch = .use thing) : Uses opened touches opened := by
  induction touches with
  | nil => exact .nil opened
  | cons touch touches ih =>
    obtain ⟨thing, alive, rfl⟩ := only _ List.mem_cons_self
    exact .cons alive (ih fun touch member => only touch (List.mem_cons_of_mem _ member))

/-- A thing that is not open is not touched before it is acquired. -/
theorem gone (uses : Uses opened touches opened') (closed : thing ∉ opened) : Gone thing touches := by
  induction uses with
  | nil => exact fun front touch later split => absurd split (by simp)
  | @cons opened opened' first touches allowed later ih =>
    intro front touch behind split same
    cases front with
    | nil =>
      obtain ⟨rfl, -⟩ := List.cons_eq_cons.mp split
      cases first with
      | acquire other => exact .inl (congrArg Touch.acquire same)
      | use other | release other =>
        obtain rfl : other = thing := same
        exact absurd allowed closed
    | cons head front =>
      obtain ⟨rfl, rest⟩ := List.cons_eq_cons.mp split
      by_cases mine : first = .acquire thing
      · exact .inr (mine ▸ List.mem_cons_self)
      · have still : thing ∉ first.effect opened := by
          cases first with
          | acquire other => exact fun member => (Set.mem_insert_iff.mp member).elim (fun here => mine (here ▸ rfl)) closed
          | use other => exact closed
          | release other => exact fun member => closed member.1
        exact (ih still front touch behind rest same).imp_right (List.mem_cons_of_mem _)

/-- **A thing that is open and later is not** is released in between, once. -/
theorem releasedOnce (uses : Uses opened touches opened') (alive : thing ∈ opened) (closed : thing ∉ opened') :
    ReleasedOnce thing touches := by
  induction uses with
  | nil => exact absurd alive closed
  | @cons opened opened' first touches allowed later ih =>
    by_cases mine : first = .release thing
    · subst mine
      exact ⟨[], touches, rfl, by simp, later.gone fun member => member.2 rfl⟩
    · have still : thing ∈ first.effect opened := by
        cases first with
        | acquire other => exact Set.mem_insert_of_mem _ alive
        | use other => exact alive
        | release other => exact ⟨alive, fun here => mine (here ▸ rfl)⟩
      obtain ⟨busy, rest, rfl, used, gone⟩ := ih still closed
      refine ⟨first :: busy, rest, rfl, ?_, gone⟩
      intro touch member same
      rcases List.mem_cons.mp member with rfl | member
      · cases touch with
        | acquire other =>
          obtain rfl : other = thing := same
          exact absurd alive allowed
        | use other => exact congrArg Touch.use same
        | release other => exact absurd (congrArg Touch.release same) mine
      · exact used touch member same

/-- **Everything acquired is released**, exactly once, in a replay that leaves nothing open. -/
theorem acquired (uses : Uses opened (before ++ .acquire thing :: after) ∅) : ReleasedOnce thing after := by
  obtain ⟨mid, -, rest⟩ := uses.split
  cases rest with
  | cons allowed later => exact later.releasedOnce (Set.mem_insert thing mid) (Set.notMem_empty thing)

end Uses

end CLib
