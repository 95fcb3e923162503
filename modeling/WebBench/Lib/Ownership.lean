import Mathlib.Data.List.Perm.Basic
import Mathlib.Data.List.Nodup

/-!
# Ownership

A table of holders, each of which holds at most one thing of a kind, and the
list of the things that are alive. `Owned` says that what is alive is held, by
one holder each; it is kept when one holder acquires a new thing, releases its
own or stays as it is.
-/

namespace CLib
set_option autoImplicit false

variable {α β : Type}

/-- The things that are alive are those the holders hold, each held once. -/
structure Owned (held : α → Option β) (holders : List α) (live : List β) : Prop where
  exact : live.Perm (holders.filterMap held)
  once : live.Nodup

/-- One holder goes from holding the first to holding the second, and the list of live things follows. -/
inductive Swap [DecidableEq β] (live : List β) : Option β → Option β → List β → Prop
  | stay (thing : Option β) : Swap live thing thing live
  | acquire {thing : β} (fresh : thing ∉ live) : Swap live none (some thing) (thing :: live)
  | release (thing : β) : Swap live (some thing) none (live.filter (· ≠ thing))

namespace Owned

variable {held : α → Option β} {holders : List α} {live live' : List β} {i : Nat} {a a' : α} {thing : β}

/-- Nobody holds anything. -/
theorem nil : Owned held [] [] := ⟨.nil, .nil⟩

/-- What somebody holds is alive. -/
theorem alive (owned : Owned held holders live) (member : a ∈ holders) (holds : held a = some thing) : thing ∈ live :=
  owned.exact.mem_iff.mpr (List.mem_filterMap.mpr ⟨a, member, holds⟩)

/-- What is alive somebody holds. -/
theorem holder (owned : Owned held holders live) (alive : thing ∈ live) : ∃ a ∈ holders, held a = some thing :=
  List.mem_filterMap.mp (owned.exact.mem_iff.mp alive)

/-- A holder of nothing joins. -/
theorem join (owned : Owned held holders live) (empty : held a = none) : Owned held (holders ++ [a]) live := by
  refine ⟨?_, owned.once⟩
  rw [List.filterMap_append, List.filterMap_cons_none empty, List.filterMap_nil, List.append_nil]
  exact owned.exact

/-- One holder among the others. -/
theorem split_off (held : α → Option β) (a : α) (before after : List α) :
    ((before ++ a :: after).filterMap held).Perm ((held a).toList ++ (before ++ after).filterMap held) := by
  rw [List.filterMap_append, List.filterMap_append]
  cases holds : held a with
  | none => rw [List.filterMap_cons_none holds]; exact .refl _
  | some thing => rw [List.filterMap_cons_some holds]; exact List.perm_middle

/-- What one holder and the others hold, before and after a swap. -/
theorem swap_perm [DecidableEq β] {others : List β} {before after : Option β} (once : live.Nodup)
    (exact : live.Perm (before.toList ++ others)) (swapped : Swap live before after live') :
    live'.Perm (after.toList ++ others) ∧ live'.Nodup := by
  cases swapped with
  | stay => exact ⟨exact, once⟩
  | acquire fresh => exact ⟨exact.cons _, List.nodup_cons.mpr ⟨fresh, once⟩⟩
  | release thing =>
    have absent : thing ∉ others := (List.nodup_cons.mp (exact.nodup_iff.mp once)).1
    have kept : (thing :: others).filter (· ≠ thing) = others := by
      rw [List.filter_cons_of_neg (by simp), List.filter_eq_self]
      intro other member
      exact decide_eq_true fun same => absent (same ▸ member)
    exact ⟨(exact.filter _).trans (.of_eq kept), once.filter _⟩

/-- **The rule of a step.** One holder swaps what it holds. -/
theorem swap [DecidableEq β] (owned : Owned held holders live) (here : holders[i]? = some a)
    (swapped : Swap live (held a) (held a') live') : Owned held (holders.set i a') live' := by
  obtain ⟨bound, rfl⟩ := List.getElem?_eq_some_iff.mp here
  have whole : holders.take i ++ holders[i] :: holders.drop (i + 1) = holders := by simp
  have before := split_off held holders[i] (holders.take i) (holders.drop (i + 1))
  rw [whole] at before
  obtain ⟨after, once⟩ := swap_perm owned.once (owned.exact.trans before) swapped
  refine ⟨after.trans ?_, once⟩
  rw [List.set_eq_take_append_cons_drop, if_pos bound]
  exact (split_off held a' _ _).symm

/-- When nobody holds anything nothing is alive. -/
theorem all_released (owned : Owned held holders live) (released : ∀ a ∈ holders, held a = none) : live = [] := by
  have none : holders.filterMap held = [] := List.filterMap_eq_nil_iff.mpr released
  exact (none ▸ owned.exact).eq_nil

end Owned

end CLib
