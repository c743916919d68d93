import Mathlib.Data.List.Basic

namespace QueryFlow

/-- `Interleaves lists items`: the items come from the fronts of the lists, each list in its order,
and all are used up. -/
inductive Interleaves {α : Type} : List (List α) → List α → Prop
  | nil {lists} : (∀ l ∈ lists, l = []) → Interleaves lists []
  | take {lists items x rest} (i : Nat) : lists[i]? = some (x :: rest) →
      Interleaves (lists.set i rest) items → Interleaves lists (x :: items)

namespace Interleaves

variable {α : Type} {lists : List (List α)} {items : List α}

theorem perm (h : Interleaves lists items) : items.Perm lists.flatten := by
  induction h with
  | nil empty => rw [List.flatten_eq_nil_iff.2 empty]
  | @take lists items x rest i front _ ih =>
    obtain ⟨bound, found⟩ := List.getElem?_eq_some_iff.1 front
    have split : lists = lists.take i ++ (x :: rest) :: lists.drop (i + 1) := by
      rw [← found, List.getElem_cons_drop, List.take_append_drop]
    have flat : lists.flatten =
        (lists.take i).flatten ++ x :: (rest ++ (lists.drop (i + 1)).flatten) := by
      conv_lhs => rw [split]
      simp
    rw [List.set_eq_take_append_cons_drop, if_pos bound] at ih
    rw [flat]
    refine (List.Perm.cons x ih).trans ?_
    simp only [List.flatten_append, List.flatten_cons]
    exact List.perm_middle.symm

theorem prepend (h : Interleaves lists items) {i : Nat} {l : List α} (place : lists[i]? = some l)
    (xs : List α) : Interleaves (lists.set i (xs ++ l)) (xs ++ items) := by
  obtain ⟨bound, found⟩ := List.getElem?_eq_some_iff.1 place
  induction xs with
  | nil =>
    subst found
    rw [List.nil_append, List.set_getElem_self]
    exact h
  | cons x xs ih =>
    refine .take i (List.getElem?_set_self bound) ?_
    rw [List.set_set]
    exact ih

end Interleaves

end QueryFlow
