import Mathlib.Data.List.Sort
import Mathlib.Data.String.Basic

/-!
# Sorting by names

Items that are sorted by their names stand in one order only if their names differ, whatever order
they come in.
-/

namespace DocTable

variable {α : Type} (name : α → String) {items items' : List α}

/-- Items with different names are sorted into strictly ascending order. -/
theorem pairwise_lt_mergeSort (h : (items.map name).Nodup) :
  (items.mergeSort fun a b => decide (name a ≤ name b)).Pairwise (name · < name ·)
  := by
  have hperm := items.mergeSort_perm fun a b => decide (name a ≤ name b)
  have hle : (items.mergeSort fun a b => decide (name a ≤ name b)).Pairwise (name · ≤ name ·) := by
    apply (List.pairwise_mergeSort _ _ items).imp
    · intro a b hab
      exact of_decide_eq_true hab
    · intro a b c hab hbc
      exact decide_eq_true (le_trans (of_decide_eq_true hab) (of_decide_eq_true hbc))
    · intro a b
      rw [Bool.or_eq_true, decide_eq_true_iff, decide_eq_true_iff]
      exact le_total _ _
  have hne : (items.mergeSort fun a b => decide (name a ≤ name b)).Pairwise (name · ≠ name ·) :=
    List.pairwise_map.mp ((hperm.map name).nodup_iff.mpr h)
  exact (hle.and hne).imp fun hab => lt_of_le_of_ne hab.1 hab.2

/-- Items with different names are sorted into the same order, whatever order they come in. -/
theorem mergeSort_eq_of_perm (hperm : items.Perm items') (h : (items.map name).Nodup) :
  (items.mergeSort fun a b => decide (name a ≤ name b))
    = items'.mergeSort fun a b => decide (name a ≤ name b)
  := by
  have hasymm : ∀ a b, a ∈ items.mergeSort (fun a b => decide (name a ≤ name b)) →
      b ∈ items'.mergeSort (fun a b => decide (name a ≤ name b)) →
      name a < name b → name b < name a → a = b := by
    intro a b _ _ hab hba
    exact absurd hba (lt_asymm hab)
  apply List.Perm.eq_of_pairwise hasymm
  · exact pairwise_lt_mergeSort name h
  · exact pairwise_lt_mergeSort name ((hperm.map name).nodup_iff.mp h)
  · exact (items.mergeSort_perm _).trans (hperm.trans (items'.mergeSort_perm _).symm)

end DocTable
