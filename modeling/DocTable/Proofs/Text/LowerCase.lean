import DocTable.Text.LowerCase
import Mathlib.Data.List.Basic

/-!
# Laws of lower case

A capital sigma is lowered by what stands around it, and every other character by itself.  So the
lower-case form of a text without it is the end of that of every text that ends with it
(`lowerChars_suffix`).
-/

namespace DocTable.Text

theorem lowerAfter_of_no_sigma {cs : List Char} (h : 'Σ' ∉ cs) (before : List Char) :
  lowerAfter before cs = cs.flatMap lowerChar
  := by
  induction cs generalizing before with
  | nil => rfl
  | cons c cs ih =>
    rw [List.mem_cons, not_or] at h
    rw [lowerAfter, if_neg (by simpa using Ne.symm h.1), ih h.2, List.flatMap_cons]

theorem exists_lowerAfter_append (before xs ys : List Char) :
  ∃ front, lowerAfter before (xs ++ ys) = front ++ lowerAfter (xs.reverse ++ before) ys
  := by
  induction xs generalizing before with
  | nil => exact ⟨[], rfl⟩
  | cons x xs ih =>
    obtain ⟨front, hfront⟩ := ih (x :: before)
    rw [List.cons_append, lowerAfter, List.reverse_cons, List.append_assoc, List.singleton_append,
      hfront]
    split
    · exact ⟨_ :: front, rfl⟩
    · exact ⟨lowerChar x ++ front, (List.append_assoc ..).symm⟩

/-- A capital sigma is lowered to one of two letters. -/
theorem sigma_mem_lowerAfter {cs : List Char} (h : 'Σ' ∈ cs) (before : List Char) :
  'σ' ∈ lowerAfter before cs ∨ 'ς' ∈ lowerAfter before cs
  := by
  induction cs generalizing before with
  | nil => contradiction
  | cons c cs ih =>
    rw [lowerAfter]
    by_cases hc : c = 'Σ'
    · rw [if_pos (by simp [hc])]
      split
      · right
        exact List.mem_cons_self
      · left
        exact List.mem_cons_self
    · rw [if_neg (by simpa using hc), List.mem_append, List.mem_append]
      exact (ih ((List.mem_cons.mp h).resolve_left (Ne.symm hc)) (c :: before)).imp .inr .inr

theorem lowerChar_ne_nil (c : Char) :
  lowerChar c ≠ []
  := by
  rw [lowerChar]
  by_cases hascii : c.toNat < 128
  · rw [if_pos hascii]
    exact List.cons_ne_nil _ _
  · rw [if_neg hascii]
    split
    · exact List.cons_ne_nil _ _
    · cases caseRuns.find? (·.covers c.toNat) <;> exact List.cons_ne_nil _ _

/-- No character is lost. -/
theorem lowerChars_ne_nil {cs : List Char} (h : cs ≠ []) :
  lowerChars cs ≠ []
  := by
  cases cs with
  | nil => contradiction
  | cons c cs =>
    rw [lowerChars, lowerAfter]
    split
    · exact List.cons_ne_nil _ _
    · exact List.append_ne_nil_of_left_ne_nil (lowerChar_ne_nil c) _

/-- The lower-case form of a text ends with that of its end, unless this has a sigma. -/
theorem lowerChars_suffix {ys : List Char} (h : 'σ' ∉ lowerChars ys ∧ 'ς' ∉ lowerChars ys)
    (xs : List Char) :
  lowerChars ys <:+ lowerChars (xs ++ ys)
  := by
  have hnone : 'Σ' ∉ ys := fun hmem => (sigma_mem_lowerAfter hmem []).elim h.1 h.2
  obtain ⟨front, hfront⟩ := exists_lowerAfter_append [] xs ys
  use front
  rw [lowerChars, lowerChars, hfront, lowerAfter_of_no_sigma hnone, lowerAfter_of_no_sigma hnone]

end DocTable.Text
