import DocTable.Proofs.Value.Closed
import DocTable.Proofs.Value.Injective

/-!
# Which values are printed as nothing or as null

A text that has a character which `null` has not is neither empty nor `null`.  The digits of numbers
and dates, the quotes of texts and the brackets of collections are such characters, and so no value
but a text is written as nothing or as `null` (`IsWhole.isDistinctive_plain`), and none but null is
printed so (`IsWhole.isDistinctive_printed`).
-/

namespace DocTable

/-- The text has a character that `null` has not. -/
def IsDistinctive (s : String) : Prop :=
  ∃ c ∈ s.toList, c ∉ ['n', 'u', 'l']

namespace IsDistinctive

variable {s : String}

/-- The empty text is not distinctive, so a distinctive text is another. -/
theorem ne_empty (h : IsDistinctive s) :
  s ≠ ""
  := by
  rintro rfl
  obtain ⟨c, hc, -⟩ := h
  contradiction

/-- Nor is `null` distinctive. -/
theorem ne_null (h : IsDistinctive s) :
  s ≠ "null"
  := by
  rintro rfl
  obtain ⟨c, hc, hnot⟩ := h
  have hnull : "null".toList = ['n', 'u', 'l', 'l'] := rfl
  rw [hnull] at hc
  simp_all

/-- A text that begins with a distinctive one is distinctive. -/
theorem append_left (h : IsDistinctive s) (t : String) :
  IsDistinctive (s ++ t)
  := by
  obtain ⟨c, hc, hnot⟩ := h
  refine ⟨c, ?_, hnot⟩
  rw [String.toList_append]
  exact List.mem_append_left _ hc

end IsDistinctive

/-! ### Scalars -/

/-- An integer begins with a digit or with a sign. -/
theorem isDistinctive_integerText {n : Int} {s : String} (h : integerText n = .ok s) :
  IsDistinctive s
  := by
  obtain rfl := Json.eq_toString_of_integerText h
  obtain ⟨c, cs, htext⟩ := List.exists_cons_of_ne_nil (Json.toString_ne_nil n)
  have hmem : c ∈ (toString n).toList := by
    rw [htext]
    exact List.mem_cons_self
  refine ⟨c, hmem, fun hnull => ?_⟩
  have hnumeral := Json.isNumeral_of_mem_toString hmem
  have hnone : ∀ d ∈ ['n', 'u', 'l'], Json.isNumeral d = false := by simp [Json.isNumeral]
  rw [hnone c hnull] at hnumeral
  contradiction

namespace Decimal

/-- There is a point in every number that is written without an exponent. -/
theorem dot_mem_positional (digits : List Char) (e : Int) :
  '.' ∈ positional digits e
  := by
  unfold positional
  split <;> simp

/-- There is the mark of the exponent in every number that is written with one. -/
theorem mark_mem_scientific (layout : FloatLayout) (digits : List Char) (e : Int) :
  'e' ∈ scientific layout digits e
  := by
  simp [scientific]

/-- A number with a fraction or an exponent has the mark of it. -/
theorem mark_mem_text (layout : FloatLayout) (x : Scaled) :
  '.' ∈ x.text layout ∨ 'e' ∈ x.text layout
  := by
  unfold Scaled.text
  extract_lets all e stripped digits
  split
  · exact .inl (dot_mem_positional digits e)
  · exact .inr (mark_mem_scientific layout digits e)

/-- A floating point number has a point, the mark of an exponent, or one of the words for infinity
and for no number. -/
theorem isDistinctive_floatText (x : Float) :
  IsDistinctive (floatText plainFloats x)
  := by
  unfold IsDistinctive floatText
  rw [String.toList_ofList]
  cases FloatClass.of x with
  | nan => exact ⟨'a', by decide, by decide⟩
  | infinite negative => exact ⟨'i', by cases negative <;> decide, by decide⟩
  | finite negative size =>
    cases size with
    | none => exact ⟨'.', by cases negative <;> decide, by decide⟩
    | some size =>
      obtain hmark | hmark := mark_mem_text plainFloats size.shortest
      · exact ⟨'.', List.mem_append_right _ hmark, by decide⟩
      · exact ⟨'e', List.mem_append_right _ hmark, by decide⟩

end Decimal

/-- A date has hyphens. -/
theorem Date.isDistinctive_text (d : Date) :
  IsDistinctive d.text
  := by
  refine ⟨'-', ?_, by decide⟩
  simp [Date.text]

/-- A moment begins with a date. -/
theorem DateTime.isDistinctive_text (separator : String) (t : DateTime) :
  IsDistinctive (t.text separator)
  := by
  unfold DateTime.text
  exact ((t.date.isDistinctive_text.append_left _).append_left _).append_left _

/-- Bytes are written with a `b` at the front. -/
theorem isDistinctive_bytesLiteral (contents : List UInt8) :
  IsDistinctive (bytesLiteral contents)
  := by
  refine ⟨'b', ?_, by decide⟩
  simp [bytesLiteral]

/-- No opening bracket is a letter of `null`. -/
theorem isDistinctive_bracket {s : String} (h : s ∈ ["[", "(", "\x7b"]) :
  IsDistinctive s
  := by
  simp only [List.mem_cons, List.not_mem_nil, or_false] at h
  obtain rfl | rfl | rfl := h
  · exact ⟨'[', by decide, by decide⟩
  · exact ⟨'(', by decide, by decide⟩
  · exact ⟨'\x7b', by decide, by decide⟩

/-- What is put between brackets is told from `null` by the first of them. -/
theorem isDistinctive_enclosed {opening : String} (h : opening ∈ ["[", "(", "\x7b"])
    (inner closing : String) :
  IsDistinctive (opening ++ inner ++ closing)
  := ((isDistinctive_bracket h).append_left inner).append_left closing

/-- A pair begins with an opening bracket. -/
theorem isDistinctive_pair (opening : String) (h : opening ∈ ["[", "(", "\x7b"])
    (first second closing : String) :
  IsDistinctive (opening ++ first ++ ", " ++ second ++ closing)
  := ((isDistinctive_enclosed h first ", ").append_left second).append_left closing

namespace Value

/-! ### Collections -/

/-- A collection is written between brackets, even where it holds itself. -/
theorem IsCollection.isDistinctive_literal {v : Value} (hv : v.IsCollection)
    {around : List (Nat × String)} {s : String} (h : v.literal around = .ok s) :
  IsDistinctive s
  := by
  cases v with
  | list items | map entries =>
    obtain ⟨texts, -, h⟩ := exists_of_bind_eq_ok h
    obtain rfl := Except.ok.inj h
    exact isDistinctive_enclosed (by simp) _ _
  | pair first second =>
    obtain ⟨text, -, h⟩ := exists_of_bind_eq_ok h
    obtain ⟨text', -, h⟩ := exists_of_bind_eq_ok h
    obtain rfl := Except.ok.inj h
    exact isDistinctive_pair "(" (by simp) text text' ")"
  | _ => exact hv.elim

/-- In JSON too, a collection is written between brackets. -/
theorem IsCollection.isDistinctive_compact {v : Value} (hv : v.IsCollection) {around : List Nat}
    {s : String} (h : Json.compact around v = .ok s) :
  IsDistinctive s
  := by
  cases v with
  | list items | map entries =>
    obtain ⟨texts, -, h⟩ := exists_of_bind_eq_ok h
    obtain rfl := Except.ok.inj h
    exact isDistinctive_enclosed (by simp) _ _
  | pair first second =>
    obtain ⟨text, -, h⟩ := exists_of_bind_eq_ok h
    obtain ⟨text', -, h⟩ := exists_of_bind_eq_ok h
    obtain rfl := Except.ok.inj h
    exact isDistinctive_pair "[" (by simp) text text' "]"
  | _ => exact hv.elim

/-! ### Plain texts and printed tokens -/

/-- A value that is no text is not written as nothing or as `null`. -/
theorem IsWhole.isDistinctive_plain {v : Value} (hv : v.IsWhole) (htext : ∀ s, v ≠ .text s)
    {s : String} (h : v.plain = .ok s) :
  IsDistinctive s
  := by
  cases v with
  | null =>
    obtain rfl := Except.ok.inj h
    exact ⟨'N', by decide, by decide⟩
  | bool b =>
    obtain rfl := Except.ok.inj h
    exact ⟨'e', by cases b <;> decide, by decide⟩
  | int n => exact isDistinctive_integerText h
  | float x =>
    obtain rfl := Except.ok.inj h
    exact Decimal.isDistinctive_floatText x
  | text t => exact absurd rfl (htext t)
  | date d =>
    obtain rfl := Except.ok.inj h
    exact d.isDistinctive_text
  | dateTime t =>
    obtain rfl := Except.ok.inj h
    exact t.isDistinctive_text " "
  | bytes contents =>
    obtain rfl := Except.ok.inj h
    exact isDistinctive_bytesLiteral contents
  | list | pair | map => exact IsCollection.isDistinctive_literal (by trivial) h
  | set items =>
    change (Value.set items).literal [] = .ok s at h
    rw [literal] at h
    split at h
    · obtain rfl := Except.ok.inj h
      exact ⟨'s', by decide, by decide⟩
    · obtain ⟨texts, -, h⟩ := exists_of_bind_eq_ok h
      obtain rfl := Except.ok.inj h
      exact isDistinctive_enclosed (by simp) _ _
  | loop number body => exact IsCollection.isDistinctive_literal (v := body) hv h
  | again number => exact hv.elim

/-- A value other than null is not printed as nothing or as `null`. -/
theorem IsWhole.isDistinctive_printed {v : Value} (hv : v.IsWhole) (hnull : v ≠ .null) {s : String}
    (h : v.printed = .ok s) :
  IsDistinctive s
  := by
  cases v with
  | null => exact absurd rfl hnull
  | bool b =>
    obtain rfl := Except.ok.inj h
    exact ⟨'e', by cases b <;> decide, by decide⟩
  | text t =>
    obtain rfl := Except.ok.inj h
    exact IsDistinctive.append_left (.append_left ⟨'\'', by decide, by decide⟩ t) "'"
  | list | pair | map => exact IsCollection.isDistinctive_compact (by trivial) h
  | loop number body => exact IsCollection.isDistinctive_compact (v := body) hv h
  | _ => exact hv.isDistinctive_plain nofun h

end Value

end DocTable
