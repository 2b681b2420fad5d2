import DocTable.Markup.Escape
import Mathlib.Logic.Function.Basic
import Mathlib.Tactic.SplitIfs

/-!
# Escaping is faithful

An escaped text is read back: each of the five character references stands for its character, and
no other ampersand is left.
-/

namespace DocTable

/-- The text that an escaped text stands for. -/
def unescapeChars : List Char → List Char
  | '&' :: 'a' :: 'm' :: 'p' :: ';' :: cs => '&' :: unescapeChars cs
  | '&' :: 'l' :: 't' :: ';' :: cs => '<' :: unescapeChars cs
  | '&' :: 'g' :: 't' :: ';' :: cs => '>' :: unescapeChars cs
  | '&' :: '#' :: '3' :: '9' :: ';' :: cs => '\x27' :: unescapeChars cs
  | '&' :: '#' :: '3' :: '4' :: ';' :: cs => '\x22' :: unescapeChars cs
  | c :: cs => c :: unescapeChars cs
  | [] => []

theorem unescapeChars_cons {c : Char} (hc : c ≠ '&') (cs : List Char) :
  unescapeChars (c :: cs) = c :: unescapeChars cs
  := by
  rw [unescapeChars.eq_def]
  split <;> simp_all

/-- An escaped character is read as the character, whatever comes after it. -/
theorem unescapeChars_escapeChar (c : Char) (cs : List Char) :
  unescapeChars (escapeChar c ++ cs) = c :: unescapeChars cs
  := by
  unfold escapeChar
  split_ifs with hamp hless hgreater hsingle hdouble
  case neg => exact unescapeChars_cons hamp cs
  all_goals
    subst_vars
    simp [unescapeChars]

/-- An escaped text is read as the text. -/
theorem unescapeChars_flatMap (s : List Char) :
  unescapeChars (s.flatMap escapeChar) = s
  := by
  induction s with
  | nil => rfl
  | cons c s ih => rw [List.flatMap_cons, unescapeChars_escapeChar, ih]

variable [Escaping]

theorem unescapeChars_escapeText (s : String) :
  unescapeChars (escapeText s).toList = s.toList
  := by
  rw [escapeText_eq, String.toList_ofList, unescapeChars_flatMap]

/-- A text without characters that have a meaning in HTML is written as it is. -/
theorem escapeText_eq_self {s : String} (h : s.toList.flatMap escapeChar = s.toList) :
  escapeText s = s
  := by
  rw [escapeText_eq, h, String.ofList_toList]

theorem escapeText_injective :
  Function.Injective escapeText
  := by
  intro s t h
  apply String.toList_inj.mp
  rw [← unescapeChars_escapeText, h, unescapeChars_escapeText]

theorem escapeText_append (s t : String) :
  escapeText (s ++ t) = escapeText s ++ escapeText t
  := by
  rw [escapeText_eq, String.toList_append, List.flatMap_append, String.ofList_append, escapeText_eq,
    escapeText_eq]

end DocTable
