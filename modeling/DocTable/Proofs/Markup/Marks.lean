import DocTable.Markup.Plain
import Mathlib.Data.List.Basic

/-!
# Marks

The marks of a text are the characters by which HTML tells tags and the values of attributes from
text.  An escaped text has none, so that the marks of what is written for a markup are those of its
fixed pieces.
-/

namespace DocTable

/-- A character that begins or ends a tag or the value of an attribute. -/
def isMark (c : Char) : Bool :=
  c = '<' || c = '>' || c = '\x22' || c = '\x27'

/-- The marks of a text, in order. -/
def marks (s : String) : List Char :=
  s.toList.filter isMark

/-- The marks of a markup are those of its parts. -/
theorem marks_append (s t : String) :
  marks (s ++ t) = marks s ++ marks t
  := by
  rw [marks, String.toList_append, List.filter_append, marks, marks]

/-- An escaped character has no marks. -/
theorem filter_isMark_escapeChar (c : Char) :
  (escapeChar c).filter isMark = []
  := by
  unfold escapeChar
  split_ifs with hamp hless hgreater hsingle hdouble
  case neg => simp [isMark, hless, hgreater, hsingle, hdouble]
  all_goals rfl

/-- Escaped characters have no marks. -/
theorem filter_isMark_flatMap (cs : List Char) :
  (cs.flatMap escapeChar).filter isMark = []
  := by
  rw [List.filter_flatMap]
  simp only [filter_isMark_escapeChar]
  simp

/-- An escaped text has no marks. -/
theorem marks_escapeText [Escaping] (s : String) :
  marks (escapeText s) = []
  := by
  rw [marks, escapeText_eq, String.toList_ofList, filter_isMark_flatMap]

namespace Markup

/-- The marks of the fixed pieces of a markup. -/
def marks (m : Markup) : List Char :=
  m.flatMap fun
    | .fixed s => DocTable.marks s
    | .text _ => []

/-- Nothing has no marks. -/
@[simp]
theorem marks_nil :
  marks [] = []
  := rfl

/-- A fixed piece has its own marks. -/
@[simp]
theorem marks_fixed (s : String) (m : Markup) :
  marks (.fixed s :: m) = DocTable.marks s ++ m.marks
  := rfl

/-- A text has no marks, since it is escaped. -/
@[simp]
theorem marks_text (s : String) (m : Markup) :
  marks (.text s :: m) = m.marks
  := rfl

/-- The marks of a markup are those of its parts. -/
@[simp]
theorem marks_append (m n : Markup) :
  marks (m ++ n) = m.marks ++ n.marks
  := List.flatMap_append

/-- What stands around a markup adds its marks on either side. -/
@[simp]
theorem marks_wrap (opening closing : String) (m : Markup) :
  (wrap opening m closing).marks = DocTable.marks opening ++ m.marks ++ DocTable.marks closing
  := by
  simp [wrap]

/-- The marks of a markup that is made of a list are those for each element. -/
@[simp]
theorem marks_flatMap {α : Type} (f : α → Markup) (xs : List α) :
  marks (xs.flatMap f) = xs.flatMap fun x => (f x).marks
  := List.flatMap_assoc

/-- Separators stand with their marks between those of the markups. -/
theorem marks_join (separator : String) (ms : List Markup) :
  (join separator ms).marks = (DocTable.marks separator).intercalate (ms.map marks)
  := by
  induction ms with
  | nil => rfl
  | cons m ms ih =>
    cases ms with
    | nil => simp [join]
    | cons m' ms => simp [join, ih, List.intercalate]

/-- The HTML of a markup is that of its pieces, one after another. -/
theorem toList_toHtml [Escaping] (m : Markup) :
  m.toHtml.toList = m.flatMap fun piece => piece.toHtml.toList
  := by
  rw [toHtml, String.toList_join, List.flatMap_map]

/-- The HTML of a markup is that of its parts. -/
theorem toHtml_append [Escaping] (m n : Markup) :
  (m ++ n).toHtml = m.toHtml ++ n.toHtml
  := by
  rw [toHtml, List.map_append, String.join_append, toHtml, toHtml]

/-- The marks of what is written are those of the fixed pieces. -/
theorem marks_toHtml [Escaping] (m : Markup) :
  DocTable.marks m.toHtml = m.marks
  := by
  rw [DocTable.marks, toList_toHtml, List.filter_flatMap, marks]
  congr 1
  funext piece
  cases piece with
  | fixed s => rfl
  | text s => exact marks_escapeText s

/-- The lines of a plain text are told apart by their number alone. -/
theorem marks_ofPlain (s : String) :
  (ofPlain s).marks
    = (DocTable.marks "<br>\n").intercalate
        (List.replicate (Text.splitLines s.toList).length [])
  := by
  rw [ofPlain, marks_join, List.map_map, ← List.map_const']
  rfl

end Markup

end DocTable
