import DocTable.Markup.Entities
import DocTable.Proofs.Markup.Escape
import DocTable.Proofs.Markup.Tags
import DocTable.Proofs.Text.Lines

/-!
# Plain texts are read back

The HTML of a plain text is its escaped lines with breaks between them (`toList_plainHtml`).  An
escaped line has no `<` in it, and so each `<` of the HTML is that of a break.  The lines are read
back from the pieces between the breaks (`readPlain_plainHtml`).
-/

namespace DocTable

open Text

/-- The lines that the HTML of a plain text shows: it is cut at its breaks, and the character
references of each piece are resolved. -/
def readPlain (html : String) : List (List Char) :=
  (splitOnText "<br>\n".toList html.toList).map unescapeChars

/-! ### What is written -/

theorem Markup.toList_toHtml_join [Escaping] (separator : String) (ms : List Markup) :
  (join separator ms).toHtml.toList = separator.toList.intercalate (ms.map fun m => m.toHtml.toList)
  := by
  induction ms with
  | nil => rfl
  | cons m ms ih =>
    cases ms with
    | nil => rw [join, List.map_singleton, List.intercalate_singleton]
    | cons next ms =>
      simp only [toList_toHtml, join, List.flatMap_append, List.flatMap_cons, Piece.toHtml,
        List.map_cons, List.intercalate_cons_cons, List.append_assoc] at ih ⊢
      rw [ih]

/-- The escaped lines of a text. -/
def escapedLines (s : String) : List (List Char) :=
  (splitLines s.toList).map (·.flatMap escapeChar)

theorem not_mem_of_mem_escapedLines {s : String} :
  ∀ line ∈ escapedLines s, '<' ∉ line
  := by
  intro _ hline
  obtain ⟨line, -, rfl⟩ := List.mem_map.mp hline
  intro hmem
  exact List.filter_eq_nil_iff.mp (filter_isMark_flatMap line) '<' hmem rfl

theorem map_unescapeChars_escapedLines (s : String) :
  (escapedLines s).map unescapeChars = splitLines s.toList
  := by
  rw [escapedLines, List.map_map]
  conv_rhs => rw [← List.map_id (splitLines s.toList)]
  congr 1
  funext line
  apply unescapeChars_flatMap

/-- A plain text is written as its escaped lines, with breaks between them. -/
theorem toList_plainHtml [Escaping] (s : String) :
  (plainHtml s).toList = "<br>\n".toList.intercalate (escapedLines s)
  := by
  rw [plainHtml, Markup.ofPlain, Markup.toList_toHtml_join, List.map_map, escapedLines]
  congr 2
  funext line
  simp [Markup.toHtml, Piece.toHtml, escapeText_eq]

/-! ### Breaks -/

theorem mem_openings (before after : List Char) :
  after ∈ openings (before ++ '<' :: after)
  := by
  rw [openings_append, openings, if_pos rfl]
  apply List.mem_append_right _ List.mem_cons_self

/-- Where pieces without `<` are joined by a separator that begins with it, the rest of the
separator follows each `<`. -/
theorem isPrefix_of_mem_openings {tail : List Char} (htail : '<' ∉ tail) {pieces : List (List Char)}
    (hpieces : ∀ piece ∈ pieces, '<' ∉ piece) :
  ∀ opening ∈ openings (('<' :: tail).intercalate pieces), tail <+: opening
  := by
  induction pieces with
  | nil => exact nofun
  | cons piece pieces ih =>
    rw [List.forall_mem_cons] at hpieces
    cases pieces with
    | nil =>
      rw [List.intercalate_singleton, openings_of_not_mem hpieces.1]
      exact nofun
    | cons next pieces =>
      intro opening hopening
      rw [List.intercalate_cons_cons, List.append_assoc, openings_append,
        openings_of_not_mem hpieces.1, List.map_nil, List.nil_append, List.cons_append, openings,
        if_pos rfl, openings_append, openings_of_not_mem htail, List.map_nil, List.nil_append]
        at hopening
      obtain rfl | hopening := List.mem_cons.mp hopening
      · apply List.prefix_append
      · apply ih hpieces.2 opening hopening

/-- Each `<` in the HTML of a plain text begins a break. -/
theorem isPrefix_of_plainHtml_eq [Escaping] {s : String} {before after : List Char}
    (h : (plainHtml s).toList = before ++ '<' :: after) :
  "br>\n".toList <+: after
  := by
  have hopening := h ▸ mem_openings before after
  rw [toList_plainHtml] at hopening
  apply isPrefix_of_mem_openings (by decide) not_mem_of_mem_escapedLines after hopening

/-! ### Reading -/

/-- The lines of a text are read back from its HTML. -/
theorem readPlain_plainHtml [Escaping] {s : String} (h : s ≠ "") :
  readPlain (plainHtml s) = splitLines s.toList
  := by
  have hne : escapedLines s ≠ [] := by
    rw [escapedLines, ne_eq, List.map_eq_nil_iff]
    exact splitLines_ne_nil (mt String.toList_eq_nil_iff.mp h)
  have hcut : splitOnText "<br>\n".toList ("<br>\n".toList.intercalate (escapedLines s))
      = escapedLines s :=
    splitOnText_intercalate hne not_mem_of_mem_escapedLines "br>\n".toList
  rw [readPlain, toList_plainHtml, hcut, map_unescapeChars_escapedLines]

/-- Plain texts survive in their HTML.  The lines of a text that is not empty are read back from it,
each `<` in it begins a break, and so two such texts are shown alike just when they have the same
lines. -/
theorem plainHtml_keepsLines [Escaping] {s : String} (hs : s ≠ "") :
  readPlain (plainHtml s) = splitLines s.toList
    ∧ (∀ before after, (plainHtml s).toList = before ++ '<' :: after → "br>\n".toList <+: after)
    ∧ ∀ t, t ≠ "" → (plainHtml s = plainHtml t ↔ splitLines s.toList = splitLines t.toList)
  := by
  refine ⟨readPlain_plainHtml hs, fun before after h => isPrefix_of_plainHtml_eq h,
    fun t ht => ⟨fun h => ?_, fun h => ?_⟩⟩
  · rw [← readPlain_plainHtml hs, ← readPlain_plainHtml ht, h]
  · rw [← String.toList_inj, toList_plainHtml, toList_plainHtml, escapedLines, escapedLines, h]

/-- A text with a break in it that looks like one in HTML, with blank lines and with a last break
that ends no further line. -/
theorem plainHtml_keepsLines_breaks :
  let s := "a <br>\n\x85&lt;\r\n"
  let t := "a <br>\r\x0b&lt;"
  s ≠ "" ∧ t ≠ ""
    ∧ plainHtml s = "a &lt;br&gt;<br>\n<br>\n&amp;lt;"
    ∧ readPlain (plainHtml s) = ["a <br>".toList, [], "&lt;".toList]
    ∧ plainHtml s = plainHtml t
    ∧ ∃ before after, (plainHtml s).toList = before ++ '<' :: after ∧ "br>\n".toList <+: after
  := by
  intro s t
  have hs : s ≠ "" := by decide
  have ht : t ≠ "" := by decide
  have hhtml : plainHtml s = "a &lt;br&gt;<br>\n<br>\n&amp;lt;" := by decide
  have hlines : splitLines s.toList = ["a <br>".toList, [], "&lt;".toList] := by decide
  have hsame : splitLines s.toList = splitLines t.toList := by decide
  obtain ⟨hread, hbreaks, halike⟩ := plainHtml_keepsLines hs
  have hplace : (plainHtml s).toList
      = "a &lt;br&gt;".toList ++ '<' :: "br>\n<br>\n&amp;lt;".toList := by
    rw [hhtml]
    decide
  exact ⟨hs, ht, hhtml, hread.trans hlines, (halike t ht).mpr hsame, _, _, hplace,
    hbreaks _ _ hplace⟩

end DocTable
