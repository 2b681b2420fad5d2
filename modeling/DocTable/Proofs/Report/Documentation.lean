import DocTable.DocBlock.Markup
import DocTable.Markup.Plain
import DocTable.Proofs.Report.Anchors

/-!
# The ids of documentation

What is written for a documentation block has no ids but those of its free texts, and a plain text
has none.
-/

namespace DocTable

open Markup

variable [Escaping]

namespace Markup

/-- The ids of a markup are those of its HTML, however its pieces are cut. -/
theorem HasIds.congr {m n : Markup} {ids : List String} (hn : HasIds n ids)
    (h : m.toHtml.toList = n.toHtml.toList) :
  HasIds m ids
  := by
  obtain ⟨tags, htags, hids⟩ := hn
  exact ⟨tags, htags.congr h, hids⟩

/-- What is written for a markup, as a fixed text. -/
theorem HasIds.fixed {m : Markup} {ids : List String} (h : HasIds m ids) :
  HasIds [.fixed m.toHtml] ids
  := h.congr (by simp [toHtml, Piece.toHtml])

/-- Markups without ids have none between separators either. -/
theorem HasIds.join {separator : String} (hseparator : HasIds [.fixed separator] [])
    {ms : List Markup} (h : ∀ m ∈ ms, HasIds m []) :
  HasIds (join separator ms) []
  := by
  induction ms with
  | nil => exact hasIds_nil
  | cons m ms ih =>
    rw [List.forall_mem_cons] at h
    cases ms with
    | nil => exact h.1
    | cons next ms => exact h.1.append (hseparator.append (ih h.2))

/-- An element whose start tag has only a style class. -/
theorem HasIds.element {tag : HtmlTag} (htag : tag.IsWritable) (hid : tag.attribute? "id" = none)
    {m n : Markup} (hn : HasIds n [])
    (h : m.toHtml.toList = tag.write.toList ++ n.toHtml.toList) :
  HasIds m []
  := by
  obtain ⟨tags, htags, hids⟩ := hn
  refine ⟨tag :: tags, htags.cons htag h, ?_⟩
  rw [tagIds_cons, hid, hids]
  rfl

end Markup

/-- A text that is shown as it is has no ids, since its marks are escaped. -/
theorem hasIds_plainHtml (s : String) :
  HasIds [.fixed (plainHtml s)] []
  := by
  apply HasIds.fixed
  apply HasIds.join (hasIds_fixed rfl (by decide))
  intro m hm
  obtain ⟨line, -, rfl⟩ := List.mem_map.mp hm
  apply hasIds_text

/-- The types of a tag have no ids. -/
theorem hasIds_typesMarkup (types : List String) :
  HasIds (typesMarkup types) []
  := by
  apply HasIds.join (hasIds_fixed rfl (by decide))
  intro m hm
  obtain ⟨type, -, rfl⟩ := List.mem_map.mp hm
  exact (hasIds_fixed rfl (by decide)).wrap (hasIds_text type)
    (hasIds_fixed rfl (by decide))

/-- A cell of a tag has no ids but those of its content. -/
theorem hasIds_tagCell (role : String) (hrole : marks role = []) {content : Markup}
    (h : HasIds content []) :
  HasIds (tagCell role content) []
  := by
  have hfixed : marks "dt-doc-tag-" = [] := by
    decide
  have hwritable : HtmlTag.IsWritable ⟨"td", [("class", "dt-doc-tag-" ++ role)]⟩ :=
    isWritable_styled (by decide) (by rw [DocTable.marks_append, hfixed, hrole, List.append_nil])
  apply HasIds.element hwritable rfl (n := content ++ [.fixed "</td>"])
  · exact h.append (hasIds_fixed rfl (by decide))
  · simp [tagCell, Markup.wrap, toHtml, HtmlTag.write, writeAttributes, Piece.toHtml]

/-- The row of a tag has no ids. -/
theorem hasIds_row (tag : Tag) :
  HasIds tag.row []
  := by
  have hopening : HasIds [.fixed "<tr>"] [] := hasIds_fixed rfl (by decide)
  have hclosing : HasIds [.fixed "</tr>"] [] := hasIds_fixed rfl (by decide)
  have hat : HasIds [.fixed "@"] [] := hasIds_fixed rfl (by decide)
  have hname : HasIds (tagCell "name" [.fixed "@", .text tag.name]) [] :=
    hasIds_tagCell _ (by decide) (hat.append (hasIds_text tag.name))
  unfold Tag.row
  apply hopening.wrap _ hclosing
  apply hname.append
  cases tag with
  | param tag =>
    have htype := hasIds_tagCell "type" (by decide) (hasIds_typesMarkup tag.types)
    have hvariable := hasIds_tagCell "variable" (by decide) (hasIds_text tag.signature)
    exact (htype.append hvariable).append
      (hasIds_tagCell _ (by decide) (hasIds_text tag.description))
  | typed tag =>
    have htype := hasIds_tagCell "type" (by decide) (hasIds_typesMarkup tag.types)
    exact htype.append (hasIds_tagCell _ (by decide) (hasIds_text tag.description))
  | generic tag => exact hasIds_tagCell _ (by decide) (hasIds_text tag.rendered)

namespace DocBlock

/-- The table of the tags of one kind has no ids. -/
theorem hasIds_tagTable (kind : String) (tags : List Tag) :
  HasIds (tagTable kind tags) []
  := by
  have hfixed : marks "dt-doc-tags-table dt-tags-table-" = [] := by
    decide
  have hwritable : HtmlTag.IsWritable
      ⟨"table", [("class", "dt-doc-tags-table dt-tags-table-" ++ escapeText kind)]⟩ :=
    isWritable_styled (by decide)
      (by rw [DocTable.marks_append, hfixed, marks_escapeText, List.append_nil])
  have hrows : HasIds (tags.flatMap Tag.row) [] := by
    have h : HasIds _ (tags.flatMap fun _ => []) := .flatMap fun tag _ => hasIds_row tag
    rwa [List.flatMap_eq_nil_iff.mpr fun _ _ => rfl] at h
  apply HasIds.element hwritable rfl (n := tags.flatMap Tag.row ++ [.fixed "</table>"])
  · exact hrows.append (hasIds_fixed rfl (by decide))
  · simp [tagTable, Markup.toHtml, HtmlTag.write, writeAttributes, Piece.toHtml]

/-- Only the free texts of a block may bring ids. -/
theorem hasIds_toHtml {textHtml : String → String} (h : ∀ s, HasIds [.fixed (textHtml s)] [])
    (block : DocBlock) :
  HasIds [.fixed (block.toHtml textHtml)] []
  := by
  apply HasIds.fixed
  rw [toMarkup]
  split
  · exact hasIds_nil
  · have hclosing : HasIds [.fixed "</div>"] [] := hasIds_fixed rfl (by decide)
    have hsummary : HasIds [.fixed "<div class=\"dt-doc-summary\">"] [] :=
      hasIds_fixed rfl (by decide)
    have hdescription : HasIds [.fixed "<div class=\"dt-doc-description\">"] [] :=
      hasIds_fixed rfl (by decide)
    have htags : HasIds (block.tags.entries.flatMap fun e => tagTable e.1 e.2) [] := by
      have h : HasIds _ (block.tags.entries.flatMap fun _ => []) :=
        .flatMap fun e _ => hasIds_tagTable e.1 e.2
      rwa [List.flatMap_eq_nil_iff.mpr fun _ _ => rfl] at h
    refine ((hsummary.wrap (h block.summary) hclosing).append (?_ : HasIds _ [])).append htags
    split
    · exact hasIds_nil
    · exact hdescription.wrap (h block.description) hclosing

end DocBlock

end DocTable
