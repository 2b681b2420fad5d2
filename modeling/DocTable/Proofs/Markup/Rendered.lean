import DocTable.Link.Host
import DocTable.Proofs.Markdown.Converter
import DocTable.Proofs.Text.Blank

/-!
# The elements of a comment

What is written for nodes of known elements is HTML of these elements, if the pieces of HTML among
the nodes are (`Written.isElements`).  Blanks at its ends may be left out, so whatever library of
converters is used, the HTML of a comment has known elements and no other tags
(`MarkdownLibrary.render_elements`).
-/

namespace DocTable

/-! ### Nodes -/

/-- What is written for known elements consists of them, if the pieces of HTML do.  The induction is
on the writing, in which an element holds the writing of its content. -/
theorem Written.isElements {marks : List (String × String)}
    (hmarks : ∀ mark ∈ marks, IsReferenceMark mark) {isRaw : String → Prop}
    (hraw : ∀ html, isRaw html → IsElements html.toList) {nodes : List HtmlNode} {html : List Char}
    (h : Written marks nodes html)
    (hmade : HtmlNode.AllMade isRaw (fun _ a => a.1 ∈ attributeNames) nodes) :
  IsElements html
  := by
  induction h with
  | nil => exact .text List.not_mem_nil
  | text hs _ ih => exact (IsElements.text (hs.not_mem hmarks)).append (ih hmade.2)
  | raw _ ih => exact (hraw _ hmade.1).append (ih hmade.2)
  | element horder hopening _ _ ihcontent ih =>
    obtain ⟨⟨htag, hattributes, hcontent⟩, hrest⟩ := hmade
    refine (isElements_elementHtml htag (fun written hwritten => ?_) (ihcontent hcontent)).append
      (ih hrest)
    obtain ⟨a, ha, hattribute⟩ := exists_attribute_of_mem horder hopening hwritten
    exact hattribute.isAttribute hmarks (hattributes a ha)

/-- A block of code has no pieces of HTML in it. -/
theorem allMade_codeBlock {attributes inner : List (String × String)}
    (hattributes : ∀ a ∈ attributes, isCodeAttribute a) (hinner : ∀ a ∈ inner, isCodeAttribute a)
    (code : String) :
  HtmlNode.AllMade (fun _ => False) (fun _ => isCodeAttribute)
    [.codeBlock attributes inner code]
  := ⟨⟨by decide, hattributes, ⟨by decide, hinner, trivial, trivial⟩, trivial⟩, trivial⟩

/-- The attributes of a block of code are known. -/
theorem mem_attributeNames_of_isCodeAttribute {a : String × String} (h : isCodeAttribute a) :
  a.1 ∈ attributeNames
  := by
  obtain h | h := h
  · rw [h]
    decide
  · rw [h]
    decide

/-- A block of code consists of two known elements. -/
theorem IsCodeBlock.isElements {html : String} (h : IsCodeBlock html) :
  IsElements html.toList
  := by
  obtain ⟨attributes, inner, code, hattributes, hinner, hwritten⟩ := h
  have hnone : ∀ mark ∈ ([] : List (String × String)), IsReferenceMark mark := nofun
  have hmade := allMade_codeBlock hattributes hinner code
  apply hwritten.isElements hnone fun _ => False.elim
  exact hmade.imp fun _ _ => mem_attributeNames_of_isCodeAttribute

/-! ### Comments -/

/-- Without the blanks at its ends, HTML of known elements still is, since no tag begins or ends
with a blank. -/
theorem IsElements.trim {cs : List Char} (h : IsElements cs) :
  IsElements (Text.trim cs)
  := by
  obtain ⟨before, after, htrim, hbefore, hafter⟩ := Text.exists_trim cs
  rw [htrim] at h
  have hstart := h.of_append_right (Text.not_mem_of_allBlank hafter (by decide))
  exact hstart.of_append_left (Text.not_mem_of_allBlank hbefore (by decide))

/-- The HTML of a comment consists of texts and of elements with names and attributes from closed
lists, and every less-than sign in it begins the start tag or the end tag of one. -/
theorem MarkdownLibrary.render_elements {library : MarkdownLibrary} (h : library.IsDocumented)
    (isHost : List Char → Bool) (text : String) :
  IsElements (library.render isHost text).toList ∧ BeginsTags (library.render isHost text).toList
  := by
  obtain ⟨marks, nodes, html, hmarks, hnodes, hwritten, hhtml⟩ := h.exists_written isHost text
  have helements : IsElements html :=
    hwritten.isElements hmarks (fun _ => IsCodeBlock.isElements) (hnodes.imp fun _ _ ha => ha.1)
  rw [hhtml]
  exact ⟨helements.trim, helements.trim.beginsTags⟩

/-- A tag in a comment is shown as text, in fenced code too. -/
theorem render_elements_script :
  let text := "<b>*x*\n\n```\n<i>\n```"
  let html := "<p>&lt;b&gt;<em>x</em></p>\n<pre><code>&lt;i&gt;\n</code></pre>"
  Markdown.library.IsDocumented ∧ Markdown.library.render Link.isHost text = html
    ∧ IsElements html.toList ∧ BeginsTags html.toList
  := by
  intro text html
  have hlibrary := Markdown.isDocumented_library
  have hrender : Markdown.library.render Link.isHost text = html := by decide +kernel
  have helements := MarkdownLibrary.render_elements hlibrary Link.isHost text
  rw [hrender] at helements
  exact ⟨hlibrary, hrender, helements⟩

end DocTable
