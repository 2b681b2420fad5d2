import DocTable.Proofs.Markup.Escape
import DocTable.Proofs.Markup.Tags
import DocTable.Report.Page

/-!
# The tags in the cells

Only the rows and cells of the report have the tags of a table, and only the cells without
documentation have the marker for it.  All other markup of a cell is inline, whatever the texts of
the symbols are, and so is what comes after the body of the table.  The anchor of a cell is all that
has an id.
-/

namespace DocTable

/-- The names of the tags that make up the body of a table. -/
def tableNames : List String :=
  ["tbody", "/tbody", "tr", "/tr", "td", "/td"]

/-- The start tag of the marker for absent documentation. -/
def markerTag : HtmlTag where
  name := "span"
  attributes := [("class", "dt-doc-na")]

/-- The tag is neither one of the table nor that of a marker. -/
def HtmlTag.isInline (tag : HtmlTag) : Bool :=
  !tableNames.contains tag.name && tag ≠ markerTag

/-- The ids that tags give. -/
def tagIds (tags : List HtmlTag) : List String :=
  tags.filterMap (·.attribute? "id")

/-- The ids in a row of tags are those of its parts. -/
theorem tagIds_append (tags tags' : List HtmlTag) :
  tagIds (tags ++ tags') = tagIds tags ++ tagIds tags'
  := List.filterMap_append

/-- The first tag has at most one id. -/
theorem tagIds_cons (tag : HtmlTag) (tags : List HtmlTag) :
  tagIds (tag :: tags) = (tag.attribute? "id").toList ++ tagIds tags
  := by
  rw [tagIds, tagIds, List.filterMap_cons]
  cases tag.attribute? "id" with
  | none => rfl
  | some id => rfl

namespace Markup

variable [Escaping]

/-- Markup without tags of the table and without markers, and with the given ids. -/
def IsInlineWith (ids : List String) (m : Markup) : Prop :=
  ∃ tags, HasTags m tags ∧ (∀ tag ∈ tags, tag.isInline) ∧ tagIds tags = ids

/-- Markup without tags of the table, without markers and without ids. -/
abbrev IsInline (m : Markup) : Prop :=
  IsInlineWith [] m

/-- Nothing is inline. -/
theorem isInline_nil :
  IsInline []
  := ⟨[], hasTags_nil, nofun, rfl⟩

/-- Inline markups in a row have the ids of both. -/
theorem IsInlineWith.append {ids ids' : List String} {m n : Markup} (hm : IsInlineWith ids m)
    (hn : IsInlineWith ids' n) :
  IsInlineWith (ids ++ ids') (m ++ n)
  := by
  obtain ⟨tags, htags, hinline, rfl⟩ := hm
  obtain ⟨tags', htags', hinline', rfl⟩ := hn
  use tags ++ tags', htags.append htags', List.forall_mem_append.mpr ⟨hinline, hinline'⟩
  apply tagIds_append

/-- A text is inline without ids, since it is escaped. -/
theorem isInline_text (s : String) :
  IsInline [.text s]
  := ⟨[], hasTags_text s, nofun, rfl⟩

/-- Every tag of a text ends in it and is inline, and none has an id. -/
def isInlineText (cs : List Char) : Bool :=
  (tagsWithin? cs).any fun tags => tags.all HtmlTag.isInline && tagIds tags = []

/-- A fixed piece is inline if its characters are, which can be computed. -/
theorem isInline_fixed {s : String} {cs : List Char} (hs : String.ofList cs = s)
    (h : isInlineText cs) :
  IsInline [.fixed s]
  := by
  rw [isInlineText, Option.any_eq_true] at h
  obtain ⟨tags, htags, hall⟩ := h
  rw [Bool.and_eq_true, List.all_eq_true, decide_eq_true_iff] at hall
  exact ⟨tags, hasTags_fixed hs htags, hall⟩

/-- A fixed text in two parts, neither of which cuts a tag. -/
theorem IsInline.fixed_append {s t : String} (hs : IsInline [.fixed s]) (ht : IsInline [.fixed t]) :
  IsInline [.fixed (s ++ t)]
  := by
  obtain ⟨tags, htags, hinline, hids⟩ := hs
  obtain ⟨tags', htags', hinline', hids'⟩ := ht
  use tags ++ tags', htags.fixed_append htags', List.forall_mem_append.mpr ⟨hinline, hinline'⟩
  rw [tagIds_append, hids, hids', List.append_nil]

/-- A markup between inline pieces is inline. -/
theorem IsInline.wrap {opening closing : String} {m : Markup} (hopening : IsInline [.fixed opening])
    (hm : IsInline m) (hclosing : IsInline [.fixed closing]) :
  IsInline (wrap opening m closing)
  := (hopening.append hm).append hclosing

/-- Inline markup after a tag that is written from fixed pieces and texts. -/
theorem IsInlineWith.cons {tag : HtmlTag} (htag : tag.IsWritable) (hinline : tag.isInline)
    {ids : List String} {m n : Markup} (hn : IsInlineWith ids n)
    (h : m.toHtml.toList = tag.write.toList ++ n.toHtml.toList) :
  IsInlineWith ((tag.attribute? "id").toList ++ ids) m
  := by
  obtain ⟨tags, htags, hall, rfl⟩ := hn
  use tag :: tags, htags.cons htag h, List.forall_mem_cons.mpr ⟨hinline, hall⟩
  apply tagIds_cons

/-- The HTML of a text is the escaped text. -/
theorem toHtml_text (s : String) :
  toHtml [.text s] = escapeText s
  := by simp [toHtml, Piece.toHtml]

end Markup

/-- The anchor of a cell in a row of the class `owner`. -/
def Cell.anchor? (owner : String) (cell : Cell) : Option String :=
  match cell.role, cell.subject with
  | .namespaceName, .namespaceName name => some name
  | .className, .symbol s => some s.fullName
  | .constant, .member m => some (owner ++ "::" ++ m.name)
  | .property, .member m => some (owner ++ "::" ++ m.name)
  | .method, .member m => some (owner ++ "::" ++ m.name)
  | _, _ => none

namespace Report

open Markup

variable [Escaping]

/-- A markup that may be left out is inline if it is. -/
theorem isInline_onlyIf (condition : Bool) {m : Markup} (hm : IsInline m) :
  IsInline (onlyIf condition m)
  := by
  cases condition with
  | true => exact hm
  | false => exact isInline_nil

/-! ### Spans, divisions and anchors -/

/-- The end of a span is inline. -/
theorem isInline_spanEnd :
  IsInline [.fixed "</span>"]
  := isInline_fixed rfl (by decide)

/-- The end of a division is inline. -/
theorem isInline_divEnd :
  IsInline [.fixed "</div>\n"]
  := isInline_fixed rfl (by decide)

/-- A blank is inline. -/
theorem isInline_blank :
  IsInline [.fixed " "]
  := isInline_fixed rfl (by decide)

/-- A line feed is inline. -/
theorem isInline_lineBreak :
  IsInline [.fixed "\n"]
  := isInline_fixed rfl (by decide)

/-- A span has two tags, if its class has no marks. -/
theorem hasTags_span {styleClass : String} (h : marks styleClass = []) (text : String) :
  HasTags (span styleClass text) [⟨"span", [("class", styleClass)]⟩, ⟨"/span", []⟩]
  := by
  have hwritable : HtmlTag.IsWritable ⟨"span", [("class", styleClass)]⟩ :=
    isWritable_styled (by decide) h
  apply HasTags.cons hwritable (n := [.text text, .fixed "</span>"])
  · apply (hasTags_text text).append (hasTags_fixed rfl _)
    decide
  · simp [span, Markup.wrap, toHtml, HtmlTag.write, writeAttributes, Piece.toHtml]

/-- A span is inline if its class marks no missing text. -/
theorem isInline_span {styleClass : String} (h : marks styleClass = [])
    (hmarker : styleClass ≠ "dt-doc-na") (text : String) :
  IsInline (span styleClass text)
  := by
  refine ⟨[⟨"span", [("class", styleClass)]⟩, ⟨"/span", []⟩], hasTags_span h text, ?_, rfl⟩
  rw [List.forall_mem_cons, List.forall_mem_singleton]
  constructor
  · simp [HtmlTag.isInline, tableNames, markerTag, hmarker]
  · decide

/-- The anchor gives its id. -/
theorem isInlineWith_anchor {id : List Piece} (hid : Markup.marks id = []) {kind : String}
    (hkind : marks kind = []) :
  IsInlineWith [Markup.toHtml id] (anchor id kind)
  := by
  have hfixed : marks "dt-anchor dt-anchor-" = [] := by
    decide
  have hwritable : HtmlTag.IsWritable
      ⟨"span", [("id", Markup.toHtml id), ("class", "dt-anchor dt-anchor-" ++ kind)]⟩ := {
    noBlank := (by decide : ' ' ∉ "span".toList)
    name := (by decide : marks "span" = [])
    attributes := by simp [hfixed, hkind, marks_append, Markup.marks_toHtml, hid] }
  have hend : IsInline [.fixed "</span>\n"] := isInline_fixed rfl (by decide)
  apply IsInlineWith.cons hwritable _ hend
  · simp [anchor, Markup.wrap, toHtml, HtmlTag.write, writeAttributes, Piece.toHtml]
  · simp [HtmlTag.isInline, tableNames, markerTag]

/-- The names of parents or interfaces are inline. -/
theorem isInline_relation {kind word : String} (hkind : marks kind = []) (hword : marks word = [])
    (names : String) :
  IsInline (relation kind word names)
  := by
  have hfixed : marks "dt-class-" = [] := by
    decide
  have hwritable : HtmlTag.IsWritable ⟨"div", [("class", "dt-class-" ++ kind)]⟩ :=
    isWritable_styled (by decide) (by rw [DocTable.marks_append, hfixed, hkind, List.append_nil])
  have hword : IsInline [.fixed word] := by
    refine ⟨[], showsTags_of_not_mem ?_, nofun, rfl⟩
    simpa [toHtml, Piece.toHtml] using not_mem_of_marks_eq_nil hword (c := '<') rfl
  have hopening : IsInline [.fixed "<span class=\"dt-class-modifier\">"] :=
    isInline_fixed rfl (by decide)
  apply IsInlineWith.cons hwritable _
    (((hopening.append hword).append (isInline_spanEnd.append isInline_blank)).append
      ((isInline_text names).append isInline_divEnd))
  · simp [relation, Markup.wrap, toHtml, HtmlTag.write, writeAttributes, Piece.toHtml]
  · simp [HtmlTag.isInline, tableNames, markerTag]

/-- The name of a class with the file of its source. -/
theorem isInline_abbr (sourceFile shortName : String) :
  IsInline [.fixed "<abbr title=\"", .text sourceFile, .fixed "\">", .text shortName,
    .fixed "</abbr>\n</div>\n"]
  := by
  have hwritable : HtmlTag.IsWritable ⟨"abbr", [("title", escapeText sourceFile)]⟩ := {
    noBlank := (by decide : ' ' ∉ "abbr".toList)
    name := (by decide : marks "abbr" = [])
    attributes := by simp [marks_escapeText] }
  have hend : IsInline [.fixed "</abbr>\n</div>\n"] := isInline_fixed rfl (by decide)
  apply IsInlineWith.cons hwritable _ ((isInline_text shortName).append hend)
  · simp [toHtml, HtmlTag.write, writeAttributes, Piece.toHtml]
  · simp [HtmlTag.isInline, tableNames, markerTag]

/-! ### The contents of cells -/

/-- The cell of a namespace has the name for an id. -/
theorem isInlineWith_namespaceMarkup (name : String) :
  IsInlineWith [escapeText name] (namespaceMarkup name)
  := by
  have hopening : IsInline [.fixed "<div class=\"dt-namespace-name\">"] :=
    isInline_fixed rfl (by decide)
  have hclosing : IsInline [.fixed "</div>"] := isInline_fixed rfl (by decide)
  rw [← toHtml_text name]
  exact (isInlineWith_anchor rfl (by decide)).append (hopening.wrap (isInline_text _) hclosing)

/-- The cell of a symbol has its full name for an id. -/
theorem isInlineWith_classMarkup (s : Symbol) :
  IsInlineWith [escapeText s.fullName] (classMarkup s)
  := by
  have hanchor : IsInlineWith [escapeText s.fullName] (anchor [.text s.fullName] "class") := by
    rw [← toHtml_text s.fullName]
    exact isInlineWith_anchor rfl (by decide)
  have hopening : IsInline [.fixed "<div class=\"dt-class-name\">\n"] :=
    isInline_fixed rfl (by decide)
  have hmodifiers : IsInline (span "dt-class-modifier" (" ".intercalate s.modifiers)) :=
    isInline_span (by decide) (by decide) _
  have hkind : IsInline (span "dt-class-kind" s.kind.word) :=
    isInline_span (by decide) (by decide) _
  have hparent : IsInline (relation "extend" "extends" s.parent) :=
    isInline_relation (by decide) (by decide) _
  have hinterfaces : IsInline (relation "interface" "implements" (", ".intercalate s.interfaces)) :=
    isInline_relation (by decide) (by decide) _
  have hname := isInline_abbr s.sourceFile s.shortName
  exact ((((hanchor.append
    (hopening.append (isInline_onlyIf _ (hmodifiers.append isInline_blank)))).append
      (isInline_onlyIf _ (hkind.append isInline_blank))).append hname).append
        (isInline_onlyIf _ hparent)).append (isInline_onlyIf _ hinterfaces)

/-- The anchor of a member has the name of the member, behind that of its owner, for an id. -/
theorem isInlineWith_memberAnchor (owner : String) (m : Member) :
  IsInlineWith [escapeText (owner ++ "::" ++ m.name)] (memberAnchor owner m)
  := by
  have hid : escapeText (owner ++ "::" ++ m.name)
      = toHtml [.text owner, .fixed "::", .text m.name] := by
    have hcolons : escapeText "::" = "::" := escapeText_eq_self (by decide)
    rw [escapeText_append, escapeText_append, hcolons]
    simp [toHtml, Piece.toHtml, String.append_assoc]
  rw [hid]
  apply isInlineWith_anchor
  · rfl
  · cases m.kind <;> decide

/-- The default of a member is inline. -/
theorem isInline_defaultMarkup (m : Member) :
  IsInline (defaultMarkup m)
  := by
  have hequals : IsInline [.fixed " = "] := isInline_fixed rfl (by decide)
  have hvalue : IsInline (span "dt-constant-value" m.defaultText) :=
    isInline_span (by decide) (by decide) _
  have hend : IsInline [.fixed "<span class=\"dt-gray\">;</span>"] :=
    isInline_fixed rfl (by decide)
  exact (isInline_onlyIf _ (hequals.append hvalue)).append hend

/-- The cell of a constant has the id of the constant. -/
theorem isInlineWith_constantMarkup (owner : String) (m : Member) :
  IsInlineWith [escapeText (owner ++ "::" ++ m.name)] (constantMarkup owner m)
  := by
  have hanchor := isInlineWith_memberAnchor owner m
  have hmodifiers : IsInline (span "dt-constant-modifier" (" ".intercalate m.modifiers)) :=
    isInline_span (by decide) (by decide) _
  have hkeyword : IsInline [.fixed "\n<span class=\"dt-constant-keyword\">const</span>\n"] :=
    isInline_fixed rfl (by decide)
  have hname : IsInline (span "dt-constant-name" m.name) :=
    isInline_span (by decide) (by decide) _
  exact ((hanchor.append hmodifiers).append (hkeyword.append hname)).append
    (isInline_defaultMarkup m)

/-- The type of a property or a parameter. -/
theorem isInline_type (condition : Bool) (type : String) :
  IsInline (onlyIf condition (span "dt-param-type" type ++ [.fixed " "]))
  := by
  have htype : IsInline (span "dt-param-type" type) := isInline_span (by decide) (by decide) _
  exact isInline_onlyIf _ (htype.append isInline_blank)

/-- The cell of a property has the id of the property. -/
theorem isInlineWith_propertyMarkup (owner : String) (m : Member) :
  IsInlineWith [escapeText (owner ++ "::" ++ m.name)] (propertyMarkup owner m)
  := by
  have hanchor := isInlineWith_memberAnchor owner m
  have hmodifiers : IsInline (span "dt-constant-modifier" (" ".intercalate m.modifiers)) :=
    isInline_span (by decide) (by decide) _
  have hopening : IsInline [.fixed "<span class=\"dt-constant-name\">$"] :=
    isInline_fixed rfl (by decide)
  have hname := hopening.wrap (isInline_text m.name) isInline_spanEnd
  exact (((hanchor.append hmodifiers).append
    (isInline_lineBreak.append (isInline_type _ m.type))).append hname).append
      (isInline_defaultMarkup m)

/-- A parameter is inline. -/
theorem isInline_parameterMarkup (p : Parameter) (isLast : Bool) :
  IsInline (parameterMarkup p isLast)
  := by
  have hopening : IsInline [.fixed "<div class=\"dt-param-row\">"] :=
    isInline_fixed rfl (by decide)
  have hnameOpening : IsInline [.fixed "<span class=\"dt-param-name\">$"] :=
    isInline_fixed rfl (by decide)
  have hname := hnameOpening.wrap (isInline_text p.name) isInline_spanEnd
  have hdefaultOpening : IsInline [.fixed "<span class=\"dt-param-default\"> = "] :=
    isInline_fixed rfl (by decide)
  have hdefault := hdefaultOpening.wrap (isInline_text p.defaultText) isInline_spanEnd
  have hcomma : IsInline [.fixed "<span class=\"dt-gray\">,</span>"] :=
    isInline_fixed rfl (by decide)
  exact ((((hopening.append (isInline_type _ p.type)).append hname).append
    (isInline_onlyIf _ hdefault)).append (isInline_onlyIf _ hcomma)).append isInline_divEnd

/-- The parameters of a method are inline. -/
theorem isInline_parametersMarkup (ps : List Parameter) :
  IsInline (parametersMarkup ps)
  := by
  induction ps with
  | nil => exact isInline_nil
  | cons p ps ih => exact (isInline_parameterMarkup p ps.isEmpty).append ih

/-- The cell of a method has the id of the method. -/
theorem isInlineWith_methodMarkup (owner : String) (m : Member) :
  IsInlineWith [escapeText (owner ++ "::" ++ m.name)] (methodMarkup owner m)
  := by
  have hanchor := isInlineWith_memberAnchor owner m
  have hmodifiers : IsInline (span "dt-method-modifier" (" ".intercalate m.modifiers)) :=
    isInline_span (by decide) (by decide) _
  have hname : IsInline (span "dt-method-name" m.name) := isInline_span (by decide) (by decide) _
  have hleft : IsInline [.fixed "("] := isInline_fixed rfl (by decide)
  have hright : IsInline [.fixed ")"] := isInline_fixed rfl (by decide)
  have hopening : IsInline [.fixed "<div class=\"dt-param-block\">\n"] :=
    isInline_fixed rfl (by decide)
  have hparameters := hopening.wrap (isInline_parametersMarkup m.parameters) isInline_divEnd
  have hreturnOpening : IsInline [.fixed "<span class=\"dt-method-return\">: "] :=
    isInline_fixed rfl (by decide)
  have hreturn := hreturnOpening.wrap (isInline_text m.type) isInline_spanEnd
  exact (((hanchor.append hmodifiers).append (isInline_lineBreak.append hname)).append
    (hleft.append (isInline_onlyIf _ hparameters))).append
      (hright.append (isInline_onlyIf _ hreturn))

/-- The content of a cell with an anchor is inline and has no other id; a cell without an anchor
shows documentation. -/
theorem contentMarkup_cases (owner : String) (cell : Cell) :
  (∃ id, cell.anchor? owner = some id
      ∧ IsInlineWith [escapeText id] (contentMarkup owner cell))
    ∨ cell.anchor? owner = none
      ∧ contentMarkup owner cell = if cell.isEmpty then notAvailable else [.fixed cell.content]
  := by
  obtain ⟨role, content, rowSpan, colSpan, subject, isEmpty⟩ := cell
  cases role <;> cases subject
  case namespaceName.namespaceName name =>
    exact .inl ⟨_, rfl, isInlineWith_namespaceMarkup name⟩
  case className.symbol s => exact .inl ⟨_, rfl, isInlineWith_classMarkup s⟩
  case constant.member m => exact .inl ⟨_, rfl, isInlineWith_constantMarkup owner m⟩
  case property.member m => exact .inl ⟨_, rfl, isInlineWith_propertyMarkup owner m⟩
  case method.member m => exact .inl ⟨_, rfl, isInlineWith_methodMarkup owner m⟩
  all_goals exact .inr ⟨rfl, rfl⟩

/-- The content of a cell is inline, unless the cell is without documentation. -/
theorem exists_isInlineWith_contentMarkup {cell : Cell} (hempty : cell.isEmpty = false)
    (hcontent : '<' ∉ cell.content.toList) (owner : String) :
  ∃ ids, IsInlineWith ids (contentMarkup owner cell)
  := by
  obtain ⟨id, -, hinline⟩ | ⟨-, hdocs⟩ := contentMarkup_cases owner cell
  · exact ⟨_, hinline⟩
  · rw [hdocs, hempty, if_neg Bool.false_ne_true]
    refine ⟨[], [], showsTags_of_not_mem ?_, nofun, rfl⟩
    simpa [toHtml, Piece.toHtml] using hcontent

/-! ### After the body of the table -/

/-- What stands below the table is inline: it has neither ids nor rows. -/
theorem isInline_tailMarkup (settings : Settings) (making : Making) :
  IsInline (tailMarkup settings making)
  := by
  have hopening : IsInline
      [.fixed "\n    </table>\n\n    <div class=\"dt-footer dt-gray\">\n        "] :=
    isInline_fixed rfl (by decide)
  have hmaker : IsInline [.fixed "<br>\n        Generated by DocTracer v"] :=
    isInline_fixed rfl (by decide)
  have hcreated : IsInline [.fixed " at <span class=\"dt-created\">"] :=
    isInline_fixed rfl (by decide)
  have hfooter : IsInline [.fixed
      "</span>\n    </div>\n    <a class=\"dt-toTop\" href=\"#docTracer\">^Top</a>\n</div>\n"] :=
    isInline_fixed rfl (by decide)
  have hclosing : IsInline [.fixed "</body>\n</html>"] := isInline_fixed rfl (by decide)
  exact ((hopening.append (isInline_text settings.footerText)).append
    (hmaker.append (isInline_text making.version))).append
      ((hcreated.append (isInline_text _)).append (hfooter.fixed_append hclosing))

end Report

end DocTable
