import DocTable.Proofs.Markup.Elements
import DocTable.Proofs.Markup.Tags
import Mathlib.Data.List.Forall2

/-!
# What converters write

A converter for comments is documented to make known elements only, with known attributes, and to
escape the texts in them and the values of these attributes (`Converter.IsDocumented`).  Blocks of
code it may write by itself, escaped in the same way, and in the places of marks it writes character
references.  A library makes such converters if the steps for raw HTML are left out
(`MarkdownLibrary.IsDocumented`).

`Spelled` says what may be written for a text, `WrittenAttribute` for an attribute and `Written` for
some nodes.  An attribute that is written is one word of its tag, and is read with its name and with
its value as it is written (`WrittenAttribute.exists_word`).
-/

namespace DocTable

/-! ### Writing -/

/-- The characters that are escaped, with the names of the references that are written for them. -/
def escapeNames : List (Char × String) :=
  [('&', "amp"), ('<', "lt"), ('>', "gt"), ('\x22', "quot")]

/-- What may be written for a text with marks.  An ampersand need not be escaped, since it may begin
a character reference, and a quotation mark only in the value of an attribute. -/
inductive Spelled (marks : List (String × String)) (inValue : Bool) :
    List Char → List Char → Prop where
  | nil : Spelled marks inValue [] []
  | char {c : Char} (hless : c ≠ '<') (hgreater : c ≠ '>') (hquote : inValue → c ≠ '\x22')
      {cs written : List Char} (rest : Spelled marks inValue cs written) :
      Spelled marks inValue (c :: cs) (c :: written)
  | escaped {c : Char} {name : String} (hname : (c, name) ∈ escapeNames)
      {cs written : List Char} (rest : Spelled marks inValue cs written) :
      Spelled marks inValue (c :: cs) ('&' :: name.toList ++ [';'] ++ written)
  | mark {mark : String × String} (hmark : mark ∈ marks)
      {cs written : List Char} (rest : Spelled marks inValue cs written) :
      Spelled marks inValue (mark.1.toList ++ cs) (mark.2.toList ++ written)

/-- What may be written for an attribute.  A value that is the name of its attribute may be left
out. -/
inductive WrittenAttribute (marks : List (String × String)) (a : String × String) :
    List Char → Prop where
  | pair {value : List Char} (hvalue : Spelled marks true a.2.toList value) :
      WrittenAttribute marks a (' ' :: (a.1.toList ++ '=' :: '\x22' :: value ++ ['\x22']))
  | name (hvalue : Spelled marks true a.2.toList a.1.toList) :
      WrittenAttribute marks a (' ' :: a.1.toList)

/-- What may be written for some nodes.  Attributes may change places. -/
inductive Written (marks : List (String × String)) : List HtmlNode → List Char → Prop where
  | nil : Written marks [] []
  | text {s : String} {written : List Char} (hs : Spelled marks false s.toList written)
      {nodes : List HtmlNode} {rest : List Char} (hrest : Written marks nodes rest) :
      Written marks (.text s :: nodes) (written ++ rest)
  | raw {html : String} {nodes : List HtmlNode} {rest : List Char}
      (hrest : Written marks nodes rest) :
      Written marks (.raw html :: nodes) (html.toList ++ rest)
  | element {tag : String} {attributes ordered : List (String × String)}
      (horder : ordered.Perm attributes) {opening : List (List Char)}
      (hopening : List.Forall₂ (WrittenAttribute marks) ordered opening)
      {content : List HtmlNode} {inner : List Char} (hcontent : Written marks content inner)
      {nodes : List HtmlNode} {rest : List Char} (hrest : Written marks nodes rest) :
      Written marks (.element tag attributes content :: nodes)
        (elementHtml tag opening inner ++ rest)

/-! ### Documents -/

namespace HtmlNode

section

variable (isRaw : String → Prop) (isAttribute : String → String × String → Prop)

mutual

/-- A node of known elements, with certain pieces of HTML and certain attributes. -/
def IsMade : HtmlNode → Prop
  | text _ => True
  | raw html => isRaw html
  | element tag attributes content =>
    tag ∈ closedNames ++ voidNames ∧ (∀ a ∈ attributes, isAttribute tag a) ∧ AllMade content

/-- Nodes of known elements, with certain pieces of HTML and certain attributes. -/
def AllMade : List HtmlNode → Prop
  | [] => True
  | node :: nodes => node.IsMade ∧ AllMade nodes

end

end

section

variable {isRaw : String → Prop} {isAttribute isAttribute' : String → String × String → Prop}

/-- Nodes in a row are of the known kind if those before and those after are. -/
theorem allMade_append {before after : List HtmlNode} :
  AllMade isRaw isAttribute (before ++ after)
    ↔ AllMade isRaw isAttribute before ∧ AllMade isRaw isAttribute after
  := by
  induction before with
  | nil => simp [AllMade]
  | cons node before ih => rw [List.cons_append, AllMade, AllMade, ih, and_assoc]

mutual

theorem IsMade.imp (himp : ∀ tag a, isAttribute tag a → isAttribute' tag a) :
    ∀ {node : HtmlNode}, node.IsMade isRaw isAttribute → node.IsMade isRaw isAttribute'
  | text _, _ => trivial
  | raw _, h => h
  | element tag _ _, ⟨htag, hattributes, hcontent⟩ =>
    ⟨htag, fun a ha => himp tag a (hattributes a ha), hcontent.imp himp⟩

/-- The attributes may be more than is known of them. -/
theorem AllMade.imp (himp : ∀ tag a, isAttribute tag a → isAttribute' tag a) :
    ∀ {nodes : List HtmlNode}, AllMade isRaw isAttribute nodes → AllMade isRaw isAttribute' nodes
  | [], _ => trivial
  | _ :: _, ⟨hnode, hnodes⟩ => ⟨hnode.imp himp, hnodes.imp himp⟩

end

variable (isHost : List Char → Bool)

mutual

theorem IsMade.safe : ∀ {node : HtmlNode}, node.IsMade isRaw isAttribute →
    (node.safe isHost).IsMade isRaw
      fun tag a => isAttribute tag a ∧ isSafeAttribute isHost tag a
  | text _, _ => trivial
  | raw _, h => h
  | element tag attributes content, ⟨htag, hattributes, hcontent⟩ => by
    refine ⟨htag, fun a ha => ?_, hcontent.safeAll⟩
    obtain ⟨hmem, hsafe⟩ := List.mem_filter.mp ha
    exact ⟨hattributes a hmem, hsafe⟩

/-- Without unsafe targets, all attributes are safe. -/
theorem AllMade.safeAll : ∀ {nodes : List HtmlNode}, AllMade isRaw isAttribute nodes →
    AllMade isRaw (fun tag a => isAttribute tag a ∧ isSafeAttribute isHost tag a)
      (HtmlNode.safeAll isHost nodes)
  | [], _ => trivial
  | _ :: _, ⟨hnode, hnodes⟩ => ⟨hnode.safe, hnodes.safeAll⟩

end

end

/-- A block of code with some attributes. -/
def codeBlock (attributes inner : List (String × String)) (code : String) : HtmlNode :=
  element "pre" attributes [element "code" inner [text code]]

end HtmlNode

/-- An attribute of a block of code: its name or its classes. -/
def isCodeAttribute (a : String × String) : Prop :=
  a.1 = "id" ∨ a.1 = "class"

/-- The HTML of a block of code. -/
def IsCodeBlock (html : String) : Prop :=
  ∃ attributes inner code, (∀ a ∈ attributes, isCodeAttribute a) ∧ (∀ a ∈ inner, isCodeAttribute a)
    ∧ Written [] [.codeBlock attributes inner code] html.toList

/-- A mark in the place of which a character reference is written, or the ampersand of one. -/
structure IsReferenceMark (mark : String × String) : Prop where
  nonempty : mark.1 ≠ ""
  reference : mark.2.toList.head? = some '&'
  plain : mark.2.toList.all (!isDelimiter ·)

/-- A document of known elements and attributes, with blocks of code for all pieces of HTML and
marks for character references. -/
structure HtmlDocument.IsKnown (d : HtmlDocument) : Prop where
  nodes : HtmlNode.AllMade IsCodeBlock (fun _ a => a.1 ∈ attributeNames) d.nodes
  marks : ∀ mark ∈ d.marks, IsReferenceMark mark

/-! ### Converters -/

/-- A converter that makes known elements and escapes what it writes. -/
structure Converter.IsDocumented (converter : Converter) : Prop where
  parse : ∀ text, (converter.parse text).IsKnown
  write : ∀ d : HtmlDocument, d.IsKnown →
    ∃ html, Written d.marks d.nodes html ∧ (converter.write d).toList = Text.trim html

/-- A library that makes converters of HTML as documented, if the steps for raw HTML are left out
and no extensions are used but those for fenced code and tables. -/
def MarkdownLibrary.IsDocumented (library : MarkdownLibrary) : Prop :=
  ∀ setup : Converter.Setup, "html_block" ∈ setup.preprocessorsOut → "html" ∈ setup.patternsOut →
    setup.outputFormat = "html" → setup.extensions ⊆ ["fenced_code", "tables"] →
    (library setup).IsDocumented

/-- An attribute of a document without unsafe targets. -/
def IsSafeName (isHost : List Char → Bool) (tag : String) (a : String × String) : Prop :=
  a.1 ∈ attributeNames ∧ isSafeAttribute isHost tag a

/-- The HTML of a comment is written for known elements without unsafe targets. -/
theorem MarkdownLibrary.IsDocumented.exists_written {library : MarkdownLibrary}
    (h : library.IsDocumented) (isHost : List Char → Bool) (text : String) :
  ∃ marks nodes html, (∀ mark ∈ marks, IsReferenceMark mark)
    ∧ HtmlNode.AllMade IsCodeBlock (IsSafeName isHost) nodes ∧ Written marks nodes html
    ∧ (library.render isHost text).toList = Text.trim html
  := by
  have hconverter : (library commentSetup).IsDocumented :=
    h commentSetup (by decide) (by decide) rfl (List.Subset.refl _)
  rw [render, Converter.render]
  split
  case isTrue => exact ⟨[], [], [], nofun, trivial, .nil, rfl⟩
  case isFalse =>
    let d := (library commentSetup).parse text
    have hknown : d.IsKnown := hconverter.parse text
    have hnodes : HtmlNode.AllMade IsCodeBlock (IsSafeName isHost) (d.safe isHost).nodes :=
      hknown.nodes.safeAll isHost
    have hsafe : (d.safe isHost).IsKnown := ⟨hnodes.imp fun _ _ ha => ha.1, hknown.marks⟩
    obtain ⟨html, hwritten, hhtml⟩ := hconverter.write _ hsafe
    exact ⟨d.marks, _, html, hknown.marks, hnodes, hwritten, hhtml⟩

/-! ### Spelling -/

section

variable {marks : List (String × String)} (hmarks : ∀ mark ∈ marks, IsReferenceMark mark)
  {inValue : Bool} {cs written : List Char}

include hmarks

/-- Angle brackets are escaped, and in the values of attributes quotation marks too. -/
theorem Spelled.not_isDelimiter (h : Spelled marks inValue cs written) :
  ∀ c ∈ written, c ≠ '<' ∧ c ≠ '>' ∧ (inValue → c ≠ '\x22')
  := by
  have hplain {part : List Char} (hpart : part.all (!isDelimiter ·)) :
      ∀ c ∈ part, c ≠ '<' ∧ c ≠ '>' ∧ (inValue → c ≠ '\x22') := by
    intro c hc
    have hnot := List.all_eq_true.mp hpart c hc
    simp only [isDelimiter, Bool.not_eq_true', Bool.or_eq_false_iff,
      decide_eq_false_iff_not] at hnot
    exact ⟨hnot.1.1, hnot.1.2, fun _ => hnot.2⟩
  induction h with
  | nil => exact List.forall_mem_nil _
  | char hless hgreater hquote _ ih =>
    exact List.forall_mem_cons.mpr ⟨⟨hless, hgreater, hquote⟩, ih⟩
  | escaped hname _ ih =>
    have hnames : ∀ pair ∈ escapeNames, ('&' :: pair.2.toList ++ [';']).all (!isDelimiter ·) := by
      decide
    exact List.forall_mem_append.mpr ⟨hplain (hnames _ hname), ih⟩
  | mark hmark _ ih => exact List.forall_mem_append.mpr ⟨hplain (hmarks _ hmark).plain, ih⟩

/-- No tag begins in what is written for a text. -/
theorem Spelled.not_mem (h : Spelled marks inValue cs written) :
  '<' ∉ written
  := fun hmem => (h.not_isDelimiter hmarks _ hmem).1 rfl

/-- No delimiter is written in the value of an attribute. -/
theorem Spelled.all_not_isDelimiter (h : Spelled marks true cs written) :
  written.all (!isDelimiter ·)
  := by
  rw [List.all_eq_true]
  intro c hc
  obtain ⟨hless, hgreater, hquote⟩ := h.not_isDelimiter hmarks c hc
  simp [isDelimiter, hless, hgreater, hquote]

/-! ### Attributes -/

/-- What is written for a known attribute is an attribute. -/
theorem WrittenAttribute.isAttribute {a : String × String} (h : WrittenAttribute marks a written)
    (hname : a.1 ∈ attributeNames) :
  IsAttribute written
  := by
  cases h with
  | pair hvalue =>
    apply IsAttribute.pair hname
    · exact fun hmem => (hvalue.not_isDelimiter hmarks _ hmem).2.2 rfl rfl
    · exact hvalue.not_mem hmarks
  | name hvalue => exact .name hname

/-- An attribute that is written is a word of a tag, which is read with the name of the attribute
and with the value as it is written, unless this is left out. -/
theorem WrittenAttribute.exists_word {a : String × String} (h : WrittenAttribute marks a written)
    (hname : a.1 ∈ attributeNames) :
  ∃ word, written = ' ' :: word ∧ IsTagWord word ∧ (readAttribute word).1 = a.1
    ∧ ((readAttribute word).2 = "" ∨ Spelled marks true a.2.toList (readAttribute word).2.toList)
  := by
  have hnames : ∀ name ∈ attributeNames, name.toList.all Char.isAlpha := by decide
  have halpha := hnames _ hname
  cases h with
  | @pair value hvalue =>
    refine ⟨_, rfl, isTagWord_pair halpha (hvalue.all_not_isDelimiter hmarks), ?_⟩
    rw [readAttribute_pair halpha, String.ofList_toList, String.toList_ofList]
    exact ⟨rfl, .inr hvalue⟩
  | name hvalue =>
    refine ⟨_, rfl, isTagWord_name halpha, ?_⟩
    rw [readAttribute_name halpha, String.ofList_toList]
    exact ⟨rfl, .inl rfl⟩

end

/-- Each attribute that is written is one of the element, however they are ordered. -/
theorem exists_attribute_of_mem {marks attributes ordered : List (String × String)}
    (horder : ordered.Perm attributes) {opening : List (List Char)}
    (hopening : List.Forall₂ (WrittenAttribute marks) ordered opening) {written : List Char}
    (hwritten : written ∈ opening) :
  ∃ a ∈ attributes, WrittenAttribute marks a written
  := by
  obtain ⟨i, hi, rfl⟩ := List.getElem_of_mem hwritten
  have hi' : i < ordered.length := hopening.length_eq ▸ hi
  exact ⟨ordered[i], horder.subset (List.getElem_mem hi'), List.Forall₂.get hopening hi' hi⟩

end DocTable
