import DocTable.Markdown.Html
import DocTable.Proofs.Markdown.Plain.Document
import DocTable.Proofs.Markup.Written

/-!
# The converter of markdown texts

The converter of markdown texts makes known documents, since its elements and attributes are known
and a block of fenced code is a block of code.  What it writes is spelled as it may be: marks are
looked for first, and all other characters are escaped one by one.  So its library is as documented
(`isDocumented_library`).
-/

namespace DocTable.Markdown

open Text

variable {marks : List (String × String)} {inValue : Bool}

/-! ### Texts -/

/-- Each character is written as it may be. -/
theorem spelled_charHtml (c : Char) (rest : Thunk (List Char)) {cs written : List Char}
    (h : Spelled marks inValue cs written) :
  Spelled marks inValue (c :: cs) (charHtml inValue c rest ++ written)
  := by
  have hescaped (name : String) (hname : (c, name) ∈ escapeNames) :
      Spelled marks inValue (c :: cs) ('&' :: name.toList ++ [';'] ++ written) :=
    .escaped hname h
  unfold charHtml
  split_ifs with hamp href hless hgreater hquote
  · subst hamp
    exact .char (by decide) (by decide) (fun _ => by decide) h
  · subst hamp
    exact hescaped "amp" (by decide)
  · subst hless
    exact hescaped "lt" (by decide)
  · subst hgreater
    exact hescaped "gt" (by decide)
  · rw [Bool.and_eq_true, decide_eq_true_iff] at hquote
    rw [hquote.1] at hescaped ⊢
    exact hescaped "quot" (by decide)
  · refine .char hless hgreater (fun hvalue hc => hquote ?_) h
    rw [hc, hvalue]
    rfl

/-- What is passed over belongs to a mark that is written already. -/
theorem textHtml_passed (rest : Thunk (List Char)) (passed : Nat) (cs : List Char) :
  textHtml marks inValue rest passed cs = textHtml marks inValue rest 0 (cs.drop passed)
  := by
  induction cs generalizing passed with
  | nil => rw [List.drop_nil, textHtml, textHtml]
  | cons c cs ih =>
    cases passed with
    | zero => rfl
    | succ passed => rw [textHtml, ih, List.drop_succ_cons]

/-- A mark is found where it stands. -/
theorem exists_of_markAt? {cs : List Char} {mark : String × String}
    (h : markAt? marks cs = some mark) :
  mark ∈ marks ∧ mark.1.toList <+: cs
  := by
  unfold markAt? at h
  split at h
  · have hfound := List.find?_some h
    exact ⟨List.mem_of_find?_eq_some h, List.isPrefixOf_iff_prefix.mp hfound⟩
  · contradiction

/-- A text is written as it may be. -/
theorem spelled_textHtml (hmarks : ∀ mark ∈ marks, IsReferenceMark mark) (rest : Thunk (List Char))
    (cs : List Char) :
  Spelled marks inValue cs (textHtml marks inValue rest 0 cs)
  := by
  -- a mark may be longer than one character
  induction hlength : cs.length using Nat.strong_induction_on generalizing cs with
  | _ n ih =>
    cases cs with
    | nil => exact .nil
    | cons c cs =>
      subst hlength
      rw [textHtml]
      split
      case h_1 name body hmark =>
        obtain ⟨hmem, after, hafter⟩ := exists_of_markAt? hmark
        obtain ⟨first, others, hname⟩ : ∃ first others, name.toList = first :: others :=
          List.exists_cons_of_ne_nil fun hnil =>
            (hmarks _ hmem).nonempty (String.toList_inj.mp hnil)
        dsimp only at hafter
        rw [hname, List.cons_append] at hafter
        obtain ⟨rfl, rfl⟩ := List.cons.inj hafter
        have hdrop : (others ++ after).drop (name.toList.length - 1) = after := by
          simp [hname]
        have hshort : after.length < (first :: (others ++ after)).length := by
          rw [List.length_cons, List.length_append]
          omega
        have hspelled := ih after.length hshort after rfl
        rw [textHtml_passed, hdrop, ← List.cons_append, ← hname]
        exact .mark hmem hspelled
      case h_2 => exact spelled_charHtml c _ (ih cs.length (by simp) cs rfl)

/-! ### Nodes -/

/-- An attribute is written as it may be. -/
theorem writtenAttribute_attributeHtml (hmarks : ∀ mark ∈ marks, IsReferenceMark mark)
    (short : Bool) (a : String × String) :
  WrittenAttribute marks a (attributeHtml marks short a)
  := by
  have hvalue : Spelled marks true a.2.toList _ := spelled_textHtml hmarks (.pure []) a.2.toList
  unfold attributeHtml
  extract_lets value
  split
  case isTrue hname =>
    rw [Bool.and_eq_true, decide_eq_true_iff] at hname
    rw [hname.2]
    exact .name (hname.2 ▸ hvalue)
  case isFalse => simpa using WrittenAttribute.pair hvalue

/-- All attributes of an element are written in their order. -/
theorem forall₂_attributeHtml (hmarks : ∀ mark ∈ marks, IsReferenceMark mark) (short : Bool)
    (attributes : List (String × String)) :
  List.Forall₂ (WrittenAttribute marks) attributes (attributes.map (attributeHtml marks short))
  := by
  rw [List.forall₂_map_right_iff, List.forall₂_same]
  exact fun a _ => writtenAttribute_attributeHtml hmarks short a

mutual

/-- What is written for a node stands in front of what is written for the others. -/
theorem written_cons (hmarks : ∀ mark ∈ marks, IsReferenceMark mark) {nodes : List HtmlNode}
    {rest : List Char} (hrest : Written marks nodes rest) :
    ∀ node : HtmlNode, Written marks (node :: nodes) (nodeHtml marks nodes node ++ rest)
  | .text s => by
    rw [nodeHtml]
    exact .text (spelled_textHtml hmarks _ _) hrest
  | .raw html => by
    rw [nodeHtml]
    exact .raw hrest
  | .element tag attributes content => by
    rw [nodeHtml]
    exact .element (.refl attributes) (forall₂_attributeHtml hmarks true attributes)
      (written_nodesHtml hmarks content) hrest

/-- Nodes are written as they may be. -/
theorem written_nodesHtml (hmarks : ∀ mark ∈ marks, IsReferenceMark mark) :
    ∀ nodes : List HtmlNode, Written marks nodes (nodesHtml marks nodes)
  | [] => by
    rw [nodesHtml]
    exact .nil
  | node :: nodes => by
    rw [nodesHtml]
    exact written_cons hmarks (written_nodesHtml hmarks nodes) node

end

/-! ### Documents -/

/-- A block of code is written with its attributes and its text escaped. -/
theorem isCodeBlock_codeHtml (attributes : List Attribute) (content : List Node) :
  IsCodeBlock (codeHtml attributes content)
  := by
  have hnone : ∀ mark ∈ ([] : List (String × String)), IsReferenceMark mark := nofun
  let kept (attributes : List Attribute) :=
    (attributes.filter fun a => a.name = .id || a.name = .className).map Attribute.html
  have hkept (attributes : List Attribute) : ∀ a ∈ kept attributes, isCodeAttribute a := by
    intro pair hpair
    obtain ⟨a, ha, rfl⟩ := List.mem_map.mp hpair
    have hname := (List.mem_filter.mp ha).2
    rw [Bool.or_eq_true, decide_eq_true_iff, decide_eq_true_iff] at hname
    obtain hname | hname := hname
    · exact .inl (congrArg AttributeName.html hname)
    · exact .inr (congrArg AttributeName.html hname)
  have hopening (attributes : List Attribute) :
      List.Forall₂ (WrittenAttribute []) (kept attributes) (codeAttributes attributes) := by
    have hwritten := forall₂_attributeHtml hnone false (kept attributes)
    rwa [List.map_map] at hwritten
  have hcode (inner : List Attribute) (text : List Node) : IsCodeBlock (String.ofList
      (elementHtml "pre" (codeAttributes attributes)
        (elementHtml "code" (codeAttributes inner)
          (textHtml [] false (.pure []) 0 (shownText (Node.textOf text)).toList)))) := by
    refine ⟨kept attributes, kept inner, shownText (Node.textOf text), hkept _, hkept _, ?_⟩
    have htext : Written [] [.text (shownText (Node.textOf text))] _ :=
      .text (spelled_textHtml hnone (.pure []) _) .nil
    have hinner : Written [] [.element "code" (kept inner) _] _ :=
      .element (.refl _) (hopening inner) htext .nil
    have houter : Written [] [.element "pre" (kept attributes) _] _ :=
      .element (.refl _) (hopening attributes) hinner .nil
    simpa [HtmlNode.codeBlock] using houter
  unfold codeHtml
  apply hcode

/-- All attributes that are made are known. -/
theorem html_mem_attributeNames (name : AttributeName) :
  name.html ∈ attributeNames
  := by
  cases name
  all_goals decide

/-- All elements that are made are known. -/
theorem html_mem_names (tag : Tag) :
  tag.html ∈ closedNames ++ voidNames
  := by
  cases tag with
  | heading level =>
    revert level
    decide
  | _ => decide

namespace Node

mutual

theorem allMade_toHtml :
    ∀ node : Node, HtmlNode.AllMade IsCodeBlock (fun _ a => a.1 ∈ attributeNames) node.toHtml
  | sign s => by
    rw [toHtml]
    exact ⟨trivial, trivial⟩
  | held _ made => by
    rw [toHtml]
    exact allMade_toHtmlAll made
  | element tag attributes content => by
    rw [toHtml]
    split
    · exact ⟨isCodeBlock_codeHtml attributes content, trivial⟩
    · refine ⟨⟨html_mem_names tag, fun pair hpair => ?_, allMade_toHtmlAll content⟩, trivial⟩
      obtain ⟨a, -, rfl⟩ := List.mem_map.mp hpair
      exact html_mem_attributeNames a.name

/-- All elements and attributes of nodes are known. -/
theorem allMade_toHtmlAll :
    ∀ nodes : List Node,
      HtmlNode.AllMade IsCodeBlock (fun _ a => a.1 ∈ attributeNames) (toHtmlAll nodes)
  | [] => by
    rw [toHtmlAll]
    trivial
  | node :: nodes => by
    rw [toHtmlAll, HtmlNode.allMade_append]
    exact ⟨allMade_toHtml node, allMade_toHtmlAll nodes⟩

end

mutual

theorem IsPlain.signs : ∀ {node : Node}, node.IsPlain → ∀ s ∈ node.signs, s.IsPlain
  | sign s, h => by
    rw [Node.signs, List.forall_mem_singleton]
    exact h
  | held _ made, h => by
    rw [Node.signs]
    exact AllPlain.signs h
  | element _ attributes content, h => by
    rw [Node.signs, List.forall_mem_append]
    refine ⟨fun s hs => ?_, AllPlain.signs h.2⟩
    obtain ⟨a, ha, hs⟩ := List.mem_flatMap.mp hs
    exact h.1 a ha s hs

/-- All signs in plain nodes are plain. -/
theorem AllPlain.signs : ∀ {nodes : List Node}, AllPlain nodes → ∀ s ∈ signsAll nodes, s.IsPlain
  | [], _ => by
    rw [signsAll]
    exact nofun
  | node :: nodes, h => by
    rw [signsAll, List.forall_mem_append]
    exact ⟨IsPlain.signs h.1, AllPlain.signs h.2⟩

end

end Node

/-- A character reference is written in the place of its mark. -/
theorem isReferenceMark_of_mark? {s : Sign} (hs : s.IsPlain) {mark : String × String}
    (h : s.mark? = some mark) :
  IsReferenceMark mark
  := by
  unfold Sign.mark? at h
  split at h
  case h_1 =>
    obtain rfl := Option.some.inj h
    exact ⟨by decide, by decide, by decide⟩
  case h_2 number body =>
    obtain rfl := Option.some.inj h
    have hbody : body.all (!isDelimiter ·) := hs
    have hshown : (shownText [.entity (.source number) body]).toList
        = '\x02' :: "wzxhzdk:".toList ++ Nat.toDigits 10 number ++ ['\x03'] := by
      simp [shownText, Sign.shown, Sign.spelling]
    constructor
    case nonempty =>
      intro hempty
      have hnil := congrArg String.toList hempty
      simp [hshown] at hnil
    case reference => simp
    case plain =>
      rw [String.toList_ofList, List.cons_append, List.all_cons, List.all_append, hbody]
      decide
  case h_3 => contradiction

/-- The document of a text has known elements, and marks for character references only: references
are plain, since all nodes of the document are. -/
theorem isKnown_parse (text : String) :
  (parse text).IsKnown
  := by
  unfold parse
  generalize text.toList = cs
  split
  case isTrue => exact ⟨trivial, nofun⟩
  case isFalse =>
    have hplain := Node.allPlain_spacedAll false (allPlain_documentOf cs)
    constructor
    case nodes => exact Node.allMade_toHtmlAll _
    case marks =>
      intro mark hmark
      obtain ⟨s, hs, hmark⟩ := List.mem_filterMap.mp hmark
      exact isReferenceMark_of_mark? (hplain.signs s hs) hmark

/-- The library makes converters as documented. -/
theorem isDocumented_library :
  library.IsDocumented
  := by
  intro setup _ _ _ _
  constructor
  case parse => exact isKnown_parse
  case write =>
    intro d hd
    refine ⟨nodesHtml d.marks d.nodes, written_nodesHtml hd.marks d.nodes, ?_⟩
    exact String.toList_ofList

end DocTable.Markdown
