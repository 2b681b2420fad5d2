import DocTable.Markdown.Document
import DocTable.Markdown.LineBreaks
import DocTable.Proofs.Markdown.Plain.Inline

/-!
# Plain documents

Whatever a text is, the nodes of its document are plain: its blocks give plain elements, in which
inline markup is found that is plain too.
-/

namespace DocTable.Markdown

open Guarantee Node Text

/-! ### Tables and fenced code -/

namespace PipeTable

/-- A row of a table is plain: its cells are spelled by characters. -/
theorem isPlain_rowNode (tag : Tag) (columns : List (Option (List Char))) (row : List (List Char)) :
  (rowNode tag columns row).IsPlain
  := by
  use by simp
  apply allPlain_map
  rintro ⟨align, i⟩ _
  refine ⟨?_, allPlain_ofChars _⟩
  intro a ha
  obtain ⟨align, -, rfl⟩ := List.mem_map.mp ha
  exact fun s hs => isPlain_of_mem_ofChars hs

/-- A row of empty cells is plain. -/
theorem isPlain_emptyRow (columns : List (Option (List Char))) :
  (emptyRow columns).IsPlain
  := by
  use by simp
  exact allPlain_map fun _ _ => isPlain_textElement .cell []

/-- A table is plain. -/
theorem isPlain_toNode (grid : Grid) :
  grid.toNode.IsPlain
  := by
  have hhead : (Node.element .tableHead [] [rowNode .headCell grid.columns grid.head]).IsPlain :=
    ⟨by simp, isPlain_rowNode _ _ _, trivial⟩
  refine ⟨by simp, hhead, ⟨by simp, ?_⟩, trivial⟩
  split
  · exact ⟨isPlain_emptyRow _, trivial⟩
  · exact allPlain_map fun row _ => isPlain_rowNode .cell grid.columns row

end PipeTable

/-- A character of fenced code is plain, whether or not it is escaped. -/
theorem isPlain_fencedChar (c : Char) :
  (fencedChar c).IsPlain
  := by
  unfold fencedChar
  split_ifs
  · exact isPlain_entity (by decide)
  · exact isPlain_entity (by decide)
  · exact isPlain_entity (by decide)
  · exact isPlain_entity (by decide)
  · trivial

/-- The attributes of a block of code are plain. -/
theorem isPlain_known {known : Bool} {name : AttributeName} {value : List Char} :
  ∀ a ∈ if known then [] else [(⟨name, Sign.ofChars value⟩ : Attribute)], a.IsPlain
  := by
  split
  · simp
  · rw [List.forall_mem_singleton]
    exact fun s hs => isPlain_of_mem_ofChars hs

/-- A block of fenced code is plain, with what is said of it behind its fence. -/
theorem FenceInfo.isPlain_toNode (info : FenceInfo) (lines : List (List Char)) :
  (info.toNode lines).IsPlain
  := by
  have hcode : AllPlain ((lines.flatMap (· ++ ['\n'])).map fencedChar) :=
    allPlain_map fun c _ => isPlain_fencedChar c
  refine ⟨?_, ⟨isPlain_known, hcode⟩, trivial⟩
  rw [List.forall_mem_append]
  exact ⟨isPlain_known, isPlain_known⟩

/-- A part of a document with plain nodes only. -/
def Part.IsPlain : Part → Prop
  | text _ => True
  | code node => node.IsPlain

/-- Fenced code that is found is plain. -/
theorem fencedCode?_gives (line : List Char) (lines : List (List Char)) :
  option.gives (fun found => found.1.IsPlain) (fencedCode? line lines)
  := by
  apply option.gives_after
  rintro ⟨fence, after⟩
  apply option.gives_after
  rintro ⟨info, lines⟩
  apply option.gives_after
  rintro ⟨code, rest⟩
  apply option.gives_pure
  exact info.isPlain_toNode code

/-- A text is cut into plain parts.  The induction is on the bound for the lines, since a block of
code takes many of them. -/
theorem Part.isPlain_of_mem_ofLines (before : List (List Char)) (fuel : Nat)
    (lines : List (List Char)) :
  ∀ part ∈ ofLines before fuel lines, part.IsPlain
  := by
  induction fuel generalizing before lines with
  | zero =>
    cases lines with
    | nil => exact List.forall_mem_singleton.mpr trivial
    | cons line lines => exact List.forall_mem_singleton.mpr trivial
  | succ fuel ih =>
    cases lines with
    | nil => exact List.forall_mem_singleton.mpr trivial
    | cons line lines =>
      rw [ofLines]
      split
      case h_1 node rest hcode =>
        rw [List.forall_mem_cons, List.forall_mem_cons]
        exact ⟨trivial, option_gives_iff.mp (fencedCode?_gives line lines) _ hcode, ih [] rest⟩
      case h_2 => exact ih (line :: before) lines

/-! ### Drafts -/

/-- A draft with plain nodes only. -/
def Draft.IsPlain (draft : Draft) : Prop :=
  AllPlain draft.content

namespace Draft

/-- A step of building that leaves plain drafts plain. -/
def KeepsPlain (step : Draft → Draft) : Prop :=
  ∀ draft, draft.IsPlain → (step draft).IsPlain

/-- A draft whose last element is looked into is plain if this element is, and if what stands around
it is. -/
theorem allPlain_withContent {last : LastElement} {content : List Node} :
  AllPlain (last.withContent content)
    ↔ AllPlain last.before ∧ ((∀ a ∈ last.attributes, a.IsPlain) ∧ AllPlain content)
      ∧ AllPlain last.after
  := by
  rw [LastElement.withContent, allPlain_append]
  exact Iff.rfl

/-- A plain node may be added. -/
theorem push_keepsPlain {node : Node} (h : node.IsPlain) :
  KeepsPlain (push node)
  := by
  intro draft hdraft
  rw [IsPlain, push, allPlain_append]
  exact ⟨hdraft, h, trivial⟩

/-- An element may be added whose content is built by steps that leave drafts plain. -/
theorem pushBuilt_keepsPlain (tag : Tag) {build : Draft → Draft} (h : KeepsPlain build) :
  KeepsPlain (pushBuilt tag build)
  := by
  intro draft hdraft
  rw [IsPlain, pushBuilt, allPlain_append]
  exact ⟨hdraft, ⟨by simp, h { references := draft.references } trivial⟩, trivial⟩

/-- The content of the last element may go on being built by such steps. -/
theorem onLast_keepsPlain {f : Tag → Draft → Draft} (h : ∀ tag, KeepsPlain (f tag)) :
  KeepsPlain (onLast f)
  := by
  intro draft hdraft
  rw [onLast]
  split
  case h_1 => exact hdraft
  case h_2 last hlast =>
    rw [IsPlain, eq_withContent_of_lastElement? hlast, allPlain_withContent] at hdraft
    obtain ⟨hbefore, ⟨hattributes, hcontent⟩, hafter⟩ := hdraft
    rw [IsPlain, allPlain_withContent]
    have hinner := h last.tag { draft with content := last.content } hcontent
    exact ⟨hbefore, ⟨hattributes, hinner⟩, hafter⟩

/-- They may be taken inside the last element of the last element, as deep as there are any. -/
theorem atDepth_keepsPlain {f : Option Tag → Draft → Draft} (h : ∀ parent, KeepsPlain (f parent))
    (depth : Nat) (parent : Option Tag) :
  KeepsPlain (atDepth f depth parent)
  := by
  induction depth generalizing parent with
  | zero => exact h parent
  | succ depth ih =>
    apply onLast_keepsPlain
    intro tag
    apply ih

/-- More text may be added to a block of code. -/
theorem extendCode_keepsPlain (cs : List Char) :
  KeepsPlain (extendCode cs)
  := by
  apply onLast_keepsPlain
  intro _
  apply onLast_keepsPlain
  intro _ draft hdraft
  rw [IsPlain, allPlain_append]
  exact ⟨hdraft, allPlain_flatMap_inCode (allPlain_ofChars cs)⟩

/-- Indented code goes into the block before it, or into a new one. -/
theorem addCode_keepsPlain (code : List Char) :
  KeepsPlain (addCode code)
  := by
  intro draft hdraft
  rw [addCode]
  split
  · apply extendCode_keepsPlain _ draft hdraft
  · apply push_keepsPlain _ draft hdraft
    refine ⟨by simp, ⟨by simp, ?_⟩, trivial⟩
    apply allPlain_flatMap_inCode (allPlain_ofChars _)

/-- A text is added as it is, or as a paragraph. -/
theorem addText_keepsPlain (setting : Setting) (cs : List Char) :
  KeepsPlain (addText setting cs)
  := by
  intro draft hdraft
  unfold addText
  dsimp only
  split
  case isTrue => exact hdraft
  case isFalse =>
    split
    case isTrue =>
      rw [IsPlain, allPlain_append]
      exact ⟨hdraft, allPlain_ofChars _⟩
    case isFalse => exact push_keepsPlain (isPlain_textElement _ _) draft hdraft

/-- The text in front of the elements may become a paragraph. -/
theorem wrapStart_keepsPlain :
  KeepsPlain wrapStart
  := by
  intro draft hdraft
  have hparts := splitText_append draft.content
  rw [IsPlain, ← hparts, allPlain_append] at hdraft
  rw [wrapStart]
  split
  case h_1 hsplit =>
    rw [IsPlain, ← hparts, allPlain_append]
    exact hdraft
  case h_2 text elements _ hsplit =>
    rw [hsplit] at hdraft
    exact ⟨⟨by simp, hdraft.1⟩, hdraft.2⟩

/-- The text behind the last element may become a paragraph. -/
theorem wrapEnd_keepsPlain :
  KeepsPlain wrapEnd
  := by
  intro draft hdraft
  rw [wrapEnd]
  split
  case h_1 last hlast =>
    split
    · exact hdraft
    · rw [IsPlain, eq_withContent_of_lastElement? hlast, allPlain_withContent] at hdraft
      obtain ⟨hbefore, helement, hafter⟩ := hdraft
      rw [IsPlain, allPlain_append, allPlain_withContent]
      refine ⟨⟨hbefore, helement, trivial⟩, ⟨by simp, ?_⟩, trivial⟩
      apply hafter.mono (List.dropWhile_sublist _).subset
  case h_2 => exact hdraft

/-- Steps for each element of a list leave a draft plain if each of them does. -/
theorem foldl_keepsPlain {α : Type} {f : Draft → α → Draft} (h : ∀ a, KeepsPlain (f · a))
    (items : List α) :
  KeepsPlain (items.foldl f)
  := by
  intro draft hdraft
  induction items generalizing draft with
  | nil => exact hdraft
  | cons a items ih => exact ih _ (h a draft hdraft)

/-- Line feeds in front of a block go into the code before them, if there is any. -/
theorem extendIndented_keepsPlain (breaks : List Char) :
  KeepsPlain fun draft =>
    if draft.lastTag? = some .indented then draft.extendCode breaks else draft
  := by
  intro draft hdraft
  dsimp only
  split
  · exact extendCode_keepsPlain breaks draft hdraft
  · exact hdraft

/-! What is added inside a draft, by steps that leave drafts plain, leaves the draft plain. -/

section Nested

variable {add : Setting → Option Tag → List (List Char) → Draft → Draft}
  (hadd : ∀ setting parent blocks, KeepsPlain (add setting parent blocks))

include hadd

/-- Items of a list may be added, and an indented one goes into the item before it. -/
theorem addItems_keepsPlain (items : List (List Char)) :
  KeepsPlain fun draft =>
    items.foldl
      (fun draft item =>
        if isIndented item then draft.onLast fun tag => add .tightItem (some tag) [item]
        else draft.pushBuilt .item (add .tightItem (some .item) [item]))
      draft
  := by
  apply foldl_keepsPlain
  intro item draft hdraft
  dsimp only
  split
  · exact onLast_keepsPlain (fun tag => hadd _ _ _) draft hdraft
  · exact pushBuilt_keepsPlain _ (hadd _ _ _) draft hdraft

/-- The last item of a list is wrapped up before the first of the items that continue the list. -/
theorem addFirstItem_keepsPlain (items : List (List Char)) :
  KeepsPlain fun draft =>
    (draft.onLast fun _ item => item.wrapStart.wrapEnd).pushBuilt .item
      (add .looseItem (some .item) items)
  := by
  intro draft hdraft
  apply pushBuilt_keepsPlain _ (hadd _ _ _)
  apply onLast_keepsPlain _ draft hdraft
  intro _ item hitem
  exact wrapEnd_keepsPlain _ (wrapStart_keepsPlain item hitem)

/-- The text of a continuation goes into the item that it continues, or into a new one. -/
theorem addBelow_keepsPlain {addParts : Tag → Draft → Draft}
    (hparts : ∀ tag, KeepsPlain (addParts tag)) (inner : List (List Char)) (parent : Option Tag) :
  KeepsPlain fun draft =>
    if parent = some .item then add .outdented parent inner draft
    else if draft.lastTag? = some .item then
      draft.onLast fun tag draft => addParts tag draft.wrapStart
    else draft.pushBuilt .item (add .outdented (some .item) inner)
  := by
  intro draft hdraft
  dsimp only
  split
  · exact hadd _ _ _ draft hdraft
  · split
    · apply onLast_keepsPlain _ draft hdraft
      intro tag draft hdraft
      exact hparts tag _ (wrapStart_keepsPlain draft hdraft)
    · exact pushBuilt_keepsPlain _ (hadd _ _ _) draft hdraft

/-- A continuation goes into the element that holds the draft, if it is an item, or below it. -/
theorem addContinuation_keepsPlain {addParts : Tag → Draft → Draft}
    (hparts : ∀ tag, KeepsPlain (addParts tag)) (inner : List (List Char)) (below : Nat)
    (parent : Option Tag) :
  KeepsPlain fun draft =>
    if parent = some .item then
      if draft.endsWithList then draft.onLast fun tag => add .outdented (some tag) inner
      else add .outdented parent inner draft
    else
      draft.atDepth (fun parent draft =>
        if parent = some .item then add .outdented parent inner draft
        else if draft.lastTag? = some .item then
          draft.onLast fun tag draft => addParts tag draft.wrapStart
        else draft.pushBuilt .item (add .outdented (some .item) inner)) below parent
  := by
  intro draft hdraft
  dsimp only
  split
  · split
    · exact onLast_keepsPlain (fun tag => hadd _ _ _) draft hdraft
    · exact hadd _ _ _ draft hdraft
  · exact atDepth_keepsPlain (addBelow_keepsPlain hadd hparts inner) _ _ draft hdraft

/-- The items of a list go into the list before them, or into the one around them, or into a new
one. -/
theorem addList_keepsPlain (tag : Tag) (items : List (List Char)) (parent : Option Tag) :
  let addItems (items : List (List Char)) (draft : Draft) :=
    items.foldl
      (fun draft item =>
        if isIndented item then draft.onLast fun tag => add .tightItem (some tag) [item]
        else draft.pushBuilt .item (add .tightItem (some .item) [item]))
      draft
  KeepsPlain fun draft =>
    if draft.endsWithList then
      draft.onLast fun _ draft =>
        addItems (items.drop 1)
          ((draft.onLast fun _ item => item.wrapStart.wrapEnd).pushBuilt .item
            (add .looseItem (some .item) items.head?.toList))
    else if parent.any Tag.isList then addItems items draft
    else draft.pushBuilt tag (addItems items)
  := by
  have hitems := addItems_keepsPlain hadd
  intro addItems draft hdraft
  dsimp only
  split
  · apply onLast_keepsPlain _ draft hdraft
    intro _ draft hdraft
    apply hitems
    exact addFirstItem_keepsPlain hadd _ draft hdraft
  · split
    · exact hitems items draft hdraft
    · exact pushBuilt_keepsPlain tag (hitems items) draft hdraft

end Nested

/-- A quotation goes into the one before it, or into a new one. -/
theorem addQuote_keepsPlain {addInner : Draft → Draft} (h : KeepsPlain addInner) :
  KeepsPlain fun draft =>
    if draft.lastTag? = some .quote then draft.onLast fun _ => addInner
    else draft.pushBuilt .quote addInner
  := by
  intro draft hdraft
  dsimp only
  split
  · exact onLast_keepsPlain (fun _ => h) draft hdraft
  · exact pushBuilt_keepsPlain .quote h draft hdraft

/-- Each block leaves a draft plain, and so do all of them. -/
theorem addBlocks_keepsPlain (fuel depth : Nat) (setting : Setting) (parent : Option Tag)
    (blocks : List (List Char)) :
  KeepsPlain (addBlocks fuel depth setting parent blocks)
  := by
  induction fuel generalizing depth setting parent blocks with
  | zero =>
    intro draft hdraft
    exact hdraft
  | succ fuel ih =>
    intro draft hdraft
    cases blocks with
    | nil => exact hdraft
    | cons block blocks =>
      rw [addBlocks]
      split
      case h_1 breaks rest _ =>
        apply ih
        exact extendIndented_keepsPlain breaks draft hdraft
      case h_2 =>
        apply ih
        exact addContinuation_keepsPlain (ih _) (fun tag => ih _ _ _ _) _ _ _ draft hdraft
      case h_3 text rest _ =>
        apply ih
        exact addCode_keepsPlain text draft hdraft
      case h_4 grid _ =>
        apply ih
        exact push_keepsPlain (PipeTable.isPlain_toNode grid) draft hdraft
      case h_5 before level text after _ =>
        apply ih
        exact push_keepsPlain (isPlain_textElement _ text) _ (ih _ _ _ _ draft hdraft)
      case h_6 level text after _ =>
        apply ih
        exact push_keepsPlain (isPlain_textElement _ text) draft hdraft
      case h_7 before after _ =>
        apply ih
        exact push_keepsPlain (isPlain_textElement .rule []) _ (ih _ _ _ _ draft hdraft)
      case h_8 tag items _ =>
        apply ih
        exact addList_keepsPlain (ih (depth + 2)) tag items parent draft hdraft
      case h_9 before text _ =>
        apply ih
        exact addQuote_keepsPlain (ih _ _ _ _) _ (ih _ _ _ [before] draft hdraft)
      case h_10 before reference after _ =>
        apply ih
        exact hdraft
      case h_11 =>
        apply ih
        exact addText_keepsPlain setting block draft hdraft

/-- Each part of a text leaves a draft plain. -/
theorem addPart_keepsPlain (fuel : Nat) {part : Part} (h : part.IsPlain) :
  KeepsPlain (addPart fuel · part)
  := by
  cases part with
  | text cs => exact addBlocks_keepsPlain fuel 0 .plain none (blocksOf cs)
  | code node => exact push_keepsPlain h

end Draft

/-- Every document is plain. -/
theorem allPlain_documentOf (cs : List Char) :
  AllPlain (documentOf cs)
  := by
  apply Inline.allPlain_ofContent (Rule.keepsPlain_of_mem_all _)
  apply List.foldlRecOn (motive := Draft.IsPlain)
  · exact trivial
  · intro draft hdraft part hpart
    apply Draft.addPart_keepsPlain _ (Part.isPlain_of_mem_ofLines _ _ _ part hpart) draft hdraft

/-! ### Line breaks -/

namespace Node

/-- Code that ends with a line feed is plain if it was before. -/
theorem allPlain_endLine {code : List Node} (h : AllPlain code) :
  AllPlain (endLine code)
  := by
  rw [endLine, allPlain_append]
  use (h.reverse.mono (List.dropWhile_sublist _).subset).reverse
  exact ⟨trivial, trivial⟩

mutual

/-- Line breaks leave a node plain. -/
theorem isPlain_spaced : ∀ {node : Node}, node.IsPlain → (spaced node).IsPlain
  | sign s, h => h
  | held number made, h => h
  | element tag attributes content, h => by
    obtain ⟨hattributes, hcontent⟩ := h
    rw [spaced.eq_def]
    use hattributes
    split
    · -- a block of code
      split
      · obtain ⟨⟨hinner, htext⟩, -⟩ := hcontent
        exact ⟨⟨hinner, allPlain_endLine htext⟩, trivial⟩
      · exact hcontent
    · split
      · exact hcontent
      · split
        · exact ⟨trivial, allPlain_spacedAll true hcontent⟩
        · exact allPlain_spacedAll false hcontent

/-- Line breaks leave nodes plain. -/
theorem allPlain_spacedAll : ∀ (replaced : Bool) {nodes : List Node}, AllPlain nodes →
    AllPlain (spacedAll replaced nodes)
  | _, [], _ => trivial
  | replaced, node :: nodes, h => by
    have hrest (replaced : Bool) := allPlain_spacedAll replaced h.2
    have hnode := isPlain_spaced h.1
    rw [spacedAll.eq_def]
    dsimp only
    split
    · split_ifs
      · exact ⟨hnode, trivial, hrest true⟩
      · exact ⟨hnode, hrest false⟩
      · exact ⟨hnode, trivial, hrest _⟩
      · exact ⟨hnode, hrest false⟩
    · split
      · exact hrest true
      · exact ⟨h.1, hrest false⟩

end

end Node

end DocTable.Markdown
