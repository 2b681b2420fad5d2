import DocTable.Markdown.Node
import DocTable.Proofs.Guarantee
import DocTable.Proofs.Markup.Tags
import Mathlib.Data.List.TakeDrop

/-!
# Plain nodes

A node is plain if nothing that stands in a character reference within it begins or ends a tag, or
ends the value of an attribute.  Whatever takes plain nodes apart, cuts them or releases what they
hold back gives plain nodes.
-/

namespace DocTable.Markdown

/-- A character, or a character reference without delimiters. -/
def Sign.IsPlain : Sign → Prop
  | entity _ body => body.all (!isDelimiter ·)
  | _ => True

/-- An attribute whose value has only plain signs. -/
def Attribute.IsPlain (a : Attribute) : Prop :=
  ∀ s ∈ a.value, s.IsPlain

namespace Node

mutual

/-- All signs in a node are plain, in the values of attributes too. -/
def IsPlain : Node → Prop
  | sign s => s.IsPlain
  | held _ made => AllPlain made
  | element _ attributes content => (∀ a ∈ attributes, a.IsPlain) ∧ AllPlain content

/-- All signs in some nodes are plain. -/
def AllPlain : List Node → Prop
  | [] => True
  | node :: nodes => node.IsPlain ∧ AllPlain nodes

end

variable {node : Node} {nodes : List Node}

/-- Nodes are plain if each of them is. -/
theorem allPlain_iff :
  AllPlain nodes ↔ ∀ node ∈ nodes, node.IsPlain
  := by
  induction nodes with
  | nil => simp [AllPlain]
  | cons node nodes ih => rw [AllPlain, ih, List.forall_mem_cons]

/-- Nodes in a row are plain if those before and those after are. -/
theorem allPlain_append {before after : List Node} :
  AllPlain (before ++ after) ↔ AllPlain before ∧ AllPlain after
  := by
  rw [allPlain_iff, allPlain_iff, allPlain_iff, List.forall_mem_append]

/-- Some of the nodes are plain if all are. -/
theorem AllPlain.mono {part : List Node} (h : AllPlain nodes) (hpart : part ⊆ nodes) :
  AllPlain part
  := by
  rw [allPlain_iff] at h ⊢
  intro node hnode
  apply h node (hpart hnode)

/-- The order of plain nodes does not matter. -/
theorem AllPlain.reverse (h : AllPlain nodes) :
  AllPlain nodes.reverse
  := by
  apply h.mono
  intro node hnode
  exact List.mem_reverse.mp hnode

/-- Nodes that are made of a list are plain if those made of each element are. -/
theorem allPlain_flatMap {α : Type} {f : α → List Node} {xs : List α}
    (h : ∀ x ∈ xs, AllPlain (f x)) :
  AllPlain (xs.flatMap f)
  := by
  rw [allPlain_iff]
  intro node hnode
  obtain ⟨x, hx, hmem⟩ := List.mem_flatMap.mp hnode
  apply allPlain_iff.mp (h x hx) node hmem

/-- The same holds where each element makes one node. -/
theorem allPlain_map {α : Type} {f : α → Node} {xs : List α} (h : ∀ x ∈ xs, (f x).IsPlain) :
  AllPlain (xs.map f)
  := by
  rw [allPlain_iff]
  intro node hnode
  obtain ⟨x, hx, rfl⟩ := List.mem_map.mp hnode
  exact h x hx

/-! ### Characters -/

/-- Characters are plain signs. -/
theorem isPlain_of_mem_ofChars {cs : List Char} {s : Sign} (h : s ∈ Sign.ofChars cs) :
  s.IsPlain
  := by
  obtain ⟨c, -, rfl⟩ := List.mem_map.mp h
  trivial

/-- The nodes for some characters are plain. -/
theorem allPlain_ofChars (cs : List Char) :
  AllPlain (ofChars cs)
  := allPlain_map fun _ _ => trivial

/-- An element without attributes that has a text for its content. -/
theorem isPlain_textElement (tag : Tag) (cs : List Char) :
  (element tag [] (ofChars cs)).IsPlain
  := ⟨by simp, allPlain_ofChars cs⟩

/-- A character reference is plain if its body has no delimiters. -/
theorem isPlain_entity {origin : Origin} {body : List Char} (h : body.all (!isDelimiter ·)) :
  (entity origin body).IsPlain
  := h

/-- Code is plain: the references that are made for it have the names of three characters. -/
theorem allPlain_inCode (h : node.IsPlain) :
  AllPlain (inCode node)
  := by
  unfold inCode
  split
  · exact ⟨isPlain_entity (by decide), trivial⟩
  · exact ⟨isPlain_entity (by decide), trivial⟩
  · exact ⟨isPlain_entity (by decide), trivial⟩
  · apply allPlain_ofChars
  · exact ⟨h, trivial⟩

/-- Nodes that are shown as code are plain: their text is spelled out by signs that are. -/
theorem allPlain_flatMap_inCode (h : AllPlain nodes) :
  AllPlain (nodes.flatMap inCode)
  := by
  apply allPlain_flatMap
  intro node hnode
  apply allPlain_inCode (allPlain_iff.mp h node hnode)

/-! ### Texts -/

mutual

/-- The text of a plain node is spelled by plain signs. -/
theorem isPlain_of_mem_text : ∀ {node : Node}, node.IsPlain → ∀ s ∈ node.text, s.IsPlain
  | sign s, h, s', hs => by
    rw [text, List.mem_singleton] at hs
    rw [hs]
    exact h
  | held number made, _, s, hs => by
    rw [text] at hs
    apply isPlain_of_mem_ofChars hs
  | element tag attributes content, h, s, hs => by
    rw [text] at hs
    apply isPlain_of_mem_textOf h.2 s hs

/-- The text of plain nodes is spelled by plain signs. -/
theorem isPlain_of_mem_textOf : ∀ {nodes : List Node}, AllPlain nodes →
    ∀ s ∈ textOf nodes, s.IsPlain
  | [], _, s, hs => by
    rw [textOf] at hs
    contradiction
  | node :: nodes, h, s, hs => by
    rw [textOf, List.mem_append] at hs
    obtain hs | hs := hs
    · apply isPlain_of_mem_text h.1 s hs
    · apply isPlain_of_mem_textOf h.2 s hs

end

/-- The same holds for the text in which what is held back is spelled as it was. -/
theorem isPlain_of_mem_openTextOf (h : AllPlain nodes) :
  ∀ s ∈ openTextOf nodes, s.IsPlain
  := by
  intro s hs
  obtain ⟨node, hnode, hs⟩ := List.mem_flatMap.mp hs
  have hplain := allPlain_iff.mp h node hnode
  split at hs
  · apply isPlain_of_mem_textOf hplain s hs
  · apply isPlain_of_mem_text hplain s hs

/-- Plain nodes without some of their first signs are plain, since a node that is cut is spelled by
characters. -/
theorem allPlain_dropSpelled (n : Nat) (h : AllPlain nodes) :
  AllPlain (dropSpelled n nodes)
  := by
  induction nodes generalizing n with
  | nil => exact h
  | cons node nodes ih =>
    rw [dropSpelled]
    split_ifs
    · exact h
    · apply ih _ h.2
    · rw [allPlain_append]
      use allPlain_ofChars _, h.2

/-! ### Cutting -/

/-- Trimming leaves no nodes but those that are there. -/
theorem trim_subset (nodes : List Node) :
  Node.trim nodes ⊆ nodes
  := by
  intro node hnode
  rw [Node.trim, List.mem_reverse] at hnode
  have hmem := (List.dropWhile_sublist _).subset hnode
  rw [List.mem_reverse] at hmem
  apply (List.dropWhile_sublist _).subset hmem

/-- The text at the front and what comes after it are all of the nodes. -/
theorem splitText_append (nodes : List Node) :
  (splitText nodes).1 ++ (splitText nodes).2 = nodes
  := by
  rw [splitText, List.span_eq_takeWhile_dropWhile, List.takeWhile_append_dropWhile]

/-- The last element of some nodes stands between what is before it and what is after it. -/
theorem eq_withContent_of_lastElement? {last : LastElement} (h : lastElement? nodes = some last) :
  nodes = last.withContent last.content
  := by
  rw [lastElement?, List.span_eq_takeWhile_dropWhile] at h
  split at h
  case h_1 after tag attributes content before hspan =>
    obtain rfl := Option.some.inj h
    rw [Prod.mk.injEq] at hspan
    have hnodes := List.takeWhile_append_dropWhile (p := (!·.isElement)) (l := nodes.reverse)
    rw [hspan.1, hspan.2] at hnodes
    rw [LastElement.withContent, ← List.reverse_reverse nodes, ← hnodes]
    simp
  case h_2 => contradiction

/-- What comes after some characters at the front is the end of the nodes. -/
theorem append_of_afterChars {cs : List Char} {rest : List Node}
    (h : afterChars cs nodes = some rest) :
  ∃ before, nodes = before ++ rest
  := by
  induction cs generalizing nodes with
  | nil =>
    rw [afterChars] at h
    use []
    simpa using h
  | cons c cs ih =>
    cases nodes with
    | nil => contradiction
    | cons node nodes =>
      rw [afterChars] at h
      split at h
      · obtain ⟨before, rfl⟩ := ih h
        use node :: before
        rfl
      · contradiction

/-- The two parts of nodes that are cut are all of the nodes. -/
theorem append_of_cutWhere {p : Option Node → List Node → Bool} {previous : Option Node}
    {before rest : List Node} (h : cutWhere p previous nodes = some (before, rest)) :
  nodes = before ++ rest
  := by
  induction nodes generalizing previous before with
  | nil => contradiction
  | cons node nodes ih =>
    rw [cutWhere] at h
    split at h
    · obtain ⟨rfl, rfl⟩ := h
      rfl
    · obtain ⟨⟨before', rest'⟩, hcut, ⟨⟩⟩ := Option.map_eq_some_iff.mp h
      rw [ih hcut, List.cons_append]

/-- The sections of some nodes are these nodes. -/
theorem sections_append (nodes : List Node) :
  (sections nodes).1 ++ (sections nodes).2.flatMap (fun (node, after) => node :: after) = nodes
  := by
  induction nodes with
  | nil => rfl
  | cons node nodes ih =>
    rw [sections]
    by_cases helement : node.isElement
    · simp only [helement, if_true, List.nil_append, List.flatMap_cons, List.cons_append, ih]
    · simp only [helement, Bool.false_eq_true, if_false, List.cons_append, ih]

end Node

/-! ### Computations with nodes -/

namespace Node

section

variable {m : Type → Type} [Monad m] (guarantee : Guarantee m) {f g : List Node → m (List Node)}

/-- A change of the text at the start of a node leaves it plain if it makes plain nodes of plain
texts. -/
theorem mapStart_gives (hf : ∀ text, AllPlain text → guarantee.gives AllPlain (f text))
    {node : Node} (h : node.IsPlain) :
  guarantee.gives IsPlain (node.mapStart f)
  := by
  cases node with
  | sign s => exact guarantee.gives_pure h
  | held number made => exact guarantee.gives_pure h
  | element tag attributes content =>
    obtain ⟨hattributes, hcontent⟩ := h
    rw [← splitText_append content, allPlain_append] at hcontent
    apply guarantee.gives_bind (hf _ hcontent.1)
    intro start hstart
    apply guarantee.gives_pure
    use hattributes
    rw [allPlain_append]
    exact ⟨hstart, hcontent.2⟩

/-- The text at the start of plain nodes is plain, and so are their elements and the texts after
these. -/
theorem sections_plain {content : List Node} (h : AllPlain content) :
  AllPlain (sections content).1 ∧ ∀ part ∈ (sections content).2, part.1.IsPlain ∧ AllPlain part.2
  := by
  rw [← sections_append content, allPlain_append] at h
  use h.1
  intro part hpart
  have hpair : AllPlain (part.1 :: part.2) := by
    apply h.2.mono
    intro node hnode
    exact List.mem_flatMap.mpr ⟨part, hpart, hnode⟩
  exact hpair

/-- Changes of the texts among some nodes leave them plain if they make plain nodes of plain texts.
-/
theorem mapTexts_gives [LawfulMonad m]
    (hf : ∀ text, AllPlain text → guarantee.gives AllPlain (f text))
    (hg : ∀ text, AllPlain text → guarantee.gives AllPlain (g text)) {content : List Node}
    (h : AllPlain content) :
  guarantee.gives AllPlain (mapTexts f g content)
  := by
  obtain ⟨hfirst, hrest⟩ := sections_plain h
  apply guarantee.gives_bind (hf _ hfirst)
  intro start hstart
  apply guarantee.gives_bind (p := fun rest => ∀ nodes ∈ rest, AllPlain nodes)
  · apply guarantee.gives_mapM
    intro part hpart
    apply guarantee.gives_bind (mapStart_gives guarantee hf (hrest part hpart).1)
    intro node hnode
    apply guarantee.gives_bind (hg _ (hrest part hpart).2)
    intro after hafter
    apply guarantee.gives_pure
    exact ⟨hnode, hafter⟩
  · intro rest hrest
    apply guarantee.gives_pure
    rw [allPlain_append]
    use hstart
    rw [← List.flatMap_id]
    exact allPlain_flatMap hrest

end

/-! ### Release -/

/-- What is held back until the end may be released: a node stays plain. -/
theorem isPlain_final {node : Node} (h : node.IsPlain) :
  (final node).IsPlain
  := by
  unfold final
  split
  · trivial
  · exact h

/-- The element for an address is plain if its attributes are, whatever is released from the
address. -/
theorem isPlain_releaseAddress {release : List Node → List Node}
    (hrelease : ∀ nodes, AllPlain nodes → AllPlain (release nodes)) {attributes : List Attribute}
    (hattributes : ∀ a ∈ attributes, a.IsPlain) {address : List Node} (h : AllPlain address) :
  (releaseAddress release attributes address).IsPlain
  := by
  rw [releaseAddress, List.span_eq_takeWhile_dropWhile]
  split
  case h_1 => exact ⟨hattributes, h⟩
  case h_2 last piece before hspan =>
    rw [Prod.mk.injEq] at hspan
    have hpieces : AllPlain (piece :: before).reverse := by
      rw [← hspan.2]
      apply (h.reverse.mono (List.dropWhile_sublist _).subset).reverse
    have hlast : AllPlain last.reverse := by
      rw [← hspan.1]
      apply (h.reverse.mono (List.takeWhile_sublist _).subset).reverse
    use hattributes
    rw [allPlain_append]
    use hrelease _ hpieces
    split
    · apply allPlain_map
      intro node hnode
      exact isPlain_final (allPlain_iff.mp hlast node hnode)
    · exact hlast

/-- Nodes stay plain when what is held back in them is released. -/
theorem allPlain_release (fuel : Nat) {nodes : List Node} (h : AllPlain nodes) :
  AllPlain (release fuel nodes)
  := by
  induction fuel generalizing nodes with
  | zero => exact h
  | succ fuel ih =>
    rw [release]
    apply allPlain_flatMap
    intro node hnode
    have hplain := allPlain_iff.mp h node hnode
    split
    · apply allPlain_map
      intro node hnode
      have hmade := allPlain_iff.mp hplain node hnode
      split
      · apply isPlain_releaseAddress (fun nodes hnodes => ih hnodes) hmade.1 hmade.2
      · use hmade.1
        apply mapTexts_gives Guarantee.id _ _ hmade.2
        · intro text htext
          exact ih htext
        · intro text htext
          exact ih htext
      · exact hmade
    · exact ⟨hplain, trivial⟩

end Node

end DocTable.Markdown
