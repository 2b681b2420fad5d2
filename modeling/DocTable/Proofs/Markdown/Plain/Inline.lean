import DocTable.Markdown.Inline
import DocTable.Proofs.Markdown.Plain.Rule

/-!
# Plain texts

Inline markup that is read in plain nodes gives plain nodes, if the rules find plain nodes in plain
nodes: in each text, and in the texts of a whole document.
-/

namespace DocTable.Markdown.Inline

open Node Guarantee

/-- What holds of the results of reading, whatever the numbers are. -/
abbrev numbered : Guarantee Numbering := stateful Counts

/-! ### Texts -/

/-- What stands before a piece of markup, what it stands for and what stands after it are plain. -/
def FoundPlain (found : List Node × List Node × List Node) : Prop :=
  AllPlain found.1 ∧ AllPlain found.2.1 ∧ AllPlain found.2.2

/-- What a rule finds first in plain nodes is plain, and so is what stands on either side of it. -/
theorem firstFound_gives {rule : Rule} (hrule : rule.KeepsPlain) (previous : Option Node)
    (skipped : Nat) {nodes : List Node} (h : AllPlain nodes) :
  option.gives FoundPlain (firstFound rule previous skipped nodes)
  := by
  induction nodes generalizing previous skipped with
  | nil =>
    cases skipped with
    | zero => exact option_gives_none
    | succ skipped => exact option_gives_none
  | cons node nodes ih =>
    have hlater (skipped : Nat) : option.gives FoundPlain
        ((firstFound rule (some node) skipped nodes).map
          fun found => (node :: found.1, found.2)) := by
      apply option_gives_map (ih (some node) skipped h.2)
      intro found hfound
      exact ⟨⟨h.1, hfound.1⟩, hfound.2⟩
    cases skipped with
    | succ skipped => exact hlater skipped
    | zero =>
      have hkeeps := hrule previous (node :: nodes) h
      rw [firstFound]
      split
      case h_1 made rest hmade =>
        rw [hmade] at hkeeps
        apply option_gives_some
        exact ⟨trivial, hkeeps⟩
      case h_2 => apply hlater
      case h_3 => apply hlater

/-- A node stays plain if the changes of its texts make plain nodes of plain ones. -/
theorem mapNode_gives {f g : List Node → Numbering (List Node)}
    (hf : ∀ text, AllPlain text → numbered.gives AllPlain (f text))
    (hg : ∀ text, AllPlain text → numbered.gives AllPlain (g text)) {node : Node}
    (h : node.IsPlain) :
  numbered.gives IsPlain (mapNode f g node)
  := by
  unfold mapNode
  split
  case h_1 tag attributes content =>
    obtain ⟨hattributes, hcontent⟩ := h
    apply numbered.gives_ite_bind (numbered.gives_pure hcontent)
      (mapTexts_gives numbered hf hg hcontent)
    intro content hcontent
    apply numbered.gives_pure
    exact ⟨hattributes, hcontent⟩
  case h_2 number body =>
    apply numbered.gives_after
    intro number
    exact numbered.gives_pure h
  case h_3 => exact numbered.gives_pure h

/-- Inline markup that is read in plain nodes gives plain nodes.  The induction is on the bound for
the steps, since a rule may leave nodes in which the others read again. -/
theorem read_gives (fuel : Nat) {rules : List Rule} (hrules : ∀ rule ∈ rules, rule.KeepsPlain)
    {nodes : List Node} (h : AllPlain nodes) :
  numbered.gives AllPlain (read fuel rules nodes)
  := by
  induction fuel generalizing rules nodes with
  | zero => exact numbered.gives_pure h
  | succ fuel ih =>
    cases rules with
    | nil => exact numbered.gives_pure h
    | cons rule rules =>
      have hall := hrules
      rw [List.forall_mem_cons] at hrules
      rw [read]
      split
      case h_1 => exact ih hrules.2 h
      case h_2 before made rest hfound =>
        obtain ⟨hbefore, hmade, hrest⟩ :=
          option_gives_iff.mp (firstFound_gives hrules.1 none 0 h) _ hfound
        apply numbered.gives_bind (p := fun made => ∀ node ∈ made, node.IsPlain)
        · apply gives_mapM
          intro node hnode
          apply mapNode_gives (fun text => ih hrules.2) (fun text => ih hall)
          apply allPlain_iff.mp hmade node hnode
        · intro made hmade
          apply numbered.gives_after
          intro number
          apply ih hall
          rw [allPlain_append]
          exact ⟨hbefore, allPlain_iff.mpr hmade, hrest⟩

/-- A plain text gives plain nodes. -/
theorem ofText_gives {rules : List Rule} (hrules : ∀ rule ∈ rules, rule.KeepsPlain)
    {text : List Node} (h : AllPlain text) :
  numbered.gives AllPlain (ofText rules text)
  := by
  apply numbered.gives_bind (read_gives _ hrules h)
  intro nodes hnodes
  apply numbered.gives_after
  intro counts
  apply numbered.gives_pure
  exact allPlain_release _ hnodes

/-! ### Documents -/

/-- A plain element, and plain text after it. -/
def SectionPlain (part : Section) : Prop :=
  part.1.IsPlain ∧ AllPlain part.2

/-- Sections that are all plain. -/
def GroupPlain (group : List Section) : Prop :=
  ∀ part ∈ group, SectionPlain part

/-- Groups of sections that are all plain. -/
def GroupsPlain (groups : List (List Section)) : Prop :=
  ∀ group ∈ groups, GroupPlain group

/-- The sections of plain groups are plain. -/
theorem GroupsPlain.flatten {groups : List (List Section)} (h : GroupsPlain groups) :
  GroupPlain groups.flatten
  := List.forall_mem_flatten.mpr h

/-- Plain sections are plain as groups of one each. -/
theorem GroupPlain.map_singleton {group : List Section} (h : GroupPlain group) :
  GroupsPlain (group.map ([·]))
  := by
  intro _ hgroup
  obtain ⟨part, hpart, rfl⟩ := List.mem_map.mp hgroup
  rw [GroupPlain, List.forall_mem_singleton]
  exact h part hpart

/-- The nodes of plain sections are plain. -/
theorem allPlain_nodesOf {group : List Section} (h : GroupPlain group) :
  AllPlain (nodesOf group)
  := allPlain_flatMap h

/-- An element that is entered has only plain nodes. -/
structure Entered.IsPlain (e : Entered) : Prop where
  attributes : ∀ a ∈ e.attributes, a.IsPlain
  start : AllPlain e.start
  found : GroupPlain e.found
  children : GroupPlain e.children
  after : AllPlain e.after

/-- If each element gives a result with a property, then so do all, from the last one on. -/
theorem mapFromLast_gives {α β : Type} {q : β → Prop} {f : α → Numbering β} {xs : List α}
    (h : ∀ x ∈ xs, numbered.gives q (f x)) :
  numbered.gives (fun ys => ∀ y ∈ ys, q y) (mapFromLast f xs)
  := by
  apply numbered.gives_bind (p := fun ys => ∀ y ∈ ys, q y)
  · apply gives_mapM
    intro x hx
    apply h x (List.mem_reverse.mp hx)
  · intro ys hys
    apply numbered.gives_pure
    intro y hy
    apply hys y (List.mem_reverse.mp hy)

section

variable {visit : List Section → Numbering (List (List Section))}
  (hvisit : ∀ group, GroupPlain group → numbered.gives GroupsPlain (visit group))

include hvisit

/-- The content of an element stays plain if visits keep sections plain. -/
theorem visitContent_gives {content : List Node} (h : AllPlain content) :
  numbered.gives AllPlain (visitContent visit content)
  := by
  obtain ⟨hfirst, hrest⟩ := sections_plain h
  apply numbered.gives_bind (hvisit _ hrest)
  intro groups hgroups
  apply numbered.gives_pure
  rw [allPlain_append]
  exact ⟨hfirst, allPlain_nodesOf hgroups.flatten⟩

/-- A section stays plain if visits inside do. -/
theorem visitSection_gives {part : Section} (h : SectionPlain part) :
  numbered.gives SectionPlain (visitSection visit part)
  := by
  unfold visitSection
  split
  case h_1 tag attributes content after =>
    obtain ⟨⟨hattributes, hcontent⟩, hafter⟩ := h
    apply numbered.gives_bind (visitContent_gives hvisit hcontent)
    intro content hcontent
    apply numbered.gives_pure
    exact ⟨⟨hattributes, hcontent⟩, hafter⟩
  case h_2 => exact numbered.gives_pure h

/-- What has been entered is plain when it is left. -/
theorem leave_gives {e : Entered} (h : e.IsPlain) :
  numbered.gives SectionPlain (leave visit e)
  := by
  have hall : GroupPlain (e.found ++ e.children) := by
    rw [GroupPlain, List.forall_mem_append]
    exact ⟨h.found, h.children⟩
  apply numbered.gives_ite_bind (numbered.gives_pure h.found.map_singleton) (hvisit _ hall)
  intro groups hgroups
  simp only [List.splitAt_eq]
  apply numbered.gives_bind (p := GroupsPlain)
  · apply mapFromLast_gives
    intro group hgroup
    have hplain := hgroups group (List.mem_of_mem_take hgroup)
    cases group with
    | nil => exact numbered.gives_pure hplain
    | cons first others =>
      rw [GroupPlain, List.forall_mem_cons] at hplain
      apply numbered.gives_bind (visitSection_gives hvisit hplain.1)
      intro first hfirst
      apply numbered.gives_pure
      rw [GroupPlain, List.forall_mem_cons]
      exact ⟨hfirst, hplain.2⟩
  · intro found hfound
    apply numbered.gives_pure
    refine ⟨⟨h.attributes, ?_⟩, h.after⟩
    rw [allPlain_append]
    use h.start
    apply allPlain_nodesOf
    apply GroupsPlain.flatten
    rw [GroupsPlain, List.forall_mem_append]
    use hfound
    intro group hgroup
    exact hgroups group (List.mem_of_mem_drop hgroup)

end

section

variable {rules : List Rule} (hrules : ∀ rule ∈ rules, rule.KeepsPlain)

include hrules

/-- What is entered in plain sections is plain. -/
theorem enter_gives (fuel : Nat) {part : Section} (h : SectionPlain part) :
  numbered.gives (fun entered => ∀ e ∈ entered, e.IsPlain) (enter rules fuel part)
  := by
  induction fuel generalizing part with
  | zero =>
    apply numbered.gives_pure
    simp
  | succ fuel ih =>
    obtain ⟨node, after⟩ := part
    obtain ⟨hnode, hafter⟩ := h
    have hnone :
        numbered.gives (fun entered : List Entered => ∀ e ∈ entered, e.IsPlain) (pure []) := by
      apply numbered.gives_pure
      simp
    cases node with
    | sign s => exact hnone
    | held number made => exact hnone
    | element tag attributes content =>
      obtain ⟨hattributes, hcontent⟩ := hnode
      obtain ⟨text, elements, hsplit⟩ : ∃ text elements, splitText content = (text, elements) :=
        ⟨_, _, rfl⟩
      have hparts := splitText_append content
      rw [hsplit] at hparts
      rw [← hparts, allPlain_append] at hcontent
      rw [enter, hsplit]
      apply numbered.gives_ite_bind (numbered.gives_pure hcontent.1)
        (ofText_gives hrules hcontent.1)
      intro start hstart
      apply numbered.gives_bind (ofText_gives hrules hafter)
      intro after hafter
      obtain ⟨hfirst, hfound⟩ := sections_plain hstart
      obtain ⟨hrest, hmore⟩ := sections_plain hafter
      apply numbered.gives_bind (gives_mapM numbered fun part hpart => ih (hmore part hpart))
      intro others hothers
      apply numbered.gives_pure
      rw [List.forall_mem_cons]
      constructor
      · exact {
          attributes := hattributes
          start := hfirst
          found := hfound
          children := (sections_plain hcontent.2).2
          after := hrest }
      · exact List.forall_mem_flatten.mpr hothers

/-- A visit of plain sections gives plain groups.  The induction is on the bound for the steps. -/
theorem visit_gives (fuel : Nat) {group : List Section} (h : GroupPlain group) :
  numbered.gives GroupsPlain (visit rules fuel group)
  := by
  induction fuel generalizing group with
  | zero => exact numbered.gives_pure h.map_singleton
  | succ fuel ih =>
    apply numbered.gives_bind
    · apply gives_mapM
      intro part hpart
      apply enter_gives hrules (fuel + 1) (h part hpart)
    · intro groups hgroups
      apply mapFromLast_gives
      intro entered hentered
      apply mapFromLast_gives
      intro e he
      apply leave_gives (fun group hgroup => ih hgroup) (hgroups entered hentered e he)

/-- A document with its inline markup is plain. -/
theorem allPlain_ofContent (fuel : Nat) {content : List Node} (h : AllPlain content) :
  AllPlain (ofContent rules fuel content)
  := by
  have hgives := visitContent_gives (fun group hgroup => visit_gives hrules fuel hgroup) h
  exact stateful_gives_iff.mp hgives _

end

end DocTable.Markdown.Inline
