import DocTable.Proofs.Comment.Conservation
import DocTable.Proofs.Comment.Fences
import DocTable.Proofs.Comment.Rendered

/-!
# Groups of tags

A comment has one tag for each of its tag lines, whether its body can be read or not
(`forall₂_isTagAt`).  The block of the comment groups these tags by their lower-cased names, and
the same name decides how a body is read, so that the group of a key has tags of few classes
(`ofComment_tagGroups`).
-/

namespace DocTable

open Text

namespace Comment

variable {lines : List (List Char)}

/-! ### Tag lines -/

/-- A tag starts at the line at a place: the line looks like it, and an even number of fence lines
stands before. -/
def IsTagLineAt (lines : List (List Char)) (i : Nat) : Prop :=
  ∃ line ∈ lines[i]?, StartsTag line ∧ Even ((lines.take i).countP isFence)

instance : DecidablePred (IsTagLineAt lines) := fun i =>
  inferInstanceAs (Decidable (∃ line ∈ lines[i]?, _))

/-- The places of the lines at which tags start, in order. -/
def tagLines (lines : List (List Char)) : List Nat :=
  (List.range lines.length).filter (IsTagLineAt lines ·)

theorem tagStartsFrom_eq_filter (code : Bool) (lines : List (List Char)) :
  tagStartsFrom code lines
    = (List.range lines.length).filter fun i =>
        decide (∃ line ∈ lines[i]?, StartsTag line ∧ codeAfter code (lines.take i) = false)
  := by
  induction lines generalizing code with
  | nil => rfl
  | cons line lines ih =>
    rw [tagStartsFrom_cons, ih, List.length_cons, List.range_succ_eq_map, List.filter_cons,
      List.filter_map]
    by_cases hstarts : StartsTag line ∧ code = false
    · rw [if_pos hstarts, if_pos (by simpa [codeAfter] using hstarts)]
      rfl
    · rw [if_neg hstarts, if_neg (by simpa [codeAfter] using hstarts)]
      rfl

theorem tagStarts_eq_tagLines (lines : List (List Char)) :
  tagStarts lines = tagLines lines
  := by
  rw [tagStarts, tagStartsFrom_eq_filter, tagLines]
  simp only [codeAfter_eq_false_iff]
  rfl

/-! ### Tags -/

/-- The tag is read from the name and the body that stand at a place. -/
def IsTagAt (lines : List (List Char)) (i : Nat) (tag : Tag) : Prop :=
  ∃ chunk : Chunk, chunk.StandsAt lines i ∧ tag = Tag.ofBody (String.ofList chunk.name) chunk.body

theorem forall₂_isTagAt (lines : List (List Char)) :
  List.Forall₂ (IsTagAt lines) (tagLines lines) (tags lines)
  := by
  rw [← tagStarts_eq_tagLines, tags, List.forall₂_map_right_iff]
  apply (forall₂_standsAt false lines).2.imp
  intro i chunk hchunk
  exact ⟨chunk, hchunk, rfl⟩

end Comment

open Comment

/-- The classes of the tags in the group of a key. -/
def TagClass.ofGroup (key : String) : List TagClass :=
  if key = "param" then [.param, .generic]
  else if key ∈ ["var", "return", "throws"] then [.typed, .generic]
  else [.generic]

/-- The key of a group says as much as the name of a tag about how a body is read. -/
theorem TagClass.mem_ofGroup_lower_iff {tagClass : TagClass} {name : String} :
  tagClass ∈ TagClass.ofGroup (lower name) ↔ tagClass = TagClass.ofName name ∨ tagClass = .generic
  := by
  rw [TagClass.ofGroup, TagClass.ofName]
  split_ifs <;> simp_all

theorem Tag.tagClass_ofBody (name : String) (body : List Char) :
  (Tag.ofBody name body).tagClass = TagClass.ofName name
    ∨ (Tag.ofBody name body).tagClass = .generic
  := by
  cases h : Tag.ofBody name body with
  | param tag => exact .inl (Tag.ofBody_eq_param_iff.mp h).1.symm
  | typed tag => exact .inl (Tag.ofBody_eq_typed_iff.mp h).1.symm
  | generic tag => exact .inr rfl

theorem tagClass_mem_of_mem_tags {lines : List (List Char)} {tag : Tag}
    (h : tag ∈ Comment.tags lines) :
  tag.tagClass ∈ TagClass.ofGroup (lower tag.name)
  := by
  rw [Comment.tags, List.mem_map] at h
  obtain ⟨chunk, -, rfl⟩ := h
  rw [Tag.name_ofBody, TagClass.mem_ofGroup_lower_iff]
  apply Tag.tagClass_ofBody

/-- The groups of tags of a comment.  The keys stand in the order in which their tag lines first
appear; a group has tags, which are those of its key in the order of their lines, and each of them
is of a class for the key; and no tag line is left out. -/
theorem DocBlock.ofComment_tagGroups (raw : String) :
  ∃ tags, List.Forall₂ (IsTagAt (contentLines raw.toList)) (tagLines (contentLines raw.toList)) tags
    ∧ (DocBlock.ofComment raw).tags.keys = (tags.map fun tag => lower tag.name).eraseDups
    ∧ (∀ key group, (key, group) ∈ (DocBlock.ofComment raw).tags.entries →
      group ≠ [] ∧ group = tags.filter (lower ·.name = key)
        ∧ ∀ tag ∈ group, lower tag.name = key ∧ tag.tagClass ∈ TagClass.ofGroup key)
    ∧ (DocBlock.ofComment raw).allTags.length = (tagLines (contentLines raw.toList)).length
  := by
  rw [DocBlock.ofComment]
  have hlines := forall₂_isTagAt (contentLines raw.toList)
  have hgroups := groups_tags_ofLines (contentLines raw.toList)
  refine ⟨Comment.tags (contentLines raw.toList), hlines, hgroups.keys, ?_, ?_⟩
  · intro key group hgroup
    obtain ⟨hfilter, hne⟩ := hgroups.of_mem_entries hgroup
    use hne, hfilter
    intro tag htag
    have hclass := tagClass_mem_of_mem_tags (hgroups.mem_items hgroup htag)
    have hkey : lower tag.name = key := by
      rw [hfilter, List.mem_filter, decide_eq_true_iff] at htag
      exact htag.2
    rw [hkey] at hclass
    exact ⟨hkey, hclass⟩
  · rw [hlines.length_eq, DocBlock.allTags, DocBlock.ofLines]
    apply (perm_flatten_groupBy _ _).length_eq

end DocTable
