import DocTable.Markup.Converter
import Mathlib.Data.List.Induction

/-!
# The elements of a text

`IsElements` is a grammar of HTML: texts without a less-than sign, and elements with names and
attributes from closed lists, each of which is closed where it is opened unless it is void.  Every
less-than sign in a text of this grammar begins the start tag or the end tag of an element
(`IsElements.beginsTags`).
-/

namespace DocTable

/-! ### The grammar -/

/-- The names of the elements with an end tag. -/
def closedNames : List String :=
  ["p", "em", "strong", "code", "pre", "a", "h1", "h2", "h3", "h4", "h5", "h6", "ul", "ol", "li",
    "blockquote", "table", "thead", "tbody", "tr", "th", "td"]

/-- The names of the attributes. -/
def attributeNames : List String :=
  ["href", "src", "alt", "title", "class", "id", "style"]

/-- An attribute in a tag, with the space before it: a name, and a value between quotation marks
unless this is left out. -/
inductive IsAttribute : List Char → Prop where
  | name {name : String} (hname : name ∈ attributeNames) : IsAttribute (' ' :: name.toList)
  | pair {name : String} (hname : name ∈ attributeNames) {value : List Char}
      (hquote : '\x22' ∉ value) (hless : '<' ∉ value) :
      IsAttribute (' ' :: name.toList ++ '=' :: '\x22' :: value ++ ['\x22'])

/-- The start tag of an element with attributes. -/
def IsStartTag (name : String) (cs : List Char) : Prop :=
  ∃ attributes : List (List Char), (∀ a ∈ attributes, IsAttribute a)
    ∧ cs = '<' :: (name.toList ++ attributes.flatten ++ ['>'])

/-- The end tag of an element. -/
def IsEndTag (name : String) (cs : List Char) : Prop :=
  cs = '<' :: '/' :: (name.toList ++ ['>'])

/-- HTML in which every element is closed where it is opened, unless it is void. -/
inductive IsElements : List Char → Prop where
  | text {cs : List Char} (hcs : '<' ∉ cs) : IsElements cs
  | void {name : String} (hname : name ∈ voidNames) {opening : List Char}
      (hopening : IsStartTag name opening) : IsElements opening
  | closed {name : String} (hname : name ∈ closedNames) {opening content closing : List Char}
      (hopening : IsStartTag name opening) (hcontent : IsElements content)
      (hclosing : IsEndTag name closing) : IsElements (opening ++ content ++ closing)
  | append {cs cs' : List Char} (hcs : IsElements cs) (hcs' : IsElements cs') :
      IsElements (cs ++ cs')

/-- The start tag or the end tag of an element. -/
def IsTag (cs : List Char) : Prop :=
  ∃ name ∈ closedNames ++ voidNames,
    IsStartTag name cs ∨ name ∈ closedNames ∧ IsEndTag name cs

/-! ### Tags in HTML -/

/-- No tag begins in an attribute. -/
theorem IsAttribute.not_mem {cs : List Char} (h : IsAttribute cs) :
  '<' ∉ cs
  := by
  have hnames : ∀ name ∈ attributeNames, '<' ∉ name.toList := by decide
  cases h with
  | name hname => simpa using hnames _ hname
  | pair hname _ hless => simp [hnames _ hname, hless]

/-- Nothing else in a tag looks like its beginning. -/
theorem IsTag.exists_eq_cons {cs : List Char} (h : IsTag cs) :
  ∃ rest, cs = '<' :: rest ∧ '<' ∉ rest
  := by
  have hnames : ∀ name ∈ closedNames ++ voidNames, '<' ∉ name.toList := by decide
  obtain ⟨name, hname, ⟨attributes, hattributes, rfl⟩ | ⟨-, rfl⟩⟩ := h
  · refine ⟨_, rfl, ?_⟩
    have hflat : '<' ∉ attributes.flatten := by
      rw [List.mem_flatten]
      rintro ⟨a, ha, hmem⟩
      exact (hattributes a ha).not_mem hmem
    simp [hnames name hname, hflat]
  · refine ⟨_, rfl, ?_⟩
    simp [hnames name hname]

/-- Every less-than sign begins a tag. -/
def BeginsTags (cs : List Char) : Prop :=
  ∀ before after, cs = before ++ '<' :: after → ∃ tag rest, '<' :: after = tag ++ rest ∧ IsTag tag

namespace BeginsTags

variable {cs cs' : List Char}

theorem of_not_mem (h : '<' ∉ cs) :
  BeginsTags cs
  := by
  rintro before after rfl
  exact absurd (List.mem_append_right _ List.mem_cons_self) h

theorem of_isTag (h : IsTag cs) :
  BeginsTags cs
  := by
  intro before after heq
  obtain ⟨rest, hcs, hrest⟩ := h.exists_eq_cons
  cases before with
  | nil => exact ⟨cs, [], by rw [heq, List.append_nil, List.nil_append], h⟩
  | cons c before =>
    rw [hcs, List.cons_append, List.cons.injEq] at heq
    rw [heq.2] at hrest
    exact absurd (List.mem_append_right _ List.mem_cons_self) hrest

theorem append (h : BeginsTags cs) (h' : BeginsTags cs') :
  BeginsTags (cs ++ cs')
  := by
  intro before after heq
  obtain ⟨between, hbefore, hcs'⟩ | ⟨between, hcs, hafter⟩ := List.append_eq_append_iff.mp heq
  · exact h' between after hcs'
  · cases between with
    | nil => exact h' [] after hafter.symm
    | cons c between =>
      rw [List.cons_append, List.cons.injEq] at hafter
      obtain ⟨rfl, rfl⟩ := hafter
      obtain ⟨tag, rest, htag, hisTag⟩ := h before between hcs
      use tag, rest ++ cs'
      rw [← List.append_assoc, ← htag]
      exact ⟨rfl, hisTag⟩

end BeginsTags

theorem IsElements.beginsTags {cs : List Char} (h : IsElements cs) :
  BeginsTags cs
  := by
  induction h with
  | text hcs => exact .of_not_mem hcs
  | void hname hopening =>
    apply BeginsTags.of_isTag
    exact ⟨_, List.mem_append_right _ hname, .inl hopening⟩
  | closed hname hopening _ hclosing ih =>
    refine (BeginsTags.append (.of_isTag ?_) ih).append (.of_isTag ?_)
    · exact ⟨_, List.mem_append_left _ hname, .inl hopening⟩
    · exact ⟨_, List.mem_append_left _ hname, .inr ⟨hname, hclosing⟩⟩
  | append _ _ ih ih' => exact ih.append ih'

/-! ### Trimming -/

theorem IsStartTag.exists_eq {name : String} {cs : List Char} (h : IsStartTag name cs) :
  ∃ inside, cs = '<' :: inside ++ ['>']
  := by
  obtain ⟨attributes, -, rfl⟩ := h
  exact ⟨_, rfl⟩

namespace IsElements

variable {cs : List Char} {c : Char}

/-- A character at the start belongs to a text unless it begins a tag. -/
theorem of_cons (hc : c ≠ '<') (h : IsElements (c :: cs)) :
  IsElements cs
  := by
  generalize heq : c :: cs = text at h
  -- The character is in the first part of an appended text that is not empty.
  induction h generalizing cs with
  | text hnone =>
    rw [← heq, List.mem_cons, not_or] at hnone
    exact .text hnone.2
  | void _ hopening =>
    obtain ⟨inside, rfl⟩ := hopening.exists_eq
    exact absurd (List.cons.inj heq).1 hc
  | closed _ hopening _ _ _ =>
    obtain ⟨inside, rfl⟩ := hopening.exists_eq
    exact absurd (List.cons.inj heq).1 hc
  | @append front back _ hback ih ih' =>
    cases front with
    | nil => exact ih' heq
    | cons d front =>
      obtain ⟨rfl, rfl⟩ := List.cons.inj heq
      exact (ih rfl).append hback

/-- A character at the end belongs to a text unless it ends a tag. -/
theorem of_concat (hc : c ≠ '>') (h : IsElements (cs ++ [c])) :
  IsElements cs
  := by
  generalize heq : cs ++ [c] = text at h
  induction h generalizing cs with
  | text hnone =>
    rw [← heq, List.mem_append, not_or] at hnone
    exact .text hnone.1
  | void _ hopening =>
    obtain ⟨inside, rfl⟩ := hopening.exists_eq
    exact absurd (List.singleton_inj.mp (List.append_inj' heq rfl).2) hc
  | closed _ _ _ hclosing _ =>
    rw [hclosing, ← List.cons_append, ← List.cons_append, ← List.append_assoc] at heq
    exact absurd (List.singleton_inj.mp (List.append_inj' heq rfl).2) hc
  | @append front back hfront _ ih ih' =>
    obtain rfl | ⟨back, d, rfl⟩ := back.eq_nil_or_concat
    · exact ih (heq.trans front.append_nil)
    · rw [List.concat_eq_append, ← List.append_assoc] at heq
      obtain ⟨rfl, hlast⟩ := List.append_inj' heq rfl
      rw [List.concat_eq_append, ← hlast] at ih'
      exact hfront.append (ih' rfl)

theorem of_append_left {blanks : List Char} (hblanks : '<' ∉ blanks)
    (h : IsElements (blanks ++ cs)) :
  IsElements cs
  := by
  induction blanks with
  | nil => exact h
  | cons c blanks ih =>
    rw [List.mem_cons, not_or] at hblanks
    exact ih hblanks.2 (h.of_cons (Ne.symm hblanks.1))

theorem of_append_right {blanks : List Char} (hblanks : '>' ∉ blanks)
    (h : IsElements (cs ++ blanks)) :
  IsElements cs
  := by
  induction blanks using List.reverseRecOn with
  | nil => rwa [List.append_nil] at h
  | append_singleton blanks c ih =>
    rw [List.mem_append, not_or, List.mem_singleton] at hblanks
    rw [← List.append_assoc] at h
    exact ih hblanks.1 (h.of_concat (Ne.symm hblanks.2))

end IsElements

/-! ### Elements that are written -/

/-- What is written for an element is in the grammar if its attributes and its content are. -/
theorem isElements_elementHtml {name : String} (hname : name ∈ closedNames ++ voidNames)
    {attributes : List (List Char)} (hattributes : ∀ a ∈ attributes, IsAttribute a)
    {content : List Char} (hcontent : IsElements content) :
  IsElements (elementHtml name attributes content)
  := by
  have hopening : IsStartTag name ('<' :: (name.toList ++ attributes.flatten ++ ['>'])) :=
    ⟨attributes, hattributes, rfl⟩
  have hwritten : elementHtml name attributes content
      = '<' :: (name.toList ++ attributes.flatten ++ ['>']) ++ content
        ++ (if name ∈ voidNames then [] else '<' :: '/' :: (name.toList ++ ['>'])) := by
    simp [elementHtml]
  rw [hwritten]
  split
  case isTrue hvoid =>
    rw [List.append_nil]
    exact (IsElements.void hvoid hopening).append hcontent
  case isFalse hvoid =>
    have hclosed : name ∈ closedNames := (List.mem_append.mp hname).resolve_right hvoid
    exact .closed hclosed hopening hcontent rfl

end DocTable
