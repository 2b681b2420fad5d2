import DocTable.Proofs.TypeAnnotation
import Mathlib.Data.Finset.Dedup
import Mathlib.Data.Finset.Max

/-!
# Canonical types

A canonical type is empty, null, or a list of distinct members of which only the first may follow a
question mark (`IsCanonical`).  Read as a type, it is written as it stands.

One question mark is cut off a member, and a second one stays with it as a part of its name.  So a
type is written in canonical form if none of its members is marked twice.  If one is, the result is
not canonical, and it is read as another type unless only its first member begins with a question
mark (`ofText_ofText`).
-/

namespace DocTable.TypeAnnotation

open Text

variable {part name : List Char} {parts members : List (List Char)} {nullable : Bool}

/-! ### Names of members -/

/-- The text may be named by a member: it is trimmed and not empty, and it is not null. -/
structure IsName (name : List Char) : Prop where
  trimmed : trim name = name
  notEmpty : name ≠ []
  notNull : ¬IsNull name

/-- The member has a second question mark after the one that it begins with, blanks apart. -/
def IsMarkedTwice (part : List Char) : Prop :=
  IsMarked part ∧ IsMarked (trim part).tail

instance : DecidablePred IsMarkedTwice := fun part =>
  inferInstanceAs (Decidable (IsMarked part ∧ IsMarked (trim part).tail))

theorem isMarked_trim :
  IsMarked (trim part) ↔ IsMarked part
  := by
  rw [IsMarked, IsMarked, trim_trim]

theorem exists_trim_of_isMarked (h : IsMarked part) :
  ∃ rest, trim part = '?' :: rest
  := List.head?_eq_some_iff.mp h

/-- A name is the trimmed text of the member without its mark. -/
theorem readName_eq_some_iff {marked : Bool} {cs : List Char} :
  (readName marked (trim cs)).2 = some name ↔ trim cs = name ∧ IsName name
  := by
  rw [readName]
  constructor
  · intro h
    split_ifs at h with hempty hnull
    obtain rfl := Option.some.inj h
    refine ⟨rfl, trim_trim cs, by simpa using hempty, ?_⟩
    rwa [IsNull, trim_trim]
  · rintro ⟨rfl, hname⟩
    have hnull := hname.notNull
    rw [IsNull, trim_trim] at hnull
    rw [if_neg (by simpa using hname.notEmpty), if_neg hnull]

theorem readMember_eq_some_iff_of_isMarked (h : IsMarked part) :
  (readMember part).2 = some name ↔ trim (trim part).tail = name ∧ IsName name
  := by
  obtain ⟨rest, hrest⟩ := exists_trim_of_isMarked h
  rw [readMember_of_trim_eq_cons hrest, readName_eq_some_iff, hrest, List.tail_cons]

theorem readMember_eq_some_iff_of_not_isMarked (h : ¬IsMarked part) :
  (readMember part).2 = some name ↔ trim part = name ∧ IsName name
  := by
  rw [readMember_of_not_isMarked h, readName_eq_some_iff]

theorem isName_of_readMember (h : (readMember part).2 = some name) :
  IsName name
  := by
  by_cases hmarked : IsMarked part
  · exact ((readMember_eq_some_iff_of_isMarked hmarked).mp h).2
  · exact ((readMember_eq_some_iff_of_not_isMarked hmarked).mp h).2

/-- A name begins with a question mark if the member has two. -/
theorem isMarked_iff_of_readMember (h : (readMember part).2 = some name) :
  IsMarked name ↔ IsMarkedTwice part
  := by
  by_cases hmarked : IsMarked part
  · obtain ⟨rfl, -⟩ := (readMember_eq_some_iff_of_isMarked hmarked).mp h
    rw [isMarked_trim, IsMarkedTwice, and_iff_right hmarked]
  · obtain ⟨rfl, -⟩ := (readMember_eq_some_iff_of_not_isMarked hmarked).mp h
    rw [isMarked_trim, IsMarkedTwice]
    exact iff_of_false hmarked fun htwice => hmarked htwice.1

/-- A member that is marked twice names something. -/
theorem exists_readMember_of_isMarkedTwice (h : IsMarkedTwice part) :
  ∃ name, (readMember part).2 = some name
  := by
  use trim (trim part).tail
  rw [readMember_eq_some_iff_of_isMarked h.1]
  have hmarked := isMarked_trim.mpr h.2
  refine ⟨rfl, trim_trim _, ?_, fun hnull => hnull.not_isMarked hmarked⟩
  rintro hnil
  rw [hnil] at hmarked
  contradiction

/-- A member that is marked names something shorter than itself. -/
theorem length_lt_of_readMember (hmarked : IsMarked part) (h : (readMember part).2 = some name) :
  name.length < part.length
  := by
  obtain ⟨rfl, -⟩ := (readMember_eq_some_iff_of_isMarked hmarked).mp h
  obtain ⟨rest, hrest⟩ := exists_trim_of_isMarked hmarked
  calc
    (trim (trim part).tail).length ≤ (trim part).tail.length := (trim_sublist _).length_le
    _ < (trim part).length := by rw [hrest]; exact Nat.lt_succ_self _
    _ ≤ part.length := (trim_sublist part).length_le

/-! ### Names that are read again -/

theorem IsName.readMember (hname : IsName name) (h : ¬IsMarked name) :
  readMember name = (false, some name)
  := by
  have hnull := hname.notNull
  rw [IsNull, hname.trimmed] at hnull
  rw [readMember_of_not_isMarked h, hname.trimmed, readName,
    if_neg (by simpa using hname.notEmpty), if_neg hnull]

/-- With a mark before it, a name is read as it stands, whatever it begins with. -/
theorem IsName.readMember_mark (hname : IsName name) :
  TypeAnnotation.readMember ('?' :: name) = (true, some name)
  := by
  have hnull := hname.notNull
  rw [IsNull, hname.trimmed] at hnull
  rw [readMember_of_trim_eq_cons (trim_cons (by decide) name), trim_trimRight, hname.trimmed,
    readName, if_neg (by simpa using hname.notEmpty), if_neg hnull]

theorem names_of_not_isMarked (hnames : ∀ name ∈ members, IsName name)
    (h : ∀ name ∈ members, ¬IsMarked name) :
  names members = members ∧ admitsNull members = false
  := by
  induction members with
  | nil => exact ⟨rfl, rfl⟩
  | cons name members ih =>
    rw [List.forall_mem_cons] at hnames h
    have hread := hnames.1.readMember h.1
    obtain ⟨ihnames, ihnull⟩ := ih hnames.2 h.2
    rw [names_cons, admitsNull_cons, hread, ihnames, ihnull]
    exact ⟨rfl, rfl⟩

/-- The first of the members, with a mark if null is admitted. -/
def markedFirst (nullable : Bool) (name : List Char) : List Char :=
  (if nullable then ['?'] else []) ++ name

theorem readMember_markedFirst (hname : IsName name) (h : IsMarked name → nullable = true) :
  readMember (markedFirst nullable name) = (nullable, some name)
  := by
  cases nullable with
  | true => exact hname.readMember_mark
  | false => exact hname.readMember fun hmarked => Bool.false_ne_true (h hmarked)

/-- The members of a type that is written are cut apart again. -/
theorem splitOnChar_write (h : ∀ member ∈ name :: members, '|' ∉ member) :
  splitOnChar '|' (write nullable (name :: members)) = markedFirst nullable name :: members
  := by
  have hwrite : write nullable (name :: members)
      = ['|'].intercalate (markedFirst nullable name :: members) := by
    rw [write, if_neg (by simp)]
    cases members with
    | nil => rw [List.intercalate_singleton, List.intercalate_singleton, markedFirst]
    | cons next members =>
      rw [List.intercalate_cons_cons, List.intercalate_cons_cons, markedFirst, List.append_assoc,
        List.append_assoc]
      simp only [List.append_assoc]
  rw [List.forall_mem_cons] at h
  rw [hwrite, splitOnChar_intercalate (List.cons_ne_nil _ _)]
  rw [List.forall_mem_cons]
  refine ⟨?_, h.2⟩
  rw [markedFirst, List.mem_append, not_or]
  exact ⟨by cases nullable <;> decide, h.1⟩

/-- What is written of the members, read again. -/
theorem ofParts_splitOnChar_write (hname : IsName name) (h : IsMarked name → nullable = true)
    (hbars : ∀ member ∈ name :: members, '|' ∉ member) :
  ofParts (splitOnChar '|' (write nullable (name :: members))) false
    = write (nullable || admitsNull members) (name :: names members).eraseDups
  := by
  rw [splitOnChar_write hbars, ofParts_eq, names_cons, admitsNull_cons,
    readMember_markedFirst hname h, Bool.false_or]
  rfl

/-! ### Members that are written -/

/-- The members that a type is written with: distinct names without bars, where one that begins with
a question mark stands only where null is admitted. -/
structure AreWritten (nullable : Bool) (members : List (List Char)) : Prop where
  isName : ∀ name ∈ members, IsName name
  bars : ∀ name ∈ members, '|' ∉ name
  marks : ∀ name ∈ members, IsMarked name → nullable = true
  distinct : members.Nodup

theorem exists_of_mem_names (h : name ∈ (names parts).eraseDups) :
  ∃ part ∈ parts, (readMember part).2 = some name
  := List.mem_filterMap.mp (List.mem_eraseDups.mp h)

/-- The names of written members without bars. -/
theorem areWritten_names (hbars : ∀ part ∈ parts, '|' ∉ part) (nullable : Bool) :
  AreWritten (nullable || admitsNull parts) (names parts).eraseDups
  where
  isName name hname := by
    obtain ⟨part, -, hread⟩ := exists_of_mem_names hname
    exact isName_of_readMember hread
  bars name hname hbar := by
    obtain ⟨part, hpart, hread⟩ := exists_of_mem_names hname
    exact hbars part hpart (subset_of_readMember hread hbar)
  marks name hname hmarked := by
    obtain ⟨part, hpart, hread⟩ := exists_of_mem_names hname
    have hhead : name.head? = some '?' := by
      rwa [IsMarked, (isName_of_readMember hread).trimmed] at hmarked
    have hnull : admitsNull parts = true :=
      List.any_eq_true.mpr ⟨part, hpart, admitsNull_of_readMember hread hhead⟩
    rw [hnull, Bool.or_true]
  distinct := nodup_eraseDups _

/-- Some name begins with a question mark if some member is marked twice. -/
theorem forall_names_not_isMarked_iff :
  (∀ name ∈ (names parts).eraseDups, ¬IsMarked name) ↔ ∀ part ∈ parts, ¬IsMarkedTwice part
  := by
  constructor
  · intro h part hpart htwice
    obtain ⟨name, hread⟩ := exists_readMember_of_isMarkedTwice htwice
    have hname : name ∈ (names parts).eraseDups :=
      List.mem_eraseDups.mpr (List.mem_filterMap.mpr ⟨part, hpart, hread⟩)
    exact h name hname ((isMarked_iff_of_readMember hread).mpr htwice)
  · intro h name hname hmarked
    obtain ⟨part, hpart, hread⟩ := exists_of_mem_names hname
    exact h part hpart ((isMarked_iff_of_readMember hread).mp hmarked)

/-! ### The canonical form -/

/-- A member of a canonical type. -/
structure IsCanonicalMember (name : List Char) : Prop extends IsName name where
  noBar : '|' ∉ name
  noMark : name.head? ≠ some '?'

/-- A type in canonical form: empty, null, or distinct members with bars between them, after a
question mark if null is admitted. -/
inductive IsCanonical : List Char → Prop where
  | empty : IsCanonical []
  | null : IsCanonical "null".toList
  | union (nullable : Bool) {members : List (List Char)} (notEmpty : members ≠ [])
    (distinct : members.Nodup) (canonical : ∀ name ∈ members, IsCanonicalMember name) :
    IsCanonical ((if nullable then ['?'] else []) ++ ['|'].intercalate members)

theorem write_eq_of_ne_nil (nullable : Bool) (h : members ≠ []) :
  write nullable members = (if nullable then ['?'] else []) ++ ['|'].intercalate members
  := by
  rw [write, if_neg (by simpa using h)]

theorem AreWritten.isCanonical (h : AreWritten nullable members)
    (hmarks : ∀ name ∈ members, ¬IsMarked name) :
  IsCanonical (write nullable members)
  := by
  by_cases hne : members = []
  · rw [hne]
    cases nullable with
    | true => exact .null
    | false => exact .empty
  · rw [write_eq_of_ne_nil nullable hne]
    refine .union nullable hne h.distinct fun name hname => ?_
    have hmark := hmarks name hname
    rw [IsMarked, (h.isName name hname).trimmed] at hmark
    exact ⟨h.isName name hname, h.bars name hname, hmark⟩

/-- The members of a canonical type that begins with a question mark are cut apart again. -/
theorem IsCanonical.splitOnChar_tail {cs : List Char} (h : IsCanonical ('?' :: cs)) :
  ∀ name ∈ splitOnChar '|' cs, name.head? ≠ some '?'
  := by
  generalize htype : '?' :: cs = type at h
  cases h with
  | empty => contradiction
  | null => simp at htype
  | @union nullable members hne _ hmembers =>
    have hbars : ∀ name ∈ members, '|' ∉ name := fun name hname => (hmembers name hname).noBar
    cases nullable with
    | true =>
      rw [if_pos rfl, List.singleton_append] at htype
      rw [(List.cons.inj htype).2, splitOnChar_intercalate hne hbars]
      exact fun name hname => (hmembers name hname).noMark
    | false =>
      -- the first member would begin with the question mark
      rw [if_neg Bool.false_ne_true, List.nil_append] at htype
      have hsplit := splitOnChar_intercalate hne hbars
      rw [← htype, splitOnChar, if_neg (by decide)] at hsplit
      cases hfields : splitOnChar '|' cs with
      | nil =>
        rw [hfields, extendFirst] at hsplit
        exact ((hmembers ['?'] (by simp [← hsplit])).noMark rfl).elim
      | cons first fields =>
        rw [hfields, extendFirst] at hsplit
        exact ((hmembers ('?' :: first) (by simp [← hsplit])).noMark rfl).elim

/-- A type is written in canonical form if none of its members begins with a question mark. -/
theorem AreWritten.isCanonical_iff (h : AreWritten nullable members) :
  IsCanonical (write nullable members) ↔ ∀ name ∈ members, ¬IsMarked name
  := by
  constructor
  · intro hcanonical name hname hmarked
    have hne := List.ne_nil_of_mem hname
    obtain rfl := h.marks name hname hmarked
    rw [write_eq_of_ne_nil true hne, if_pos rfl, List.singleton_append] at hcanonical
    apply hcanonical.splitOnChar_tail name
    · rwa [splitOnChar_intercalate hne h.bars]
    · rwa [IsMarked, (h.isName name hname).trimmed] at hmarked
  · exact h.isCanonical

/-! ### Reading a type again -/

/-- Types that admit null are written alike only if their members are the same. -/
theorem eq_of_write_eq {members' : List (List Char)} (hne : members ≠ []) (hne' : members' ≠ [])
    (hbars : ∀ name ∈ members, '|' ∉ name) (hbars' : ∀ name ∈ members', '|' ∉ name)
    (h : write true members = write true members') :
  members = members'
  := by
  rw [write_eq_of_ne_nil true hne, write_eq_of_ne_nil true hne'] at h
  rw [← splitOnChar_intercalate hne hbars, List.append_cancel_left h,
    splitOnChar_intercalate hne' hbars']

/-- Members of which one begins with a question mark are not all named again: the longest of these
is not. -/
theorem exists_not_mem_names (h : ∃ name ∈ members, IsMarked name) :
  ∃ name ∈ members, IsMarked name ∧ name ∉ names members
  := by
  obtain ⟨name, hname, hmarked⟩ := h
  have hsome : (members.filter IsMarked).toFinset.Nonempty :=
    ⟨name, by simpa using ⟨hname, hmarked⟩⟩
  obtain ⟨longest, hlongest, hmax⟩ := Finset.exists_max_image _ List.length hsome
  simp only [List.mem_toFinset, List.mem_filter, decide_eq_true_eq] at hlongest hmax
  refine ⟨longest, hlongest.1, hlongest.2, fun hmem => ?_⟩
  obtain ⟨part, hpart, hread⟩ := List.mem_filterMap.mp hmem
  have htwice := (isMarked_iff_of_readMember hread).mp hlongest.2
  have hlt := length_lt_of_readMember htwice.1 hread
  exact absurd (hmax part ⟨hpart, htwice.1⟩) (Nat.not_le.mpr hlt)

/-- What is written is read as it stands if no member but the first begins with a question mark. -/
theorem AreWritten.ofParts_eq_iff (h : AreWritten nullable members) :
  ofParts (splitOnChar '|' (write nullable members)) false = write nullable members
    ↔ ∀ name ∈ members.tail, ¬IsMarked name
  := by
  cases members with
  | nil => cases nullable <;> decide
  | cons name members =>
    have hnames := List.forall_mem_cons.mp h.isName
    have hdistinct := List.nodup_cons.mp h.distinct
    rw [ofParts_splitOnChar_write hnames.1 (h.marks name List.mem_cons_self) h.bars,
      List.tail_cons]
    constructor
    · intro heq
      by_contra hmarked
      push Not at hmarked
      obtain ⟨longest, hmem, hlongest, hlost⟩ := exists_not_mem_names hmarked
      obtain rfl := h.marks longest (List.mem_cons_of_mem name hmem) hlongest
      have hsub : ∀ other ∈ (name :: names members).eraseDups, '|' ∉ other := by
        intro other hother
        obtain rfl | hother := List.mem_cons.mp (List.mem_eraseDups.mp hother)
        · exact h.bars other List.mem_cons_self
        · obtain ⟨part, hpart, hread⟩ := List.mem_filterMap.mp hother
          exact fun hbar => h.bars part (List.mem_cons_of_mem _ hpart)
            (subset_of_readMember hread hbar)
      have hagain := eq_of_write_eq (List.ne_nil_of_mem (List.mem_eraseDups.mpr List.mem_cons_self))
        (List.cons_ne_nil _ _) hsub h.bars heq
      have hfound : longest ∈ name :: names members := by
        rw [← List.mem_eraseDups, hagain]
        exact List.mem_cons_of_mem name hmem
      obtain rfl | hfound := List.mem_cons.mp hfound
      · exact hdistinct.1 hmem
      · exact hlost hfound
    · intro hmarks
      obtain ⟨hagain, hnull⟩ := names_of_not_isMarked hnames.2 hmarks
      rw [hagain, hnull, Bool.or_false, eraseDups_of_nodup h.distinct]

/-- A type is written in canonical form, in which it is read as it stands, exactly if none of its
members is marked twice.  It is also read as it stands if its first member alone begins with a
question mark, but not if another one does. -/
theorem ofText_ofText (type : String) (nullable : Bool) :
  (IsCanonical (ofText type nullable).toList
      ∧ ofText (ofText type nullable) false = ofText type nullable
    ↔ ∀ part ∈ splitOnChar '|' type.toList, ¬IsMarkedTwice part)
  ∧ (ofText (ofText type nullable) false = ofText type nullable
    ↔ ∀ name ∈ (distinctMembers (splitOnChar '|' type.toList)).tail, ¬IsMarked name)
  := by
  have hbars : ∀ part ∈ splitOnChar '|' type.toList, '|' ∉ part :=
    fun part hpart => not_mem_of_mem_splitOnChar hpart
  have hwritten := areWritten_names hbars nullable
  rw [← forall_names_not_isMarked_iff, distinctMembers_eq, ← hwritten.isCanonical_iff,
    ← hwritten.ofParts_eq_iff, ofText, ofText, String.toList_ofList, ofParts_eq,
    String.ofList_inj]
  refine ⟨and_iff_left_of_imp fun hcanonical => ?_, Iff.rfl⟩
  rw [hwritten.ofParts_eq_iff]
  intro name hname
  exact hwritten.isCanonical_iff.mp hcanonical name (List.mem_of_mem_tail hname)

/-- A type with a member that is marked twice, behind another one, is not written in canonical form,
and is read as another type. -/
theorem not_isCanonical_markedTwice :
  ¬∀ (type : String) (nullable : Bool), IsCanonical (ofText type nullable).toList
    ∧ ofText (ofText type nullable) false = ofText type nullable
  := by
  intro h
  have htype : ofText "a|??b" false = "?a|?b" := by decide
  have hagain : ofText "?a|?b" false = "?a|b" := by decide
  have hfixed := (h "a|??b" false).2
  rw [htype, hagain] at hfixed
  revert hfixed
  decide

end DocTable.TypeAnnotation
