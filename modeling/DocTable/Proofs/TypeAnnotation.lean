import DocTable.Proofs.OrderedMap
import DocTable.Proofs.Text.Lines
import DocTable.TypeAnnotation

/-!
# Spellings of nullable types

A written member says whether it admits null and which member it names, and the canonical
annotation of a list of them depends only on whether any of them admits null and on the names, each
at its first place (`ofParts_congr`).  So there are many spellings of one type: a member `null` or a
question mark anywhere in the list, blank members, and repeated ones (`ofMembers_spellings`).
-/

namespace DocTable.TypeAnnotation

open Text

variable {part part' : List Char} {parts parts' before after : List (List Char)}

/-! ### One member -/

/-- The member null in any letter case, with any blanks around it. -/
def IsNull (part : List Char) : Prop :=
  lowerChars (trim part) = "null".toList

instance : DecidablePred IsNull := fun part =>
  inferInstanceAs (Decidable (lowerChars (trim part) = _))

/-- The member begins with a question mark, blanks apart. -/
def IsMarked (part : List Char) : Prop :=
  (trim part).head? = some '?'

instance : DecidablePred IsMarked := fun part =>
  inferInstanceAs (Decidable ((trim part).head? = _))

theorem readMember_congr (h : trim part = trim part') :
  readMember part = readMember part'
  := by
  rw [readMember, readMember, h]

/-- What a member says of which the mark is cut off. -/
def readName (marked : Bool) (name : List Char) : Bool × Option (List Char) :=
  if name.isEmpty then (marked, none)
  else if lowerChars name = "null".toList then (true, none) else (marked, some name)

theorem readMember_of_not_isMarked (h : ¬IsMarked part) :
  readMember part = readName false (trim part)
  := by
  rw [IsMarked] at h
  rw [readMember]
  split
  case h_1 marked name hpart =>
    split at hpart
    case h_1 rest htrim => simp [htrim] at h
    case h_2 =>
      obtain ⟨rfl, rfl⟩ := Prod.mk.inj hpart
      rfl

theorem readMember_of_trim_eq_cons {rest : List Char} (h : trim part = '?' :: rest) :
  readMember part = readName true (trim rest)
  := by
  rw [readMember, h]
  rfl

/-- With a mark a member names the same, and admits null. -/
theorem readMember_cons_mark (h : ¬IsMarked part) :
  readMember ('?' :: part) = (true, (readMember part).2)
  := by
  rw [readMember_of_trim_eq_cons (trim_cons (by decide) part), trim_trimRight,
    readMember_of_not_isMarked h, readName, readName]
  split_ifs <;> rfl

theorem readMember_of_allBlank (h : allBlank part = true) :
  readMember part = (false, none)
  := by
  rw [readMember, trim_eq_nil_iff.mpr h]
  rfl

theorem IsNull.not_isMarked (h : IsNull part) :
  ¬IsMarked part
  := by
  intro hmarked
  obtain ⟨rest, hrest⟩ := List.head?_eq_some_iff.mp hmarked
  rw [IsNull, hrest] at h
  simp [lowerChars, lowerAfter, lowerChar] at h

theorem readMember_of_isNull (h : IsNull part) :
  readMember part = (true, none)
  := by
  rw [readMember_of_not_isMarked h.not_isMarked, readName]
  rw [IsNull] at h
  split
  case isTrue hempty =>
    rw [List.isEmpty_iff.mp hempty] at h
    contradiction
  case isFalse => rfl

/-! ### Written members -/

/-- The members that written members name, in order. -/
def names (parts : List (List Char)) : List (List Char) :=
  parts.filterMap fun part => (readMember part).2

/-- One of the written members admits null. -/
def admitsNull (parts : List (List Char)) : Bool :=
  parts.any fun part => (readMember part).1

theorem distinctMembers_eq (parts : List (List Char)) :
  distinctMembers parts = (names parts).eraseDups
  := by
  rw [distinctMembers, ← names]
  induction names parts using List.reverseRecOn with
  | nil => rfl
  | append_singleton found name ih =>
    rw [List.foldl_concat, ih, eraseDups_concat, addMember]
    simp only [List.mem_eraseDups]

theorem ofParts_eq (parts : List (List Char)) (nullable : Bool) :
  ofParts parts nullable = write (nullable || admitsNull parts) (names parts).eraseDups
  := by
  rw [ofParts, distinctMembers_eq, admitsNull]

/-- Written members that say the same have one annotation. -/
theorem ofParts_congr {nullable nullable' : Bool}
    (hnull : (nullable || admitsNull parts) = (nullable' || admitsNull parts'))
    (hnames : (names parts).eraseDups = (names parts').eraseDups) :
  ofParts parts nullable = ofParts parts' nullable'
  := by
  rw [ofParts_eq, ofParts_eq, hnull, hnames]

theorem names_cons (part : List Char) (parts : List (List Char)) :
  names (part :: parts) = (readMember part).2.toList ++ names parts
  := by
  rw [names, List.filterMap_cons]
  cases (readMember part).2 <;> rfl

theorem admitsNull_cons (part : List Char) (parts : List (List Char)) :
  admitsNull (part :: parts) = ((readMember part).1 || admitsNull parts)
  := List.any_cons

theorem names_append (before after : List (List Char)) :
  names (before ++ after) = names before ++ names after
  := List.filterMap_append

theorem admitsNull_append (before after : List (List Char)) :
  admitsNull (before ++ after) = (admitsNull before || admitsNull after)
  := List.any_append

/-! ### Spellings -/

/-- A member null, wherever it stands, says that null is admitted. -/
theorem ofParts_insert_null (h : IsNull part) (before after : List (List Char)) :
  ofParts (before ++ part :: after) false = ofParts (before ++ after) true
  := by
  apply ofParts_congr
  · simp [admitsNull_append, admitsNull_cons, readMember_of_isNull h]
  · simp [names_append, names_cons, readMember_of_isNull h]

/-- A question mark before a member says that null is admitted. -/
theorem ofParts_mark (h : ¬IsMarked part) (before after : List (List Char)) :
  ofParts (before ++ ('?' :: part) :: after) false = ofParts (before ++ part :: after) true
  := by
  apply ofParts_congr
  · simp [admitsNull_append, admitsNull_cons, readMember_cons_mark h]
  · simp [names_append, names_cons, readMember_cons_mark h]

/-- Blank members do not count. -/
theorem ofParts_insert_blank (h : allBlank part = true) (before after : List (List Char))
    (nullable : Bool) :
  ofParts (before ++ part :: after) nullable = ofParts (before ++ after) nullable
  := by
  apply ofParts_congr
  · simp [admitsNull_append, admitsNull_cons, readMember_of_allBlank h]
  · simp [names_append, names_cons, readMember_of_allBlank h]

theorem eraseDups_append_of_subset {xs again : List (List Char)} (h : again ⊆ xs)
    (ys : List (List Char)) :
  (xs ++ (again ++ ys)).eraseDups = (xs ++ ys).eraseDups
  := by
  have hagain : again.removeAll xs = [] := by
    rw [List.removeAll, List.filter_eq_nil_iff]
    intro x hx
    simpa using h hx
  rw [List.eraseDups_append, List.eraseDups_append, List.removeAll, List.filter_append,
    ← List.removeAll, hagain, List.nil_append, ← List.removeAll]

/-- A member that stands before, blanks apart, does not count again. -/
theorem ofParts_insert_again (hpart : part ∈ before) (h : trim part' = trim part)
    (after : List (List Char)) (nullable : Bool) :
  ofParts (before ++ part' :: after) nullable = ofParts (before ++ after) nullable
  := by
  have hsame := readMember_congr h
  apply ofParts_congr
  · have hbefore : (readMember part).1 = true → admitsNull before = true := by
      intro hnull
      rw [admitsNull, List.any_eq_true]
      exact ⟨part, hpart, hnull⟩
    rw [admitsNull_append, admitsNull_append, admitsNull_cons, hsame]
    cases hnull : (readMember part).1 with
    | false => rw [Bool.false_or]
    | true => rw [hbefore hnull, Bool.true_or, Bool.true_or]
  · rw [names_append, names_append, names_cons, hsame]
    apply eraseDups_append_of_subset
    intro name hname
    rw [names, List.mem_filterMap]
    exact ⟨part, hpart, Option.mem_toList.mp hname⟩

/-- Members in another order are named in another order. -/
theorem perm_names (h : parts.Perm parts') :
  (names parts).eraseDups.Perm (names parts').eraseDups
  := by
  rw [List.perm_ext_iff_of_nodup (nodup_eraseDups _) (nodup_eraseDups _)]
  intro name
  rw [List.mem_eraseDups, List.mem_eraseDups]
  apply (h.filterMap _).mem_iff

theorem admitsNull_of_perm (h : parts.Perm parts') :
  admitsNull parts = admitsNull parts'
  := h.any_eq

/-! ### Reading an annotation -/

/-- The annotation begins with a question mark. -/
def hasMark (type : String) : Bool :=
  type.toList.head? = some '?'

/-- A text without the question mark that it begins with. -/
def withoutMark : List Char → List Char
  | '?' :: cs => cs
  | cs => cs

/-- The members of an annotation as they are printed, its question mark apart. -/
def printedMembers (type : String) : List String :=
  (splitOnChar '|' (withoutMark type.toList)).map String.ofList

/-- A member has no characters but those that are written. -/
theorem subset_of_readMember {name : List Char} (h : (readMember part).2 = some name) :
  name ⊆ part
  := by
  have hname {marked : Bool} {cs : List Char} (h : (readName marked cs).2 = some name) :
      name = cs := by
    rw [readName] at h
    split_ifs at h
    exact (Option.some.inj h).symm
  by_cases hmarked : IsMarked part
  · obtain ⟨rest, hrest⟩ := List.head?_eq_some_iff.mp hmarked
    rw [readMember_of_trim_eq_cons hrest] at h
    rw [hname h]
    intro c hc
    apply (trim_sublist part).subset
    rw [hrest]
    apply List.mem_cons_of_mem '?' ((trim_sublist rest).subset hc)
  · rw [readMember_of_not_isMarked hmarked] at h
    rw [hname h]
    apply (trim_sublist part).subset

/-- Only a member that admits null can name one that begins with a question mark. -/
theorem admitsNull_of_readMember {name : List Char} (h : (readMember part).2 = some name)
    (hname : name.head? = some '?') :
  (readMember part).1 = true
  := by
  by_cases hmarked : IsMarked part
  · obtain ⟨rest, hrest⟩ := List.head?_eq_some_iff.mp hmarked
    rw [readMember_of_trim_eq_cons hrest, readName]
    split_ifs <;> rfl
  · rw [readMember_of_not_isMarked hmarked, readName] at h
    split_ifs at h
    obtain rfl := Option.some.inj h
    contradiction

theorem withoutMark_of_head? {cs : List Char} (h : cs.head? ≠ some '?') :
  withoutMark cs = cs
  := by
  rw [withoutMark.eq_def]
  split
  · contradiction
  · rfl

/-- An annotation shows the members that it is written from, and begins with a question mark only if
null is admitted. -/
theorem printedMembers_write {nullable : Bool} {members : List (List Char)} (hne : members ≠ [])
    (hbars : ∀ name ∈ members, '|' ∉ name)
    (hmarks : ∀ name ∈ members, name.head? = some '?' → nullable = true) :
  hasMark (String.ofList (write nullable members)) = nullable
    ∧ printedMembers (String.ofList (write nullable members)) = members.map String.ofList
  := by
  have hsplit := splitOnChar_intercalate hne hbars
  have hwrite : write nullable members
      = (if nullable then ['?'] else []) ++ ['|'].intercalate members := by
    rw [write, if_neg (by simpa using hne)]
  rw [hasMark, printedMembers, String.toList_ofList, hwrite]
  cases nullable with
  | true =>
    rw [if_pos rfl, List.singleton_append, withoutMark, hsplit]
    exact ⟨rfl, rfl⟩
  | false =>
    have hhead : (['|'].intercalate members).head? ≠ some '?' := by
      intro h
      match members, hne with
      | [name], _ =>
        rw [List.intercalate_singleton] at h
        exact Bool.false_ne_true (hmarks name List.mem_cons_self h)
      | [] :: next :: rest, _ => simp [List.intercalate_cons_cons] at h
      | (c :: cs) :: next :: rest, _ =>
        rw [List.intercalate_cons_cons] at h
        exact Bool.false_ne_true (hmarks (c :: cs) List.mem_cons_self h)
    rw [if_neg Bool.false_ne_true, List.nil_append, withoutMark_of_head? hhead, hsplit]
    exact ⟨decide_eq_false hhead, rfl⟩

/-- The order of the written members decides on the order of the printed ones alone. -/
theorem ofParts_perm (h : parts.Perm parts') (hbars : ∀ part ∈ parts, '|' ∉ part)
    (nullable : Bool) :
  hasMark (String.ofList (ofParts parts nullable))
      = hasMark (String.ofList (ofParts parts' nullable))
    ∧ (printedMembers (String.ofList (ofParts parts nullable))).Perm
      (printedMembers (String.ofList (ofParts parts' nullable)))
  := by
  have hnames := perm_names h
  rw [ofParts_eq, ofParts_eq, ← admitsNull_of_perm h]
  by_cases hne : (names parts).eraseDups = []
  · rw [hne] at hnames ⊢
    rw [List.nil_perm.mp hnames]
    exact ⟨rfl, .refl _⟩
  · have hmember : ∀ name ∈ (names parts).eraseDups, ∃ part ∈ parts,
        (readMember part).2 = some name := by
      intro name hname
      exact List.mem_filterMap.mp (List.mem_eraseDups.mp hname)
    have hname : ∀ name ∈ (names parts).eraseDups, '|' ∉ name
        ∧ (name.head? = some '?' → (nullable || admitsNull parts) = true) := by
      intro name hname
      obtain ⟨part, hpart, hread⟩ := hmember name hname
      refine ⟨fun hbar => hbars part hpart (subset_of_readMember hread hbar), fun hhead => ?_⟩
      have hnull : admitsNull parts = true :=
        List.any_eq_true.mpr ⟨part, hpart, admitsNull_of_readMember hread hhead⟩
      rw [hnull, Bool.or_true]
    have hne' : (names parts').eraseDups ≠ [] := by
      intro hnil
      rw [hnil] at hnames
      exact hne (List.perm_nil.mp hnames)
    obtain ⟨hmark, hprinted⟩ := printedMembers_write hne (fun name h => (hname name h).1)
      fun name h => (hname name h).2
    obtain ⟨hmark', hprinted'⟩ := printedMembers_write hne'
      (fun name h => (hname name (hnames.mem_iff.mpr h)).1)
      fun name h => (hname name (hnames.mem_iff.mpr h)).2
    rw [hmark, hmark', hprinted, hprinted']
    exact ⟨rfl, hnames.map String.ofList⟩

/-! ### Types as they are written -/

/-- The ways to spell a type with certain members. -/
structure HasSpellings (ms : List String) : Prop where
  /-- The members may be written as one text, with bars between them. -/
  text : ∀ nullable, ofText ("|".intercalate ms) nullable = ofMembers ms nullable
  /-- That null is admitted may be said by a member, wherever it stands. -/
  null : ∀ before after, before ++ after = ms → ∀ null : String, IsNull null.toList →
    ofMembers (before ++ null :: after) false = ofMembers ms true
  /-- That null is admitted may be said by a question mark before any member without one. -/
  mark : ∀ before m after, before ++ m :: after = ms → ¬IsMarked m.toList →
    ofMembers (before ++ ("?" ++ m) :: after) false = ofMembers ms true
  /-- Blank members do not count. -/
  blank : ∀ before after, before ++ after = ms → ∀ extra : String, allBlank extra.toList →
    ∀ nullable, ofMembers (before ++ extra :: after) nullable = ofMembers ms nullable
  /-- A member that stands before, blanks apart, does not count again. -/
  again : ∀ before after, before ++ after = ms → ∀ m ∈ before, ∀ extra, trimmed extra = trimmed m →
    ∀ nullable, ofMembers (before ++ extra :: after) nullable = ofMembers ms nullable
  /-- The order of the members decides on the order in which they are printed, and on nothing
  else. -/
  order : ∀ ms', ms.Perm ms' → ∀ nullable,
    hasMark (ofMembers ms nullable) = hasMark (ofMembers ms' nullable)
      ∧ (printedMembers (ofMembers ms nullable)).Perm (printedMembers (ofMembers ms' nullable))

/-- Members that have no bars in them can be spelled in all these ways. -/
theorem ofMembers_spellings (ms : List String) (h : ∀ m ∈ ms, '|' ∉ m.toList) :
  HasSpellings ms
  where
  text nullable := by
    rw [ofText, ofMembers]
    cases ms with
    | nil => cases nullable <;> decide
    | cons m ms =>
      rw [String.toList_intercalate]
      congr 2
      apply splitOnChar_intercalate (List.cons_ne_nil _ _)
      rw [← List.map_cons]
      intro part hpart
      obtain ⟨m', hm', rfl⟩ := List.mem_map.mp hpart
      exact h m' hm'
  null := by
    rintro before after rfl null hnull
    rw [ofMembers, ofMembers, List.map_append, List.map_cons, List.map_append,
      ofParts_insert_null hnull]
  mark := by
    rintro before m after rfl hm
    rw [ofMembers, ofMembers, List.map_append, List.map_cons, List.map_append, List.map_cons,
      String.toList_append, ← ofParts_mark hm]
    rfl
  blank := by
    rintro before after rfl extra hextra nullable
    rw [ofMembers, ofMembers, List.map_append, List.map_cons, List.map_append,
      ofParts_insert_blank hextra]
  again := by
    rintro before after rfl m hm extra hextra nullable
    rw [ofMembers, ofMembers, List.map_append, List.map_cons, List.map_append,
      ofParts_insert_again (List.mem_map_of_mem hm) (String.ofList_injective hextra)]
  order := by
    intro ms' hperm nullable
    apply ofParts_perm (hperm.map String.toList)
    intro part hpart
    obtain ⟨m, hm, rfl⟩ := List.mem_map.mp hpart
    exact h m hm

/-- One of the members has a mark of its own, and one is written twice. -/
theorem ofMembers_spellings_marked :
  (∀ m ∈ ["int", " ?Foo", "int\t"], '|' ∉ m.toList)
    ∧ ofText "int| ?Foo|int\t" true = "?int|Foo"
    ∧ ofMembers ["int", " ?Foo", " nULL ", "int\t"] false = "?int|Foo"
    ∧ ofMembers ["int", " ?Foo", "?int\t"] false = "?int|Foo"
    ∧ (printedMembers (ofMembers [" ?Foo", "int", "int\t"] true)).Perm ["int", "Foo"]
  := by
  have hbars : ∀ m ∈ ["int", " ?Foo", "int\t"], '|' ∉ m.toList := by decide
  have hspellings := ofMembers_spellings ["int", " ?Foo", "int\t"] hbars
  have htype : ofMembers ["int", " ?Foo", "int\t"] true = "?int|Foo" := by decide
  have hnull := hspellings.null ["int", " ?Foo"] ["int\t"] rfl " nULL " (by decide)
  have hmark := hspellings.mark ["int", " ?Foo"] "int\t" [] rfl (by decide)
  have horder := (hspellings.order [" ?Foo", "int", "int\t"] (.swap _ _ _) true).2
  rw [← htype]
  exact ⟨hbars, hspellings.text true, hnull, hmark, horder.symm⟩

end DocTable.TypeAnnotation
