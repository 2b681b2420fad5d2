import DocTable.Proofs.Markup.Marks
import DocTable.Text.Lines
import Mathlib.Data.List.TakeWhile

/-!
# Reading tags

A tag of a text is what stands between `<` and the next `>`: a name, and attributes with their
values in quotation marks.  A tag that is written is read again, whatever comes after it, and a text
that is escaped has no tags.  So the tags of what is written for a markup are known piece by piece.
-/

namespace DocTable

open Text

/-- A tag with its attributes.  The name of an end tag begins with a slash. -/
structure HtmlTag where
  name : String
  attributes : List (String × String) := []
  deriving DecidableEq

/-! ### Reading -/

/-- The words of a text, which blanks separate.  A blank between quotation marks is part of a word;
the flag tells whether the text begins between such marks. -/
def quotedWords (quoted : Bool) : List Char → List (List Char)
  | [] => [[]]
  | c :: cs =>
    if c = ' ' && !quoted then [] :: quotedWords false cs
    else extendFirst c (quotedWords (quoted != (c = '\x22')) cs)

/-- The attribute that a word is: a name and, after an equals sign, a value in quotation marks.  A
name alone has an empty value. -/
def readAttribute (word : List Char) : String × String :=
  (String.ofList (word.takeWhile (· ≠ '=')),
    String.ofList ((word.dropWhile (· ≠ '=')).drop 2).dropLast)

/-- The tag with a given text between its brackets. -/
def readTag (cs : List Char) : HtmlTag where
  name := String.ofList (cs.takeWhile (· ≠ ' '))
  attributes := ((quotedWords false cs).drop 1).map readAttribute

/-- What follows each `<` of a text. -/
def openings : List Char → List (List Char)
  | [] => []
  | c :: cs => if c = '<' then cs :: openings cs else openings cs

/-- The tags of a text, in order. -/
def readTags (cs : List Char) : List HtmlTag :=
  (openings cs).map fun opening => readTag (opening.takeWhile (· ≠ '>'))

namespace HtmlTag

/-- The value of an attribute. -/
def attribute? (tag : HtmlTag) (name : String) : Option String :=
  tag.attributes.lookup name

/-- The style classes of a tag. -/
def styles (tag : HtmlTag) : List String :=
  (words ((tag.attribute? "class").getD "").toList).map String.ofList

/-- The number that an attribute gives, which is one if the attribute is absent. -/
def span (tag : HtmlTag) (name : String) : Nat :=
  match tag.attribute? name with
  | none => 1
  | some digits => Nat.ofDigitChars 10 digits.toList 0

end HtmlTag

/-! ### Reading a tag that is written -/

/-- A character that begins or ends a tag, or the value of an attribute in quotation marks. -/
def isDelimiter (c : Char) : Bool :=
  c = '<' || c = '>' || c = '\x22'

/-- Characters are no delimiters if they have a property that no delimiter has. -/
theorem all_not_isDelimiter {p : Char → Bool}
    (hp : p '<' = false ∧ p '>' = false ∧ p '\x22' = false) {cs : List Char} (h : cs.all p) :
  cs.all (!isDelimiter ·)
  := by
  rw [List.all_eq_true] at h ⊢
  intro c hc
  have hpc := h c hc
  simp only [isDelimiter, Bool.not_eq_true', Bool.or_eq_false_iff, decide_eq_false_iff_not]
  and_intros
  · rintro rfl
    rw [hp.1] at hpc
    contradiction
  · rintro rfl
    rw [hp.2.1] at hpc
    contradiction
  · rintro rfl
    rw [hp.2.2] at hpc
    contradiction

/-- A cut at a character passes over a text without it. -/
theorem decide_ne_of_not_mem {c : Char} {cs : List Char} (h : c ∉ cs) :
  ∀ d ∈ cs, decide (d ≠ c) = true
  := by
  intro d hd
  rw [decide_eq_true_iff]
  rintro rfl
  exact h hd

/-- A text that is one word of a tag, whatever the words after it are. -/
structure IsTagWord (word : List Char) : Prop where
  inTag : '<' ∉ word ∧ '>' ∉ word
  whole : ∀ {cs first : List Char} {others : List (List Char)},
    quotedWords false cs = first :: others →
      quotedWords false (word ++ cs) = (word ++ first) :: others

/-- What is no quotation mark, and no blank that separates words, goes on with a word. -/
theorem quotedWords_append {quoted : Bool} {part : List Char}
    (h : ∀ c ∈ part, c ≠ '\x22' ∧ (quoted ∨ c ≠ ' ')) {cs first : List Char}
    {others : List (List Char)} (hcs : quotedWords quoted cs = first :: others) :
  quotedWords quoted (part ++ cs) = (part ++ first) :: others
  := by
  induction part with
  | nil => exact hcs
  | cons c part ih =>
    rw [List.forall_mem_cons] at h
    obtain ⟨⟨hquote, hblank⟩, hpart⟩ := h
    have hnot : ¬(c = ' ' && !quoted) := by
      obtain rfl | hblank := hblank
      · simp
      · simp [hblank]
    have hquoted : (quoted != decide (c = '\x22')) = quoted := by
      simp [hquote]
    rw [List.cons_append, quotedWords, if_neg hnot, hquoted, ih hpart, extendFirst,
      List.cons_append]

/-- A quotation mark goes on with a word. -/
theorem quotedWords_quote {quoted : Bool} {cs first : List Char} {others : List (List Char)}
    (hcs : quotedWords (!quoted) cs = first :: others) :
  quotedWords quoted ('\x22' :: cs) = ('\x22' :: first) :: others
  := by
  have hquoted : (quoted != decide ('\x22' = '\x22')) = !quoted := by
    simp
  rw [quotedWords, if_neg (by simp), hquoted, hcs, extendFirst]

/-- The words of a tag, with blanks in front of them. -/
theorem quotedWords_words {words : List (List Char)} (h : ∀ word ∈ words, IsTagWord word) :
  quotedWords false (words.flatMap (' ' :: ·)) = [] :: words
  := by
  induction words with
  | nil => rfl
  | cons word words ih =>
    rw [List.forall_mem_cons] at h
    have hword := h.1.whole (ih h.2)
    rw [List.append_nil] at hword
    rw [List.flatMap_cons, List.cons_append, quotedWords, if_pos (by simp), hword]

section

variable {name : List Char} (hname : name.all Char.isAlpha)

include hname

theorem not_mem_name {c : Char} (hc : ¬c.isAlpha) :
  c ∉ name
  := by
  intro hmem
  apply hc
  apply List.all_eq_true.mp hname c hmem

/-- The name of an attribute is a word. -/
theorem isTagWord_name :
  IsTagWord name
  where
  inTag := ⟨not_mem_name hname (by decide), not_mem_name hname (by decide)⟩
  whole := by
    intro cs first others
    apply quotedWords_append
    intro c hc
    constructor
    · rintro rfl
      exact not_mem_name hname (by decide) hc
    · right
      rintro rfl
      exact not_mem_name hname (by decide) hc

/-- An attribute with its value is a word. -/
theorem isTagWord_pair {value : List Char} (hvalue : value.all (!isDelimiter ·)) :
  IsTagWord (name ++ '=' :: '\x22' :: value ++ ['\x22'])
  := by
  have hplain : ∀ c ∈ value, c ≠ '<' ∧ c ≠ '>' ∧ c ≠ '\x22' := by
    intro c hc
    simpa [isDelimiter, and_assoc] using List.all_eq_true.mp hvalue c hc
  constructor
  · have hless : '<' ∉ value := fun hc => (hplain _ hc).1 rfl
    have hgreater : '>' ∉ value := fun hc => (hplain _ hc).2.1 rfl
    have hinName := (isTagWord_name hname).inTag
    simp [hless, hgreater, hinName]
  · intro cs first others hcs
    have hend : quotedWords true ('\x22' :: cs) = ('\x22' :: first) :: others :=
      quotedWords_quote hcs
    have hinside : quotedWords true (value ++ '\x22' :: cs)
        = (value ++ '\x22' :: first) :: others := by
      apply quotedWords_append _ hend
      intro c hc
      exact ⟨(hplain c hc).2.2, .inl rfl⟩
    have hbegin : quotedWords false ('\x22' :: (value ++ '\x22' :: cs))
        = ('\x22' :: (value ++ '\x22' :: first)) :: others :=
      quotedWords_quote hinside
    have hequals : quotedWords false (['='] ++ '\x22' :: (value ++ '\x22' :: cs))
        = (['='] ++ '\x22' :: (value ++ '\x22' :: first)) :: others := by
      apply quotedWords_append _ hbegin
      simp
    simpa using (isTagWord_name hname).whole hequals

theorem readAttribute_name :
  readAttribute name = (String.ofList name, "")
  := by
  have hpass := decide_ne_of_not_mem (not_mem_name hname (c := '=') (by decide))
  rw [readAttribute, List.takeWhile_eq_self_iff.mpr hpass, List.dropWhile_eq_nil_iff.mpr hpass]
  rfl

theorem readAttribute_pair (value : List Char) :
  readAttribute (name ++ '=' :: '\x22' :: value ++ ['\x22'])
    = (String.ofList name, String.ofList value)
  := by
  have hpass := decide_ne_of_not_mem (not_mem_name hname (c := '=') (by decide))
  rw [readAttribute, List.append_assoc, List.takeWhile_append_of_pos hpass,
    List.dropWhile_append_of_pos hpass]
  simp

end

/-- What stands in a tag: its name, and its words with blanks in front of them. -/
theorem readTag_words {name : List Char} (hname : ∀ c ∈ name, c ≠ '\x22' ∧ c ≠ ' ')
    {words : List (List Char)} (h : ∀ word ∈ words, IsTagWord word) :
  readTag (name ++ words.flatMap (' ' :: ·)) = ⟨String.ofList name, words.map readAttribute⟩
  := by
  have hpass := decide_ne_of_not_mem (fun hblank => (hname ' ' hblank).2 rfl)
  have hwords : quotedWords false (name ++ words.flatMap (' ' :: ·)) = (name ++ []) :: words := by
    apply quotedWords_append _ (quotedWords_words h)
    intro c hc
    exact ⟨(hname c hc).1, .inr (hname c hc).2⟩
  have htake : (words.flatMap (' ' :: ·)).takeWhile (· ≠ ' ') = [] := by
    cases words with
    | nil => rfl
    | cons word words => simp
  rw [readTag, hwords, List.takeWhile_append_of_pos hpass, htake]
  simp

/-! ### The tags of a text -/

theorem openings_append (xs ys : List Char) :
  openings (xs ++ ys) = (openings xs).map (· ++ ys) ++ openings ys
  := by
  induction xs with
  | nil => rfl
  | cons c xs ih =>
    rw [List.cons_append, openings, openings, ih]
    split
    · rfl
    · rfl

/-- A text without `<` has no tags. -/
theorem openings_of_not_mem {xs : List Char} (h : '<' ∉ xs) :
  openings xs = []
  := by
  induction xs with
  | nil => rfl
  | cons c xs ih =>
    rw [List.mem_cons, not_or] at h
    rw [openings, if_neg (Ne.symm h.1), ih h.2]

/-- A cut ends in the text in which it has a reason to. -/
theorem takeWhile_append_of_mem {α : Type} {p : α → Bool} {xs : List α} {x : α} (hx : x ∈ xs)
    (hp : ¬p x) (ys : List α) :
  (xs ++ ys).takeWhile p = xs.takeWhile p
  := by
  rw [List.takeWhile_append, if_neg]
  intro hlength
  have heq := (List.takeWhile_sublist p).eq_of_length hlength
  rw [← heq] at hx
  apply hp (List.mem_takeWhile_imp hx)

/-- The tags of a text, all of which end in it. -/
structure ShowsTags (cs : List Char) (tags : List HtmlTag) : Prop where
  closed : ∀ opening ∈ openings cs, '>' ∈ opening
  read : readTags cs = tags

/-- The tags of a text are its first tags, whatever comes after it. -/
theorem ShowsTags.readTags_append {cs : List Char} {tags : List HtmlTag} (h : ShowsTags cs tags)
    (after : List Char) :
  readTags (cs ++ after) = tags ++ readTags after
  := by
  rw [readTags, openings_append, List.map_append, List.map_map, ← h.read, readTags, readTags]
  congr 1
  apply List.map_congr_left
  intro opening hopening
  rw [Function.comp_apply, takeWhile_append_of_mem (h.closed opening hopening) (by decide)]

/-- The tags at the end of a text are its last tags, whatever comes before them. -/
theorem exists_readTags_append (xs ys : List Char) :
  ∃ before, readTags (xs ++ ys) = before ++ readTags ys
  := by
  rw [readTags, openings_append, List.map_append]
  exact ⟨_, rfl⟩

theorem ShowsTags.append {xs ys : List Char} {tags tags' : List HtmlTag} (hxs : ShowsTags xs tags)
    (hys : ShowsTags ys tags') :
  ShowsTags (xs ++ ys) (tags ++ tags')
  where
  closed := by
    intro opening hopening
    rw [openings_append, List.mem_append, List.mem_map] at hopening
    obtain ⟨opening, hmem, rfl⟩ | hmem := hopening
    · apply List.mem_append_left ys (hxs.closed opening hmem)
    · exact hys.closed opening hmem
  read := by
    rw [hxs.readTags_append, hys.read]

/-- A text without `<` has no tags. -/
theorem showsTags_of_not_mem {cs : List Char} (h : '<' ∉ cs) :
  ShowsTags cs []
  := by
  have hnone := openings_of_not_mem h
  constructor
  · simp [hnone]
  · rw [readTags, hnone, List.map_nil]

/-- What has no tags may be left out at both ends of a text. -/
theorem ShowsTags.of_append {before cs after : List Char} {tags : List HtmlTag}
    (h : ShowsTags (before ++ cs ++ after) tags) (hbefore : '<' ∉ before)
    (hafter : '<' ∉ after ∧ '>' ∉ after) :
  ShowsTags cs tags
  := by
  have hopenings : openings (before ++ cs ++ after) = (openings cs).map (· ++ after) := by
    rw [openings_append, openings_append, openings_of_not_mem hbefore,
      openings_of_not_mem hafter.1, List.append_nil]
    rfl
  have hclosed : ∀ opening ∈ openings cs, '>' ∈ opening := by
    intro opening hopening
    have hmem : opening ++ after ∈ openings (before ++ cs ++ after) := by
      rw [hopenings]
      exact List.mem_map_of_mem hopening
    obtain hin | hin := List.mem_append.mp (h.closed _ hmem)
    · exact hin
    · exact absurd hin hafter.2
  use hclosed
  rw [← h.read, readTags, readTags, hopenings, List.map_map]
  apply List.map_congr_left
  intro opening hopening
  rw [Function.comp_apply, takeWhile_append_of_mem (hclosed opening hopening) (by decide)]

/-- What stands between two brackets is one tag. -/
theorem showsTags_inside {inside : List Char} (hless : '<' ∉ inside) (hgreater : '>' ∉ inside) :
  ShowsTags ('<' :: inside ++ ['>']) [readTag inside]
  := by
  have hopenings : openings ('<' :: inside ++ ['>']) = [inside ++ ['>']] := by
    rw [List.cons_append, openings, if_pos rfl, openings_append, openings_of_not_mem hless]
    rfl
  constructor
  · rw [hopenings]
    simp
  · rw [readTags, hopenings, List.map_singleton,
      List.takeWhile_append_of_pos (decide_ne_of_not_mem hgreater),
      List.takeWhile_cons_of_neg (by decide), List.append_nil]

section

variable {name : List Char} (hname : ∀ c ∈ name, !isDelimiter c ∧ c ≠ ' ')
  {words : List (List Char)} (hwords : ∀ word ∈ words, IsTagWord word)

include hname hwords

/-- A name and words do not end the tag in which they stand. -/
theorem not_mem_inside :
  '<' ∉ name ++ words.flatMap (' ' :: ·) ∧ '>' ∉ name ++ words.flatMap (' ' :: ·)
  := by
  have hplain : ∀ c ∈ name, c ≠ '<' ∧ c ≠ '>' := by
    intro c hc
    have hdelimiter := (hname c hc).1
    simp only [isDelimiter, Bool.not_eq_true', Bool.or_eq_false_iff,
      decide_eq_false_iff_not] at hdelimiter
    exact hdelimiter.1
  simp only [List.mem_append, List.mem_flatMap, List.mem_cons, not_or, not_exists, not_and]
  and_intros
  · exact fun hc => (hplain _ hc).1 rfl
  · exact fun word hword => ⟨by decide, (hwords word hword).inTag.1⟩
  · exact fun hc => (hplain _ hc).2 rfl
  · exact fun word hword => ⟨by decide, (hwords word hword).inTag.2⟩

theorem readTag_inside :
  readTag (name ++ words.flatMap (' ' :: ·)) = ⟨String.ofList name, words.map readAttribute⟩
  := by
  apply readTag_words _ hwords
  intro c hc
  obtain ⟨hdelimiter, hblank⟩ := hname c hc
  simp only [isDelimiter, Bool.not_eq_true', Bool.or_eq_false_iff,
    decide_eq_false_iff_not] at hdelimiter
  exact ⟨hdelimiter.2, hblank⟩

/-- A tag that is written has itself for its tag. -/
theorem showsTags_tag :
  ShowsTags ('<' :: (name ++ words.flatMap (' ' :: ·)) ++ ['>'])
    [⟨String.ofList name, words.map readAttribute⟩]
  := by
  have hinside := not_mem_inside hname hwords
  rw [← readTag_inside hname hwords]
  exact showsTags_inside hinside.1 hinside.2

end

/-! ### Tags of strings -/

/-- What is written for attributes. -/
def writeAttributes (attributes : List (String × String)) : String :=
  String.join (attributes.map fun a => " " ++ a.1 ++ "=\"" ++ a.2 ++ "\"")

/-- What is written for a tag. -/
def HtmlTag.write (tag : HtmlTag) : String :=
  "<" ++ tag.name ++ writeAttributes tag.attributes ++ ">"

theorem writeAttributes_cons (a : String × String) (attributes : List (String × String)) :
  writeAttributes (a :: attributes)
    = " " ++ a.1 ++ "=\"" ++ a.2 ++ "\"" ++ writeAttributes attributes
  := by
  rw [writeAttributes, List.map_cons, String.join_cons, writeAttributes]

theorem writeAttributes_append (xs ys : List (String × String)) :
  writeAttributes (xs ++ ys) = writeAttributes xs ++ writeAttributes ys
  := by
  rw [writeAttributes, List.map_append, String.join_append, writeAttributes, writeAttributes]

/-- A tag whose name and attributes do not end before they should. -/
structure HtmlTag.IsWritable (tag : HtmlTag) : Prop where
  noBlank : ' ' ∉ tag.name.toList
  name : marks tag.name = []
  attributes : ∀ a ∈ tag.attributes, a.1.toList.all Char.isAlpha ∧ marks a.2 = []

theorem not_mem_of_marks_eq_nil {s : String} (h : marks s = []) {c : Char} (hc : isMark c) :
  c ∉ s.toList
  := by
  intro hmem
  rw [marks, List.filter_eq_nil_iff] at h
  apply h c hmem hc

/-- A text without marks has no delimiters. -/
theorem all_not_isDelimiter_of_marks_eq_nil {s : String} (h : marks s = []) :
  s.toList.all (!isDelimiter ·)
  := by
  rw [List.all_eq_true]
  intro c hc
  have hmark := List.filter_eq_nil_iff.mp h c hc
  simp only [isMark, Bool.or_eq_true, not_or] at hmark
  simp [isDelimiter, hmark]

/-- A tag with a name only. -/
theorem isWritable_name {name : String} (hname : ' ' ∉ name.toList ∧ marks name = []) :
  HtmlTag.IsWritable ⟨name, []⟩
  where
  noBlank := hname.1
  name := hname.2
  attributes := nofun

/-- A tag with a style class. -/
theorem isWritable_styled {name style : String} (hname : ' ' ∉ name.toList ∧ marks name = [])
    (hstyle : marks style = []) :
  HtmlTag.IsWritable ⟨name, [("class", style)]⟩
  where
  noBlank := hname.1
  name := hname.2
  attributes := by
    have halpha : "class".toList.all Char.isAlpha := by
      decide
    exact List.forall_mem_singleton.mpr ⟨halpha, hstyle⟩

/-- What stands between the brackets of a tag that is written. -/
theorem HtmlTag.IsWritable.exists_inside {tag : HtmlTag} (h : tag.IsWritable) :
  ∃ inside, tag.write.toList = '<' :: inside ++ ['>'] ∧ ('<' ∉ inside ∧ '>' ∉ inside)
    ∧ readTag inside = tag
  := by
  let word (a : String × String) := a.1.toList ++ '=' :: '\x22' :: a.2.toList ++ ['\x22']
  have hname : ∀ c ∈ tag.name.toList, !isDelimiter c ∧ c ≠ ' ' := by
    intro c hc
    use List.all_eq_true.mp (all_not_isDelimiter_of_marks_eq_nil h.name) c hc
    rintro rfl
    exact h.noBlank hc
  have hwords : ∀ text ∈ tag.attributes.map word, IsTagWord text := by
    intro text htext
    obtain ⟨a, ha, rfl⟩ := List.mem_map.mp htext
    obtain ⟨halpha, hmarks⟩ := h.attributes a ha
    apply isTagWord_pair halpha (all_not_isDelimiter_of_marks_eq_nil hmarks)
  have hread : (tag.attributes.map word).map readAttribute = tag.attributes := by
    rw [List.map_map]
    apply (List.map_congr_left _).trans (List.map_id _)
    intro a ha
    rw [Function.comp_apply, readAttribute_pair (h.attributes a ha).1]
    simp
  refine ⟨_, ?_, not_mem_inside hname hwords, ?_⟩
  · simp [HtmlTag.write, writeAttributes, word, List.flatMap_map]
  · rw [readTag_inside hname hwords, hread, String.ofList_toList]

/-- A tag that is written is its own tag. -/
theorem showsTags_write {tag : HtmlTag} (h : tag.IsWritable) :
  ShowsTags tag.write.toList [tag]
  := by
  obtain ⟨inside, hwrite, hinside, hread⟩ := h.exists_inside
  rw [hwrite, ← hread]
  exact showsTags_inside hinside.1 hinside.2

/-! ### The tags of a markup -/

namespace Markup

variable [Escaping]

/-- The tags of what is written for a markup. -/
def HasTags (m : Markup) (tags : List HtmlTag) : Prop :=
  ShowsTags m.toHtml.toList tags

theorem HasTags.append {m n : Markup} {tags tags' : List HtmlTag} (hm : HasTags m tags)
    (hn : HasTags n tags') :
  HasTags (m ++ n) (tags ++ tags')
  := by
  rw [HasTags, toHtml_append, String.toList_append]
  apply ShowsTags.append hm hn

theorem hasTags_nil :
  HasTags [] []
  := showsTags_of_not_mem (by simp [toHtml])

theorem HasTags.wrap {opening closing : String} {m : Markup} {before tags after : List HtmlTag}
    (hopening : HasTags [.fixed opening] before) (hm : HasTags m tags)
    (hclosing : HasTags [.fixed closing] after) :
  HasTags (wrap opening m closing) (before ++ tags ++ after)
  := (hopening.append hm).append hclosing

/-- An escaped text has no tags. -/
theorem hasTags_text (s : String) :
  HasTags [.text s] []
  := by
  apply showsTags_of_not_mem
  apply not_mem_of_marks_eq_nil _ rfl
  rw [marks_toHtml]
  rfl

/-- The tags of a text, if they all end in it. -/
def tagsWithin? (cs : List Char) : Option (List HtmlTag) :=
  if (openings cs).all (·.contains '>') then some (readTags cs) else none

/-- The tags of a fixed text, which is given by its characters. -/
theorem hasTags_fixed {s : String} {cs : List Char} (hs : String.ofList cs = s)
    {tags : List HtmlTag} (h : tagsWithin? cs = some tags) :
  HasTags [.fixed s] tags
  := by
  rw [tagsWithin?, Option.ite_none_right_eq_some, List.all_eq_true, Option.some_inj] at h
  have htoHtml : (toHtml [.fixed s]).toList = cs := by
    simp [toHtml, Piece.toHtml, ← hs]
  rw [HasTags, htoHtml]
  constructor
  · intro opening hopening
    exact List.contains_iff_mem.mp (h.1 opening hopening)
  · exact h.2

/-- The tags are those of what is written, however it is made of pieces. -/
theorem HasTags.congr {m n : Markup} {tags : List HtmlTag} (hn : HasTags n tags)
    (h : m.toHtml.toList = n.toHtml.toList) :
  HasTags m tags
  := by
  rw [HasTags, h]
  exact hn

/-- A fixed text in two parts, neither of which cuts a tag. -/
theorem HasTags.fixed_append {s t : String} {tags tags' : List HtmlTag}
    (hs : HasTags [.fixed s] tags) (ht : HasTags [.fixed t] tags') :
  HasTags [.fixed (s ++ t)] (tags ++ tags')
  := by
  apply (hs.append ht).congr
  simp [toHtml, Piece.toHtml]

/-- A tag that is written from fixed pieces and texts. -/
theorem HasTags.cons {tag : HtmlTag} (htag : tag.IsWritable) {m n : Markup} {tags : List HtmlTag}
    (hn : HasTags n tags) (h : m.toHtml.toList = tag.write.toList ++ n.toHtml.toList) :
  HasTags m (tag :: tags)
  := by
  rw [HasTags, h]
  apply ShowsTags.append (showsTags_write htag) hn

end Markup

/-! ### Elements -/

/-- The elements of a name: each start tag of the name, with the tags up to the next end tag of the
name. -/
def elements (name : String) : List HtmlTag → List (HtmlTag × List HtmlTag)
  | [] => []
  | tag :: tags =>
    if tag.name = name then
      (tag, tags.takeWhile (·.name ≠ "/" ++ name)) :: elements name tags
    else elements name tags

section

variable {name : String}

theorem elements_append_of_forall {xs : List HtmlTag} (h : ∀ tag ∈ xs, tag.name ≠ name)
    (ys : List HtmlTag) :
  elements name (xs ++ ys) = elements name ys
  := by
  induction xs with
  | nil => rfl
  | cons tag xs ih =>
    rw [List.cons_append, elements, if_neg (h tag List.mem_cons_self)]
    apply ih
    intro tag' htag'
    apply h tag' (List.mem_cons_of_mem tag htag')

/-- Tags in front leave the elements of a list of tags at the end. -/
theorem elements_suffix (name : String) (xs ys : List HtmlTag) :
  elements name ys <:+ elements name (xs ++ ys)
  := by
  induction xs with
  | nil => exact List.suffix_rfl
  | cons tag xs ih =>
    rw [List.cons_append, elements]
    split
    · apply ih.trans (List.suffix_cons _ _)
    · exact ih

/-- An element without elements of the same name in it. -/
theorem elements_element (name : String) {opening closing : HtmlTag}
    (hopening : opening.name = name) (hclosing : closing.name = "/" ++ name) {inner : List HtmlTag}
    (hinner : ∀ tag ∈ inner, tag.name ≠ name ∧ tag.name ≠ "/" ++ name) (ys : List HtmlTag) :
  elements name (opening :: inner ++ closing :: ys) = (opening, inner) :: elements name ys
  := by
  have hne : closing.name ≠ name := by
    intro h
    have hlength := congrArg String.length (hclosing.symm.trans h)
    simp at hlength
  have htake : ∀ tag ∈ inner, decide (tag.name ≠ "/" ++ name) = true := by
    intro tag htag
    rw [decide_eq_true_iff]
    exact (hinner tag htag).2
  rw [List.cons_append, elements, if_pos hopening, List.takeWhile_append_of_pos htake,
    List.takeWhile_cons_of_neg (by simp [hclosing]), List.append_nil,
    elements_append_of_forall fun tag htag => (hinner tag htag).1, elements, if_neg hne]

end

end DocTable
