import DocTable.Text.Blank
import Mathlib.Data.List.DropRight

/-!
# Laws of blanks and words

What is trimmed from a text, and what stays: `solid` takes the characters that are no blanks, and
trimming changes neither these nor the words of a text, which hold just these.  A text that is cut
before a blank is cut between two of its words.
-/

namespace DocTable.Text

variable {c : Char} {bs cs ds : List Char}

/-! ### Blanks -/

/-- The code points of blanks. -/
def blankCodes : List Nat :=
  [0x09, 0x0A, 0x0B, 0x0C, 0x0D, 0x1C, 0x1D, 0x1E, 0x1F, 0x20, 0x85, 0xA0, 0x1680, 0x2000, 0x2001,
   0x2002, 0x2003, 0x2004, 0x2005, 0x2006, 0x2007, 0x2008, 0x2009, 0x200A, 0x2028, 0x2029, 0x202F,
   0x205F, 0x3000]

/-- The blanks are given by their codes. -/
theorem toNat_mem_of_isBlank (h : isBlank c = true) :
  c.toNat ∈ blankCodes
  := by
  simp only [isBlank, Bool.or_eq_true, Bool.and_eq_true, decide_eq_true_eq, beq_iff_eq] at h
  simp only [blankCodes, List.mem_cons, List.not_mem_nil, or_false]
  omega

/-- A predicate that fails at the code points of blanks fails at blanks. -/
theorem isBlank_eq_false_of {p : Char → Bool} (hp : ∀ n ∈ blankCodes, p (Char.ofNat n) = false)
    (h : p c = true) :
  isBlank c = false
  := by
  by_contra hblank
  have hnot := hp _ (toNat_mem_of_isBlank (eq_true_of_ne_false hblank))
  rw [Char.ofNat_toNat, h] at hnot
  contradiction

/-! ### Characters that are no blanks -/

/-- The characters that are no blanks, in order. -/
def solid (cs : List Char) : List Char :=
  cs.filter (!isBlank ·)

/-- Nothing has no solid characters. -/
@[simp]
theorem solid_nil :
  solid [] = []
  := rfl

/-- The solid characters of a text are those of its parts. -/
@[simp]
theorem solid_append (cs ds : List Char) :
  solid (cs ++ ds) = solid cs ++ solid ds
  := List.filter_append ..

/-- No other character is among blanks. -/
theorem not_mem_of_allBlank (h : allBlank bs = true) {c : Char} (hc : isBlank c = false) :
  c ∉ bs
  := by
  intro hmem
  rw [List.all_eq_true.mp h c hmem] at hc
  exact Bool.noConfusion hc

/-- Blanks have no solid characters. -/
theorem solid_of_allBlank (h : allBlank bs = true) :
  solid bs = []
  := by
  rw [solid, List.filter_eq_nil_iff]
  intro c hc
  simp [List.all_eq_true.mp h c hc]

/-- Trimming at the right drops the longest end of blanks. -/
theorem trimRight_eq (cs : List Char) :
  trimRight cs = cs.rdropWhile isBlank
  := rfl

/-- A text is its trimmed text with blanks around it. -/
theorem exists_trim (cs : List Char) :
  ∃ before after, cs = before ++ trim cs ++ after ∧ allBlank before = true ∧ allBlank after = true
  := by
  use cs.takeWhile isBlank, (trimLeft cs).rtakeWhile isBlank
  refine ⟨?_, List.all_takeWhile, ?_⟩
  · rw [trim, trimRight_eq, List.append_assoc, List.rdropWhile_append_rtakeWhile, trimLeft,
      List.takeWhile_append_dropWhile]
  · rw [allBlank, List.all_eq_true]
    intro c hc
    apply List.mem_rtakeWhile_imp hc

/-- Trimming leaves no characters but those that are there, in their order. -/
theorem trim_sublist (cs : List Char) :
  (trim cs).Sublist cs
  := by
  obtain ⟨before, after, hcs, -, -⟩ := exists_trim cs
  conv_rhs => rw [hcs]
  exact (List.sublist_append_right before _).trans (List.sublist_append_left _ after)

/-- Trimming takes no solid characters away. -/
@[simp]
theorem solid_trim (cs : List Char) :
  solid (trim cs) = solid cs
  := by
  obtain ⟨before, after, hcs, hbefore, hafter⟩ := exists_trim cs
  conv_rhs => rw [hcs]
  rw [solid_append, solid_append, solid_of_allBlank hbefore, solid_of_allBlank hafter,
    List.nil_append, List.append_nil]

/-- Neither does trimming at the left. -/
theorem solid_trimLeft (cs : List Char) :
  solid (trimLeft cs) = solid cs
  := by
  conv_rhs => rw [← List.takeWhile_append_dropWhile (p := isBlank) (l := cs)]
  rw [solid_append, solid_of_allBlank List.all_takeWhile, List.nil_append, trimLeft]

/-! ### Trimming -/

/-- Blanks in front do not matter for trimming at the left. -/
theorem trimLeft_blank_append (h : allBlank bs = true) (cs : List Char) :
  trimLeft (bs ++ cs) = trimLeft cs
  := List.dropWhile_append_of_pos (List.all_eq_true.mp h)

/-- Blanks at the end do not matter for trimming at the right. -/
theorem trimRight_append_blank (cs : List Char) (h : allBlank bs = true) :
  trimRight (cs ++ bs) = trimRight cs
  := by
  rw [trimRight, dropRightWhile, List.reverse_append, List.dropWhile_append_of_pos]
  · rfl
  · intro c hc
    apply List.all_eq_true.mp h c (List.mem_reverse.mp hc)

/-- Nothing is left of blanks. -/
theorem trimLeft_of_allBlank (h : allBlank bs = true) :
  trimLeft bs = []
  := by
  rw [trimLeft, List.dropWhile_eq_nil_iff]
  apply List.all_eq_true.mp h

/-- Blanks in front do not matter for trimming. -/
theorem trim_blank_append (h : allBlank bs = true) (cs : List Char) :
  trim (bs ++ cs) = trim cs
  := by
  rw [trim, trimLeft_blank_append h, trim]

/-- Blanks at the end do not matter for trimming. -/
theorem trim_append_blank (cs : List Char) (h : allBlank bs = true) :
  trim (cs ++ bs) = trim cs
  := by
  rw [trim, trim, trimLeft, List.dropWhile_append, ← trimLeft, ← trimLeft]
  split
  case isTrue hcs => rw [trimLeft_of_allBlank h, List.isEmpty_iff.mp hcs]
  case isFalse => rw [trimRight_append_blank _ h]

/-- Only the last of two texts is trimmed, unless it is blank. -/
theorem trimRight_append (cs : List Char) (h : trimRight ds ≠ []) :
  trimRight (cs ++ ds) = cs ++ trimRight ds
  := by
  rw [trimRight, dropRightWhile, List.reverse_append, List.dropWhile_append, if_neg]
  · rw [List.reverse_append, List.reverse_reverse]
    rfl
  · intro hnil
    apply h
    rw [trimRight, dropRightWhile, List.isEmpty_iff.mp hnil, List.reverse_nil]

/-- Nothing is trimmed in front of another character. -/
theorem trimLeft_cons (h : isBlank c = false) (cs : List Char) :
  trimLeft (c :: cs) = c :: cs
  := List.dropWhile_cons_of_neg (by simp [h])

/-- A text without blanks has none at its end. -/
theorem trimRight_of_no_blank (h : ∀ c ∈ cs, isBlank c = false) :
  trimRight cs = cs
  := by
  rw [trimRight_eq, List.rdropWhile_eq_self_iff]
  intro hne
  simpa using h _ (List.getLast_mem hne)

/-- A trimmed text has no blanks in front. -/
theorem trimLeft_of_trim (h : trim cs = cs) :
  trimLeft cs = cs
  := by
  apply (List.dropWhile_suffix isBlank).eq_of_length
  apply Nat.le_antisymm (List.dropWhile_suffix isBlank).length_le
  have hlength := (List.rdropWhile_prefix isBlank (trimLeft cs)).length_le
  rw [← trimRight_eq, ← trim, h] at hlength
  exact hlength

/-- What is trimmed at the right stays as it is. -/
theorem trimRight_trimRight (cs : List Char) :
  trimRight (trimRight cs) = trimRight cs
  := by
  rw [trimRight_eq, trimRight_eq, List.rdropWhile_idempotent]

/-- A trimmed text has no blanks at its end. -/
theorem trimRight_of_trim (h : trim cs = cs) :
  trimRight cs = cs
  := by
  rw [← h, trim, trimRight_trimRight]

/-- The end of a text without blanks at its end has none at its end. -/
theorem trimRight_of_append (h : trimRight (cs ++ ds) = cs ++ ds) :
  trimRight ds = ds
  := by
  rw [trimRight_eq, List.rdropWhile_eq_self_iff] at h ⊢
  intro hne
  have hlast := h (List.append_ne_nil_of_right_ne_nil cs hne)
  rwa [List.getLast_append_of_ne_nil _ hne] at hlast

/-- Nothing is left if and only if there are blanks only. -/
theorem trimRight_eq_nil_iff :
  trimRight cs = [] ↔ allBlank cs = true
  := by
  rw [trimRight_eq, List.rdropWhile_eq_nil_iff, allBlank, List.all_eq_true]

/-- What follows a character that is no blank is trimmed at its end. -/
theorem trim_cons (h : isBlank c = false) (cs : List Char) :
  trim (c :: cs) = c :: trimRight cs
  := by
  rw [trim, trimLeft_cons h]
  by_cases hcs : trimRight cs = []
  · rw [hcs, ← List.singleton_append,
      trimRight_append_blank _ (trimRight_eq_nil_iff.mp hcs)]
    apply trimRight_of_no_blank
    simpa using h
  · rw [← List.singleton_append, trimRight_append _ hcs, List.singleton_append]

/-- It does not matter whether the right is trimmed before. -/
theorem trim_trimRight (cs : List Char) :
  trim (trimRight cs) = trim cs
  := by
  have hblank : allBlank (cs.rtakeWhile isBlank) = true := by
    rw [allBlank, List.all_eq_true]
    intro c hc
    apply List.mem_rtakeWhile_imp hc
  conv_rhs => rw [← List.rdropWhile_append_rtakeWhile (p := isBlank) (l := cs)]
  rw [trim_append_blank _ hblank, trimRight_eq]

/-- A trimmed text stays as it is. -/
theorem trim_trim (cs : List Char) :
  trim (trim cs) = trim cs
  := by
  calc
    trim (trim cs) = trim (trimLeft cs) := trim_trimRight (trimLeft cs)
    _ = trim cs := by rw [trim, trim, trimLeft, trimLeft, List.dropWhile_idempotent]

/-- A text between blanks is trimmed to itself if it has no blank at its ends. -/
theorem trim_between {before after : List Char} (hbefore : allBlank before = true)
    (hafter : allBlank after = true) (hleft : trimLeft cs = cs) (hright : trimRight cs = cs) :
  trim (before ++ cs ++ after) = cs
  := by
  rw [trim_append_blank _ hafter, trim_blank_append hbefore, trim, hleft, hright]

/-- Trimming leaves nothing if and only if there are blanks only. -/
theorem trim_eq_nil_iff :
  trim cs = [] ↔ allBlank cs = true
  := by
  constructor
  · intro h
    obtain ⟨before, after, hcs, hbefore, hafter⟩ := exists_trim cs
    rw [h, List.append_nil] at hcs
    rw [hcs, allBlank, List.all_append, Bool.and_eq_true]
    exact ⟨hbefore, hafter⟩
  · intro h
    rw [trim, trimLeft_of_allBlank h]
    rfl

/-- A text is trimmed if it has no blank at its ends. -/
theorem trim_eq_self_iff :
  trim cs = cs ↔ (∀ c ∈ cs.head?, isBlank c = false) ∧ ∀ c ∈ cs.getLast?, isBlank c = false
  := by
  constructor
  · intro h
    constructor
    · intro c hc
      have hnot := List.head?_dropWhile_not isBlank cs
      rw [← trimLeft, trimLeft_of_trim h, hc] at hnot
      simpa using hnot
    · intro c hc
      have hright := trimRight_of_trim h
      rw [trimRight_eq, List.rdropWhile_eq_self_iff] at hright
      obtain ⟨hne, rfl⟩ := List.mem_getLast?_eq_getLast hc
      simpa using hright hne
  · rintro ⟨hleft, hright⟩
    have hstart : trimLeft cs = cs := by
      cases cs with
      | nil => rfl
      | cons c cs => exact trimLeft_cons (hleft c rfl) cs
    rw [trim, hstart, trimRight_eq, List.rdropWhile_eq_self_iff]
    intro hne
    simpa using hright _ (List.getLast_mem_getLast? hne)

/-- A text without blanks is trimmed. -/
theorem trim_of_no_blank (h : ∀ c ∈ cs, isBlank c = false) :
  trim cs = cs
  := by
  rw [trim_eq_self_iff]
  constructor
  · intro c hc
    exact h c (List.mem_of_mem_head? hc)
  · intro c hc
    exact h c (List.mem_of_getLast? hc)

/-! ### Trimming other characters -/

/-- A text without the longest run of `p` at either end. -/
theorem trimWhile_eq (p : Char → Bool) (cs : List Char) :
  trimWhile p cs = (cs.dropWhile p).rdropWhile p
  := rfl

/-- What is dropped in front does not matter if none of it is kept anyway. -/
theorem filter_dropWhile {p keep : Char → Bool} (h : ∀ c, p c = true → keep c = false)
    (cs : List Char) :
  (cs.dropWhile p).filter keep = cs.filter keep
  := by
  have hdropped : (cs.takeWhile p).filter keep = [] := by
    rw [List.filter_eq_nil_iff]
    intro c hc
    simpa using h c (List.mem_takeWhile_imp hc)
  conv_rhs => rw [← List.takeWhile_append_dropWhile (p := p) (l := cs)]
  rw [List.filter_append, hdropped, List.nil_append]

/-- What is trimmed does not count if it is not kept in any case. -/
theorem filter_trimWhile {p keep : Char → Bool} (h : ∀ c, p c = true → keep c = false)
    (cs : List Char) :
  (trimWhile p cs).filter keep = cs.filter keep
  := by
  rw [trimWhile, dropRightWhile, List.filter_reverse, filter_dropWhile h, List.filter_reverse,
    List.reverse_reverse, filter_dropWhile h]

/-- The first character that is not dropped is none of those to be dropped. -/
theorem head?_dropWhile (p : Char → Bool) (cs : List Char) :
  ∀ c ∈ (cs.dropWhile p).head?, p c = false
  := by
  intro c hc
  have hhead := List.head?_dropWhile_not p cs
  rwa [Option.mem_def.mp hc] at hhead

/-- A text that is trimmed begins and ends with other characters. -/
theorem ends_trimWhile (p : Char → Bool) (cs : List Char) :
  (∀ c ∈ (trimWhile p cs).head?, p c = false) ∧ ∀ c ∈ (trimWhile p cs).getLast?, p c = false
  := by
  constructor
  · intro c hc
    obtain ⟨after, hafter⟩ := List.rdropWhile_prefix p (cs.dropWhile p)
    rw [trimWhile_eq] at hc
    apply head?_dropWhile p cs c
    rw [← hafter, List.head?_append, hc]
    rfl
  · intro c hc
    rw [trimWhile, dropRightWhile, List.getLast?_reverse] at hc
    exact head?_dropWhile p _ c hc

/-- Nothing is dropped if the first character is none of those to be dropped. -/
theorem dropWhile_of_head? {p : Char → Bool} (h : ∀ c ∈ cs.head?, p c = false) :
  cs.dropWhile p = cs
  := by
  cases cs with
  | nil => rfl
  | cons c cs => exact List.dropWhile_cons_of_neg (by simp [h c rfl])

/-- A text between runs of `p` is trimmed to itself if it begins and ends with other characters. -/
theorem trimWhile_between {p : Char → Bool} {before after : List Char}
    (hbefore : ∀ c ∈ before, p c = true) (hafter : ∀ c ∈ after, p c = true)
    (hhead : ∀ c ∈ cs.head?, p c = false) (hlast : ∀ c ∈ cs.getLast?, p c = false) :
  trimWhile p (before ++ cs ++ after) = cs
  := by
  have hends : (cs ++ after).dropWhile p = if cs = [] then [] else cs ++ after := by
    cases cs with
    | nil => exact List.dropWhile_eq_nil_iff.mpr hafter
    | cons c cs =>
      have hcons : ∀ d ∈ (c :: cs ++ after).head?, p d = false := hhead
      exact dropWhile_of_head? hcons
  rw [trimWhile, List.append_assoc, List.dropWhile_append_of_pos hbefore, hends]
  split
  case isTrue hnil => rw [hnil]; rfl
  case isFalse =>
    rw [dropRightWhile, List.reverse_append,
      List.dropWhile_append_of_pos fun c hc => hafter c (List.mem_reverse.mp hc),
      dropWhile_of_head? (by rwa [List.head?_reverse]), List.reverse_reverse]

/-! ### Words -/

/-- Nothing has no words. -/
@[simp]
theorem words_nil :
  words [] = []
  := rfl

/-- A blank ends the word that has been begun, and the words after it are those of the rest. -/
theorem wordsFrom_append_cons (hc : isBlank c = true) (word cs ds : List Char) :
  wordsFrom word (cs ++ c :: ds) = wordsFrom word cs ++ words ds
  := by
  induction cs generalizing word with
  | nil =>
    rw [List.nil_append, wordsFrom, wordsFrom, if_pos hc, words]
    split
    · rfl
    · rfl
  | cons d cs ih =>
    rw [List.cons_append, wordsFrom, wordsFrom]
    split
    · split
      · apply ih
      · rw [ih, List.cons_append]
    · apply ih

/-- A text that is cut before a blank, or at its end, has the words of both parts. -/
theorem words_append (cs : List Char) (h : ∀ c ∈ ds.head?, isBlank c = true) :
  words (cs ++ ds) = words cs ++ words ds
  := by
  cases ds with
  | nil => rw [List.append_nil, words_nil, List.append_nil]
  | cons c ds =>
    have hc : isBlank c = true := h c rfl
    have hds : words (c :: ds) = words ds := wordsFrom_append_cons hc [] [] ds
    rw [hds]
    apply wordsFrom_append_cons hc

/-- The words on either side of a blank are found apart. -/
theorem words_append_cons (hc : isBlank c = true) (cs ds : List Char) :
  words (cs ++ c :: ds) = words cs ++ words ds
  := wordsFrom_append_cons hc [] cs ds

/-- Blanks have no words. -/
theorem words_of_allBlank (h : allBlank bs = true) :
  words bs = []
  := by
  induction bs with
  | nil => rfl
  | cons b bs ih =>
    rw [allBlank, List.all_cons, Bool.and_eq_true] at h
    rw [← List.nil_append (b :: bs), words_append_cons h.1, ih h.2, words_nil, List.append_nil]

/-- Blanks begin with a blank. -/
theorem head?_blank_of_allBlank (h : allBlank bs = true) :
  ∀ c ∈ bs.head?, isBlank c = true
  := by
  intro c hc
  apply List.all_eq_true.mp h c (List.mem_of_mem_head? hc)

/-- Blanks in front do not matter for the words. -/
theorem words_blank_append (h : allBlank bs = true) (cs : List Char) :
  words (bs ++ cs) = words cs
  := by
  induction bs with
  | nil => rfl
  | cons b bs ih =>
    rw [allBlank, List.all_cons, Bool.and_eq_true] at h
    rw [List.cons_append, ← List.nil_append (b :: _), words_append_cons h.1, ih h.2, words_nil,
      List.nil_append]

/-- Trimming does not matter for the words. -/
@[simp]
theorem words_trim (cs : List Char) :
  words (trim cs) = words cs
  := by
  obtain ⟨before, after, hcs, hbefore, hafter⟩ := exists_trim cs
  conv_rhs => rw [hcs]
  rw [List.append_assoc, words_blank_append hbefore,
    words_append _ (head?_blank_of_allBlank hafter), words_of_allBlank hafter, List.append_nil]

/-- Neither does trimming at the left. -/
theorem words_trimLeft (cs : List Char) :
  words (trimLeft cs) = words cs
  := by
  conv_rhs => rw [← List.takeWhile_append_dropWhile (p := isBlank) (l := cs)]
  rw [words_blank_append List.all_takeWhile, trimLeft]

/-- The words, with the one that has been begun, have all solid characters in their order. -/
theorem flatten_wordsFrom (word cs : List Char) :
  (wordsFrom word cs).flatten = word.reverse ++ solid cs
  := by
  induction cs generalizing word with
  | nil =>
    rw [wordsFrom, solid_nil, List.append_nil]
    split
    case isTrue h => rw [List.isEmpty_iff.mp h, List.flatten_nil, List.reverse_nil]
    case isFalse => rw [List.flatten_singleton]
  | cons c cs ih =>
    rw [wordsFrom, solid, List.filter_cons, ← solid]
    cases isBlank c with
    | true =>
      simp only [if_true, Bool.not_true, Bool.false_eq_true, if_false]
      split
      case isTrue h => rw [ih, List.isEmpty_iff.mp h]
      case isFalse => rw [List.flatten_cons, ih, List.reverse_nil, List.nil_append]
    | false =>
      simp only [Bool.false_eq_true, if_false, Bool.not_false, if_true]
      rw [ih, List.reverse_cons, List.append_assoc, List.singleton_append]

/-- The words of a text hold its characters that are no blanks. -/
theorem flatten_words (cs : List Char) :
  (words cs).flatten = solid cs
  := flatten_wordsFrom [] cs

/-- The first word and what follows it have the words of the text. -/
theorem words_splitWord (cs : List Char) :
  words (splitWord cs).1 ++ words (splitWord cs).2 = words cs
  := by
  rw [splitWord, words_trim, ← words_append, List.takeWhile_append_dropWhile, words_trimLeft]
  intro c hc
  have hnot := List.head?_dropWhile_not (!isBlank ·) (trimLeft cs)
  rw [hc] at hnot
  simpa using hnot

end DocTable.Text
