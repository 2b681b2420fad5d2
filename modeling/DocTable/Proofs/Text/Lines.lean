import DocTable.Proofs.Text.Blank
import DocTable.Text.Lines
import Mathlib.Data.List.TakeDrop

/-!
# Laws of lines

Joining lines adds blanks only, and blank lines at their ends do not count once they are trimmed.  A
line that is written with any of the usual ends is cut off there (`splitLines_ended`).
-/

namespace DocTable.Text

/-! ### Joined lines -/

theorem joinLines_cons_cons (line next : List Char) (lines : List (List Char)) :
  joinLines (line :: next :: lines) = line ++ '\n' :: joinLines (next :: lines)
  := by
  rw [joinLines, List.intercalate_cons_cons, joinLines, List.append_assoc, List.singleton_append]

theorem joinLines_cons_ne_nil {line : List Char} (h : line ≠ []) (lines : List (List Char)) :
  joinLines (line :: lines) ≠ []
  := by
  cases lines with
  | nil => rwa [joinLines, List.intercalate_singleton]
  | cons next lines =>
    rw [joinLines_cons_cons]
    exact List.append_ne_nil_of_left_ne_nil h _

@[simp]
theorem solid_joinLines (lines : List (List Char)) :
  solid (joinLines lines) = lines.flatMap solid
  := by
  induction lines with
  | nil => rfl
  | cons line lines ih =>
    cases lines with
    | nil => rw [joinLines, List.intercalate_singleton, List.flatMap_singleton]
    | cons next lines =>
      rw [joinLines_cons_cons, solid_append, List.flatMap_cons, ← ih, solid, solid,
        List.filter_cons_of_neg (by decide), ← solid, ← solid]

theorem solid_flatten (lines : List (List Char)) :
  solid lines.flatten = lines.flatMap solid
  := by
  rw [solid, List.filter_flatten, List.flatMap_def]
  rfl

theorem trim_joinLines_nil_cons (lines : List (List Char)) :
  trim (joinLines ([] :: lines)) = trim (joinLines lines)
  := by
  cases lines with
  | nil => rfl
  | cons line lines =>
    rw [joinLines_cons_cons, List.nil_append, ← List.singleton_append,
      trim_blank_append (by decide)]

/-- One more piece is written after a separator. -/
theorem intercalate_concat {pieces : List (List Char)} (h : pieces ≠ []) (sep last : List Char) :
  sep.intercalate (pieces ++ [last]) = sep.intercalate pieces ++ sep ++ last
  := by
  induction pieces with
  | nil => contradiction
  | cons piece pieces ih =>
    cases pieces with
    | nil => rw [List.singleton_append, List.intercalate_cons_cons, List.intercalate_singleton,
        List.intercalate_singleton]
    | cons next pieces =>
      have hrest := ih (List.cons_ne_nil next pieces)
      rw [List.cons_append] at hrest
      rw [List.cons_append, List.cons_append, List.intercalate_cons_cons, hrest,
        List.intercalate_cons_cons, List.append_assoc, List.append_assoc, List.append_assoc,
        List.append_assoc, List.append_assoc]

theorem joinLines_concat (line : List Char) (lines : List (List Char)) (last : List Char) :
  joinLines (line :: lines ++ [last]) = joinLines (line :: lines) ++ '\n' :: last
  := by
  rw [joinLines, intercalate_concat (List.cons_ne_nil line lines), joinLines, List.append_assoc,
    List.singleton_append]

theorem trim_joinLines_concat_nil (lines : List (List Char)) :
  trim (joinLines (lines ++ [[]])) = trim (joinLines lines)
  := by
  cases lines with
  | nil => rfl
  | cons line lines => rw [joinLines_concat, trim_append_blank _ (by decide)]

theorem trim_joinLines_append_replicate (lines : List (List Char)) (n : Nat) :
  trim (joinLines (lines ++ List.replicate n [])) = trim (joinLines lines)
  := by
  induction n with
  | zero => rw [List.replicate_zero, List.append_nil]
  | succ n ih =>
    rw [List.replicate_succ', ← List.append_assoc, trim_joinLines_concat_nil, ih]

/-! ### Written lines -/

/-- How a line ends. -/
inductive LineEnd where
  | lineFeed
  | carriageReturn
  | carriageReturnLineFeed
  deriving DecidableEq, Repr

/-- The characters of an end of a line. -/
def LineEnd.chars : LineEnd → List Char
  | lineFeed => ['\n']
  | carriageReturn => ['\r']
  | carriageReturnLineFeed => ['\r', '\n']

/-- A line without a break in it. -/
def IsUnbroken (line : List Char) : Prop :=
  ∀ c ∈ line, isLineBreak c = false

instance : DecidablePred IsUnbroken := fun line =>
  List.decidableBAll (isLineBreak · = false) line

theorem isBlank_of_isLineBreak {c : Char} (h : isLineBreak c = true) :
  isBlank c = true
  := by
  simp only [isLineBreak, Bool.or_eq_true, Bool.and_eq_true, decide_eq_true_eq, beq_iff_eq] at h
  simp only [isBlank, Bool.or_eq_true, Bool.and_eq_true, decide_eq_true_eq, beq_iff_eq]
  omega

theorem extendFirst_ne_nil (c : Char) (lines : List (List Char)) :
  extendFirst c lines ≠ []
  := by
  cases lines <;> exact List.cons_ne_nil _ _

/-- Every text but the empty one has lines. -/
theorem splitLines_ne_nil {cs : List Char} (h : cs ≠ []) :
  splitLines cs ≠ []
  := by
  fun_cases splitLines cs
  case case1 => contradiction
  case case2 => exact List.cons_ne_nil _ _
  case case3 => exact List.cons_ne_nil _ _
  case case4 => exact extendFirst_ne_nil _ _

theorem splitLines_cons {c : Char} (h : isLineBreak c = false) (cs : List Char) :
  splitLines (c :: cs) = extendFirst c (splitLines cs)
  := by
  rw [splitLines, if_neg (by simp [h])]
  rintro _ rfl -
  contradiction

theorem splitLines_end (ending : LineEnd) {rest : List Char} (h : rest.head? ≠ some '\n') :
  splitLines (ending.chars ++ rest) = [] :: splitLines rest
  := by
  cases ending with
  | lineFeed => rfl
  | carriageReturnLineFeed => rfl
  | carriageReturn =>
    rw [LineEnd.chars, List.singleton_append, splitLines, if_pos (by decide)]
    rintro _ - rfl
    apply h rfl

/-- What stands before a break belongs to the line that it ends. -/
theorem splitLines_append {line tail : List Char} {lines : List (List Char)}
    (hline : IsUnbroken line) (h : splitLines tail = [] :: lines) :
  splitLines (line ++ tail) = line :: lines
  := by
  induction line with
  | nil => exact h
  | cons c line ih =>
    rw [List.cons_append, splitLines_cons (hline c List.mem_cons_self),
      ih fun d hd => hline d (List.mem_cons_of_mem c hd)]
    rfl

/-- A line with its end is cut off the text after it. -/
theorem splitLines_ended {line : List Char} (hline : IsUnbroken line) (ending : LineEnd)
    {rest : List Char} (h : rest.head? ≠ some '\n') :
  splitLines (line ++ ending.chars ++ rest) = line :: splitLines rest
  := by
  rw [List.append_assoc]
  exact splitLines_append hline (splitLines_end ending h)

/-- A line with its end is cut off whatever follows; a line feed after a carriage return is taken
for a part of the same end. -/
theorem exists_splitLines_ended {line : List Char} (hline : IsUnbroken line) (ending : LineEnd)
    (rest : List Char) :
  ∃ lines, splitLines (line ++ ending.chars ++ rest) = line :: lines ∧ lines ⊆ splitLines rest
  := by
  rw [List.append_assoc]
  cases ending with
  | lineFeed => exact ⟨_, splitLines_append hline rfl, List.Subset.refl _⟩
  | carriageReturnLineFeed => exact ⟨_, splitLines_append hline rfl, List.Subset.refl _⟩
  | carriageReturn =>
    by_cases h : rest.head? = some '\n'
    · obtain ⟨rest, rfl⟩ := List.head?_eq_some_iff.mp h
      exact ⟨splitLines rest, splitLines_append hline rfl, List.subset_cons_self _ _⟩
    · exact ⟨_, splitLines_append hline (splitLines_end .carriageReturn h), List.Subset.refl _⟩

/-- The last line of a text need not be ended. -/
theorem splitLines_unbroken {line : List Char} (h : IsUnbroken line) :
  splitLines line = if line.isEmpty then [] else [line]
  := by
  induction line with
  | nil => rfl
  | cons c line ih =>
    rw [splitLines_cons (h c List.mem_cons_self), ih fun d hd => h d (List.mem_cons_of_mem c hd)]
    cases line with
    | nil => rfl
    | cons d line => rfl

/-! ### Fields -/

/-- The fields with the separators between them are the text. -/
theorem intercalate_splitOnChar (sep : Char) (cs : List Char) :
  [sep].intercalate (splitOnChar sep cs) = cs
  := by
  induction cs with
  | nil => rfl
  | cons c cs ih =>
    rw [splitOnChar]
    cases hfields : splitOnChar sep cs with
    | nil =>
      rw [hfields, List.intercalate_nil] at ih
      rw [← ih] at hfields
      contradiction
    | cons first fields =>
      rw [hfields] at ih
      split
      case isTrue hsep =>
        rw [List.intercalate_cons_cons, ih, hsep]
        rfl
      case isFalse =>
        rw [extendFirst]
        cases fields with
        | nil => rw [← ih]; rfl
        | cons next fields =>
          rw [List.intercalate_cons_cons] at ih ⊢
          rw [← ih]
          rfl

/-- No field has the separator in it. -/
theorem not_mem_of_mem_splitOnChar {sep : Char} {field cs : List Char}
    (h : field ∈ splitOnChar sep cs) :
  sep ∉ field
  := by
  induction cs generalizing field with
  | nil =>
    rw [List.mem_singleton.mp h]
    exact List.not_mem_nil
  | cons c cs ih =>
    rw [splitOnChar] at h
    split at h
    case isTrue =>
      obtain rfl | h := List.mem_cons.mp h
      · exact List.not_mem_nil
      · exact ih h
    case isFalse hc =>
      have hcons {first : List Char} (hfirst : sep ∉ first) : sep ∉ c :: first := by
        rw [List.mem_cons, not_or]
        exact ⟨Ne.symm hc, hfirst⟩
      cases hfields : splitOnChar sep cs with
      | nil =>
        rw [hfields, extendFirst] at h
        rw [List.mem_singleton.mp h]
        exact hcons List.not_mem_nil
      | cons first fields =>
        rw [hfields] at ih
        rw [hfields, extendFirst] at h
        obtain rfl | h := List.mem_cons.mp h
        · exact hcons (ih List.mem_cons_self)
        · exact ih (List.mem_cons_of_mem first h)

/-- A text is cut at the first of the characters that it is cut at. -/
theorem span_of_not_mem {c : Char} {before : List Char} (h : c ∉ before) (after : List Char) :
  (before ++ c :: after).span (· != c) = (before, c :: after)
  := by
  have hpass : ∀ d ∈ before, (d != c) = true := by
    intro d hd
    rw [bne_iff_ne]
    rintro rfl
    exact h hd
  rw [List.span_eq_takeWhile_dropWhile, List.takeWhile_append_of_pos hpass,
    List.dropWhile_append_of_pos hpass, List.takeWhile_cons_of_neg (by simp),
    List.dropWhile_cons_of_neg (by simp), List.append_nil]

/-- The pieces of a text between the occurrences of a separator, which are looked for from the left
on and do not overlap. -/
def splitOnText (sep : List Char) : List Char → List (List Char)
  | [] => [[]]
  | c :: cs =>
    if sep.isPrefixOf (c :: cs) then [] :: splitOnText sep (cs.drop (sep.length - 1))
    else extendFirst c (splitOnText sep cs)
termination_by cs => cs.length
decreasing_by
  · simp only [List.length_drop, List.length_cons]
    omega
  · simp

theorem splitOnText_cons {c d : Char} (h : d ≠ c) (sep cs : List Char) :
  splitOnText (c :: sep) (d :: cs) = extendFirst d (splitOnText (c :: sep) cs)
  := by
  rw [splitOnText, if_neg]
  simp [Ne.symm h]

theorem splitOnText_separator (c : Char) (sep rest : List Char) :
  splitOnText (c :: sep) (c :: sep ++ rest) = [] :: splitOnText (c :: sep) rest
  := by
  have hprefix : (c :: sep).isPrefixOf (c :: (sep ++ rest)) = true := by
    simp
  rw [List.cons_append, splitOnText, if_pos hprefix, List.length_cons, Nat.add_sub_cancel,
    List.drop_left]

theorem splitOnText_of_not_mem {c : Char} {piece : List Char} (h : c ∉ piece) (sep : List Char) :
  splitOnText (c :: sep) piece = [piece]
  := by
  induction piece with
  | nil => rw [splitOnText]
  | cons d piece ih =>
    rw [List.mem_cons, not_or] at h
    rw [splitOnText_cons (Ne.symm h.1), ih h.2, extendFirst]

/-- A piece is cut off at the separator after it. -/
theorem splitOnText_append {c : Char} {piece : List Char} (h : c ∉ piece) (sep rest : List Char) :
  splitOnText (c :: sep) (piece ++ (c :: sep ++ rest)) = piece :: splitOnText (c :: sep) rest
  := by
  induction piece with
  | nil => exact splitOnText_separator c sep rest
  | cons d piece ih =>
    rw [List.mem_cons, not_or] at h
    rw [List.cons_append, splitOnText_cons (Ne.symm h.1), ih h.2, extendFirst]

/-- Pieces that are written with separators between them are cut apart there, if none of them has
the first character of the separator in it. -/
theorem splitOnText_intercalate {c : Char} {pieces : List (List Char)} (hne : pieces ≠ [])
    (h : ∀ piece ∈ pieces, c ∉ piece) (sep : List Char) :
  splitOnText (c :: sep) ((c :: sep).intercalate pieces) = pieces
  := by
  induction pieces with
  | nil => contradiction
  | cons piece pieces ih =>
    rw [List.forall_mem_cons] at h
    cases pieces with
    | nil => rw [List.intercalate_singleton, splitOnText_of_not_mem h.1]
    | cons next pieces =>
      rw [List.intercalate_cons_cons, List.append_assoc, splitOnText_append h.1,
        ih (List.cons_ne_nil _ _) h.2]

theorem splitOnChar_eq (sep : Char) (cs : List Char) :
  splitOnChar sep cs = splitOnText [sep] cs
  := by
  induction cs with
  | nil => rw [splitOnChar, splitOnText]
  | cons c cs ih =>
    by_cases h : c = sep
    · rw [splitOnChar, if_pos h, ih, h, ← splitOnText_separator, List.singleton_append]
    · rw [splitOnChar, if_neg h, ih, splitOnText_cons h]

/-- Fields that are written with separators between them are cut apart there. -/
theorem splitOnChar_intercalate {sep : Char} {fields : List (List Char)} (hne : fields ≠ [])
    (h : ∀ field ∈ fields, sep ∉ field) :
  splitOnChar sep ([sep].intercalate fields) = fields
  := by
  rw [splitOnChar_eq, splitOnText_intercalate hne h]

end DocTable.Text
