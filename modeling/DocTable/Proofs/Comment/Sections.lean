import DocTable.Comment.Parse
import DocTable.Proofs.Text.Lines
import Mathlib.Data.List.Forall2

/-!
# Laws of sections

`sectionsFrom_cons` says what a line does to the sections of the lines after it.  A plain line,
which neither starts a tag nor is a fence, stays in its section, and empty lines after the last line
change nothing that is read from the sections (`ofLines_append_replicate`).
-/

namespace DocTable

open Text

namespace Comment

/-! ### Names -/

/-- Letters of tags have codes below 128. -/
theorem isAsciiLetter_lt {c : Char} (h : isAsciiLetter c = true) :
  c.toNat < 128
  := by
  simp only [isAsciiLetter, Bool.or_eq_true, Bool.and_eq_true, decide_eq_true_eq, Char.le_def,
    UInt32.le_iff_toNat_le] at h
  have hletters : 'z'.val.toNat < 128 ∧ 'Z'.val.toNat < 128 := by decide
  have hval : c.toNat = c.val.toNat := rfl
  omega

/-- What may begin the name of a tag may stand in it. -/
theorem isTagChar_of_isTagStart {c : Char} (h : isTagStart c = true) :
  isTagChar c = true
  := by
  rw [isTagStart, Bool.or_eq_true, Bool.or_eq_true, beq_iff_eq, beq_iff_eq] at h
  obtain (hletter | rfl) | rfl := h
  · rw [isTagChar, isWord, if_pos (isAsciiLetter_lt hletter), hletter]
    rfl
  · decide
  · decide

/-- A name has no blank in it. -/
theorem isBlank_of_isTagChar {c : Char} (h : isTagChar c = true) :
  isBlank c = false
  := isBlank_eq_false_of (by decide +kernel) h

/-- No character of the name of a tag ends a line. -/
theorem isLineBreak_of_isTagChar {c : Char} (h : isTagChar c = true) :
  isLineBreak c = false
  := by
  by_contra hbreak
  have hblank := isBlank_of_isLineBreak (eq_true_of_ne_false hbreak)
  rw [isBlank_of_isTagChar h] at hblank
  contradiction

/-! ### Tag lines and fences -/

/-- A tag starts at a line: after its blanks there are an at sign and the start of a name. -/
def StartsTag (line : List Char) : Prop :=
  ∃ c rest, trimLeft line = '@' :: c :: rest ∧ isTagStart c = true

/-- A line starts with a fence of backticks or tildes. -/
def StartsFence (line : List Char) : Prop :=
  ['\x60', '\x60', '\x60'] <+: line ∨ ['~', '~', '~'] <+: line

/-- What a tag line begins with is an at sign, the name of the tag and the rest of the line. -/
theorem trimLeft_of_tagLine? {line name rest : List Char} (h : tagLine? line = some (name, rest)) :
  trimLeft line = '@' :: name ++ rest
  := by
  rw [tagLine?] at h
  split at h
  case h_1 c cs hline =>
    split at h
    case isTrue =>
      obtain ⟨rfl, rfl⟩ := Prod.mk.inj (Option.some.inj h)
      rw [hline, List.cons_append, List.cons_append, List.takeWhile_append_dropWhile]
    case isFalse => contradiction
  case h_2 => contradiction

/-- A line gives no tag if and only if it starts none. -/
theorem tagLine?_eq_none_iff {line : List Char} :
  tagLine? line = none ↔ ¬ StartsTag line
  := by
  rw [tagLine?]
  constructor
  · rintro h ⟨c, rest, hline, hc⟩
    rw [hline] at h
    simp [hc] at h
  · intro h
    split
    case h_1 c rest hline =>
      rw [if_neg]
      intro hc
      apply h ⟨c, rest, hline, hc⟩
    case h_2 => rfl

instance : DecidablePred StartsTag := fun line =>
  decidable_of_iff (tagLine? line ≠ none) (by rw [ne_eq, tagLine?_eq_none_iff, not_not])

instance : DecidablePred StartsFence := fun _ => inferInstanceAs (Decidable (_ ∨ _))

/-- A line is no fence if and only if it starts with none of the two marks. -/
theorem isFence_eq_false_iff {line : List Char} :
  isFence line = false ↔ ¬ StartsFence (trimLeft line)
  := by
  rw [isFence, StartsFence]
  split
  case h_1 hline => simp [hline]
  case h_2 hline => simp [hline]
  case h_3 hbackticks htildes =>
    simp only [true_iff]
    rintro (⟨rest, hrest⟩ | ⟨rest, hrest⟩)
    · apply hbackticks rest hrest.symm
    · apply htildes rest hrest.symm

/-- A line at which a tag starts is no fence. -/
theorem StartsTag.isFence_eq_false {line : List Char} (h : StartsTag line) :
  isFence line = false
  := by
  obtain ⟨c, rest, hline, -⟩ := h
  rw [isFence, hline]
  rfl

/-- A line that gives a tag starts it. -/
theorem startsTag_of_tagLine? {line : List Char} {tag : List Char × List Char}
    (h : tagLine? line = some tag) :
  StartsTag line
  := by
  by_contra hline
  rw [tagLine?_eq_none_iff.mpr hline] at h
  contradiction

/-- Being no fence is no further condition on a line that starts a tag. -/
theorem startedTag?_eq_some_iff {code : Bool} {line : List Char} {tag : List Char × List Char} :
  (if isFence line || code then none else tagLine? line) = some tag
    ↔ code = false ∧ tagLine? line = some tag
  := by
  constructor
  · intro h
    split at h
    case isTrue => contradiction
    case isFalse hline => exact ⟨(Bool.or_eq_false_iff.mp (eq_false_of_ne_true hline)).2, h⟩
  · rintro ⟨rfl, htag⟩
    rw [(startsTag_of_tagLine? htag).isFence_eq_false]
    exact htag

/-- In code no line gives a tag, and neither does a fence. -/
theorem startedTag?_eq_none_iff {code : Bool} {line : List Char} :
  (if isFence line || code then none else tagLine? line) = none ↔ ¬ (StartsTag line ∧ code = false)
  := by
  constructor
  · rintro h ⟨hstarts, rfl⟩
    rw [hstarts.isFence_eq_false] at h
    exact tagLine?_eq_none_iff.mp h hstarts
  · rw [Option.eq_none_iff_forall_ne_some]
    intro h tag hstarted
    obtain ⟨hcode, htag⟩ := startedTag?_eq_some_iff.mp hstarted
    exact h ⟨startsTag_of_tagLine? htag, hcode⟩

/-! ### One line -/

/-- A line starts a tag, which takes the free text after it, or goes to the free text. -/
theorem sectionsFrom_cons (code : Bool) (line : List Char) (lines : List (List Char)) :
  sectionsFrom code (line :: lines)
    = match if isFence line || code then none else tagLine? line with
      | some (name, rest) =>
        ([], ⟨name, rest :: (sectionsFrom (code != isFence line) lines).1⟩
          :: (sectionsFrom (code != isFence line) lines).2)
      | none =>
        (line :: (sectionsFrom (code != isFence line) lines).1,
          (sectionsFrom (code != isFence line) lines).2)
  := rfl

/-- A line that goes to the section that is open: no tag starts there, and it is no fence. -/
structure IsPlain (line : List Char) : Prop where
  fence : isFence line = false
  tag : tagLine? line = none

/-- The empty line is plain. -/
theorem isPlain_nil :
  IsPlain []
  where
  fence := rfl
  tag := rfl

/-- A plain line goes on with what stands before it. -/
theorem sectionsFrom_cons_of_isPlain (code : Bool) {line : List Char} (h : IsPlain line)
    (lines : List (List Char)) :
  sectionsFrom code (line :: lines)
    = (line :: (sectionsFrom code lines).1, (sectionsFrom code lines).2)
  := by
  rw [sectionsFrom_cons, h.fence, h.tag, Bool.bne_false]
  split
  case h_1 hline => split at hline <;> contradiction
  case h_2 => rfl

/-- So do plain lines in a row. -/
theorem sectionsFrom_append_of_isPlain (code : Bool) {xs : List (List Char)}
    (h : ∀ line ∈ xs, IsPlain line) (ys : List (List Char)) :
  sectionsFrom code (xs ++ ys) = (xs ++ (sectionsFrom code ys).1, (sectionsFrom code ys).2)
  := by
  induction xs with
  | nil => rfl
  | cons line xs ih =>
    rw [List.cons_append, sectionsFrom_cons_of_isPlain code (h line List.mem_cons_self),
      ih fun next hnext => h next (List.mem_cons_of_mem line hnext), List.cons_append]

/-- A tag takes the plain lines after it. -/
theorem sectionsFrom_cons_of_tagLine? {line name rest : List Char}
    (htag : tagLine? line = some (name, rest)) (lines : List (List Char)) :
  sectionsFrom false (line :: lines)
    = ([], ⟨name, rest :: (sectionsFrom false lines).1⟩ :: (sectionsFrom false lines).2)
  := by
  rw [sectionsFrom_cons, (startsTag_of_tagLine? htag).isFence_eq_false, htag]
  rfl

/-! ### Empty lines at the end -/

/-- There are more lines, all of them empty. -/
def IsPadded (lines padded : List (List Char)) : Prop :=
  ∃ n, padded = lines ++ List.replicate n []

/-- Lines may be padded further on. -/
theorem IsPadded.cons {lines padded : List (List Char)} (h : IsPadded lines padded)
    (line : List Char) :
  IsPadded (line :: lines) (line :: padded)
  := by
  obtain ⟨n, rfl⟩ := h
  use n
  rfl

/-- The empty lines after the last line go to the section that is open there. -/
theorem isPadded_sectionsFrom (code : Bool) (lines : List (List Char)) (n : Nat) :
  IsPadded (sectionsFrom code lines).1 (sectionsFrom code (lines ++ List.replicate n [])).1
    ∧ List.Forall₂ (fun chunk padded => padded.name = chunk.name
        ∧ IsPadded chunk.lines padded.lines)
      (sectionsFrom code lines).2 (sectionsFrom code (lines ++ List.replicate n [])).2
  := by
  induction lines generalizing code with
  | nil =>
    have hplain : ∀ line ∈ List.replicate n [], IsPlain line := by
      intro line hline
      rw [List.eq_of_mem_replicate hline]
      apply isPlain_nil
    have hpadding := sectionsFrom_append_of_isPlain code hplain []
    rw [List.append_nil] at hpadding
    rw [List.nil_append, hpadding]
    exact ⟨⟨n, List.append_nil _⟩, .nil⟩
  | cons line lines ih =>
    obtain ⟨htext, hchunks⟩ := ih (code != isFence line)
    rw [List.cons_append, sectionsFrom_cons, sectionsFrom_cons]
    split
    case h_1 name rest _ => exact ⟨⟨0, rfl⟩, .cons ⟨rfl, htext.cons rest⟩ hchunks⟩
    case h_2 => exact ⟨htext.cons line, hchunks⟩

/-- Empty lines at the ends do not matter for the summary. -/
theorem summaryLines_of_isPadded {text padded : List (List Char)} (h : IsPadded text padded) :
  summaryLines padded = summaryLines text
  := by
  obtain ⟨n, rfl⟩ := h
  have hpadding : (List.replicate n []).takeWhile (!allBlank ·) = [] := by
    rw [List.takeWhile_replicate, if_neg (by decide)]
  rw [summaryLines, summaryLines, List.takeWhile_append, hpadding, List.append_nil]
  split
  case isTrue hlength => rw [(List.takeWhile_prefix _).eq_of_length hlength]
  case isFalse => rfl

/-- Nor do they matter for the description. -/
theorem description_of_isPadded {text padded : List (List Char)} (h : IsPadded text padded) :
  description padded = description text
  := by
  obtain ⟨n, rfl⟩ := h
  have hpadding : (List.replicate n []).dropWhile (!allBlank ·) = List.replicate n [] := by
    rw [List.dropWhile_replicate, if_neg (by decide)]
  rw [description, description, List.dropWhile_append, hpadding]
  split
  case isTrue hempty =>
    rw [List.isEmpty_iff.mp hempty, ← List.nil_append (List.replicate n []),
      trim_joinLines_append_replicate]
  case isFalse => rw [trim_joinLines_append_replicate]

/-- Nor do they matter for the text of a tag. -/
theorem body_of_isPadded {chunk padded : Chunk} (h : IsPadded chunk.lines padded.lines) :
  padded.body = chunk.body
  := by
  obtain ⟨n, hlines⟩ := h
  rw [Chunk.body, hlines, trim_joinLines_append_replicate, Chunk.body]

end Comment

open Comment

/-- Empty lines after the last line do not matter. -/
theorem ofLines_append_replicate (lines : List (List Char)) (n : Nat) :
  DocBlock.ofLines (lines ++ List.replicate n []) = DocBlock.ofLines lines
  := by
  obtain ⟨htext, hchunks⟩ := isPadded_sectionsFrom false lines n
  have htags : Comment.tags (lines ++ List.replicate n []) = Comment.tags lines := by
    rw [Comment.tags, Comment.tags, ← List.forall₂_eq_eq_eq, List.forall₂_map_left_iff,
      List.forall₂_map_right_iff]
    apply hchunks.flip.imp
    rintro padded chunk ⟨hname, hlines⟩
    rw [hname, body_of_isPadded hlines]
  rw [DocBlock.ofLines, DocBlock.ofLines, htags]
  rw [sections, summaryLines_of_isPadded htext, description_of_isPadded htext, sections]

end DocTable
