import DocTable.Proofs.Comment.Sections
import Mathlib.Algebra.Group.Nat.Even
import Mathlib.Data.List.Forall2

/-!
# Fenced code

A fence is opened by a line that begins with backticks or tildes and is closed by the next line that
begins with the same marker.  The lines between are code (`IsInCode`), and a tag should start at a
line that looks like one exactly when the line is no code (`TagsStartOutsideCode`).

The sections of a comment have one switch for both markers, so a tag starts where the number of
fence lines before is even.  `tagStarts_fences` says that this agrees with the open fences as long
as no fence line of one marker stands inside a fence of the other, and fails after the first that
does.
-/

namespace DocTable.Comment

open Text

variable {line : List Char} {lines before after : List (List Char)} {i : Nat}

/-! ### Fences -/

/-- The markers that fences are made of. -/
inductive FenceMark where
  | backticks
  | tildes
  deriving DecidableEq, Repr

/-- What a fence begins with. -/
def FenceMark.chars : FenceMark → List Char
  | backticks => ['\x60', '\x60', '\x60']
  | tildes => ['~', '~', '~']

/-- The marker that a line begins with after its blanks. -/
def fenceMark? (line : List Char) : Option FenceMark :=
  [FenceMark.backticks, .tildes].find? (·.chars.isPrefixOf (trimLeft line))

/-- The fence that is open after a line.  It is opened by a line that begins with its marker, and
closed by the next line that begins with the same marker. -/
def fenceAfter (opened : Option FenceMark) (line : List Char) : Option FenceMark :=
  match opened with
  | none => fenceMark? line
  | some mark => if fenceMark? line = some mark then none else some mark

/-- The fence that is open after some lines. -/
def openFence (lines : List (List Char)) : Option FenceMark :=
  lines.foldl fenceAfter none

/-- The line at a place stands inside an open fence, and does not close it. -/
def IsInCode (lines : List (List Char)) (i : Nat) : Prop :=
  ∃ line ∈ lines[i]?, ∃ mark ∈ openFence (lines.take i), fenceMark? line ≠ some mark

/-- A fence line of the other marker stands inside an open fence. -/
def MixesFences (lines : List (List Char)) : Prop :=
  ∃ i, IsInCode lines i ∧ ∃ line ∈ lines[i]?, isFence line = true

theorem lt_length_of_mem_getElem? (h : line ∈ lines[i]?) :
  i < lines.length
  := (List.getElem?_eq_some_iff.mp h).1

theorem IsInCode.lt_length (h : IsInCode lines i) :
  i < lines.length
  := by
  obtain ⟨line, hline, -⟩ := h
  apply lt_length_of_mem_getElem? hline

instance : Decidable (IsInCode lines i) :=
  inferInstanceAs (Decidable (∃ line ∈ lines[i]?, ∃ mark ∈ openFence (lines.take i), _))

instance : Decidable (MixesFences lines) :=
  decidable_of_iff (∃ i < lines.length, IsInCode lines i ∧ ∃ line ∈ lines[i]?, isFence line = true)
    ⟨fun ⟨i, _, h⟩ => ⟨i, h⟩, fun ⟨i, h⟩ => ⟨i, h.1.lt_length, h⟩⟩

theorem isFence_eq_isSome (line : List Char) :
  isFence line = (fenceMark? line).isSome
  := by
  rw [Bool.eq_iff_iff, ← not_iff_not, Bool.not_eq_true, isFence_eq_false_iff, StartsFence,
    Bool.not_eq_true, Option.isSome_eq_false_iff, Option.isNone_iff_eq_none, fenceMark?]
  simp [FenceMark.chars]

theorem StartsTag.fenceMark?_ne (h : StartsTag line) (mark : FenceMark) :
  fenceMark? line ≠ some mark
  := by
  intro hmark
  have hfence := h.isFence_eq_false
  rw [isFence_eq_isSome, hmark] at hfence
  contradiction

/-! ### Fences and the switch -/

/-- The switch between text and code after some lines. -/
def codeAfter (code : Bool) (lines : List (List Char)) : Bool :=
  lines.foldl (fun code line => code != isFence line) code

theorem codeAfter_concat (code : Bool) (lines : List (List Char)) (line : List Char) :
  codeAfter code (lines ++ [line]) = (codeAfter code lines != isFence line)
  := List.foldl_concat ..

theorem openFence_concat (lines : List (List Char)) (line : List Char) :
  openFence (lines ++ [line]) = fenceAfter (openFence lines) line
  := List.foldl_concat ..

theorem codeAfter_eq_false_iff :
  codeAfter false lines = false ↔ Even (lines.countP isFence)
  := by
  induction lines using List.reverseRecOn with
  | nil => simp [codeAfter]
  | append_singleton lines line ih =>
    rw [codeAfter_concat, List.countP_append, List.countP_singleton]
    cases isFence line with
    | false => simpa using ih
    | true => simp [Nat.even_add_one, ← ih]

/-- The switch follows the open fence over a line that has no other marker. -/
theorem isSome_fenceAfter {opened : Option FenceMark}
    (h : ∀ mark ∈ opened, fenceMark? line ≠ some mark → isFence line = false) :
  (fenceAfter opened line).isSome = (opened.isSome != isFence line)
  := by
  cases opened with
  | none => rw [fenceAfter, isFence_eq_isSome, Option.isSome_none, Bool.false_bne]
  | some mark =>
    rw [fenceAfter]
    split
    case isTrue hclosed =>
      rw [isFence_eq_isSome, hclosed]
      rfl
    case isFalse hother =>
      rw [h mark rfl hother]
      rfl

/-! ### Places before the end -/

theorem isInCode_append (h : i < before.length) (after : List (List Char)) :
  IsInCode (before ++ after) i ↔ IsInCode before i
  := by
  rw [IsInCode, IsInCode, List.getElem?_append_left h, List.take_append_of_le_length h.le]

theorem isInCode_concat_length :
  IsInCode (before ++ [line]) before.length
    ↔ ∃ mark ∈ openFence before, fenceMark? line ≠ some mark
  := by
  simp [IsInCode]

theorem MixesFences.append (h : MixesFences before) (after : List (List Char)) :
  MixesFences (before ++ after)
  := by
  obtain ⟨i, hcode, hline⟩ := h
  have hi := hcode.lt_length
  use i, (isInCode_append hi after).mpr hcode
  rwa [List.getElem?_append_left hi]

theorem not_mixesFences_take (h : ¬ MixesFences lines) (i : Nat) :
  ¬ MixesFences (lines.take i)
  := by
  intro hmixed
  apply h
  rw [← List.take_append_drop i lines]
  apply hmixed.append

theorem mixesFences_concat_iff :
  MixesFences (before ++ [line])
    ↔ MixesFences before
      ∨ (∃ mark ∈ openFence before, fenceMark? line ≠ some mark) ∧ isFence line = true
  := by
  rw [← isInCode_concat_length]
  constructor
  · rintro ⟨i, hcode, hline⟩
    have hi := hcode.lt_length
    rw [List.length_append, List.length_singleton, Nat.lt_succ_iff_lt_or_eq] at hi
    obtain hi | rfl := hi
    · rw [List.getElem?_append_left hi] at hline
      exact .inl ⟨i, (isInCode_append hi _).mp hcode, hline⟩
    · exact .inr ⟨hcode, by simpa using hline⟩
  · rintro (hmixed | ⟨hcode, hfence⟩)
    · apply hmixed.append
    · exact ⟨before.length, hcode, by simpa using hfence⟩

/-- As long as the markers are not mixed, the switch says whether a fence is open. -/
theorem codeAfter_eq_isSome (h : ¬ MixesFences lines) :
  codeAfter false lines = (openFence lines).isSome
  := by
  induction lines using List.reverseRecOn with
  | nil => rfl
  | append_singleton lines line ih =>
    rw [mixesFences_concat_iff, not_or] at h
    rw [codeAfter_concat, openFence_concat, isSome_fenceAfter, ih h.1]
    intro mark hmark hother
    apply eq_false_of_ne_true fun hfence => h.2 ⟨⟨mark, hmark, hother⟩, hfence⟩

/-! ### The places of tags -/

/-- The places at which tags start, if they stand one after the other from a place on. -/
def startsFrom (place : Nat) : List Chunk → List Nat
  | [] => []
  | chunk :: chunks => place :: startsFrom (place + chunk.lines.length) chunks

/-- The places of the lines at which the tags start. -/
def tagStartsFrom (code : Bool) (lines : List (List Char)) : List Nat :=
  startsFrom (sectionsFrom code lines).1.length (sectionsFrom code lines).2

/-- The places of the lines at which the tags of a comment start. -/
def tagStarts (lines : List (List Char)) : List Nat :=
  tagStartsFrom false lines

/-- A tag has the name at the line at a place, the rest of this line, and lines that follow it. -/
def Chunk.StandsAt (lines : List (List Char)) (place : Nat) (chunk : Chunk) : Prop :=
  ∃ line rest body after, lines.drop place = line :: body ++ after
    ∧ tagLine? line = some (chunk.name, rest) ∧ chunk.lines = rest :: body

theorem startsFrom_succ (place : Nat) (chunks : List Chunk) :
  startsFrom (place + 1) chunks = (startsFrom place chunks).map (· + 1)
  := by
  induction chunks generalizing place with
  | nil => rfl
  | cons chunk chunks ih =>
    rw [startsFrom, startsFrom, List.map_cons, Nat.add_right_comm, ih]

/-- A line that starts a tag outside of code is the first place, and all others come after it. -/
theorem tagStartsFrom_cons (code : Bool) (line : List Char) (lines : List (List Char)) :
  tagStartsFrom code (line :: lines)
    = (if StartsTag line ∧ code = false then [0] else [])
      ++ (tagStartsFrom (code != isFence line) lines).map (· + 1)
  := by
  rw [tagStartsFrom, tagStartsFrom, ← startsFrom_succ, sectionsFrom_cons]
  split
  case h_1 name rest h =>
    obtain ⟨hcode, htag⟩ := startedTag?_eq_some_iff.mp h
    rw [if_pos ⟨startsTag_of_tagLine? htag, hcode⟩, startsFrom, List.length_nil, Nat.zero_add]
    rfl
  case h_2 h =>
    rw [if_neg (startedTag?_eq_none_iff.mp h)]
    rfl

/-- The free text is where the lines begin, and each tag is at its place. -/
theorem forall₂_standsAt (code : Bool) (lines : List (List Char)) :
  (sectionsFrom code lines).1 <+: lines
    ∧ List.Forall₂ (Chunk.StandsAt lines) (tagStartsFrom code lines) (sectionsFrom code lines).2
  := by
  induction lines generalizing code with
  | nil => exact ⟨List.nil_prefix, .nil⟩
  | cons line lines ih =>
    obtain ⟨⟨after, hafter⟩, hchunks⟩ := ih (code != isFence line)
    have hmoved : List.Forall₂ (Chunk.StandsAt (line :: lines))
        ((tagStartsFrom (code != isFence line) lines).map (· + 1))
        (sectionsFrom (code != isFence line) lines).2 :=
      List.forall₂_map_left_iff.mpr hchunks
    rw [tagStartsFrom_cons, sectionsFrom_cons]
    split
    case h_1 name rest h =>
      obtain ⟨hcode, htag⟩ := startedTag?_eq_some_iff.mp h
      rw [if_pos ⟨startsTag_of_tagLine? htag, hcode⟩]
      refine ⟨List.nil_prefix, .cons ⟨line, rest, _, after, ?_, htag, rfl⟩ hmoved⟩
      rw [List.cons_append, hafter]
      rfl
    case h_2 h =>
      rw [if_neg (startedTag?_eq_none_iff.mp h)]
      exact ⟨⟨after, congrArg (line :: ·) hafter⟩, hmoved⟩

/-- A tag starts at each line that looks like one before which the switch says text. -/
theorem mem_tagStartsFrom_iff (code : Bool) :
  i ∈ tagStartsFrom code lines
    ↔ ∃ line ∈ lines[i]?, StartsTag line ∧ codeAfter code (lines.take i) = false
  := by
  induction lines generalizing code i with
  | nil => simp [tagStartsFrom, sectionsFrom, startsFrom]
  | cons line lines ih =>
    rw [tagStartsFrom_cons, List.mem_append]
    cases i with
    | zero => simp [codeAfter]
    | succ i => simpa [codeAfter] using ih (code != isFence line)

theorem mem_tagStarts_iff :
  i ∈ tagStarts lines
    ↔ ∃ line ∈ lines[i]?, StartsTag line ∧ codeAfter false (lines.take i) = false
  := mem_tagStartsFrom_iff false

/-! ### Tags outside of code -/

/-- No tag starts in code, and a tag starts at each line outside of code that looks like one. -/
structure TagsStartOutsideCode (lines : List (List Char)) : Prop where
  code : ∀ i, IsInCode lines i → i ∉ tagStarts lines
  text : ∀ i, ¬ IsInCode lines i → ∀ line ∈ lines[i]?, StartsTag line → i ∈ tagStarts lines

theorem tagsStartOutsideCode_of_not_mixesFences (h : ¬ MixesFences lines) :
  TagsStartOutsideCode lines
  where
  code i := by
    rintro ⟨line, hline, mark, hmark, -⟩ hstart
    obtain ⟨-, -, -, hswitch⟩ := mem_tagStarts_iff.mp hstart
    rw [codeAfter_eq_isSome (not_mixesFences_take h i), hmark] at hswitch
    contradiction
  text i hcode line hline hstarts := by
    refine mem_tagStarts_iff.mpr ⟨line, hline, hstarts, ?_⟩
    rw [codeAfter_eq_isSome (not_mixesFences_take h i), Option.isSome_eq_false_iff,
      Option.isNone_iff_eq_none, Option.eq_none_iff_forall_ne_some]
    intro mark hmark
    apply hcode ⟨line, hline, mark, hmark, hstarts.fenceMark?_ne mark⟩

/-- After a fence line of the other marker in code, a tag starts though the fence is still open. -/
theorem exists_not_tagsStartOutsideCode (h : MixesFences lines) :
  ∃ before, before <+: lines
    ∧ ∀ line, StartsTag line → ¬ TagsStartOutsideCode (before ++ [line])
  := by
  induction lines using List.reverseRecOn with
  | nil =>
    obtain ⟨i, hcode, -⟩ := h
    exact absurd hcode.lt_length (Nat.not_lt_zero i)
  | append_singleton lines last ih =>
    by_cases hmixed : MixesFences lines
    · obtain ⟨before, hprefix, hbefore⟩ := ih hmixed
      exact ⟨before, hprefix.trans (List.prefix_append ..), hbefore⟩
    · -- The last line is the first to mix the markers: it turns the switch, not the fence.
      obtain ⟨⟨mark, hmark, hother⟩, hfence⟩ := (mixesFences_concat_iff.mp h).resolve_left hmixed
      have hswitch : codeAfter false (lines ++ [last]) = false := by
        rw [codeAfter_concat, codeAfter_eq_isSome hmixed, hmark, hfence]
        rfl
      have hopen : mark ∈ openFence (lines ++ [last]) := by
        rw [openFence_concat, hmark, fenceAfter, if_neg hother]
        rfl
      refine ⟨lines ++ [last], List.prefix_refl _, fun line hstarts houtside => ?_⟩
      apply houtside.code (lines ++ [last]).length
      · apply isInCode_concat_length.mpr ⟨mark, hopen, hstarts.fenceMark?_ne mark⟩
      · rw [mem_tagStarts_iff]
        refine ⟨line, List.getElem?_concat_length, hstarts, ?_⟩
        rw [List.take_left]
        exact hswitch

/-- The tags of a comment stand at the places where they start: at each line that looks like one
with an even number of fence lines before.  These are the lines outside of code, unless the markers
of fences are mixed; then a tag can start in code. -/
theorem tagStarts_fences (lines : List (List Char)) :
  (sections lines).1 <+: lines
    ∧ List.Forall₂ (Chunk.StandsAt lines) (tagStarts lines) (sections lines).2
    ∧ (∀ i, i ∈ tagStarts lines
      ↔ ∃ line ∈ lines[i]?, StartsTag line ∧ Even ((lines.take i).countP isFence))
    ∧ (¬ MixesFences lines → TagsStartOutsideCode lines)
    ∧ (MixesFences lines → ∃ before, before <+: lines
      ∧ ∀ line, StartsTag line → ¬ TagsStartOutsideCode (before ++ [line]))
  := by
  obtain ⟨htext, htags⟩ := forall₂_standsAt false lines
  refine ⟨htext, htags, fun i => ?_, tagsStartOutsideCode_of_not_mixesFences,
    exists_not_tagsStartOutsideCode⟩
  rw [mem_tagStarts_iff]
  simp only [codeAfter_eq_false_iff]

/-- Tags in a fence of each marker, and a tag after them. -/
def fencedTags : List (List Char) :=
  ["\x60\x60\x60", " @a", "\x60\x60\x60lean", "~~~", "@b", "\t~~~~", "@c x", "y"].map String.toList

theorem tagStarts_fencedTags :
  ¬ MixesFences fencedTags ∧ TagsStartOutsideCode fencedTags ∧ tagStarts fencedTags = [6]
  := by
  have hmixes : ¬ MixesFences fencedTags := by decide
  exact ⟨hmixes, (tagStarts_fences fencedTags).2.2.2.1 hmixes, by decide⟩

/-- A comment with tildes and a tag in a fence of backticks. -/
def mixedComment : String :=
  "/**\n * Summary\n *\n * \x60\x60\x60\n * ~~~\n * @see x\n * \x60\x60\x60\n */"

theorem not_tagsStartOutsideCode_mixedComment :
  ¬ TagsStartOutsideCode (contentLines mixedComment.toList)
  := by
  intro h
  apply h.code 4 (by decide) (by decide)

end DocTable.Comment
