import DocTable.Proofs.Comment.Fences

/-!
# Lines after lines

The sections of some lines and of further lines after them are those of both: the free text with
which the further lines begin goes on in the section that is open before them
(`sectionsFrom_append`).  If a tag starts there, nothing goes on, and the tags are appended to those
before (`sections_append_tags`).
-/

namespace DocTable.Comment

variable {lines more : List (List Char)}

/-- A free text and the tags after it, with further sections after them: their free text goes to the
last of the tags, or to the free text if there is no tag. -/
def followedBy (text : List (List Char)) :
    List Chunk → List (List Char) × List Chunk → List (List Char) × List Chunk
  | [], further => (text ++ further.1, further.2)
  | chunk :: chunks, further =>
    let (body, rest) := followedBy chunk.lines chunks further
    (text, ⟨chunk.name, body⟩ :: rest)

theorem followedBy_cons (line : List Char) (text : List (List Char)) (chunks : List Chunk)
    (further : List (List Char) × List Chunk) :
  followedBy (line :: text) chunks further
    = (line :: (followedBy text chunks further).1, (followedBy text chunks further).2)
  := by
  cases chunks with
  | nil => rfl
  | cons chunk chunks => rfl

/-- Without a free text of their own, further sections change none of those before them. -/
theorem followedBy_nil (text : List (List Char)) (chunks further : List Chunk) :
  followedBy text chunks ([], further) = (text, chunks ++ further)
  := by
  induction chunks generalizing text with
  | nil => rw [followedBy, List.append_nil, List.nil_append]
  | cons chunk chunks ih => rw [followedBy, ih, List.cons_append]

/-- The switch between text and code is all that the sections of further lines depend on. -/
theorem sectionsFrom_append (code : Bool) (lines more : List (List Char)) :
  sectionsFrom code (lines ++ more)
    = followedBy (sectionsFrom code lines).1 (sectionsFrom code lines).2
        (sectionsFrom (codeAfter code lines) more)
  := by
  induction lines generalizing code with
  | nil => rfl
  | cons line lines ih =>
    have hcode : codeAfter code (line :: lines) = codeAfter (code != isFence line) lines := rfl
    rw [List.cons_append, sectionsFrom_cons, sectionsFrom_cons, ih, hcode]
    split
    case h_1 => rw [followedBy, followedBy_cons]
    case h_2 => rw [followedBy_cons]

/-- There is no free text before a tag at the first line. -/
theorem sections_of_head? (h : ∀ line ∈ lines.head?, StartsTag line) :
  sections lines = ([], (sections lines).2)
  := by
  cases lines with
  | nil => rfl
  | cons line lines =>
    have hstarts : StartsTag line := h line rfl
    rw [sections, sectionsFrom_cons]
    split
    case h_1 => rfl
    case h_2 hnone => exact absurd ⟨hstarts, rfl⟩ (startedTag?_eq_none_iff.mp hnone)

/-- Lines that begin with a tag, written after lines that leave no code open, change neither the
free text nor the tags of these: their own tags come after them. -/
theorem sections_append_tags (hfences : Even (lines.countP isFence))
    (hmore : ∀ line ∈ more.head?, StartsTag line) :
  sections (lines ++ more) = ((sections lines).1, (sections lines).2 ++ (sections more).2)
  := by
  have hcode : codeAfter false lines = false := codeAfter_eq_false_iff.mpr hfences
  have htags : sectionsFrom false more = ([], (sections more).2) := sections_of_head? hmore
  rw [sections, sectionsFrom_append, hcode, htags, followedBy_nil]
  rfl

/-- A summary, and a tag with an at sign in fenced code. -/
def linesWithCode : List (List Char) :=
  ["Reads.", "@see x", "\x60\x60\x60", "@a", "\x60\x60\x60"].map String.toList

/-- Two tags, the latter with code that is left open. -/
def linesOfTags : List (List Char) :=
  ["  @return int", "@b", "~~~", "@c"].map String.toList

theorem sections_append_tags_withCode :
  Even (linesWithCode.countP isFence) ∧ (∀ line ∈ linesOfTags.head?, StartsTag line)
    ∧ sections (linesWithCode ++ linesOfTags)
      = ((sections linesWithCode).1, (sections linesWithCode).2 ++ (sections linesOfTags).2)
    ∧ (sections (linesWithCode ++ linesOfTags)).2.map (·.name)
      = ["see", "return", "b"].map String.toList
  := by
  have hfences : Even (linesWithCode.countP isFence) := by decide
  have hmore : ∀ line ∈ linesOfTags.head?, StartsTag line := by decide
  exact ⟨hfences, hmore, sections_append_tags hfences hmore, by decide⟩

end DocTable.Comment
