import DocTable.Proofs.Link.Scheme
import DocTable.Proofs.Markup.Rendered

/-!
# Targets as a browser reads them

A target is judged by its text in the document, but a browser first puts characters in the place of
the character references in the attribute.  Up to the first ampersand in what is written for a
target, the two texts are the same (`Spelled.exists_append`), and so is the scheme if it ends there.
Hence, whatever library of converters is used, every target in the HTML of a comment has a safe
scheme, unless its first character reference could be part of a scheme
(`MarkdownLibrary.schemeOf_target`).
-/

namespace DocTable

open Text

/-! ### Reading references -/

/-- What the character reference stands for that starts at an ampersand, and the number of its
characters after the ampersand, which are followed by others in `cs`.  The function `expand` tells
what the body of a reference stands for. -/
def referenceAt? (expand : List Char → Option (List Char)) (cs : List Char) :
    Option (List Char × Nat) :=
  match cs.span (· != ';') with
  | (body, ';' :: _) => (expand body).map fun chars => (chars, body.length + 1)
  | _ => none

/-- The text with what its character references stand for in their places.  The number counts
characters that are passed over, since they belong to a reference. -/
def resolve (expand : List Char → Option (List Char)) : Nat → List Char → List Char
  | _, [] => []
  | passed + 1, _ :: cs => resolve expand passed cs
  | 0, c :: cs =>
    match if c = '&' then referenceAt? expand cs else none with
    | some (chars, length) => chars ++ resolve expand length cs
    | none => c :: resolve expand 0 cs

/-- The scheme of the value of an attribute, in lower case, with which a browser follows it:
references are resolved, and blanks and control characters are passed over. -/
def schemeOf (expand : List Char → Option (List Char)) (value : List Char) : List Char :=
  lowerChars (Link.splitScheme ((resolve expand 0 value).filter (' ' < ·))).1

variable {expand : List Char → Option (List Char)}

/-- Up to the first ampersand nothing is resolved. -/
theorem resolve_append {plain : List Char} (h : '&' ∉ plain) (cs : List Char) :
  resolve expand 0 (plain ++ cs) = plain ++ resolve expand 0 cs
  := by
  induction plain with
  | nil => rfl
  | cons c plain ih =>
    rw [List.mem_cons, not_or] at h
    rw [List.cons_append, resolve, if_neg (Ne.symm h.1), ih h.2, List.cons_append]

/-! ### Schemes -/

/-- The scheme that ends at a colon depends on nothing after it. -/
theorem splitScheme_append {url : List Char} (h : ':' ∈ url) (rest : List Char) :
  (Link.splitScheme (url ++ rest)).1 = (Link.splitScheme url).1
  := by
  obtain ⟨before, after, rfl, hbefore⟩ := List.eq_append_cons_of_mem h
  rw [List.append_assoc, List.cons_append, Link.splitScheme_of_colon hbefore,
    Link.splitScheme_of_colon hbefore]

/-- A character that is in no scheme and no colon. -/
def isOutsideScheme (c : Char) : Bool :=
  !Link.isSchemeChar c && c != ':'

/-- There is no scheme if a character that is in no scheme comes before the first colon. -/
theorem splitScheme_of_isOutsideScheme {plain : List Char} (h : ':' ∉ plain) {c : Char}
    (hc : isOutsideScheme c) (rest : List Char) :
  (Link.splitScheme (plain ++ c :: rest)).1 = []
  := by
  rw [isOutsideScheme, Bool.and_eq_true, Bool.not_eq_true', bne_iff_ne] at hc
  by_cases hcolon : ':' ∈ rest
  · obtain ⟨before, after, rfl, hbefore⟩ := List.eq_append_cons_of_mem hcolon
    have hnone : ':' ∉ plain ++ c :: before := by
      simp [h, hbefore, Ne.symm hc.2]
    have hsplit : plain ++ c :: (before ++ ':' :: after)
        = plain ++ c :: before ++ ':' :: after := by
      simp
    rw [hsplit, Link.splitScheme_of_colon hnone, if_neg]
    rw [Bool.and_eq_true]
    rintro ⟨-, hall⟩
    have hscheme := List.all_eq_true.mp hall c (by simp)
    rw [hc.1] at hscheme
    contradiction
  · apply Link.splitScheme_of_not_mem
    simp [h, hcolon, Ne.symm hc.2]

/-! ### What is written for a target -/

/-- Up to the first ampersand, what is written for a text is the text. -/
theorem Spelled.exists_append {marks : List (String × String)}
    (hmarks : ∀ mark ∈ marks, IsReferenceMark mark) {inValue : Bool} {cs written : List Char}
    (h : Spelled marks inValue cs written) :
  ∃ plain, '&' ∉ plain
    ∧ (written = plain ∧ cs = plain
      ∨ ∃ more judged, written = plain ++ '&' :: more ∧ cs = plain ++ judged)
  := by
  induction h with
  | nil => exact ⟨[], List.not_mem_nil, .inl ⟨rfl, rfl⟩⟩
  | @char c _ _ _ cs written _ ih =>
    by_cases hc : c = '&'
    · subst hc
      exact ⟨[], List.not_mem_nil, .inr ⟨written, _, rfl, rfl⟩⟩
    · obtain ⟨plain, hplain, hsame⟩ := ih
      have hcons : '&' ∉ c :: plain := by
        simp [hplain, Ne.symm hc]
      use c :: plain, hcons
      obtain ⟨rfl, rfl⟩ | ⟨more, judged, rfl, rfl⟩ := hsame
      · left
        exact ⟨rfl, rfl⟩
      · right
        exact ⟨more, judged, rfl, rfl⟩
  | escaped => exact ⟨[], List.not_mem_nil, .inr ⟨_, _, rfl, rfl⟩⟩
  | @mark mark hmark cs written =>
    obtain ⟨more, hmore⟩ := List.head?_eq_some_iff.mp (hmarks mark hmark).reference
    refine ⟨[], List.not_mem_nil, .inr ⟨more ++ written, _, ?_, rfl⟩⟩
    rw [hmore]
    rfl

/-! ### Safe targets -/

/-- The first character reference in a text has no part in a scheme: a colon comes before it, or it
stands for a character that is in no scheme, or for none. -/
def firstReferenceIsOutside (expand : List Char → Option (List Char)) (value : List Char) : Bool :=
  match value.span (· != '&') with
  | (plain, '&' :: rest) =>
    plain.contains ':' || match referenceAt? expand rest with
      | some (chars, _) => chars.head?.any fun c => ' ' < c && isOutsideScheme c
      | none => true
  | _ => true

/-- Where the first reference has no part in a scheme, it is resolved to characters that begin with
one that is in no scheme. -/
theorem resolve_of_firstReferenceIsOutside {plain written : List Char} (hplain : '&' ∉ plain)
    (hcolon : ':' ∉ plain) (h : firstReferenceIsOutside expand (plain ++ '&' :: written)) :
  ∃ c more, resolve expand 0 ('&' :: written) = c :: more ∧ ' ' < c ∧ isOutsideScheme c
  := by
  rw [firstReferenceIsOutside, span_of_not_mem hplain] at h
  simp only [List.contains_eq_mem, hcolon, decide_false, Bool.false_or] at h
  rw [resolve, if_pos rfl]
  cases href : referenceAt? expand written with
  | none => exact ⟨'&', resolve expand 0 written, rfl, by decide, by decide⟩
  | some found =>
    obtain ⟨chars, length⟩ := found
    rw [href] at h
    cases chars with
    | nil => contradiction
    | cons c chars =>
      simp only [List.head?_cons, Option.any_some, Bool.and_eq_true, decide_eq_true_eq] at h
      exact ⟨c, chars ++ resolve expand length written, rfl, h⟩

/-- Of what is written for a safe target, a browser finds a safe scheme or none, unless a character
reference takes part in the scheme. -/
theorem Spelled.schemeOf {marks : List (String × String)}
    (hmarks : ∀ mark ∈ marks, IsReferenceMark mark) {isHost : List Char → Bool} {target : String}
    (hsafe : Link.isSafeUrl isHost target) {value : List Char}
    (h : Spelled marks true target.toList value) (hfirst : firstReferenceIsOutside expand value) :
  schemeOf expand value ∈ Link.safeSchemes
  := by
  have hjudge : Link.safeSchemes.contains
      (lowerChars (Link.splitScheme (target.toList.filter (' ' < ·))).1) := by
    rw [Link.isSafeUrl, Link.isSafeTarget, Bool.and_eq_true] at hsafe
    exact hsafe.2
  rw [List.contains_iff_mem] at hjudge
  obtain ⟨plain, hplain, ⟨rfl, htarget⟩ | ⟨more, judged, rfl, htarget⟩⟩ := h.exists_append hmarks
  · have hresolve : resolve expand 0 value = value := by
      simpa [resolve] using resolve_append hplain []
    rwa [DocTable.schemeOf, hresolve, ← htarget]
  · rw [DocTable.schemeOf, resolve_append hplain, List.filter_append]
    rw [htarget, List.filter_append] at hjudge
    by_cases hcolon : ':' ∈ plain
    · have hkept : ':' ∈ plain.filter (' ' < ·) := List.mem_filter.mpr ⟨hcolon, rfl⟩
      rw [splitScheme_append hkept] at hjudge ⊢
      exact hjudge
    · -- the first reference comes before any colon
      obtain ⟨c, rest, hresolve, hblank, houtside⟩ :=
        resolve_of_firstReferenceIsOutside hplain hcolon hfirst
      have hnone : ':' ∉ plain.filter (' ' < ·) := fun hmem => hcolon (List.mem_filter.mp hmem).1
      rw [hresolve, List.filter_cons_of_pos (by simpa using hblank),
        splitScheme_of_isOutsideScheme hnone houtside]
      decide

/-! ### Tags with safe targets -/

/-- The value is written for a safe target, or it is left out. -/
def IsSafeValue (isHost : List Char → Bool) (value : String) : Prop :=
  value = "" ∨ ∃ marks target, (∀ mark ∈ marks, IsReferenceMark mark)
    ∧ Link.isSafeUrl isHost target ∧ Spelled marks true target.toList value.toList

/-- All tags of a text end in it, and all targets in them are safe. -/
def HasSafeTags (isHost : List Char → Bool) (html : List Char) : Prop :=
  ∃ tags, ShowsTags html tags ∧ ∀ tag ∈ tags, ∀ a ∈ tag.attributes,
    targetName? tag.name = some a.1 → IsSafeValue isHost a.2

section

variable {isHost : List Char → Bool}

/-- Without tags there are no targets. -/
theorem hasSafeTags_of_not_mem {html : List Char} (h : '<' ∉ html) :
  HasSafeTags isHost html
  := ⟨[], showsTags_of_not_mem h, nofun⟩

/-- The targets in texts in a row are those in each of them. -/
theorem HasSafeTags.append {html html' : List Char} (h : HasSafeTags isHost html)
    (h' : HasSafeTags isHost html') :
  HasSafeTags isHost (html ++ html')
  := by
  obtain ⟨tags, htags, hsafe⟩ := h
  obtain ⟨tags', htags', hsafe'⟩ := h'
  exact ⟨tags ++ tags', htags.append htags', List.forall_mem_append.mpr ⟨hsafe, hsafe'⟩⟩

/-- No letter of the name of an element ends the name in a tag. -/
theorem isNameChar_of_mem_elementNames {name : String} (hname : name ∈ closedNames ++ voidNames) :
  ∀ c ∈ name.toList, !isDelimiter c ∧ c ≠ ' '
  := by
  have hnames : ∀ name ∈ closedNames ++ voidNames,
      name.toList.all fun c => !isDelimiter c && c != ' ' := by
    decide
  intro c hc
  have hkept := List.all_eq_true.mp (hnames name hname) c hc
  rwa [Bool.and_eq_true, bne_iff_ne] at hkept

/-- A start tag is safe if the words after its name are attributes of which the target, if there is
one, is safe. -/
theorem hasSafeTags_startTag {name : String} (hname : name ∈ closedNames ++ voidNames)
    {words : List (List Char)}
    (hwords : ∀ word ∈ words, IsTagWord word
      ∧ (targetName? name = some (readAttribute word).1
        → IsSafeValue isHost (readAttribute word).2)) :
  HasSafeTags isHost ('<' :: (name.toList ++ words.flatMap (' ' :: ·)) ++ ['>'])
  := by
  refine ⟨_, showsTags_tag (isNameChar_of_mem_elementNames hname)
    fun word hword => (hwords word hword).1, ?_⟩
  rw [List.forall_mem_singleton]
  intro a ha htarget
  obtain ⟨word, hword, rfl⟩ := List.mem_map.mp ha
  rw [String.ofList_toList] at htarget
  exact (hwords word hword).2 htarget

/-- An end tag has no attributes. -/
theorem hasSafeTags_endTag {name : String} (hname : name ∈ closedNames ++ voidNames) :
  HasSafeTags isHost ('<' :: '/' :: name.toList ++ ['>'])
  := by
  have hslash : ∀ c ∈ '/' :: name.toList, !isDelimiter c ∧ c ≠ ' ' :=
    List.forall_mem_cons.mpr ⟨by decide, isNameChar_of_mem_elementNames hname⟩
  have hshows := showsTags_tag hslash (List.forall_mem_nil _)
  rw [List.flatMap_nil, List.append_nil] at hshows
  refine ⟨_, hshows, ?_⟩
  rw [List.forall_mem_singleton]
  exact nofun

/-- What is written for an element is its tags around those of its content. -/
theorem HasSafeTags.elementHtml {name : String} (hname : name ∈ closedNames ++ voidNames)
    {opening : List (List Char)}
    (hopening : ∀ written ∈ opening, ∃ word, written = ' ' :: word ∧ IsTagWord word
      ∧ (targetName? name = some (readAttribute word).1
        → IsSafeValue isHost (readAttribute word).2))
    {content : List Char} (hcontent : HasSafeTags isHost content) :
  HasSafeTags isHost (elementHtml name opening content)
  := by
  let words := opening.map List.tail
  have hwords : ∀ word ∈ words, IsTagWord word
      ∧ (targetName? name = some (readAttribute word).1
        → IsSafeValue isHost (readAttribute word).2) := by
    intro word hmem
    obtain ⟨written, hwritten, rfl⟩ := List.mem_map.mp hmem
    obtain ⟨word, rfl, hword⟩ := hopening written hwritten
    exact hword
  have hflatten : opening.flatten = words.flatMap (' ' :: ·) := by
    rw [List.flatMap_map, ← List.flatMap_id]
    apply List.flatMap_congr
    intro written hwritten
    obtain ⟨word, rfl, -⟩ := hopening written hwritten
    rfl
  have hend : HasSafeTags isHost
      (if name ∈ voidNames then [] else '<' :: '/' :: name.toList ++ ['>']) := by
    split
    · exact hasSafeTags_of_not_mem List.not_mem_nil
    · exact hasSafeTags_endTag hname
  have hwritten : DocTable.elementHtml name opening content
      = '<' :: (name.toList ++ words.flatMap (' ' :: ·)) ++ ['>'] ++ content
        ++ (if name ∈ voidNames then [] else '<' :: '/' :: name.toList ++ ['>']) := by
    simp [DocTable.elementHtml, hflatten]
  rw [hwritten]
  exact ((hasSafeTags_startTag hname hwords).append hcontent).append hend

/-- Blanks at the ends may be left out, since no tag begins or ends with one. -/
theorem HasSafeTags.trim {html : List Char} (h : HasSafeTags isHost html) :
  HasSafeTags isHost (Text.trim html)
  := by
  obtain ⟨before, after, htrim, hbefore, hafter⟩ := exists_trim html
  obtain ⟨tags, htags, hsafe⟩ := h
  rw [htrim] at htags
  refine ⟨tags, htags.of_append ?_ ⟨?_, ?_⟩, hsafe⟩
  · exact not_mem_of_allBlank hbefore (by decide)
  · exact not_mem_of_allBlank hafter (by decide)
  · exact not_mem_of_allBlank hafter (by decide)

/-! ### Targets that are written -/

/-- What is written for nodes without unsafe targets has safe targets only, if the pieces of HTML
have.  The induction is on the writing. -/
theorem Written.hasSafeTags {marks : List (String × String)}
    (hmarks : ∀ mark ∈ marks, IsReferenceMark mark) {isRaw : String → Prop}
    (hraw : ∀ html, isRaw html → HasSafeTags isHost html.toList) {nodes : List HtmlNode}
    {html : List Char} (h : Written marks nodes html)
    (hmade : HtmlNode.AllMade isRaw (IsSafeName isHost) nodes) :
  HasSafeTags isHost html
  := by
  induction h with
  | nil => exact hasSafeTags_of_not_mem List.not_mem_nil
  | text hs _ ih => exact (hasSafeTags_of_not_mem (hs.not_mem hmarks)).append (ih hmade.2)
  | raw _ ih => exact (hraw _ hmade.1).append (ih hmade.2)
  | element horder hopening _ _ ihcontent ih =>
    obtain ⟨⟨htag, hattributes, hcontent⟩, hrest⟩ := hmade
    refine (HasSafeTags.elementHtml htag (fun written hwritten => ?_) (ihcontent hcontent)).append
      (ih hrest)
    obtain ⟨a, ha, hattribute⟩ := exists_attribute_of_mem horder hopening hwritten
    obtain ⟨hname, hsafe⟩ := hattributes a ha
    obtain ⟨word, hword, hisWord, hread, hvalue⟩ := hattribute.exists_word hmarks hname
    refine ⟨word, hword, hisWord, fun htarget => hvalue.imp_right fun hspelled => ?_⟩
    rw [hread] at htarget
    rw [isSafeAttribute, htarget] at hsafe
    exact ⟨marks, a.2, hmarks, by simpa using hsafe, hspelled⟩

/-- The attributes of a block of code are no targets. -/
theorem isSafeName_of_isCodeAttribute {tag : String} {a : String × String}
    (h : isCodeAttribute a) :
  IsSafeName isHost tag a
  := by
  use mem_attributeNames_of_isCodeAttribute h
  have hne : targetName? tag ≠ some a.1 := by
    obtain h | h := h
    all_goals
      rw [h, targetName?]
      split_ifs
      all_goals decide
  simp [isSafeAttribute, hne]

/-- A block of code has no targets. -/
theorem IsCodeBlock.hasSafeTags {html : String} (h : IsCodeBlock html) :
  HasSafeTags isHost html.toList
  := by
  obtain ⟨attributes, inner, code, hattributes, hinner, hwritten⟩ := h
  have hnone : ∀ mark ∈ ([] : List (String × String)), IsReferenceMark mark := nofun
  have hmade := allMade_codeBlock hattributes hinner code
  apply hwritten.hasSafeTags hnone fun _ => False.elim
  exact hmade.imp fun _ _ => isSafeName_of_isCodeAttribute

end

/-! ### Addresses of mail -/

/-- The body of the character reference to a character by its number. -/
def decimalReference (c : Char) : List Char :=
  '#' :: Nat.toDigits 10 c.toNat

/-- The scheme of mail with a character reference for each of its characters, as it is written for
an address of mail. -/
def mailScheme : List Char :=
  "mailto:".toList.flatMap fun c => '&' :: decimalReference c ++ [';']

/-- What belongs to a reference is passed over. -/
theorem resolve_passed (part cs : List Char) :
  resolve expand part.length (part ++ cs) = resolve expand 0 cs
  := by
  induction part with
  | nil => rfl
  | cons c part ih => exact ih

/-- A reference to a character by its number is resolved to this character. -/
theorem resolve_decimalReference {c : Char} (h : expand (decimalReference c) = some [c])
    (rest : List Char) :
  resolve expand 0 ('&' :: decimalReference c ++ ';' :: rest) = c :: resolve expand 0 rest
  := by
  have hbody : ';' ∉ decimalReference c := by
    rw [decimalReference, List.mem_cons, not_or]
    use by decide
    intro hmem
    have hdigit := Nat.isDigit_of_mem_toDigits (b := 10) (n := c.toNat) (by decide) (by decide) hmem
    contradiction
  have href : referenceAt? expand (decimalReference c ++ ';' :: rest)
      = some ([c], (decimalReference c).length + 1) := by
    rw [referenceAt?, span_of_not_mem hbody]
    simp only [h, Option.map_some]
  have hpassed :
      resolve expand ((decimalReference c).length + 1) (decimalReference c ++ ';' :: rest)
        = resolve expand 0 rest := by
    simpa using resolve_passed (decimalReference c ++ [';']) rest
  rw [List.cons_append, resolve, if_pos rfl, href]
  simp only [hpassed, List.singleton_append]

/-- References to characters by their numbers, one after another, are resolved to these characters.
-/
theorem resolve_references {cs : List Char}
    (h : ∀ c ∈ cs, expand (decimalReference c) = some [c]) (rest : List Char) :
  resolve expand 0 ((cs.flatMap fun c => '&' :: decimalReference c ++ [';']) ++ rest)
    = cs ++ resolve expand 0 rest
  := by
  induction cs with
  | nil => rfl
  | cons c cs ih =>
    rw [List.forall_mem_cons] at h
    rw [List.cons_append, ← ih h.2, ← resolve_decimalReference h.1]
    simp

section

variable (hmail : ∀ c ∈ "mailto:".toList, expand (decimalReference c) = some [c])

include hmail

/-- A target that is written with the scheme of mail has this scheme. -/
theorem schemeOf_mailScheme (rest : List Char) :
  schemeOf expand (mailScheme ++ rest) = "mailto".toList
  := by
  have hresolve : resolve expand 0 (mailScheme ++ rest)
      = "mailto:".toList ++ resolve expand 0 rest :=
    resolve_references hmail rest
  have hkept : "mailto:".toList.filter (' ' < ·) = "mailto:".toList := by decide
  have hcolon : ':' ∈ "mailto:".toList := by decide
  have hscheme : lowerChars (Link.splitScheme "mailto:".toList).1 = "mailto".toList := by
    decide +kernel
  rw [schemeOf, hresolve, List.filter_append, hkept, splitScheme_append hcolon, hscheme]

/-- Of every target in the HTML of a comment, a browser finds a safe scheme or none, unless a
character reference takes part in the scheme.  The references of an address of mail do no harm. -/
theorem MarkdownLibrary.schemeOf_target {library : MarkdownLibrary} (h : library.IsDocumented)
    (isHost : List Char → Bool) (text : String) {tag : HtmlTag}
    (htag : tag ∈ readTags (library.render isHost text).toList) {a : String × String}
    (ha : a ∈ tag.attributes) (htarget : targetName? tag.name = some a.1)
    (hreference : firstReferenceIsOutside expand a.2.toList ∨ mailScheme <+: a.2.toList) :
  schemeOf expand a.2.toList ∈ Link.safeSchemes
  := by
  obtain houtside | ⟨rest, hrest⟩ := hreference
  · obtain ⟨marks, nodes, html, hmarks, hnodes, hwritten, hhtml⟩ := h.exists_written isHost text
    have htags : HasSafeTags isHost (library.render isHost text).toList := by
      rw [hhtml]
      exact (hwritten.hasSafeTags hmarks (fun _ => IsCodeBlock.hasSafeTags) hnodes).trim
    obtain ⟨tags, hshows, hsafe⟩ := htags
    rw [hshows.read] at htag
    obtain hempty | ⟨marks', target, hmarks', htargetSafe, hspelled⟩ := hsafe tag htag a ha htarget
    · have hnone : schemeOf expand [] = [] := rfl
      rw [hempty, String.toList_empty, hnone]
      decide
    · exact hspelled.schemeOf hmarks' htargetSafe houtside
  · rw [← hrest, schemeOf_mailScheme hmail]
    decide

end

/-- What stands for a number in decimal digits, and for the names that are written for the
characters with a meaning in HTML. -/
def expandDecimal : List Char → Option (List Char)
  | '#' :: digits =>
    if !digits.isEmpty && digits.all isAsciiDigit then
      some [Char.ofNat (Nat.ofDigitChars 10 digits 0)]
    else none
  | body =>
    [("amp", '&'), ("lt", '<'), ("gt", '>'), ("quot", '\x22')].findSome? fun (name, c) =>
      if body = name.toList then some [c] else none

/-- A number in decimal digits stands for its character. -/
theorem expandDecimal_decimalReference (c : Char) :
  expandDecimal (decimalReference c) = some [c]
  := by
  have hdigits : (Nat.toDigits 10 c.toNat).all isAsciiDigit := by
    rw [List.all_eq_true]
    intro d hd
    exact Nat.isDigit_of_mem_toDigits (b := 10) (n := c.toNat) (by decide) (by decide) hd
  have hsome : (Nat.toDigits 10 c.toNat).isEmpty = false :=
    List.isEmpty_eq_false_iff.mpr Nat.toDigits_ne_nil
  rw [decimalReference, expandDecimal, hdigits, hsome, if_pos (by decide),
    Nat.ofDigitChars_ten_toDigits, Char.ofNat_toNat]

/-- A web page and an address of mail have safe schemes, although references stand in both. -/
theorem schemeOf_pageAndMail :
  let page := ("href", "http://a?b&amp;c")
  let mail := ("href", "&#109;&#97;&#105;&#108;&#116;&#111;&#58;&#97;&#64;&#98;")
  let html := Markdown.library.render Link.isHost
  Markdown.library.IsDocumented
    ∧ (∀ c ∈ "mailto:".toList, expandDecimal (decimalReference c) = some [c])
    ∧ (⟨"a", [page]⟩ ∈ readTags (html "[](http://a?b&c)").toList
      ∧ firstReferenceIsOutside expandDecimal page.2.toList
      ∧ schemeOf expandDecimal page.2.toList ∈ Link.safeSchemes)
    ∧ (⟨"a", [mail]⟩ ∈ readTags (html "<a@b>").toList ∧ mailScheme <+: mail.2.toList
      ∧ schemeOf expandDecimal mail.2.toList ∈ Link.safeSchemes)
  := by
  intro page mail html
  have hlibrary := Markdown.isDocumented_library
  have hexpand : ∀ c ∈ "mailto:".toList, expandDecimal (decimalReference c) = some [c] :=
    fun c _ => expandDecimal_decimalReference c
  have hpage : ⟨"a", [page]⟩ ∈ readTags (html "[](http://a?b&c)").toList := by decide +kernel
  have hmail : ⟨"a", [mail]⟩ ∈ readTags (html "<a@b>").toList := by decide +kernel
  have hfirst : firstReferenceIsOutside expandDecimal page.2.toList := by decide +kernel
  have hscheme : mailScheme <+: mail.2.toList := by decide +kernel
  use hlibrary, hexpand
  constructor
  · use hpage, hfirst
    exact MarkdownLibrary.schemeOf_target hexpand hlibrary Link.isHost _ hpage List.mem_cons_self
      rfl (.inl hfirst)
  · use hmail, hscheme
    exact MarkdownLibrary.schemeOf_target hexpand hlibrary Link.isHost _ hmail List.mem_cons_self
      rfl (.inr hscheme)

/-- A link that is written has a script for its target. -/
theorem schemeOf_scriptLink :
  Markdown.library.IsDocumented
    ∧ ¬∀ text, ∀ tag ∈ readTags (Markdown.library.render Link.isHost text).toList,
      ∀ a ∈ tag.attributes, targetName? tag.name = some a.1 →
        schemeOf expandDecimal a.2.toList ∈ Link.safeSchemes
  := by
  use Markdown.isDocumented_library
  intro h
  have htag : (⟨"a", [("href", "&#106;avascript:a")]⟩ : HtmlTag)
      ∈ readTags (Markdown.library.render Link.isHost "[x](&#106;avascript:a)").toList := by
    decide +kernel
  have hscheme := h _ _ htag _ List.mem_cons_self rfl
  revert hscheme
  decide +kernel

end DocTable
