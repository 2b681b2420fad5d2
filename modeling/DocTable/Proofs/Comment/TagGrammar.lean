import DocTable.Proofs.Comment.Brackets

/-!
# The grammar of tags

The bodies that are read as typed tags and as parameters, and into which parts they are cut, as
grammars.  `Tag.ofBody_grammar` says that `Tag.ofBody` reads just these, and keeps every other body
as it is written.
-/

namespace DocTable

open Text

namespace Comment

/-! ### Types -/

/-- A text that starts like a type. -/
inductive StartsLikeType : List Char → Prop where
  | mark {c : Char} (hc : c = '?' ∨ c = '\\' ∨ c = '(') (rest : List Char) :
      StartsLikeType (c :: rest)
  /-- The word `$this`. -/
  | this {rest : List Char} (hrest : ∀ c ∈ rest.head?, isWord c = false) :
      StartsLikeType ('$' :: 't' :: 'h' :: 'i' :: 's' :: rest)
  | name {c : Char} (hc : isWord c) (hdigit : isDecimalDigit c = false) (rest : List Char) :
      StartsLikeType (c :: rest)

/-- A type expression. -/
structure IsType (cs : List Char) : Prop where
  starts : StartsLikeType cs
  chars : ∀ c ∈ cs, isTypeChar c
  balanced : Balanced cs
  blanksInside : BlanksInside cs

theorem startsType_iff {cs : List Char} :
  startsType cs ↔ StartsLikeType cs
  := by
  constructor
  · intro h
    unfold startsType at h
    split at h
    case h_1 => exact .mark (.inl rfl) _
    case h_2 => exact .mark (.inr (.inl rfl)) _
    case h_3 => exact .mark (.inr (.inr rfl)) _
    case h_4 rest =>
      apply StartsLikeType.this
      intro c hc
      rw [hc] at h
      simpa using h
    case h_5 c rest _ _ _ _ =>
      rw [isNameStart, Bool.and_eq_true, Bool.not_eq_true'] at h
      exact .name h.1 h.2 _
    case h_6 => contradiction
  · intro h
    cases h with
    | mark hc rest =>
      obtain rfl | rfl | rfl := hc
      · rfl
      · rfl
      · rfl
    | @this rest hrest =>
      cases rest with
      | nil => rfl
      | cons c rest => simp [startsType, hrest c rfl]
    | @name c hc hdigit rest =>
      unfold startsType
      split
      case h_1 | h_2 | h_3 => rfl
      case h_4 _ heq =>
        obtain ⟨rfl, -⟩ := List.cons.inj heq
        exact absurd hc (by decide)
      case h_5 _ heq =>
        obtain ⟨rfl, -⟩ := List.cons.inj heq
        rw [isNameStart, hc, hdigit]
        rfl
      case h_6 => contradiction

theorem isTypeExpression_iff {cs : List Char} :
  isTypeExpression cs ↔ StartsLikeType cs ∧ (∀ c ∈ cs, isTypeChar c) ∧ Balanced cs
  := by
  rw [isTypeExpression, Bool.and_eq_true, Bool.and_eq_true, startsType_iff, List.all_eq_true,
    balancedFrom_iff, and_assoc]

/-! ### Starts of bodies -/

/-- A text that starts with `front`, and goes on with nothing or with blanks and the trimmed text
`rest`. -/
inductive BeginsWith (front : List Char) : List Char → List Char → Prop where
  | alone : BeginsWith front [] front
  | before {blanks rest : List Char} (hne : blanks ≠ []) (hblanks : allBlank blanks)
      (hrest : trim rest = rest) : BeginsWith front rest (front ++ (blanks ++ rest))

variable {front rest body : List Char}

theorem BeginsWith.trim_rest (h : BeginsWith front rest body) :
  trim rest = rest
  := by
  cases h with
  | alone => rfl
  | before _ _ hrest => exact hrest

/-- A trimmed text that is cut before a blank begins with what is before the cut. -/
theorem beginsWith_append {tail : List Char} (hbody : trim (front ++ tail) = front ++ tail)
    (htail : ∀ c ∈ tail.head?, isBlank c) :
  BeginsWith front (trim tail) (front ++ tail)
  := by
  cases tail with
  | nil =>
    rw [List.append_nil]
    exact .alone
  | cons c tail =>
    have hc : isBlank c := htail c rfl
    have hsplit : (c :: tail).takeWhile isBlank ++ trimLeft (c :: tail) = c :: tail :=
      List.takeWhile_append_dropWhile
    have hend : trimRight (trimLeft (c :: tail)) = trimLeft (c :: tail) := by
      have hright := trimRight_of_append (trimRight_of_trim hbody)
      rw [← hsplit] at hright
      exact trimRight_of_append hright
    have hne : (c :: tail).takeWhile isBlank ≠ [] := by
      rw [List.takeWhile_cons_of_pos hc]
      exact List.cons_ne_nil _ _
    have hrest : trim (trimLeft (c :: tail)) = trimLeft (c :: tail) := by
      rw [trim, trimLeft, trimLeft, List.dropWhile_idempotent]
      exact hend
    have hbegins : BeginsWith front (trimLeft (c :: tail)) _ :=
      .before hne List.all_takeWhile hrest
    rw [hsplit] at hbegins
    rwa [trim, hend]

theorem BeginsWith.exists_tail (h : BeginsWith front rest body) :
  ∃ tail, body = front ++ tail ∧ (∀ c ∈ tail.head?, isBlank c) ∧ trim tail = rest
  := by
  cases h with
  | alone => exact ⟨[], (List.append_nil _).symm, by simp, rfl⟩
  | @before blanks rest hne hblanks hrest =>
    refine ⟨blanks ++ rest, rfl, ?_, ?_⟩
    · intro c hc
      rw [List.head?_append_of_ne_nil _ hne] at hc
      exact head?_blank_of_allBlank hblanks c hc
    · rw [trim_blank_append hblanks, hrest]

/-- Only the empty text begins with nothing. -/
theorem BeginsWith.eq_nil (h : BeginsWith [] rest body) (hbody : trim body = body) :
  body = []
  := by
  cases h with
  | alone => rfl
  | @before blanks _ hne hblanks _ =>
    have hleft := trimLeft_of_trim hbody
    rw [List.nil_append, trimLeft_blank_append hblanks] at hleft
    have hlength := (List.dropWhile_suffix (l := rest) isBlank).length_le
    rw [← trimLeft, hleft, List.length_append] at hlength
    have hpos := List.length_pos_of_ne_nil hne
    omega

theorem beginsWith_splitType (hbody : trim body = body) :
  BeginsWith (splitType body).1 (splitType body).2 body
  := by
  obtain ⟨hcut, hblank⟩ := splitTypeFrom_spec [] body
  have h := beginsWith_append (by rwa [hcut]) hblank
  rwa [hcut] at h

theorem BeginsWith.splitType_eq (h : BeginsWith front rest body) (hfront : Balanced front)
    (hgap : HasNoGap front) :
  splitType body = (front, rest)
  := by
  obtain ⟨tail, rfl, htail, rfl⟩ := h.exists_tail
  rw [splitType, splitTypeFrom_of_balanced hfront hgap htail]

theorem beginsWith_splitWord (hbody : trim body = body) :
  BeginsWith (splitWord body).1 (splitWord body).2 body
  := by
  have hcut : body.takeWhile (!isBlank ·) ++ body.dropWhile (!isBlank ·) = body :=
    List.takeWhile_append_dropWhile
  have hblank : ∀ c ∈ (body.dropWhile (!isBlank ·)).head?, isBlank c := by
    intro c hc
    have hnot := List.head?_dropWhile_not (!isBlank ·) body
    rw [hc] at hnot
    simpa using hnot
  have h := beginsWith_append (by rwa [hcut]) hblank
  rw [hcut] at h
  rwa [splitWord, trimLeft_of_trim hbody]

theorem BeginsWith.splitWord_eq (h : BeginsWith front rest body) (hbody : trim body = body)
    (hfront : ∀ c ∈ front, isBlank c = false) :
  splitWord body = (front, rest)
  := by
  obtain ⟨tail, rfl, htail, rfl⟩ := h.exists_tail
  have hword : ∀ c ∈ front, (!isBlank c) = true := by simpa using hfront
  have htake : tail.takeWhile (!isBlank ·) = [] := by
    cases tail with
    | nil => rfl
    | cons c tail => rw [List.takeWhile_cons_of_neg (by simp [htail c rfl])]
  have hdrop : tail.dropWhile (!isBlank ·) = tail := by
    cases tail with
    | nil => rfl
    | cons c tail => rw [List.dropWhile_cons_of_neg (by simp [htail c rfl])]
  rw [splitWord, trimLeft_of_trim hbody, List.takeWhile_append_of_pos hword,
    List.dropWhile_append_of_pos hword, htake, hdrop, List.append_nil]

/-- A trimmed body is cut after a type exactly if it begins with one. -/
theorem splitType_eq_iff (hbody : trim body = body) :
  splitType body = (front, rest) ∧ isTypeExpression front
    ↔ IsType front ∧ BeginsWith front rest body
  := by
  constructor
  · rintro ⟨hcut, htype⟩
    obtain ⟨hstarts, hchars, hbalanced⟩ := isTypeExpression_iff.mp htype
    have hbegins := beginsWith_splitType hbody
    have hgap := hasNoGap_splitTypeFrom body
    have hfront : (splitTypeFrom [] body).1 = front := congrArg Prod.fst hcut
    rw [hcut] at hbegins
    rw [hfront] at hgap
    exact ⟨⟨hstarts, hchars, hbalanced, (blanksInside_iff hbalanced).mpr hgap⟩, hbegins⟩
  · rintro ⟨htype, hbegins⟩
    have hgap : HasNoGap front := (blanksInside_iff htype.balanced).mp htype.blanksInside
    use hbegins.splitType_eq htype.balanced hgap
    exact isTypeExpression_iff.mpr ⟨htype.starts, htype.chars, htype.balanced⟩

end Comment

open Comment

/-! ### Signatures -/

namespace Signature

/-- The name of the variable is an identifier. -/
def HasIdentifier (signature : Signature) : Prop :=
  ∃ c cs, signature.variableName = c :: cs ∧ isWord c ∧ isDecimalDigit c = false
    ∧ ∀ d ∈ cs, isWord d

theorem ofWord?_eq_some_iff {word : List Char} {signature : Signature} :
  ofWord? word = some signature ↔ signature.HasIdentifier ∧ signature.toWord = word
  := by
  constructor
  · intro h
    refine ⟨?_, toWord_of_ofWord? h⟩
    unfold ofWord? at h
    grind [HasIdentifier, isNameStart]
  · rintro ⟨⟨c, cs, hname, hc, hdigit, hcs⟩, rfl⟩
    have hstart : isNameStart c := by simp [isNameStart, hc, hdigit]
    obtain ⟨byReference, variadic, name⟩ := signature
    obtain rfl : name = c :: cs := hname
    cases byReference with
    | true =>
      cases variadic with
      | true => simpa [ofWord?, toWord, hstart] using hcs
      | false => simpa [ofWord?, toWord, hstart] using hcs
    | false =>
      cases variadic with
      | true => simpa [ofWord?, toWord, hstart] using hcs
      | false => simpa [ofWord?, toWord, hstart] using hcs

/-- A character of signatures. -/
def isSignatureChar (c : Char) : Bool :=
  isWord c || c ∈ ['&', '.', '$']

theorem isSignatureChar_of_mem {signature : Signature} (h : signature.HasIdentifier) {c : Char}
    (hc : c ∈ signature.toWord) :
  isSignatureChar c
  := by
  obtain ⟨d, cs, hname, hd, -, hcs⟩ := h
  have hword : ∀ c ∈ signature.variableName, isWord c := by
    rw [hname, List.forall_mem_cons]
    exact ⟨hd, hcs⟩
  rw [toWord, List.mem_append, List.mem_append, List.mem_cons] at hc
  rw [isSignatureChar, Bool.or_eq_true, decide_eq_true_iff]
  obtain (hc | hc) | rfl | hc := hc
  · right
    split at hc
    · simp [List.mem_singleton.mp hc]
    · contradiction
  · right
    split at hc
    · have hdot : c = '.' := by simpa using hc
      simp [hdot]
    · contradiction
  · right
    decide
  · left
    exact hword c hc

/-- A signature has no brackets and no blanks. -/
theorem isNoBracket_of_mem {signature : Signature} (h : signature.HasIdentifier) {c : Char}
    (hc : c ∈ signature.toWord) :
  IsNoBracket c
  := isNoBracket_of (p := isSignatureChar) (by decide) (isSignatureChar_of_mem h hc)

theorem isBlank_of_mem {signature : Signature} (h : signature.HasIdentifier) {c : Char}
    (hc : c ∈ signature.toWord) :
  isBlank c = false
  := isBlank_eq_false_of (p := isSignatureChar) (by decide +kernel) (isSignatureChar_of_mem h hc)

variable {signature : Signature} {body rest : List Char}

/-- A cut after the first word gives a signature if the text begins with one. -/
theorem cut_eq_iff {first tail : List Char} (hcut : BeginsWith first tail body)
    (hunique : signature.HasIdentifier → BeginsWith signature.toWord rest body →
      (first, tail) = (signature.toWord, rest)) :
  ofWord? first = some signature ∧ tail = rest
    ↔ signature.HasIdentifier ∧ BeginsWith signature.toWord rest body
  := by
  rw [ofWord?_eq_some_iff]
  constructor
  · rintro ⟨⟨hidentifier, rfl⟩, rfl⟩
    exact ⟨hidentifier, hcut⟩
  · rintro ⟨hidentifier, hbegins⟩
    obtain ⟨rfl, rfl⟩ := Prod.mk.inj (hunique hidentifier hbegins)
    exact ⟨⟨hidentifier, rfl⟩, rfl⟩

theorem splitType_eq_iff (hbody : trim body = body) :
  ofWord? (splitType body).1 = some signature ∧ (splitType body).2 = rest
    ↔ signature.HasIdentifier ∧ BeginsWith signature.toWord rest body
  := by
  apply cut_eq_iff (beginsWith_splitType hbody)
  intro hidentifier hbegins
  have hbalanced := balanced_of_isNoBracket fun c hc => isNoBracket_of_mem hidentifier hc
  have hgap : HasNoGap signature.toWord := by
    intro before c after hword hc
    have hmem : c ∈ signature.toWord := by simp [hword]
    rw [isBlank_of_mem hidentifier hmem] at hc
    contradiction
  exact hbegins.splitType_eq hbalanced hgap

theorem splitWord_eq_iff (hbody : trim body = body) :
  ofWord? (splitWord body).1 = some signature ∧ (splitWord body).2 = rest
    ↔ signature.HasIdentifier ∧ BeginsWith signature.toWord rest body
  := by
  apply cut_eq_iff (beginsWith_splitWord hbody)
  intro hidentifier hbegins
  exact hbegins.splitWord_eq hbody fun c hc => isBlank_of_mem hidentifier hc

end Signature

/-! ### Bodies -/

/-- The first word of a text is a signature. -/
def StartsWithSignature (body : List Char) : Prop :=
  ∃ signature rest, signature.HasIdentifier ∧ BeginsWith (Signature.toWord signature) rest body

/-- A text starts with a type. -/
def StartsWithType (body : List Char) : Prop :=
  ∃ type rest, IsType type ∧ BeginsWith type rest body

/-- The body of a parameter with its type, its signature and its description.  A text that starts
both with a signature and with a type, which is `$this`, is read as a signature. -/
inductive IsParamBody : List Char → List Char → Option Signature → List Char → Prop where
  | empty : IsParamBody [] [] none []
  | signature {signature : Signature} {rest body : List Char} (hsignature : signature.HasIdentifier)
      (hbody : BeginsWith signature.toWord rest body) :
      IsParamBody body [] (some signature) rest
  | type {type rest body : List Char} (hfirst : ¬StartsWithSignature body) (htype : IsType type)
      (hbody : BeginsWith type rest body) (hrest : ¬StartsWithSignature rest) :
      IsParamBody body type none rest
  | typeAndSignature {type rest body description : List Char} {signature : Signature}
      (hfirst : ¬StartsWithSignature body) (htype : IsType type) (hbody : BeginsWith type rest body)
      (hsignature : signature.HasIdentifier)
      (hrest : BeginsWith signature.toWord description rest) :
      IsParamBody body type (some signature) description

variable {body type description : List Char} {signature : Option Signature}

theorem not_startsWithSignature_iff {first tail : List Char}
    (h : ∀ signature rest, Signature.ofWord? first = some signature ∧ tail = rest
      ↔ signature.HasIdentifier ∧ BeginsWith signature.toWord rest body) :
  ¬StartsWithSignature body ↔ Signature.ofWord? first = none
  := by
  rw [Option.eq_none_iff_forall_ne_some]
  constructor
  · intro hnot signature hsome
    exact hnot ⟨signature, tail, (h signature tail).mp ⟨hsome, rfl⟩⟩
  · rintro hnone ⟨signature, rest, hstarts⟩
    exact hnone signature ((h signature rest).mpr hstarts).1

/-- A body that starts with a type starts with a signature only if the type is one. -/
theorem not_startsWithSignature_iff_of_isType {type rest : List Char} (hbody : trim body = body)
    (htype : IsType type) (hbegins : BeginsWith type rest body) :
  ¬StartsWithSignature body ↔ Signature.ofWord? type = none
  := by
  have hcut := ((splitType_eq_iff hbody).mpr ⟨htype, hbegins⟩).1
  rw [not_startsWithSignature_iff fun _ _ => Signature.splitType_eq_iff hbody, hcut]

/-- After a type that is no signature, the next word decides. -/
theorem ParamTag.ofBody?_of_isType (name : String) {rest : List Char} (hbody : trim body = body)
    (hfirst : ¬StartsWithSignature body) (htype : IsType type)
    (hbegins : BeginsWith type rest body) :
  ParamTag.ofBody? name body
    = some (((Signature.ofWord? (splitWord rest).1).map fun signature =>
      .ofParts name type (some signature) (splitWord rest).2).getD (.ofParts name type none rest))
  := by
  obtain ⟨hcut, hexpression⟩ := (splitType_eq_iff hbody).mpr ⟨htype, hbegins⟩
  have hnone := (not_startsWithSignature_iff_of_isType hbody htype hbegins).mp hfirst
  rw [ofBody?, hcut]
  dsimp only
  rw [hnone]
  dsimp only
  rw [if_pos (by simp [hexpression])]
  cases Signature.ofWord? (splitWord rest).1 with
  | none => rfl
  | some signature => rfl

theorem ParamTag.ofBody?_of_isParamBody (name : String) (hbody : trim body = body)
    (h : IsParamBody body type signature description) :
  ParamTag.ofBody? name body = some (.ofParts name type signature description)
  := by
  cases h with
  | empty => rfl
  | signature hsignature hbegins =>
    obtain ⟨hfirst, hrest⟩ := (Signature.splitType_eq_iff hbody).mpr ⟨hsignature, hbegins⟩
    rw [ofBody?]
    dsimp only
    rw [hfirst, hrest]
  | type hfirst htype hbegins hrest =>
    have hnone := (not_startsWithSignature_iff fun _ _ =>
      Signature.splitWord_eq_iff hbegins.trim_rest).mp hrest
    rw [ofBody?_of_isType name hbody hfirst htype hbegins, hnone]
    rfl
  | typeAndSignature hfirst htype hbegins hsignature hrest =>
    obtain ⟨hsecond, hdescription⟩ :=
      (Signature.splitWord_eq_iff hbegins.trim_rest).mpr ⟨hsignature, hrest⟩
    rw [ofBody?_of_isType name hbody hfirst htype hbegins, hsecond, hdescription]
    rfl

/-- A body that starts like the body of a parameter is one. -/
theorem exists_isParamBody (h : body = [] ∨ StartsWithSignature body ∨ StartsWithType body) :
  ∃ type signature description, IsParamBody body type signature description
  := by
  by_cases hfirst : StartsWithSignature body
  · obtain ⟨signature, rest, hsignature, hbegins⟩ := hfirst
    exact ⟨_, _, _, .signature hsignature hbegins⟩
  · obtain rfl | hsignature | ⟨type, rest, htype, hbegins⟩ := h
    · exact ⟨_, _, _, .empty⟩
    · contradiction
    · by_cases hrest : StartsWithSignature rest
      · obtain ⟨signature, description, hsignature, hdescription⟩ := hrest
        exact ⟨_, _, _, .typeAndSignature hfirst htype hbegins hsignature hdescription⟩
      · exact ⟨_, _, _, .type hfirst htype hbegins hrest⟩

/-- A body is read as a parameter if it starts like one. -/
theorem ParamTag.isSome_ofBody?_iff (name : String) (hbody : trim body = body) :
  (ParamTag.ofBody? name body).isSome
    ↔ body = [] ∨ StartsWithSignature body ∨ StartsWithType body
  := by
  constructor
  · intro hsome
    obtain ⟨tag, htag⟩ := Option.isSome_iff_exists.mp hsome
    obtain ⟨signature, hfirst, -⟩ | ⟨htype, -⟩ := ParamTag.ofBody?_eq_some htag
    · right; left
      exact ⟨signature, _, (Signature.splitType_eq_iff hbody).mp ⟨hfirst, rfl⟩⟩
    · rw [Bool.or_eq_true, List.isEmpty_iff] at htype
      obtain hempty | hexpression := htype
      · left
        have hbegins := beginsWith_splitType hbody
        rw [hempty] at hbegins
        exact hbegins.eq_nil hbody
      · right; right
        exact ⟨_, _, (splitType_eq_iff hbody).mp ⟨rfl, hexpression⟩⟩
  · intro h
    obtain ⟨type, signature, description, hparam⟩ := exists_isParamBody h
    rw [ParamTag.ofBody?_of_isParamBody name hbody hparam]
    rfl

/-- A body is read as a typed tag if it starts with a type. -/
theorem TypedTag.isSome_ofBody?_iff (name : String) (hbody : trim body = body) :
  (TypedTag.ofBody? name body).isSome ↔ StartsWithType body
  := by
  constructor
  · intro hsome
    obtain ⟨tag, htag⟩ := Option.isSome_iff_exists.mp hsome
    exact ⟨_, _, (splitType_eq_iff hbody).mp ⟨rfl, (TypedTag.ofBody?_eq_some htag).1⟩⟩
  · rintro ⟨type, description, htype⟩
    obtain ⟨hcut, hexpression⟩ := (splitType_eq_iff hbody).mpr htype
    rw [TypedTag.ofBody?, hcut]
    dsimp only
    rw [if_pos hexpression]
    rfl

theorem TypedTag.ofBody?_eq_some_iff (name : String) (hbody : trim body = body) :
  TypedTag.ofBody? name body = some ⟨name, String.ofList type, String.ofList description,
      String.ofList (joinParts [type, description])⟩
    ↔ IsType type ∧ BeginsWith type description body
  := by
  rw [← splitType_eq_iff hbody]
  constructor
  · intro h
    obtain ⟨hexpression, htag⟩ := TypedTag.ofBody?_eq_some h
    rw [TypedTag.mk.injEq, String.ofList_inj, String.ofList_inj] at htag
    obtain ⟨-, rfl, rfl, -⟩ := htag
    exact ⟨rfl, hexpression⟩
  · rintro ⟨hcut, hexpression⟩
    rw [TypedTag.ofBody?, hcut]
    dsimp only
    rw [if_pos hexpression]

/-- Which bodies are read as typed tags and as parameters, and how.  All others are kept as they are
written. -/
theorem Tag.ofBody_grammar (name : String) (body : List Char) (hbody : trim body = body) :
  (TagClass.ofName name = .typed →
    (∀ type description,
      Tag.ofBody name body = .typed ⟨name, String.ofList type, String.ofList description,
        String.ofList (joinParts [type, description])⟩
      ↔ IsType type ∧ BeginsWith type description body)
    ∧ (¬StartsWithType body → Tag.ofBody name body = .generic ⟨name, String.ofList body⟩))
  ∧ (TagClass.ofName name = .param →
    ((∃ tag, Tag.ofBody name body = .param tag)
      ↔ body = [] ∨ StartsWithSignature body ∨ StartsWithType body)
    ∧ (∀ type signature description, IsParamBody body type signature description →
      Tag.ofBody name body = .param (.ofParts name type signature description))
    ∧ (¬(body = [] ∨ StartsWithSignature body ∨ StartsWithType body) →
      Tag.ofBody name body = .generic ⟨name, String.ofList body⟩))
  := by
  constructor
  · intro hclass
    constructor
    · intro type description
      rw [← TypedTag.ofBody?_eq_some_iff name hbody, Tag.ofBody, hclass]
      cases TypedTag.ofBody? name body with
      | none => simp
      | some tag => simp
    · intro hnot
      rw [← TypedTag.isSome_ofBody?_iff name hbody, Option.not_isSome_iff_eq_none] at hnot
      rw [Tag.ofBody, hclass, hnot]
      rfl
  · intro hclass
    rw [← ParamTag.isSome_ofBody?_iff name hbody]
    refine ⟨?_, ?_, ?_⟩
    · rw [Tag.ofBody, hclass]
      cases ParamTag.ofBody? name body with
      | none => simp
      | some tag => simp
    · intro type signature description h
      rw [Tag.ofBody, hclass, ParamTag.ofBody?_of_isParamBody name hbody h]
      rfl
    · intro hnot
      rw [Option.not_isSome_iff_eq_none] at hnot
      rw [Tag.ofBody, hclass, hnot]
      rfl

theorem Tag.ofBody_nestedBrackets :
  (IsType "map<int, (a b)>".toList
    ∧ BeginsWith "map<int, (a b)>".toList "of pairs".toList "map<int, (a b)> of pairs".toList)
  ∧ Tag.ofBody "param" "&...$x in order".toList
    = .param (.ofParts "param" [] (some ⟨true, true, ['x']⟩) "in order".toList)
  := by
  constructor
  · have h := Tag.ofBody_grammar "return" "map<int, (a b)> of pairs".toList (by decide)
    exact ((h.1 (by decide)).1 _ _).mp (by decide)
  · have h := Tag.ofBody_grammar "param" "&...$x in order".toList (by decide)
    apply (h.2 (by decide)).2.1
    have hidentifier : Signature.HasIdentifier ⟨true, true, ['x']⟩ :=
      ⟨'x', [], rfl, by decide, by decide, List.forall_mem_nil _⟩
    have hblank : [' '] ≠ [] := List.cons_ne_nil _ _
    exact .signature hidentifier (.before hblank (by decide) (by decide))

end DocTable
