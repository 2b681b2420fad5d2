import DocTable.Comment.TagBody
import DocTable.Proofs.Text.Blank

/-!
# Laws of tag bodies

`ParamTag.ofBody?_eq_some` and `TypedTag.ofBody?_eq_some` say into which parts a body is cut and how
a tag is made of these, and `words_rendered` that a tag is shown with all words of its body:
whatever is cut off is put back with a space before it.
-/

namespace DocTable

open Text

namespace Comment

/-! ### Types and signatures -/

/-- A type is cut off at a blank, or there is nothing after it. -/
theorem splitTypeFrom_spec (expected cs : List Char) :
  (splitTypeFrom expected cs).1 ++ (splitTypeFrom expected cs).2 = cs
    ∧ ∀ c ∈ (splitTypeFrom expected cs).2.head?, isBlank c = true
  := by
  induction cs generalizing expected with
  | nil =>
    constructor
    · rfl
    · intro c hc
      simp [splitTypeFrom] at hc
  | cons c cs ih =>
    have hkept expected' :
        (c :: (splitTypeFrom expected' cs).1) ++ (splitTypeFrom expected' cs).2 = c :: cs
          ∧ ∀ d ∈ (splitTypeFrom expected' cs).2.head?, isBlank d = true := by
      rw [List.cons_append, (ih expected').1]
      exact ⟨rfl, (ih expected').2⟩
    rw [splitTypeFrom]
    split
    case h_1 close _ => apply hkept
    case h_2 =>
      split
      case isTrue => apply hkept
      case isFalse =>
        split
        case isTrue hblank =>
          refine ⟨rfl, ?_⟩
          intro d hd
          obtain rfl := Option.some.inj hd
          exact (Bool.and_eq_true_iff.mp hblank).1
        case isFalse => apply hkept

theorem words_splitType (body : List Char) :
  words (splitType body).1 ++ words (splitType body).2 = words body
  := by
  obtain ⟨hbody, hblank⟩ := splitTypeFrom_spec [] body
  rw [splitType, words_trim, ← words_append _ hblank, hbody]

end Comment

open Comment

/-- The word that a signature is read from is the one that it is written as. -/
theorem Signature.toWord_of_ofWord? {word : List Char} {signature : Signature}
    (h : Signature.ofWord? word = some signature) :
  signature.toWord = word
  := by
  unfold Signature.ofWord? at h
  grind [Signature.toWord]

theorem Signature.variableName_ne_nil {word : List Char} {signature : Signature}
    (h : Signature.ofWord? word = some signature) :
  signature.variableName ≠ []
  := by
  unfold Signature.ofWord? at h
  grind

theorem ParamTag.toList_signature (tag : ParamTag) :
  tag.signature.toList
    = if tag.variableName = "" then []
      else (if tag.byReference then ['&'] else []) ++ (if tag.variadic then ['.', '.', '.'] else [])
        ++ '$' :: tag.variableName.toList
  := by
  unfold ParamTag.signature
  split_ifs <;> simp

/-! ### Bodies -/

/-- A parameter is read in one of three ways: from a signature, from a type and a signature, or from
a type alone. -/
theorem ParamTag.ofBody?_eq_some {name : String} {body : List Char} {tag : ParamTag}
    (h : ParamTag.ofBody? name body = some tag) :
  (∃ signature, Signature.ofWord? (splitType body).1 = some signature
      ∧ tag = .ofParts name [] (some signature) (splitType body).2)
    ∨ ((splitType body).1.isEmpty || isTypeExpression (splitType body).1) = true
      ∧ ((∃ signature, Signature.ofWord? (splitWord (splitType body).2).1 = some signature
          ∧ tag = .ofParts name (splitType body).1 (some signature)
            (splitWord (splitType body).2).2)
        ∨ tag = .ofParts name (splitType body).1 none (splitType body).2)
  := by
  rw [ParamTag.ofBody?] at h
  dsimp only at h
  split at h
  case h_1 signature hfirst =>
    left
    exact ⟨signature, hfirst, (Option.some.inj h).symm⟩
  case h_2 =>
    split at h
    case isTrue htype =>
      right
      use htype
      split at h
      case h_1 signature hsecond =>
        left
        exact ⟨signature, hsecond, (Option.some.inj h).symm⟩
      case h_2 =>
        right
        exact (Option.some.inj h).symm
    case isFalse => contradiction

/-- The parts of a parameter that is read; a signature among them has a variable. -/
theorem ParamTag.exists_ofParts {name : String} {body : List Char} {tag : ParamTag}
    (h : ParamTag.ofBody? name body = some tag) :
  ∃ type signature description, tag = .ofParts name type signature description
    ∧ ∀ s ∈ signature, s.variableName ≠ []
  := by
  obtain ⟨signature, hfirst, rfl⟩ | ⟨-, ⟨signature, hsecond, rfl⟩ | rfl⟩ :=
    ParamTag.ofBody?_eq_some h
  · refine ⟨_, _, _, rfl, ?_⟩
    rintro _ ⟨⟩
    exact Signature.variableName_ne_nil hfirst
  · refine ⟨_, _, _, rfl, ?_⟩
    rintro _ ⟨⟩
    exact Signature.variableName_ne_nil hsecond
  · exact ⟨_, _, _, rfl, by simp⟩

/-- A marker is read together with a variable. -/
theorem ParamTag.variableName_ne_empty {name : String} {body : List Char} {tag : ParamTag}
    (h : ParamTag.ofBody? name body = some tag) (hmarker : tag.variadic ∨ tag.byReference) :
  tag.variableName ≠ ""
  := by
  obtain ⟨type, signature, description, rfl, hvariable⟩ := ParamTag.exists_ofParts h
  cases signature with
  | none => simp [ofParts] at hmarker
  | some signature => simpa [ofParts] using hvariable signature rfl

/-- A typed tag is read from a type. -/
theorem TypedTag.ofBody?_eq_some {name : String} {body : List Char} {tag : TypedTag}
    (h : TypedTag.ofBody? name body = some tag) :
  isTypeExpression (splitType body).1 = true
    ∧ tag = ⟨name, String.ofList (splitType body).1, String.ofList (splitType body).2,
      String.ofList (joinParts [(splitType body).1, (splitType body).2])⟩
  := by
  rw [TypedTag.ofBody?] at h
  dsimp only at h
  split at h
  case isTrue htype => exact ⟨htype, (Option.some.inj h).symm⟩
  case isFalse => contradiction

/-- What a tag is, by its class: a parameter or a typed tag that can be read, or the body as it is
written. -/
theorem Tag.ofBody_cases (name : String) (body : List Char) :
  (∃ tag, ParamTag.ofBody? name body = some tag ∧ Tag.ofBody name body = .param tag)
    ∨ (∃ tag, TypedTag.ofBody? name body = some tag ∧ Tag.ofBody name body = .typed tag)
    ∨ Tag.ofBody name body = .generic ⟨name, String.ofList body⟩
  := by
  rw [Tag.ofBody]
  cases TagClass.ofName name with
  | param =>
    cases htag : ParamTag.ofBody? name body with
    | none => exact .inr (.inr rfl)
    | some tag => exact .inl ⟨tag, rfl, rfl⟩
  | typed =>
    cases htag : TypedTag.ofBody? name body with
    | none => exact .inr (.inr rfl)
    | some tag => exact .inr (.inl ⟨tag, rfl, rfl⟩)
  | generic => exact .inr (.inr rfl)

@[simp]
theorem Tag.name_ofBody (name : String) (body : List Char) :
  (Tag.ofBody name body).name = name
  := by
  obtain ⟨tag, htag, h⟩ | ⟨tag, htag, h⟩ | h := Tag.ofBody_cases name body
  · obtain ⟨_, -, rfl⟩ | ⟨-, ⟨_, -, rfl⟩ | rfl⟩ := ParamTag.ofBody?_eq_some htag
    all_goals rw [h]; rfl
  · obtain ⟨-, rfl⟩ := TypedTag.ofBody?_eq_some htag
    rw [h]; rfl
  · rw [h]; rfl

/-! ### Words -/

/-- Parts are put together with blanks only. -/
theorem words_joinParts (parts : List (List Char)) :
  words (joinParts parts) = parts.flatMap words
  := by
  rw [joinParts]
  induction parts with
  | nil => rfl
  | cons part parts ih =>
    rw [List.flatMap_cons, ← ih]
    cases part with
    | nil =>
      rw [List.filter_cons_of_neg (by simp), words_nil, List.nil_append]
    | cons c cs =>
      rw [List.filter_cons_of_pos (by simp)]
      cases parts.filter (!·.isEmpty) with
      | nil =>
        rw [List.intercalate_singleton, List.intercalate_nil, words_nil, List.append_nil]
      | cons next rest =>
        rw [List.intercalate_cons_cons, List.append_assoc, List.singleton_append,
          words_append_cons (by decide)]

theorem words_rendered_ofParts (name : String) (type : List Char) (signature : Option Signature)
    (description : List Char) :
  words (ParamTag.ofParts name type signature description).rendered.toList
    = words type ++ words ((signature.map Signature.toWord).getD []) ++ words description
  := by
  rw [ParamTag.ofParts, String.toList_ofList, words_joinParts]
  simp

theorem words_rendered_param {name : String} {body : List Char} {tag : ParamTag}
    (h : ParamTag.ofBody? name body = some tag) :
  words tag.rendered.toList = words body
  := by
  rw [← words_splitType body]
  obtain ⟨signature, hfirst, rfl⟩ | ⟨-, ⟨signature, hsecond, rfl⟩ | rfl⟩ :=
    ParamTag.ofBody?_eq_some h
  · rw [words_rendered_ofParts, words_nil, List.nil_append, Option.map_some, Option.getD_some,
      Signature.toWord_of_ofWord? hfirst]
  · rw [words_rendered_ofParts, Option.map_some, Option.getD_some,
      Signature.toWord_of_ofWord? hsecond, List.append_assoc, words_splitWord]
  · rw [words_rendered_ofParts, Option.map_none, Option.getD_none, words_nil, List.append_nil]

theorem words_rendered_typed {name : String} {body : List Char} {tag : TypedTag}
    (h : TypedTag.ofBody? name body = some tag) :
  words tag.rendered.toList = words body
  := by
  rw [← words_splitType body]
  obtain ⟨-, rfl⟩ := TypedTag.ofBody?_eq_some h
  rw [String.toList_ofList, words_joinParts]
  simp

/-- A tag is shown with the words of its body. -/
theorem words_rendered (name : String) (body : List Char) :
  words (Tag.ofBody name body).rendered.toList = words body
  := by
  obtain ⟨tag, htag, h⟩ | ⟨tag, htag, h⟩ | h := Tag.ofBody_cases name body
  · rw [h]
    apply words_rendered_param htag
  · rw [h]
    apply words_rendered_typed htag
  · rw [h, Tag.rendered, String.toList_ofList]

theorem solid_rendered (name : String) (body : List Char) :
  solid (Tag.ofBody name body).rendered.toList = solid body
  := by
  rw [← flatten_words, ← flatten_words, words_rendered]

end DocTable
