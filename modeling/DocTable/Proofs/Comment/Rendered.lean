import DocTable.Proofs.Comment.TagGrammar

/-!
# Tags as they are shown

A tag is shown as its parts with spaces between them.  Read again, the text that is shown gives the
same tag (`Tag.ofBody_rendered`): `IsParamBody.written` says that it is cut where the body was cut,
since a type ends at the space after it, and no signature and no type has blanks at its ends.
-/

namespace DocTable

open Text Comment

/-! ### Joined parts -/

/-- An empty part is left out. -/
theorem joinParts_nil_cons (parts : List (List Char)) :
  joinParts ([] :: parts) = joinParts parts
  := rfl

/-- One part stands by itself. -/
theorem joinParts_singleton (part : List Char) :
  joinParts [part] = part
  := by
  cases part with
  | nil => rfl
  | cons c part => simp [joinParts]

/-- The other parts stand after the first one, and a space before them if there are any. -/
theorem joinParts_cons_of_ne_nil {part : List Char} (h : part ≠ []) (parts : List (List Char)) :
  joinParts (part :: parts)
    = part ++ if joinParts parts = [] then [] else ' ' :: joinParts parts
  := by
  have hcons : joinParts (part :: parts)
      = [' '].intercalate (part :: parts.filter (!·.isEmpty)) := by
    rw [joinParts, List.filter_cons_of_pos (by simpa using h)]
  rw [hcons, joinParts]
  cases hparts : parts.filter (!·.isEmpty) with
  | nil => simp
  | cons next rest =>
    have hnext : next ≠ [] := by
      have hmem : next ∈ parts.filter (!·.isEmpty) := hparts ▸ List.mem_cons_self
      simpa using List.of_mem_filter hmem
    have hne : [' '].intercalate (next :: rest) ≠ [] := by
      cases rest with
      | nil => simpa using hnext
      | cons _ _ => simp [List.intercalate_cons_cons]
    rw [if_neg hne, List.intercalate_cons_cons, List.append_assoc, List.singleton_append]

/-- Trimmed parts are joined to a trimmed text. -/
theorem trim_joinParts {parts : List (List Char)} (h : ∀ part ∈ parts, trim part = part) :
  trim (joinParts parts) = joinParts parts
  := by
  induction parts with
  | nil => rfl
  | cons part parts ih =>
    obtain ⟨hpart, hparts⟩ := List.forall_mem_cons.mp h
    by_cases hne : part = []
    · rw [hne, joinParts_nil_cons, ih hparts]
    · rw [joinParts_cons_of_ne_nil hne]
      split
      case isTrue => rw [List.append_nil, hpart]
      case isFalse hrest =>
        rw [trim_eq_self_iff]
        constructor
        · rw [List.head?_append_of_ne_nil _ hne]
          apply (trim_eq_self_iff.mp hpart).1
        · rw [List.getLast?_append_of_ne_nil _ (List.cons_ne_nil _ _),
            List.getLast?_cons_of_ne_nil hrest]
          apply (trim_eq_self_iff.mp (ih hparts)).2

/-- A part that is not empty begins what is joined, and the rest follows behind a blank. -/
theorem beginsWith_joinParts {part rest : List Char} {parts : List (List Char)} (hne : part ≠ [])
    (hparts : joinParts parts = rest) (hrest : trim rest = rest) :
  BeginsWith part rest (joinParts (part :: parts))
  := by
  rw [joinParts_cons_of_ne_nil hne, hparts]
  split
  case isTrue hnil =>
    rw [hnil, List.append_nil]
    exact .alone
  case isFalse =>
    have hspace : [' '] ≠ [] := List.cons_ne_nil _ _
    exact .before hspace (by decide) hrest

/-- Joining texts is joining their characters. -/
theorem ofList_joinParts (parts : List String) :
  String.ofList (joinParts (parts.map String.toList)) = " ".intercalate (parts.filter (· ≠ ""))
  := by
  rw [← String.toList_inj, String.toList_ofList, String.toList_intercalate, joinParts,
    List.filter_map]
  congr 3
  funext part
  rw [Bool.eq_iff_iff]
  simp

/-! ### Types and signatures -/

variable {cs body type description : List Char} {signature : Option Signature}

/-- A text whose blanks stand inside brackets is trimmed. -/
theorem Comment.trim_of_blanksInside (h : BlanksInside cs) :
  trim cs = cs
  := by
  rw [trim_eq_self_iff]
  constructor
  · intro c hc
    by_contra hblank
    obtain ⟨after, rfl⟩ := List.head?_eq_some_iff.mp hc
    obtain ⟨outer, opening, left, -, -, -, -, hbefore, -⟩ :=
      h [] c after rfl (eq_true_of_ne_false hblank)
    simp at hbefore
  · intro c hc
    by_contra hblank
    obtain ⟨before, rfl⟩ := List.getLast?_eq_some_iff.mp hc
    obtain ⟨-, -, -, right, closing, outer, -, -, hafter, -⟩ :=
      h before c [] rfl (eq_true_of_ne_false hblank)
    simp at hafter

/-- A type is not empty. -/
theorem Comment.IsType.ne_nil (h : IsType type) :
  type ≠ []
  := by
  rintro rfl
  cases h.starts

/-- The word for a variable is not empty. -/
theorem Signature.toWord_ne_nil (signature : Signature) :
  signature.toWord ≠ []
  := by
  simp [toWord]

/-- The word for a variable is trimmed. -/
theorem Signature.trim_toWord {signature : Signature} (h : signature.HasIdentifier) :
  trim signature.toWord = signature.toWord
  := trim_of_no_blank fun _ hc => isBlank_of_mem h hc

/-! ### Parameters -/

/-- Of two bodies with the same type neither starts with a signature, or both do. -/
theorem not_startsWithSignature_of_isType {body' rest rest' : List Char} (hbody : trim body = body)
    (hbody' : trim body' = body') (htype : IsType type) (hbegins : BeginsWith type rest body)
    (hbegins' : BeginsWith type rest' body') (h : ¬StartsWithSignature body) :
  ¬StartsWithSignature body'
  := by
  rw [not_startsWithSignature_iff_of_isType hbody htype hbegins] at h
  apply (not_startsWithSignature_iff_of_isType hbody' htype hbegins').mpr h

/-- The parts of a parameter as they are shown. -/
def ParamTag.written (type : List Char) (signature : Option Signature) (description : List Char) :
    List Char :=
  joinParts [type, (signature.map Signature.toWord).getD [], description]

/-- What is written for the body of a parameter is trimmed. -/
theorem IsParamBody.trim_written (h : IsParamBody body type signature description) :
  trim (ParamTag.written type signature description) = ParamTag.written type signature description
  := by
  apply trim_joinParts
  simp only [List.forall_mem_cons, List.not_mem_nil, false_imp_iff, implies_true, and_true]
  cases h with
  | empty => decide
  | signature hsignature hbegins =>
    exact ⟨rfl, Signature.trim_toWord hsignature, hbegins.trim_rest⟩
  | type _ htype hbegins _ =>
    exact ⟨trim_of_blanksInside htype.blanksInside, rfl, hbegins.trim_rest⟩
  | typeAndSignature _ htype _ hsignature hrest =>
    exact ⟨trim_of_blanksInside htype.blanksInside, Signature.trim_toWord hsignature,
      hrest.trim_rest⟩

/-- What is shown of a parameter has the parts of its body. -/
theorem IsParamBody.written (hbody : trim body = body)
    (h : IsParamBody body type signature description) :
  IsParamBody (ParamTag.written type signature description) type signature description
  := by
  have hwritten := h.trim_written
  cases h with
  | empty => exact .empty
  | @signature signature _ _ hsignature hbegins =>
    have hjoined := beginsWith_joinParts signature.toWord_ne_nil (joinParts_singleton description)
      hbegins.trim_rest
    exact .signature hsignature hjoined
  | type hfirst htype hbegins hrest =>
    have hdescription : joinParts [[], description] = description := by
      rw [joinParts_nil_cons, joinParts_singleton]
    have hjoined := beginsWith_joinParts htype.ne_nil hdescription hbegins.trim_rest
    have hnot := not_startsWithSignature_of_isType hbody hwritten htype hbegins hjoined hfirst
    exact .type hnot htype hjoined hrest
  | @typeAndSignature _ _ _ _ signature hfirst htype hbegins hsignature hrest =>
    have hsecond := beginsWith_joinParts signature.toWord_ne_nil (joinParts_singleton description)
      hrest.trim_rest
    have htrim : ∀ part ∈ [signature.toWord, description], trim part = part := by
      rw [List.forall_mem_cons, List.forall_mem_singleton]
      exact ⟨Signature.trim_toWord hsignature, hrest.trim_rest⟩
    have hjoined := beginsWith_joinParts htype.ne_nil rfl (trim_joinParts htrim)
    have hnot := not_startsWithSignature_of_isType hbody hwritten htype hbegins hjoined hfirst
    exact .typeAndSignature hnot htype hjoined hsignature hsecond

/-- The parts of a parameter that is read are those of its body. -/
theorem ParamTag.exists_isParamBody {name : String} (hbody : trim body = body) {tag : ParamTag}
    (h : ParamTag.ofBody? name body = some tag) :
  ∃ type signature description, tag = .ofParts name type signature description
    ∧ IsParamBody body type signature description
  := by
  have hsome := (ParamTag.isSome_ofBody?_iff name hbody).mp (Option.isSome_of_eq_some h)
  obtain ⟨type, signature, description, hparts⟩ := DocTable.exists_isParamBody hsome
  rw [ParamTag.ofBody?_of_isParamBody name hbody hparts] at h
  exact ⟨type, signature, description, (Option.some.inj h).symm, hparts⟩

/-- A parameter is read again from what is written for it. -/
theorem ParamTag.ofBody?_rendered {name : String} (hbody : trim body = body) {tag : ParamTag}
    (h : ParamTag.ofBody? name body = some tag) :
  ParamTag.ofBody? name tag.rendered.toList = some tag
  := by
  obtain ⟨type, signature, description, rfl, hparts⟩ := ParamTag.exists_isParamBody hbody h
  have hrendered : (ofParts name type signature description).rendered.toList
      = ParamTag.written type signature description := String.toList_ofList
  rw [hrendered]
  apply ParamTag.ofBody?_of_isParamBody name hparts.trim_written (hparts.written hbody)

/-- The signature of a parameter is written as it was read. -/
theorem ParamTag.signature_ofParts (name : String) (type description : List Char)
    (hvariable : ∀ s ∈ signature, s.variableName ≠ []) :
  (ofParts name type signature description).signature.toList
    = (signature.map Signature.toWord).getD []
  := by
  rw [ParamTag.toList_signature]
  cases signature with
  | none => rfl
  | some signature =>
    have hne := hvariable signature rfl
    simp [ofParts, Signature.toWord, hne]

/-- A parameter is shown with its type, its signature and its description. -/
theorem ParamTag.rendered_eq {name : String} {tag : ParamTag}
    (h : ParamTag.ofBody? name body = some tag) :
  tag.rendered = " ".intercalate ([tag.type, tag.signature, tag.description].filter (· ≠ ""))
  := by
  obtain ⟨type, signature, description, rfl, hvariable⟩ := ParamTag.exists_ofParts h
  rw [← ofList_joinParts, List.map_cons, List.map_cons, List.map_singleton,
    ParamTag.signature_ofParts name type description hvariable]
  simp only [ofParts, String.toList_ofList]

/-! ### Typed tags -/

/-- A tag with a type is read again from what is written for it. -/
theorem TypedTag.ofBody?_rendered {name : String} (hbody : trim body = body) {tag : TypedTag}
    (h : TypedTag.ofBody? name body = some tag) :
  TypedTag.ofBody? name tag.rendered.toList = some tag
  := by
  obtain ⟨hexpression, rfl⟩ := TypedTag.ofBody?_eq_some h
  obtain ⟨htype, hbegins⟩ := (splitType_eq_iff hbody).mp ⟨rfl, hexpression⟩
  have htrim : ∀ part ∈ [(splitType body).1, (splitType body).2], trim part = part := by
    rw [List.forall_mem_cons, List.forall_mem_singleton]
    exact ⟨trim_of_blanksInside htype.blanksInside, hbegins.trim_rest⟩
  have hjoined := beginsWith_joinParts htype.ne_nil (joinParts_singleton _) hbegins.trim_rest
  rw [String.toList_ofList]
  apply (TypedTag.ofBody?_eq_some_iff name (trim_joinParts htrim)).mpr ⟨htype, hjoined⟩

/-! ### Tags -/

/-- A tag is that of a parameter if its name is one for parameters and its body is read as one. -/
theorem Tag.ofBody_eq_param_iff {name : String} {tag : ParamTag} :
  Tag.ofBody name body = .param tag
    ↔ TagClass.ofName name = .param ∧ ParamTag.ofBody? name body = some tag
  := by
  rw [Tag.ofBody]
  cases TagClass.ofName name with
  | param => cases ParamTag.ofBody? name body <;> simp
  | typed => cases TypedTag.ofBody? name body <;> simp
  | generic => simp

/-- A tag has a type if its name is one for types and its body is read as one. -/
theorem Tag.ofBody_eq_typed_iff {name : String} {tag : TypedTag} :
  Tag.ofBody name body = .typed tag
    ↔ TagClass.ofName name = .typed ∧ TypedTag.ofBody? name body = some tag
  := by
  rw [Tag.ofBody]
  cases TagClass.ofName name with
  | param => cases ParamTag.ofBody? name body <;> simp
  | typed => cases TypedTag.ofBody? name body <;> simp
  | generic => simp

/-- A generic tag is shown as it is written. -/
theorem Tag.eq_of_ofBody_eq_generic {name : String} {tag : GenericTag}
    (h : Tag.ofBody name body = .generic tag) :
  tag = ⟨name, String.ofList body⟩
  := by
  obtain ⟨_, -, hparam⟩ | ⟨_, -, htyped⟩ | hgeneric := Tag.ofBody_cases name body
  · rw [hparam] at h
    contradiction
  · rw [htyped] at h
    contradiction
  · rw [hgeneric] at h
    apply (Tag.generic.inj h).symm

/-- What is shown of a tag is a body of the same tag.  A parameter has markers only with a variable,
and is shown with those of its type, its signature and its description that are not empty. -/
theorem Tag.ofBody_rendered (name : String) (body : List Char) (hbody : trim body = body) :
  Tag.ofBody name (Tag.ofBody name body).rendered.toList = Tag.ofBody name body
    ∧ ∀ tag, Tag.ofBody name body = .param tag →
      (tag.variadic ∨ tag.byReference → tag.variableName ≠ "")
        ∧ tag.rendered
          = " ".intercalate ([tag.type, tag.signature, tag.description].filter (· ≠ ""))
  := by
  constructor
  · cases h : Tag.ofBody name body with
    | param tag =>
      obtain ⟨hclass, htag⟩ := Tag.ofBody_eq_param_iff.mp h
      apply Tag.ofBody_eq_param_iff.mpr ⟨hclass, ParamTag.ofBody?_rendered hbody htag⟩
    | typed tag =>
      obtain ⟨hclass, htag⟩ := Tag.ofBody_eq_typed_iff.mp h
      apply Tag.ofBody_eq_typed_iff.mpr ⟨hclass, TypedTag.ofBody?_rendered hbody htag⟩
    | generic tag =>
      obtain rfl := Tag.eq_of_ofBody_eq_generic h
      rw [Tag.rendered, String.toList_ofList, h]
  · intro tag h
    obtain ⟨-, htag⟩ := Tag.ofBody_eq_param_iff.mp h
    exact ⟨ParamTag.variableName_ne_empty htag, ParamTag.rendered_eq htag⟩

/-- A parameter that is passed by reference, with blanks inside its type. -/
def referenceTag : ParamTag where
  name := "param"
  type := "map<int, (a b)>"
  variableName := "x"
  description := "by\n reference"
  rendered := "map<int, (a b)> &$x by\n reference"
  byReference := true

theorem Tag.ofBody_rendered_reference :
  trim "map<int, (a b)>\n  &$x  by\n reference".toList
      = "map<int, (a b)>\n  &$x  by\n reference".toList
    ∧ Tag.ofBody "param" "map<int, (a b)>\n  &$x  by\n reference".toList = .param referenceTag
    ∧ Tag.ofBody "param" referenceTag.rendered.toList = .param referenceTag
    ∧ referenceTag.variableName ≠ ""
    ∧ referenceTag.rendered = " ".intercalate
      ([referenceTag.type, referenceTag.signature, referenceTag.description].filter (· ≠ ""))
  := by
  have htrim : trim "map<int, (a b)>\n  &$x  by\n reference".toList
      = "map<int, (a b)>\n  &$x  by\n reference".toList := by decide
  have htag : Tag.ofBody "param" "map<int, (a b)>\n  &$x  by\n reference".toList
      = .param referenceTag := by decide
  obtain ⟨hagain, hparts⟩ := Tag.ofBody_rendered "param" _ htrim
  rw [htag] at hagain
  obtain ⟨hvariable, hrendered⟩ := hparts referenceTag htag
  exact ⟨htrim, htag, hagain, hvariable (.inr rfl), hrendered⟩

end DocTable
