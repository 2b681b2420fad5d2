import DocTable.Export
import DocTable.Proofs.Catalog.Run
import DocTable.Proofs.Comment.TagBody
import DocTable.Proofs.Json.Document

/-!
# The document of a snapshot

The document of a snapshot lies at most nine levels deep, and no object of it has a name twice.

A snapshot is determined by its document if it is `Snapshot.IsExportable`: what the document leaves
out is then found elsewhere in it.  The namespace and the short name of a symbol are its keys, the
kind of a member is that of its section, and the markers of a parameter stand before its variable.
-/

namespace DocTable

/-- Only a tag with a variable has markers. -/
def Tag.MarksVariable : Tag → Prop
  | .param tag => tag.variableName = "" → tag.variadic = false ∧ tag.byReference = false
  | _ => True

/-- Only tags with a variable have markers. -/
def DocBlock.MarksVariables (block : DocBlock) : Prop :=
  ∀ tag ∈ block.allTags, tag.MarksVariable

/-- A member has the kind of the section that it stands in, and its block keeps to variables. -/
structure Member.Fits (m : Member) (kind : MemberKind) : Prop where
  kind : m.kind = kind
  docBlock : m.docBlock.MarksVariables

/-- All members of a section fit it. -/
def IsSection (kind : MemberKind) (members : OrderedMap String Member) : Prop :=
  ∀ m ∈ members.values, m.Fits kind

/-- The document of a symbol leaves out nothing but its keys. -/
structure Symbol.IsExportable (s : Symbol) : Prop where
  docBlock : s.docBlock.MarksVariables
  constants : IsSection .constant s.constants
  properties : IsSection .property s.properties
  methods : IsSection .method s.methods

/-- The document of a snapshot leaves out nothing that is not found elsewhere in it. -/
structure Snapshot.IsExportable (snapshot : Snapshot) : Prop where
  /-- Every symbol stands at its own place. -/
  wellKeyed : Catalog.WellKeyed snapshot
  symbol : ∀ name short s, Catalog.find? snapshot name short = some s → s.IsExportable

namespace Export

open Json (Document)

/-! ### Depth -/

/-- An array of texts is one deep. -/
theorem within_texts (depth : Nat) (ss : List String) :
  (texts ss).Within (depth + 1)
  := by
  apply Document.Within.array
  intro d hd
  obtain ⟨s, -, rfl⟩ := List.mem_map.mp hd
  apply Document.Within.text

/-- An object of texts is one deep, if its names are told apart. -/
theorem within_record (depth : Nat) {fields : List (String × String)}
    (names : (fields.map Prod.fst).Nodup) :
  (record fields).Within (depth + 1)
  := by
  apply Document.Within.object
  · rwa [List.map_map]
  · intro f hf
    obtain ⟨f, -, rfl⟩ := List.mem_map.mp hf
    apply Document.Within.text

/-- The object of a map is one deeper than those of its values. -/
theorem within_mapping {α : Type} {depth : Nat} {f : α → Document} (hf : ∀ a, (f a).Within depth)
    (m : OrderedMap String α) :
  (mapping f m).Within (depth + 1)
  := by
  apply Document.Within.object
  · rw [List.map_map]
    exact m.nodup
  · intro e he
    obtain ⟨e, -, rfl⟩ := List.mem_map.mp he
    apply hf

/-- An array of tags is two deep. -/
theorem within_tags (depth : Nat) (tags : List Tag) :
  (Document.array (tags.map fun tag => record (tagFields tag))).Within (depth + 2)
  := by
  apply Document.Within.array
  intro d hd
  obtain ⟨tag, -, rfl⟩ := List.mem_map.mp hd
  apply within_record
  cases tag <;> simp [tagFields]

/-- A documentation block is four deep. -/
theorem within_docBlock (depth : Nat) (block : DocBlock) :
  (docBlock block).Within (depth + 4)
  := by
  apply Document.Within.object
  · simp
  · simp only [List.forall_mem_cons, List.not_mem_nil, false_implies, implies_true, and_true]
    exact ⟨.text _, .text _, within_mapping (within_tags depth) _⟩

/-- An array of parameters is two deep. -/
theorem within_parameters (depth : Nat) (ps : List Parameter) :
  (Document.array (ps.map parameter)).Within (depth + 2)
  := by
  apply Document.Within.array
  intro d hd
  obtain ⟨p, -, rfl⟩ := List.mem_map.mp hd
  apply within_record
  simp

/-- A member is five deep. -/
theorem within_member (depth : Nat) (m : Member) :
  (member m).Within (depth + 5)
  := by
  unfold member
  apply Document.Within.object
  · split <;> simp
  · split <;>
    simp only [List.cons_append, List.nil_append, List.forall_mem_cons, List.not_mem_nil,
      false_implies, implies_true, and_true]
    · exact ⟨.text _, within_texts _ _, .text _, .text _, within_docBlock depth _⟩
    · exact ⟨.text _, within_texts _ _, .text _, .text _, within_docBlock depth _,
        within_parameters (depth + 2) _⟩

/-- A symbol is seven deep. -/
theorem within_symbol (depth : Nat) (s : Symbol) :
  (symbol s).Within (depth + 7)
  := by
  have hsection (members : OrderedMap String Member) :
      (mapping member members).Within (depth + 6) :=
    within_mapping (within_member depth) members
  apply Document.Within.object
  · simp
  · simp only [List.forall_mem_cons, List.not_mem_nil, false_implies, implies_true, and_true]
    exact ⟨.text _, .text _, .text _, within_texts _ _, .text _, .text _, within_texts _ _,
      within_docBlock (depth + 2) _, hsection _, hsection _, hsection _⟩

/-- A snapshot is nine deep. -/
theorem within_document (depth : Nat) (snapshot : Snapshot) :
  (document snapshot).Within (depth + 9)
  := within_mapping (within_mapping (within_symbol depth)) snapshot

/-! ### What a document determines -/

/-- Texts are told apart by their array. -/
theorem texts_injective :
  Function.Injective texts
  := by
  intro ss ts h
  apply List.map_injective_iff.mpr _ (Document.array.inj h)
  intro s t hst
  apply Document.text.inj hst

/-- Fields are told apart by their object. -/
theorem record_injective :
  Function.Injective record
  := by
  intro fs gs h
  apply eq_of_map_eq _ (Document.object.inj h)
  intro f _ g _ hfg
  rw [Prod.mk.injEq, Document.text.injEq] at hfg
  apply Prod.ext hfg.1 hfg.2

/-- A map is determined by its document if each of its values is, the key given. -/
theorem mapping_injOn {α : Type} {f : α → Document} {m n : OrderedMap String α}
    (hf : ∀ k a b, (k, a) ∈ m.entries → (k, b) ∈ n.entries → f a = f b → a = b)
    (h : mapping f m = mapping f n) :
  m = n
  := by
  apply OrderedMap.ext
  apply eq_of_map_eq _ (Document.object.inj h)
  rintro ⟨k, a⟩ hka ⟨k', b⟩ hkb hab
  rw [Prod.mk.injEq] at hab
  obtain ⟨rfl, hab⟩ := hab
  rw [hf k a b hka hkb hab]

/-- The variable of a parameter and its markers can be told from the signature. -/
theorem signature_injOn {p q : ParamTag} (hp : (Tag.param p).MarksVariable)
    (hq : (Tag.param q).MarksVariable) (h : p.signature = q.signature) :
  p.variableName = q.variableName ∧ p.variadic = q.variadic ∧ p.byReference = q.byReference
  := by
  have hlist := congrArg String.toList h
  rw [ParamTag.toList_signature, ParamTag.toList_signature] at hlist
  by_cases hvariable : p.variableName = ""
  · by_cases hvariable' : q.variableName = ""
    · rw [hvariable, hvariable', (hp hvariable).1, (hp hvariable).2, (hq hvariable').1,
        (hq hvariable').2]
      exact ⟨rfl, rfl, rfl⟩
    · simp [hvariable, hvariable'] at hlist
  · by_cases hvariable' : q.variableName = ""
    · simp [hvariable, hvariable'] at hlist
    · rw [if_neg hvariable, if_neg hvariable'] at hlist
      -- The first two characters tell which markers there are.
      cases hpref : p.byReference <;> cases hqref : q.byReference <;> cases hpvar : p.variadic <;>
        cases hqvar : q.variadic <;> simp_all [String.toList_inj]

/-- Tags that mark their variables are told apart by their objects: the class gives the kind of tag.
-/
theorem tag_injOn {t u : Tag} (ht : t.MarksVariable) (hu : u.MarksVariable)
    (h : record (tagFields t) = record (tagFields u)) :
  t = u
  := by
  have hfields := record_injective h
  cases t <;> cases u <;> simp [tagFields, TagClass.word] at hfields
  case param.param p q =>
    obtain ⟨hvariable, hvariadic, hreference⟩ := signature_injOn ht hu hfields.2.2.1
    obtain ⟨hname, htype, -, hdescription, hrendered⟩ := hfields
    cases p
    cases q
    congr
  case typed.typed p q =>
    obtain ⟨hname, htype, hdescription, hrendered⟩ := hfields
    cases p
    cases q
    congr
  case generic.generic p q =>
    obtain ⟨hname, hrendered⟩ := hfields
    cases p
    cases q
    congr

/-- Documentation blocks whose tags mark their variables are told apart by their objects. -/
theorem docBlock_injOn {b c : DocBlock} (hb : b.MarksVariables) (hc : c.MarksVariables)
    (h : docBlock b = docBlock c) :
  b = c
  := by
  have hmem {block : DocBlock} {kind : String} {tags : List Tag}
      (hkind : (kind, tags) ∈ block.tags.entries) : ∀ tag ∈ tags, tag ∈ block.allTags := by
    intro tag htag
    apply List.mem_flatten_of_mem (List.mem_map_of_mem hkind) htag
  simp only [docBlock, Document.object.injEq, List.cons.injEq, Prod.mk.injEq, Document.text.injEq,
    true_and, and_true] at h
  obtain ⟨hsummary, hdescription, htags⟩ := h
  have htags := mapping_injOn (m := b.tags) (n := c.tags) (by
    intro kind ts us hts hus heq
    apply eq_of_map_eq _ (Document.array.inj heq)
    intro t ht u hu
    apply tag_injOn (hb t (hmem hts t ht)) (hc u (hmem hus u hu))) htags
  cases b
  cases c
  congr

/-- Parameters are told apart by their objects. -/
theorem parameter_injective :
  Function.Injective parameter
  := by
  intro p q h
  have hfields := record_injective h
  simp only [List.cons.injEq, Prod.mk.injEq, true_and, and_true] at hfields
  obtain ⟨hname, htype, hdefault⟩ := hfields
  cases p
  cases q
  congr

/-- Parameters that are left out are told from those that are given. -/
theorem parameters_injective {ps qs : List Parameter}
    (h : (if ps.isEmpty then [] else [("params", Document.array (ps.map parameter))])
      = if qs.isEmpty then [] else [("params", Document.array (qs.map parameter))]) :
  ps = qs
  := by
  split_ifs at h with hps hqs hqs
  · rw [List.isEmpty_iff.mp hps, List.isEmpty_iff.mp hqs]
  · rw [List.cons.injEq, Prod.mk.injEq, Document.array.injEq] at h
    exact List.map_injective_iff.mpr parameter_injective h.1.2

/-- A member is determined by its document and its kind. -/
theorem member_injOn {kind : MemberKind} {m n : Member} (hm : m.Fits kind) (hn : n.Fits kind)
    (h : member m = member n) :
  m = n
  := by
  simp only [member, Document.object.injEq, List.cons_append, List.nil_append, List.cons.injEq,
    Prod.mk.injEq, Document.text.injEq, true_and] at h
  obtain ⟨hname, hmodifiers, htype, hdefault, hdocBlock, hparameters⟩ := h
  have hparameters := parameters_injective hparameters
  have hmodifiers := texts_injective hmodifiers
  have hdocBlock := docBlock_injOn hm.docBlock hn.docBlock hdocBlock
  have hkind := hm.kind.trans hn.kind.symm
  cases m
  cases n
  congr

/-- The members of a section are told apart by their object, which has their names and all fields of
their kind. -/
theorem section_injOn {kind : MemberKind} {ms ns : OrderedMap String Member}
    (hms : IsSection kind ms) (hns : IsSection kind ns)
    (h : mapping member ms = mapping member ns) :
  ms = ns
  := by
  apply mapping_injOn _ h
  intro name m n hm hn
  apply member_injOn (hms m (List.mem_map_of_mem hm)) (hns n (List.mem_map_of_mem hn))

/-- The words for kinds of symbols are distinct. -/
theorem kindWord_injective :
  Function.Injective SymbolKind.word
  := by
  intro k l h
  cases k <;> cases l <;> simp_all [SymbolKind.word]

/-- A symbol is determined by its document and its namespace. -/
theorem symbol_injOn {s t : Symbol} (hname : s.namespaceName = t.namespaceName)
    (hs : s.IsExportable) (ht : t.IsExportable) (h : symbol s = symbol t) :
  s = t
  := by
  simp only [symbol, Document.object.injEq, List.cons.injEq, Prod.mk.injEq, Document.text.injEq,
    true_and, and_true] at h
  obtain ⟨hshort, hfull, hkind, hmodifiers, hfile, hparent, hinterfaces, hdocBlock, hconstants,
    hproperties, hmethods⟩ := h
  have hkind := kindWord_injective hkind
  have hmodifiers := texts_injective hmodifiers
  have hinterfaces := texts_injective hinterfaces
  have hdocBlock := docBlock_injOn hs.docBlock ht.docBlock hdocBlock
  have hconstants := section_injOn hs.constants ht.constants hconstants
  have hproperties := section_injOn hs.properties ht.properties hproperties
  have hmethods := section_injOn hs.methods ht.methods hmethods
  cases s
  cases t
  congr

/-- An exportable snapshot is determined by its document. -/
theorem document_injOn {snapshot snapshot' : Snapshot} (h : snapshot.IsExportable)
    (h' : snapshot'.IsExportable) (hdocument : document snapshot = document snapshot') :
  snapshot = snapshot'
  := by
  apply mapping_injOn _ hdocument
  intro name symbols symbols' hsymbols hsymbols'
  apply mapping_injOn
  intro short s s' hs hs'
  obtain ⟨hfind, hplace⟩ := h.wellKeyed.place_eq hsymbols hs
  obtain ⟨hfind', hplace'⟩ := h'.wellKeyed.place_eq hsymbols' hs'
  have hname := congrArg Prod.fst (hplace.trans hplace'.symm)
  apply symbol_injOn hname (h.symbol _ _ _ hfind) (h'.symbol _ _ _ hfind')

end Export

end DocTable
