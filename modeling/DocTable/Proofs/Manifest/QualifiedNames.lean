import DocTable.Proofs.Manifest.Fields
import DocTable.Proofs.Manifest.Names
import DocTable.Proofs.Text.Lines

/-!
# Qualified names

A full name is made of parts with separators between them.  Whatever blanks and separators stand
before it in an entry, and whatever blanks after it, a symbol gets the parts back: the last of them
as its short name, and those before it as its namespace.  An entry that gives this namespace beside
the name is read as the same symbol (`readEntry_qualifiedName`).
-/

namespace DocTable.Manifest

open Logged Text

/-! ### Parts -/

/-- A part of a full name: it is not empty, has no separator in it, and no blanks at its ends. -/
structure IsNamePart (part : List Char) : Prop where
  ne_nil : part ≠ []
  noSeparator : '\\' ∉ part
  trimmed : trim part = part

/-- The parts with separators between them. -/
def joinParts (parts : List (List Char)) : List Char :=
  ['\\'].intercalate parts

/-- A character that may stand at an end of a name. -/
def IsNameEnd (c : Char) : Prop :=
  c ≠ '\\' ∧ isBlank c = false

theorem IsNamePart.head? {part : List Char} (h : IsNamePart part) :
  ∀ c ∈ part.head?, IsNameEnd c
  := fun c hc => ⟨ne_of_mem_of_not_mem (List.mem_of_mem_head? hc) h.noSeparator,
    (trim_eq_self_iff.mp h.trimmed).1 c hc⟩

theorem IsNamePart.getLast? {part : List Char} (h : IsNamePart part) :
  ∀ c ∈ part.getLast?, IsNameEnd c
  := fun c hc => ⟨ne_of_mem_of_not_mem (List.mem_of_getLast? hc) h.noSeparator,
    (trim_eq_self_iff.mp h.trimmed).2 c hc⟩

theorem joinParts_concat {outer : List (List Char)} (h : outer ≠ []) (short : List Char) :
  joinParts (outer ++ [short]) = joinParts outer ++ '\\' :: short
  := by
  rw [joinParts, intercalate_concat h, joinParts, List.append_assoc, List.singleton_append]

theorem joinParts_singleton (short : List Char) :
  joinParts [short] = short
  := List.intercalate_singleton

variable {outer parts : List (List Char)} {short : List Char}

theorem exists_joinParts_cons (part : List Char) (parts : List (List Char)) :
  ∃ rest, joinParts (part :: parts) = part ++ rest
  := by
  cases parts with
  | nil => exact ⟨[], by rw [joinParts_singleton, List.append_nil]⟩
  | cons next parts =>
    rw [joinParts, List.intercalate_cons_cons, List.append_assoc]
    exact ⟨_, rfl⟩

theorem joinParts_cons_ne_nil {part : List Char} (h : part ≠ []) (parts : List (List Char)) :
  joinParts (part :: parts) ≠ []
  := by
  obtain ⟨rest, hrest⟩ := exists_joinParts_cons part parts
  rw [hrest]
  apply List.append_ne_nil_of_left_ne_nil h

theorem head?_joinParts (h : ∀ part ∈ parts, IsNamePart part) :
  ∀ c ∈ (joinParts parts).head?, IsNameEnd c
  := by
  cases parts with
  | nil => exact nofun
  | cons part parts =>
    rw [List.forall_mem_cons] at h
    obtain ⟨rest, hrest⟩ := exists_joinParts_cons part parts
    rw [hrest, List.head?_append_of_ne_nil _ h.1.ne_nil]
    exact h.1.head?

theorem getLast?_joinParts (h : ∀ part ∈ parts, IsNamePart part) :
  ∀ c ∈ (joinParts parts).getLast?, IsNameEnd c
  := by
  obtain rfl | ⟨outer, short, rfl⟩ := List.eq_nil_or_concat' parts
  · exact nofun
  · have hshort := h short (List.mem_append_right outer List.mem_cons_self)
    by_cases houter : outer = []
    · rw [houter, List.nil_append, joinParts_singleton]
      exact hshort.getLast?
    · rw [joinParts_concat houter, ← List.singleton_append, ← List.append_assoc,
        List.getLast?_append_of_ne_nil _ hshort.ne_nil]
      exact hshort.getLast?

/-- A full name is split before its last part. -/
theorem splitFullName_joinParts (h : '\\' ∉ short) (outer : List (List Char)) :
  splitFullName (joinParts (outer ++ [short])) = (joinParts outer, short)
  := by
  by_cases houter : outer = []
  · rw [houter, List.nil_append, joinParts_singleton, splitFullName_of_not_mem h]
    rfl
  · rw [joinParts_concat houter, splitFullName_append h]

/-! ### Texts -/

/-- The text gives the name with these parts: it may have blanks around it, and separators before
its first part. -/
def GivesName (parts : List (List Char)) (text : String) : Prop :=
  ∃ before after n, allBlank before = true ∧ allBlank after = true
    ∧ text.toList = before ++ (List.replicate n '\\' ++ joinParts parts) ++ after

theorem GivesName.exists_name? {text : String} (h : GivesName parts text) (hne : parts ≠ [])
    (hparts : ∀ part ∈ parts, IsNamePart part) {entry : Entry}
    (hentry : entry.field? "name" = some (.text text)) :
  ∃ n, entry.name? = some (List.replicate n '\\' ++ joinParts parts)
  := by
  obtain ⟨before, after, n, hbefore, hafter, htext⟩ := h
  use n
  have hjoined : joinParts parts ≠ [] := by
    obtain ⟨part, parts, rfl⟩ := List.exists_cons_of_ne_nil hne
    exact joinParts_cons_ne_nil (hparts part List.mem_cons_self).ne_nil parts
  have hhead : ∀ c ∈ (List.replicate n '\\' ++ joinParts parts).head?, isBlank c = false := by
    cases n with
    | zero => exact fun c hc => (head?_joinParts hparts c hc).2
    | succ n =>
      rintro _ ⟨⟩
      rfl
  have hlast : ∀ c ∈ (List.replicate n '\\' ++ joinParts parts).getLast?, isBlank c = false := by
    rw [List.getLast?_append_of_ne_nil _ hjoined]
    exact fun c hc => (getLast?_joinParts hparts c hc).2
  have htrim : trim text.toList = List.replicate n '\\' ++ joinParts parts := by
    rw [htext]
    exact trimWhile_between (List.all_eq_true.mp hbefore) (List.all_eq_true.mp hafter) hhead hlast
  have hblank : ¬allBlank text.toList = true := by
    rw [← trim_eq_nil_iff, htrim]
    apply List.append_ne_nil_of_right_ne_nil _ hjoined
  rw [Entry.name?, hentry]
  simp only [if_neg hblank, htrim]

theorem stripLeading_joinParts (h : ∀ part ∈ parts, IsNamePart part) (n : Nat) :
  stripLeading '\\' (List.replicate n '\\' ++ joinParts parts) = joinParts parts
  := by
  rw [stripLeading, List.dropWhile_append_of_pos (by simp), dropWhile_of_head?]
  intro c hc
  simpa using (head?_joinParts h c hc).1

/-- A namespace that is a text is trimmed, even if the text is empty. -/
theorem namespaceOf?_text {entry : Entry} {s : String}
    (h : entry.field? "namespace" = some (.text s)) :
  namespaceOf? entry = .ok (some (String.ofList (trimWhile (· = '\\') s.toList)))
  := by
  rw [namespaceOf?, h, Option.mapM_some]
  by_cases hempty : s = ""
  · subst hempty
    rfl
  · have hgiven : (Value.text s).isTruthy = true := by
      simpa [Value.isTruthy] using hempty
    rw [if_pos hgiven]
    rfl

/-- The value gives the namespace with these parts: as a text that may have separators around it,
or, if it is the global one, as a value that does not count as given. -/
inductive GivesNamespace (parts : List (List Char)) : Value → Prop where
  | text (s : String) (before after : Nat)
    (h : s.toList = List.replicate before '\\' ++ joinParts parts ++ List.replicate after '\\') :
    GivesNamespace parts (.text s)
  | global {v : Value} (hparts : parts = []) (hv : v.isTruthy = false) : GivesNamespace parts v

theorem GivesNamespace.namespaceOf? {v : Value} (h : GivesNamespace parts v)
    (hparts : ∀ part ∈ parts, IsNamePart part) {entry : Entry}
    (hentry : entry.field? "namespace" = some v) :
  namespaceOf? entry = .ok (some (String.ofList (joinParts parts)))
  := by
  cases h with
  | text s before after hs =>
    have htrim : trimWhile (· = '\\') s.toList = joinParts parts := by
      rw [hs]
      refine trimWhile_between (by simp) (by simp) (fun c hc => ?_) fun c hc => ?_
      · simpa using (head?_joinParts hparts c hc).1
      · simpa using (getLast?_joinParts hparts c hc).1
    rw [namespaceOf?_text hentry, htrim]
  | global hnil hv =>
    rw [Manifest.namespaceOf?, hentry, Option.mapM_some, if_neg (by simp [hv]), hnil]
    rfl

/-! ### Symbols -/

/-- The symbol has the names that the parts of its full name give it. -/
structure HasNames (outer : List (List Char)) (short : List Char) (s : Symbol) : Prop where
  fullName : s.fullName = String.ofList (joinParts (outer ++ [short]))
  shortName : s.shortName = String.ofList short
  namespaceName : s.namespaceName = String.ofList (joinParts outer)
  rejoined : s.fullName
    = if s.namespaceName = "" then s.shortName else s.namespaceName ++ "\\" ++ s.shortName

theorem hasNames {s : Symbol} (hparts : ∀ part ∈ outer ++ [short], IsNamePart part)
    (hfull : s.fullName = String.ofList (joinParts (outer ++ [short])))
    (hshort : s.shortName = String.ofList short)
    (hnamespace : s.namespaceName = String.ofList (joinParts outer)) :
  HasNames outer short s
  := by
  refine ⟨hfull, hshort, hnamespace, ?_⟩
  rw [hfull, hshort, hnamespace]
  cases outer with
  | nil => rw [List.nil_append, joinParts_singleton]; rfl
  | cons part outer =>
    have hpart := hparts part (List.mem_append_left [short] List.mem_cons_self)
    rw [if_neg (by simpa using joinParts_cons_ne_nil hpart.ne_nil outer),
      joinParts_concat (List.cons_ne_nil part outer), List.append_cons (joinParts _),
      String.ofList_append, String.ofList_append]

/-- Another field than the names of a symbol with this full name is a failure. -/
inductive FailsBesideNames (here manifest : Path) (owner : String) (entry : Entry)
    (failure : Failure) : Prop where
  | kind (h : kindOf manifest owner entry = .error failure)
  | sourceFile (h : sourceFileOf here manifest entry = .error failure)
  | members (kind : MemberKind)
    (h : (readSection manifest owner kind.part kind entry).result = .error failure)
  | modifiers (h : orFail (entry.wordsOf "modifiers") = .error failure)
  | parent (h : orFail (entry.plain? "parent") = .error failure)
  | interfaces (h : orFail (entry.wordsOf "interfaces") = .error failure)

theorem failsBesideNames_of_readEntry {here manifest : Path} {index : Nat} {entry : Entry}
    {failure : Failure} {name : List Char} {given : Option String}
    (hname : entry.name? = some name) (hgiven : namespaceOf? entry = .ok given)
    (h : (readEntry here manifest index entry).result = .error failure) :
  FailsBesideNames here manifest (String.ofList (stripLeading '\\' name)) entry failure
  := by
  rw [readEntry, nameOf_eq_ok_iff.mpr hname, hgiven] at h
  obtain h | ⟨_, ⟨⟩, h⟩ := result_bind_eq_error_iff.mp h
  · contradiction
  obtain h | ⟨_, -, h⟩ := result_bind_eq_error_iff.mp h
  · contradiction
  obtain h | ⟨_, -, h⟩ := result_bind_eq_error_iff.mp h
  · exact .kind h
  obtain h | ⟨_, -, h⟩ := result_bind_eq_error_iff.mp h
  · exact .sourceFile h
  obtain h | ⟨_, -, h⟩ := result_bind_eq_error_iff.mp h
  · exact .members .constant h
  obtain h | ⟨_, -, h⟩ := result_bind_eq_error_iff.mp h
  · exact .members .property h
  obtain h | ⟨_, -, h⟩ := result_bind_eq_error_iff.mp h
  · exact .members .method h
  obtain h | ⟨_, -, h⟩ := result_bind_eq_error_iff.mp h
  · exact .modifiers h
  obtain h | ⟨_, -, h⟩ := result_bind_eq_error_iff.mp h
  · exact .parent h
  obtain h | ⟨_, -, h⟩ := result_bind_eq_error_iff.mp h
  · exact .interfaces h
  obtain h | ⟨_, -, h⟩ := result_bind_eq_error_iff.mp h
  · contradiction
  obtain h | ⟨_, -, h⟩ := result_bind_eq_error_iff.mp h
  · contradiction
  · contradiction

/-- Full names are taken apart and put together again.  An entry whose name is written with some
parts gives a symbol with these names, unless another of its fields is a failure, and an entry that
gives the namespace beside the name is read as the same. -/
theorem readEntry_qualifiedName (here manifest : Path) (index : Nat) {outer : List (List Char)}
    {short : List Char} (hparts : ∀ part ∈ outer ++ [short], IsNamePart part) {entry : Entry}
    {text : String} (hname : entry.field? "name" = some (.text text))
    (htext : GivesName (outer ++ [short]) text) (hnone : entry.field? "namespace" = none) :
  ((∃ s, (readEntry here manifest index entry).result = .ok s ∧ HasNames outer short s)
      ∨ ∃ failure, (readEntry here manifest index entry).result = .error failure
        ∧ FailsBesideNames here manifest (.ofList (joinParts (outer ++ [short]))) entry failure)
    ∧ ∀ entry' v, Entry.AgreesBut ["namespace"] entry entry' →
      entry'.field? "namespace" = some v → GivesNamespace outer v →
        readEntry here manifest index entry' = readEntry here manifest index entry
  := by
  have houter : ∀ part ∈ outer, IsNamePart part := fun part hpart =>
    hparts part (List.mem_append_left [short] hpart)
  have hshort : IsNamePart short := hparts short (List.mem_append_right outer List.mem_cons_self)
  obtain ⟨n, hread⟩ := htext.exists_name? (by simp) hparts hname
  have hgiven : namespaceOf? entry = .ok none := by
    rw [namespaceOf?, hnone]
    rfl
  have hfullName := stripLeading_joinParts hparts n
  have hsplit := splitFullName_joinParts hshort.noSeparator outer
  constructor
  · cases hresult : (readEntry here manifest index entry).result with
    | error failure =>
      have hfails := failsBesideNames_of_readEntry hread hgiven hresult
      rw [hfullName] at hfails
      exact .inr ⟨failure, rfl, hfails⟩
    | ok s =>
      obtain ⟨name, hname', hfull, hshortName, given, hgiven', hnamespace⟩ :=
        (of_readEntry hresult).names
      obtain rfl := Option.some.inj (hread.symm.trans hname')
      obtain rfl := Except.ok.inj (hgiven.symm.trans hgiven')
      rw [hfullName, hsplit] at hshortName hnamespace
      rw [hfullName] at hfull
      exact .inl ⟨s, rfl, hasNames hparts hfull hshortName hnamespace⟩
  · intro entry' v hagrees hv hgives
    have hgiven' := hgives.namespaceOf? houter hv
    symm
    refine readEntry_congr (hagrees.mono (by simp)) (fun name hname' => ?_) fun _ part kind => ?_
    · obtain rfl := Option.some.inj (hread.symm.trans hname')
      rw [hgiven, hgiven']
      refine .ok ?_
      rw [hfullName, hsplit]
      rfl
    · have hpart : part.word ∉ ["namespace"] := by
        cases part <;> decide
      apply readSection_of_given? (hagrees.given? hpart)

/-- The name of a trait, with blanks around it and two separators before its parts. -/
def poolName : String := " \\\\App\\Cache\\Pool\t"

/-- The entry of this trait. -/
def poolEntry : Entry := [(.text "name", .text poolName), (.text "kind", .text "trait")]

/-- The trait with its namespace, between separators. -/
def placedPoolEntry : Entry := (.text "namespace", .text "\\App\\Cache\\\\") :: poolEntry

theorem readEntry_qualifiedName_pool :
  let outer := ["App".toList, "Cache".toList]
  let short := "Pool".toList
  let manifest : Path := .ofText "pool.symbols.json"
  (∀ part ∈ outer ++ [short], IsNamePart part) ∧ GivesName (outer ++ [short]) poolName
    ∧ poolEntry.field? "namespace" = none ∧ GivesNamespace outer (.text "\\App\\Cache\\\\")
    ∧ (∃ s, (readEntry {} manifest 0 poolEntry).result = .ok s ∧ HasNames outer short s)
    ∧ readEntry {} manifest 0 placedPoolEntry = readEntry {} manifest 0 poolEntry
  := by
  intro outer short manifest
  have hparts : ∀ part ∈ outer ++ [short], IsNamePart part := by
    have hpart {part : List Char} (h : part ≠ [] ∧ '\\' ∉ part ∧ trim part = part) :
        IsNamePart part := ⟨h.1, h.2.1, h.2.2⟩
    simp only [outer, short, List.cons_append, List.nil_append, List.forall_mem_cons]
    exact ⟨hpart (by decide), hpart (by decide), hpart (by decide), nofun⟩
  have hname : poolEntry.field? "name" = some (.text poolName) := rfl
  have htext : GivesName (outer ++ [short]) poolName :=
    ⟨" ".toList, "\t".toList, 2, by decide, by decide, by decide⟩
  have hnone : poolEntry.field? "namespace" = none := by decide
  have hgives : GivesNamespace outer (.text "\\App\\Cache\\\\") := .text _ 1 2 (by decide)
  have hagrees : Entry.AgreesBut ["namespace"] poolEntry placedPoolEntry := by
    intro name hname
    rw [List.mem_singleton] at hname
    rw [Entry.field?, Entry.field?, placedPoolEntry, Value.lookup?_cons_of_ne (Ne.symm hname)]
  have hfull : (readEntry {} manifest 0 poolEntry).result.map Symbol.fullName
      = .ok "App\\Cache\\Pool" := by
    decide
  obtain ⟨⟨s, hs, hnames⟩ | ⟨failure, hfailure, -⟩, hplaced⟩ :=
    readEntry_qualifiedName {} manifest 0 hparts hname htext hnone
  · exact ⟨hparts, htext, hnone, hgives, ⟨s, hs, hnames⟩, hplaced _ _ hagrees rfl hgives⟩
  · rw [hfailure] at hfull
    contradiction

end DocTable.Manifest
