import DocTable.Proofs.Manifest.Reading

/-!
# Entries are read by their fields

What is read from an entry depends on the values of its fields, and neither on their order nor on
any other key.  Entries that agree on the fields of a parameter, of a member or of a symbol give the
same, failures and events included (`readParameter_congr`, `readMember_congr`, `readEntry_congr`).
Of a section it is enough that its entries are read alike (`readSection_congr`).
-/

namespace DocTable

/-! ### Results that are alike -/

section

variable {ε α α' β β' γ : Type} {R : α → β → Prop}

/-- Both computations fail in the same way, or their results are related. -/
inductive Alike (R : α → β → Prop) : Except ε α → Except ε β → Prop where
  | error (e : ε) : Alike R (.error e) (.error e)
  | ok {a : α} {b : β} (h : R a b) : Alike R (.ok a) (.ok b)

/-- A computation is like itself if all results are related to themselves. -/
theorem Alike.refl {R : α → α → Prop} (hR : ∀ a, R a a) (x : Except ε α) :
  Alike R x x
  := by
  cases x with
  | error e => exact .error e
  | ok a => exact .ok (hR a)

/-- The relation of the results may be weakened. -/
theorem Alike.mono {R' : α → β → Prop} {x : Except ε α} {y : Except ε β} (h : Alike R x y)
    (hR : ∀ a b, R a b → R' a b) :
  Alike R' x y
  := by
  cases h with
  | error e => exact .error e
  | ok h => exact .ok (hR _ _ h)

/-- Alike computations that go on alike are alike. -/
theorem Alike.bind {R' : α' → β' → Prop} {x : Except ε α} {y : Except ε β} (h : Alike R x y)
    {f : α → Except ε α'} {g : β → Except ε β'} (hfg : ∀ a b, R a b → Alike R' (f a) (g b)) :
  Alike R' (x >>= f) (y >>= g)
  := by
  cases h with
  | error e => exact .error e
  | ok h => exact hfg _ _ h

/-- Computations that go on alike with alike results come to the same. -/
theorem Alike.bind_eq {x : Except ε α} {y : Except ε β} (h : Alike R x y) {f : α → Except ε γ}
    {g : β → Except ε γ} (hfg : ∀ a b, R a b → f a = g b) :
  x >>= f = y >>= g
  := by
  cases h with
  | error e => rfl
  | ok h => exact hfg _ _ h

/-- The same holds where the computations go on with log records. -/
theorem Alike.logged_bind_eq {x : Except ε α} {y : Except ε β} (h : Alike R x y)
    {f : α → Logged ε γ} {g : β → Logged ε γ} (hfg : ∀ a b, R a b → f a = g b) :
  (liftM x >>= f : Logged ε γ) = liftM y >>= g
  := by
  cases h with
  | error e => rfl
  | ok h => exact hfg _ _ h

/-- Another name for the failures leaves computations alike. -/
theorem Alike.mapError {ε' : Type} {x : Except ε α} {y : Except ε β} (h : Alike R x y)
    (f : ε → ε') :
  Alike R (x.mapError f) (y.mapError f)
  := by
  cases h with
  | error e => exact .error (f e)
  | ok h => exact .ok h

/-- How a computation goes on matters only for the result that it has. -/
theorem logged_bind_congr {x : Except ε α} {f g : α → Logged ε γ}
    (h : ∀ a, x = .ok a → f a = g a) :
  (liftM x >>= f : Logged ε γ) = liftM x >>= g
  := by
  cases x with
  | error e => rfl
  | ok a => exact h a rfl

/-- Lists of computations that are alike one by one are alike. -/
theorem alike_mapM {f : α' → Except ε α} {g : β' → Except ε β} {as : List α'} {bs : List β'}
    (h : List.Forall₂ (fun a b => Alike R (f a) (g b)) as bs) :
  Alike (List.Forall₂ R) (as.mapM f) (bs.mapM g)
  := by
  induction h with
  | nil => exact .ok .nil
  | cons hfirst _ ih =>
    rw [List.mapM_cons, List.mapM_cons]
    exact hfirst.bind fun _ _ h => ih.bind fun _ _ hs => .ok (.cons h hs)

/-- Only one of the items has to be looked at if the others are the same. -/
theorem alike_mapM_place {f : α' → Except ε α} {R : α → α → Prop} (hR : ∀ a, R a a) {a a' : α'}
    (h : Alike R (f a) (f a')) (before after : List α') :
  Alike (List.Forall₂ R) ((before ++ a :: after).mapM f) ((before ++ a' :: after).mapM f)
  := by
  have hsame (items : List α') :
      List.Forall₂ (fun b b' => Alike R (f b) (f b')) items items :=
    List.forall₂_same.mpr fun b _ => .refl hR (f b)
  exact alike_mapM (List.rel_append (hsame before) (.cons h (hsame after)))

/-- Lists of computations that are equal one by one are equal. -/
theorem mapM_congr_forall₂ {f : α → Except ε γ} {g : β → Except ε γ} {as : List α} {bs : List β}
    (h : List.Forall₂ (fun a b => f a = g b) as bs) :
  as.mapM f = bs.mapM g
  := by
  induction h with
  | nil => rfl
  | cons hfirst _ ih => rw [List.mapM_cons, List.mapM_cons, hfirst, ih]

/-- The same holds for computations with log records. -/
theorem forAll_congr_forall₂ {f : α → Logged ε γ} {g : β → Logged ε γ} {as : List α} {bs : List β}
    (h : List.Forall₂ (fun a b => f a = g b) as bs) :
  Logged.forAll f as = Logged.forAll g bs
  := by
  induction h with
  | nil => rfl
  | cons hfirst _ ih => rw [Logged.forAll, Logged.forAll, hfirst, ih]

end

namespace Manifest

/-! ### Fields -/

namespace Entry

/-- The entries have the same fields but for some names. -/
def AgreesBut (differing : List String) (e e' : Entry) : Prop :=
  ∀ name, name ∉ differing → e.field? name = e'.field? name

variable {differing : List String} {e e' : Entry}

/-- Entries that agree on some fields agree on fewer. -/
theorem AgreesBut.mono {more : List String} (h : AgreesBut differing e e')
    (hmore : differing ⊆ more) :
  AgreesBut more e e'
  := fun name hname => h name (mt (@hmore name) hname)

/-- Entries that differ in one value agree on the fields with other names. -/
theorem agreesBut_place (before after : Entry) (key : String) (v v' : Value) :
  AgreesBut [key] (before ++ (.text key, v) :: after) (before ++ (.text key, v') :: after)
  := by
  intro name hname
  have hne : key ≠ name := Ne.symm (by simpa using hname)
  rw [Entry.field?, Entry.field?, Value.lookup?_append, Value.lookup?_append,
    Value.lookup?_cons_of_ne hne, Value.lookup?_cons_of_ne hne]

section

variable (h : AgreesBut differing e e')

include h

/-- A field on which the entries agree is given in one if it is given in the other. -/
theorem AgreesBut.given? {name : String} (hname : name ∉ differing) :
  e.given? name = e'.given? name
  := by
  rw [Entry.given?, h name hname, Entry.given?]

/-- A field on which the entries agree has the same text. -/
theorem AgreesBut.plain? (name : String) (hname : name ∉ differing) :
  e.plain? name = e'.plain? name
  := by
  rw [Entry.plain?, h name hname, Entry.plain?]

/-- A field on which the entries agree has the same words. -/
theorem AgreesBut.wordsOf (name : String) (hname : name ∉ differing) :
  e.wordsOf name = e'.wordsOf name
  := by
  rw [Entry.wordsOf, h name hname, Entry.wordsOf]

/-- Entries that agree on the name have the same one. -/
theorem AgreesBut.name? (hname : "name" ∉ differing) :
  e.name? = e'.name?
  := by
  rw [Entry.name?, h _ hname, Entry.name?]

/-- Entries that agree on the comment have the same one. -/
theorem AgreesBut.comment? (hdoc : "doc" ∉ differing) :
  e.comment? = e'.comment?
  := by
  rw [Entry.comment?, h _ hdoc, Entry.comment?]

/-- The type depends on two fields. -/
theorem AgreesBut.type (htype : "type" ∉ differing) (hnullable : "nullable" ∉ differing) :
  e.type = e'.type
  := by
  rw [Entry.type, h _ hnullable, h.given? htype, Entry.type]

/-- The text of the default depends on two fields. -/
theorem AgreesBut.defaultText (hdefault : "default" ∉ differing) (hvalue : "value" ∉ differing) :
  e.defaultText = e'.defaultText
  := by
  rw [Entry.defaultText, h _ hdefault, h _ hvalue, Entry.defaultText]

end

end Entry

open Entry

variable {manifest : Path} {owner : String} {e e' : Entry}

/-! ### Members -/

/-- With the same name, entries are read or refused alike. -/
theorem nameOf_congr (h : e.name? = e'.name?) (missing : Defect) :
  nameOf manifest missing e = nameOf manifest missing e'
  := by
  rw [nameOf, h, nameOf]

/-- Entries of parameters that agree on all fields are read alike. -/
theorem readParameter_congr (h : AgreesBut [] e e') (method : String) :
  readParameter manifest owner method e = readParameter manifest owner method e'
  := by
  rw [readParameter, nameOf_congr (h.name? List.not_mem_nil), h.type List.not_mem_nil
    List.not_mem_nil, h.defaultText List.not_mem_nil List.not_mem_nil, readParameter]

/-- The parameters of methods are the same if the entries for them have the same fields. -/
theorem readParameters_congr
    (h : Alike (List.Forall₂ (AgreesBut [])) (sectionEntries manifest owner .parameters e)
      (sectionEntries manifest owner .parameters e')) (method : String) :
  readParameters manifest owner method e = readParameters manifest owner method e'
  := by
  rw [readParameters, readParameters]
  apply h.bind_eq
  intro entries entries' hentries
  apply mapM_congr_forall₂
  apply hentries.imp
  intro p p' hfields
  apply readParameter_congr hfields

/-- Entries of members are read alike if their parameters are, and if they agree on all other
fields. -/
theorem readMember_congr (h : AgreesBut ["params"] e e')
    (hparameters : ∀ method,
      readParameters manifest owner method e = readParameters manifest owner method e')
    (kind : MemberKind) :
  readMember manifest owner kind e = readMember manifest owner kind e'
  := by
  unfold readMember docBlockOf
  simp only [nameOf_congr (h.name? (by decide)), hparameters, h.wordsOf "modifiers" (by decide),
    h.type (by decide) (by decide), h.defaultText (by decide) (by decide), h.comment? (by decide)]

/-- A section holds the same members if its entries are read alike. -/
theorem readSection_congr {part : Section} {kind : MemberKind}
    (h : Alike (List.Forall₂ fun m m' =>
        readMember manifest owner kind m = readMember manifest owner kind m')
      (sectionEntries manifest owner part e) (sectionEntries manifest owner part e')) :
  readSection manifest owner part kind e = readSection manifest owner part kind e'
  := by
  rw [readSection, readSection]
  refine h.logged_bind_eq fun entries entries' hentries => ?_
  rw [forAll_congr_forall₂ hentries]

/-- The entries of a section depend on nothing but its field. -/
theorem sectionEntries_congr {part : Section} (h : e.given? part.word = e'.given? part.word) :
  sectionEntries manifest owner part e = sectionEntries manifest owner part e'
  := by
  rw [sectionEntries, h, sectionEntries]

/-- Sections with the same field are read alike. -/
theorem readSection_of_given? {part : Section} (h : e.given? part.word = e'.given? part.word)
    (kind : MemberKind) :
  readSection manifest owner part kind e = readSection manifest owner part kind e'
  := by
  rw [readSection, sectionEntries_congr h, readSection]

/-! ### Symbols -/

/-- A symbol is the same if the namespaces of the entries come to the same beside its name, and
their sections hold the same members. -/
theorem readEntry_congr {here : Path} {index : Nat}
    (h : AgreesBut ["namespace", "constants", "properties", "methods"] e e')
    (hnamespace : ∀ name, e.name? = some name →
      Alike (fun given given' : Option String =>
          let outer := String.ofList (splitFullName (stripLeading '\\' name)).1
          given.getD outer = given'.getD outer)
        (namespaceOf? e) (namespaceOf? e'))
    (hsections : ∀ owner part kind,
      readSection manifest owner part kind e = readSection manifest owner part kind e') :
  readEntry here manifest index e = readEntry here manifest index e'
  := by
  unfold readEntry docBlockOf kindOf sourceFileOf
  simp only [← nameOf_congr (h.name? (by decide)), hsections, h.comment? (by decide),
    h.wordsOf "modifiers" (by decide), h.wordsOf "interfaces" (by decide),
    h.plain? "kind" (by decide), h.plain? "parent" (by decide), h.plain? "file" (by decide)]
  -- the namespaces are compared beside the name only, from which one that is not given comes
  refine logged_bind_congr fun name hname => ?_
  have hgiven := (hnamespace name (nameOf_eq_ok_iff.mp hname)).mapError Failure.unprintable
  refine hgiven.logged_bind_eq fun given given' hsame => ?_
  simp only [hsame]

end Manifest

end DocTable
