import DocTable.Markdown.Rule
import DocTable.Proofs.Markdown.Plain.Node

/-!
# Plain markup

The rules of inline markup find plain nodes in plain nodes, and leave plain nodes after them.  The
references that they make have names and numbers for their bodies.
-/

namespace DocTable.Markdown

open Node Guarantee

/-! ### Cutting -/

/-- Two parts of some nodes are plain. -/
def BothPlain (parts : List Node × List Node) : Prop :=
  AllPlain parts.1 ∧ AllPlain parts.2

variable {nodes : List Node}

/-- What comes after some characters at the front of plain nodes is plain. -/
theorem afterChars_gives (cs : List Char) (h : AllPlain nodes) :
  option.gives AllPlain (afterChars cs nodes)
  := by
  rw [option_gives_iff]
  intro rest hrest
  obtain ⟨before, rfl⟩ := append_of_afterChars hrest
  exact (allPlain_append.mp h).2

/-- Where plain nodes are cut by a condition on the node before and the nodes from there on, both
parts are plain. -/
theorem cutWhere_gives {p : Option Node → List Node → Bool} (previous : Option Node)
    (h : AllPlain nodes) :
  option.gives BothPlain (cutWhere p previous nodes)
  := by
  rw [option_gives_iff]
  rintro ⟨before, rest⟩ hcut
  rw [append_of_cutWhere hcut] at h
  exact allPlain_append.mp h

/-- The longest front of plain nodes with a property is plain, and so is what is left. -/
theorem bothPlain_of_span {p : Node → Bool} {parts : List Node × List Node}
    (hspan : nodes.span p = parts) (h : AllPlain nodes) :
  BothPlain parts
  := by
  rw [← hspan, List.span_eq_takeWhile_dropWhile]
  constructor
  · apply h.mono (List.takeWhile_sublist _).subset
  · apply h.mono (List.dropWhile_sublist _).subset

/-- The label up to the bracket that closes it is plain, and so is what comes after the bracket.
The induction is on the nodes, for all depths of brackets at once. -/
theorem label?_gives (depth : Nat) (h : AllPlain nodes) :
  option.gives BothPlain (label? depth nodes)
  := by
  induction nodes generalizing depth with
  | nil => exact option_gives_none
  | cons node nodes ih =>
    have hlonger (depth : Nat) : option.gives BothPlain
        ((label? depth nodes).map fun parts => (node :: parts.1, parts.2)) := by
      apply option_gives_map (ih depth h.2)
      intro parts hparts
      exact ⟨⟨h.1, hparts.1⟩, hparts.2⟩
    rw [label?]
    split_ifs
    · apply option_gives_some
      exact ⟨trivial, h.2⟩
    · apply hlonger
    · apply hlonger
    · apply hlonger

/-- The nodes in front of a character, if none of the other characters is among them, are plain. -/
theorem upToChar_gives (c : Char) (without : List Char) (h : AllPlain nodes) :
  option.gives BothPlain (upToChar c without nodes)
  := by
  rw [upToChar]
  split
  case h_1 text node rest heq =>
    obtain ⟨htext, hrest⟩ := bothPlain_of_span heq h
    split
    · apply option_gives_some
      exact ⟨htext, hrest.2⟩
    · exact option_gives_none
  case h_2 => exact option_gives_none

/-- Plain nodes without the blanks at their front are plain. -/
theorem allPlain_dropBlanks (h : AllPlain nodes) :
  AllPlain (dropBlanks nodes)
  := h.mono (List.dropWhile_sublist _).subset

/-! ### Targets -/

/-- A target with plain signs. -/
structure Target.IsPlain (target : Target) : Prop where
  href : ∀ s ∈ target.href, s.IsPlain
  title : ∀ title ∈ target.title, ∀ s ∈ title, s.IsPlain

/-- A plain target, and plain nodes after it. -/
def TargetPlain (found : Target × List Node) : Prop :=
  found.1.IsPlain ∧ AllPlain found.2

/-- Trimming leaves no signs but those that are there. -/
theorem trim_subset_signs (signs : List Sign) :
  Sign.trim signs ⊆ signs
  := by
  intro s hs
  rw [Sign.trim, List.mem_reverse] at hs
  have hmem := (List.dropWhile_sublist _).subset hs
  rw [List.mem_reverse] at hmem
  apply (List.dropWhile_sublist _).subset hmem

/-- Taking quotation marks off leaves no signs but those that are there. -/
theorem unquoted_subset (signs : List Sign) :
  unquoted signs ⊆ signs
  := by
  rw [unquoted]
  split
  · split
    · apply ((List.dropLast_sublist _).trans (List.drop_sublist _ _)).subset
    · exact List.Subset.refl signs
  · exact List.Subset.refl signs

/-- A target that is made of plain nodes has plain signs: they are read from the text of these
nodes, trimmed and without quotation marks. -/
theorem isPlain_ofNodes {href : List Node} {title : Option (List Node)} (hhref : AllPlain href)
    (htitle : ∀ nodes ∈ title, AllPlain nodes) :
  (Target.ofNodes href title).IsPlain
  where
  href := by
    intro s hs
    apply isPlain_of_mem_openTextOf hhref s (trim_subset_signs _ hs)
  title := by
    intro signs hsigns s hs
    obtain ⟨nodes, hnodes, rfl⟩ := Option.map_eq_some_iff.mp hsigns
    obtain ⟨s, hmem, rfl⟩ := List.mem_map.mp hs
    split
    · trivial
    · have htrim := (htitle nodes hnodes).mono (Node.trim_subset nodes)
      apply isPlain_of_mem_openTextOf htrim s (unquoted_subset _ hmem)

/-- A title in quotation marks is plain, and so is what comes after it and the blanks behind it. -/
theorem quotedTitle?_gives (h : AllPlain nodes) :
  option.gives BothPlain (quotedTitle? nodes)
  := by
  unfold quotedTitle?
  split
  case h_1 c rest =>
    split
    · apply option_gives_map (upToChar_gives c [] h.2)
      intro parts hparts
      exact ⟨hparts.1, allPlain_dropBlanks hparts.2⟩
    · exact option_gives_none
  case h_2 => exact option_gives_none

/-- A target between angle brackets is plain, with the title after it or without one. -/
theorem angledTarget?_gives (h : AllPlain nodes) :
  option.gives TargetPlain (angledTarget? nodes)
  := by
  apply option.gives_bind (afterChars_gives ['<'] h)
  intro inner hinner
  apply option.gives_bind (upToChar_gives '>' ['<'] hinner)
  rintro ⟨href, rest⟩ ⟨hhref, hrest⟩
  have hblanks := allPlain_dropBlanks hrest
  have htitle := option_gives_iff.mp (quotedTitle?_gives hblanks)
  dsimp only
  cases hquoted : quotedTitle? (dropBlanks rest) with
  | none =>
    apply option.gives_bind (afterChars_gives [')'] hblanks)
    intro rest hrest
    apply option.gives_pure
    exact ⟨isPlain_ofNodes hhref (by simp), hrest⟩
  | some found =>
    obtain ⟨title, after⟩ := found
    obtain ⟨hplain, hafter⟩ := htitle _ hquoted
    apply option.gives_bind (afterChars_gives [')'] hafter)
    intro rest hrest
    apply option.gives_pure
    exact ⟨isPlain_ofNodes hhref (by simpa using hplain), hrest⟩

/-- A target without angle brackets is plain.  It is a run of the nodes themselves, and only the
parenthesis that ends it may lie inside a node. -/
theorem plainTarget?_gives (h : AllPlain nodes) :
  option.gives TargetPlain (plainTarget? nodes)
  := by
  have hpart (n : Nat) : (Target.ofNodes (nodes.take n) none).IsPlain :=
    isPlain_ofNodes (h.mono (List.take_subset _ _)) (by simp)
  unfold plainTarget?
  split
  case h_1 s stop hrun =>
    apply option_gives_some
    refine ⟨?_, h.mono (List.drop_subset _ _)⟩
    dsimp only
    split
    · apply isPlain_ofNodes (h.mono (List.take_subset _ _))
      rintro title ⟨⟩
      apply h.mono
      exact List.Subset.trans (List.drop_subset _ _) (List.take_subset _ _)
    · apply hpart
  case h_2 s hrun =>
    split
    case isFalse => exact option_gives_none
    case isTrue =>
      split
      · apply option_gives_some
        exact ⟨hpart _, h.mono (List.drop_subset _ _)⟩
      · apply option_gives_some
        refine ⟨isPlain_ofNodes ?_ (by simp), allPlain_ofChars _⟩
        exact (allPlain_dropSpelled 2 h.reverse).reverse

/-- Either way of writing a target gives a plain one. -/
theorem target?_gives (h : AllPlain nodes) :
  option.gives TargetPlain (target? nodes)
  := by
  apply option.gives_bind (afterChars_gives ['('] h)
  intro inner hinner
  have hblanks := allPlain_dropBlanks hinner
  exact option_gives_orElse (angledTarget?_gives hblanks) (plainTarget?_gives hblanks)

/-- The name of a reference between brackets is plain, and so is what comes after it. -/
theorem bracketedName?_gives (h : AllPlain nodes) :
  option.gives BothPlain (bracketedName? nodes)
  := by
  cases nodes with
  | nil => exact option_gives_none
  | cons node nodes =>
    have hstart : AllPlain (if node.isBlank then nodes else node :: nodes) := by
      split
      · exact h.2
      · exact h
    apply option.gives_bind (afterChars_gives ['['] hstart)
    intro inner hinner
    apply upToChar_gives ']' [] hinner

/-! ### Findings -/

/-- A rule finds plain nodes, and leaves plain nodes. -/
def Finding.IsPlain : Finding → Prop
  | found made rest => AllPlain made ∧ AllPlain rest
  | _ => True

/-- A rule that finds plain nodes in plain nodes. -/
def Rule.KeepsPlain (rule : Rule) : Prop :=
  ∀ previous nodes, AllPlain nodes → (rule previous nodes).IsPlain

/-- A plain node, and plain nodes after it. -/
def NodePlain (found : Node × List Node) : Prop :=
  found.1.IsPlain ∧ AllPlain found.2

/-- A rule that gives a plain node finds plain nodes, and one that gives none finds nothing. -/
theorem isPlain_ofOption {found : Option (Node × List Node)} (h : option.gives NodePlain found) :
  (Finding.ofOption found).IsPlain
  := by
  rw [option_gives_iff] at h
  cases found with
  | none => trivial
  | some found =>
    obtain ⟨hnode, hrest⟩ := h found rfl
    exact ⟨⟨hnode, trivial⟩, hrest⟩

namespace Rule

/-! ### Code and escapes -/

/-- A span of code that opens with at most `n` marks is plain: its text is escaped, and the rest is
plain as before. -/
theorem codeSpan?_gives (n : Nat) (h : AllPlain nodes) :
  option.gives NodePlain (codeSpan? n nodes)
  := by
  induction n with
  | zero => exact option_gives_none
  | succ n ih =>
    rw [codeSpan?]
    split
    case h_1 => exact ih
    case h_2 first inner hdrop =>
      have hinner : AllPlain (first :: inner) := by
        rw [← hdrop]
        apply h.mono (List.drop_subset _ _)
      split
      case h_1 code rest hcut =>
        obtain ⟨hcode, hrest⟩ := option_gives_iff.mp (cutWhere_gives _ hinner.2) _ hcut
        have htext : AllPlain (first :: code) := ⟨hinner.1, hcode⟩
        apply option_gives_some
        use ⟨by simp, allPlain_flatMap_inCode (htext.mono (Node.trim_subset _))⟩
        apply hrest.mono (List.drop_subset _ _)
      case h_2 => exact ih

/-- The rule for code finds a span of code, or the marks that open none. -/
theorem code_keepsPlain :
  code.KeepsPlain
  := by
  intro previous nodes h
  unfold code
  cases hcut : nodes.span (isChar '\\') with
  | mk slashes rest =>
    obtain ⟨-, hrest⟩ := bothPlain_of_span hcut h
    dsimp only
    split_ifs
    · trivial
    · apply isPlain_ofOption
      apply codeSpan?_gives _ h
    · refine ⟨?_, hrest⟩
      rw [allPlain_iff]
      intro node hnode
      rw [List.eq_of_mem_replicate hnode]
      trivial
    · trivial

/-- The rule for escapes finds the character behind a backslash. -/
theorem escape_keepsPlain :
  escape.KeepsPlain
  := by
  intro previous nodes h
  unfold escape
  split
  · split
    · exact ⟨⟨trivial, trivial⟩, h.2.2⟩
    · trivial
  · trivial
  · trivial

/-! ### Links and images -/

/-- The attributes for the target of a link or an image are plain. -/
theorem isPlain_of_mem_attributes {target : Target} (h : target.IsPlain) (name : AttributeName) :
  ∀ a ∈ ⟨name, target.href⟩ :: target.title.toList.map (⟨.title, ·⟩), Attribute.IsPlain a
  := by
  rw [List.forall_mem_cons]
  use h.href
  intro a ha
  obtain ⟨title, htitle, rfl⟩ := List.mem_map.mp ha
  apply h.title title (Option.mem_toList.mp htitle)

/-- A link from plain nodes to a plain target is plain. -/
theorem isPlain_linkTo {label : List Node} {target : Target} (hlabel : AllPlain label)
    (htarget : target.IsPlain) :
  (linkTo label target).IsPlain
  := ⟨isPlain_of_mem_attributes htarget .href, hlabel⟩

/-- An image of a plain target is plain; the text for it is read from plain nodes. -/
theorem isPlain_imageOf {label : List Node} {target : Target} (hlabel : AllPlain label)
    (htarget : target.IsPlain) :
  (imageOf label target).IsPlain
  := by
  refine ⟨?_, trivial⟩
  rw [List.forall_mem_cons]
  exact ⟨isPlain_of_mem_openTextOf hlabel, isPlain_of_mem_attributes htarget .src⟩

section

variable {findLabel : Option Node → List Node → Option (List Node × List Node)}
  (hlabel : ∀ previous nodes, AllPlain nodes → option.gives BothPlain (findLabel previous nodes))
  {make : List Node → Target → Node}
  (hmake : ∀ label target, AllPlain label → target.IsPlain → (make label target).IsPlain)

include hmake

/-- A link or an image to a reference by name is plain: the target of a reference is spelled by
characters. -/
theorem isPlain_named (references : List Reference) (nodes name : List Node)
    {label rest : List Node} (hlabel : AllPlain label) (hrest : AllPlain rest) :
  (named references make nodes label name rest).IsPlain
  := by
  unfold named
  split
  · refine ⟨⟨hmake _ _ hlabel ?_, trivial⟩, hrest⟩
    exact {
      href := fun s hs => isPlain_of_mem_ofChars hs
      title := by
        intro title htitle s hs
        obtain ⟨cs, -, rfl⟩ := Option.map_eq_some_iff.mp htitle
        apply isPlain_of_mem_ofChars hs }
  · trivial

include hlabel

/-- The rule for links or images with their targets behind them finds plain ones, whatever finds
labels and makes nodes of them. -/
theorem direct_keepsPlain :
  (direct findLabel make).KeepsPlain
  := by
  intro previous nodes h
  apply isPlain_ofOption
  apply option.gives_bind (hlabel previous nodes h)
  rintro ⟨label, rest⟩ ⟨hplain, hrest⟩
  apply option.gives_bind (target?_gives hrest)
  rintro ⟨target, rest⟩ ⟨htarget, hrest⟩
  apply option.gives_pure
  exact ⟨hmake label target hplain htarget, hrest⟩

/-- The rule for links or images with names of references behind them finds plain ones. -/
theorem byName_keepsPlain (references : List Reference) :
  (byName references findLabel make).KeepsPlain
  := by
  intro previous nodes h
  unfold byName
  split
  case h_1 => trivial
  case h_2 label rest hfound =>
    obtain ⟨hplain, hrest⟩ := option_gives_iff.mp (hlabel previous nodes h) _ hfound
    split
    case h_1 => trivial
    case h_2 name rest hname =>
      obtain ⟨-, hrest⟩ := option_gives_iff.mp (bracketedName?_gives hrest) _ hname
      apply isPlain_named hmake _ _ _ hplain hrest

/-- The rule for links or images whose labels are names of references finds plain ones. -/
theorem byLabel_keepsPlain (references : List Reference) :
  (byLabel references findLabel make).KeepsPlain
  := by
  intro previous nodes h
  unfold byLabel
  split
  case h_1 => trivial
  case h_2 label rest hfound =>
    obtain ⟨hplain, hrest⟩ := option_gives_iff.mp (hlabel previous nodes h) _ hfound
    apply isPlain_named hmake _ _ _ hplain hrest

end

/-- The label of a link is plain, and so is what comes after it. -/
theorem linkLabel?_gives (previous : Option Node) (nodes : List Node) (h : AllPlain nodes) :
  option.gives BothPlain (linkLabel? previous nodes)
  := by
  unfold linkLabel?
  split
  · exact option_gives_none
  · apply option.gives_bind (afterChars_gives ['['] h)
    intro inner hinner
    apply label?_gives 0 hinner

/-- The label of an image is plain, and so is what comes after it. -/
theorem imageLabel?_gives (previous : Option Node) (nodes : List Node) (h : AllPlain nodes) :
  option.gives BothPlain (imageLabel? previous nodes)
  := by
  apply option.gives_bind (afterChars_gives ['!', '['] h)
  intro inner hinner
  apply label?_gives 0 hinner

/-! ### Addresses -/

/-- The rule for addresses in the web finds a link whose target and text are the address. -/
theorem webAddress_keepsPlain :
  webAddress.KeepsPlain
  := by
  intro previous nodes h
  apply isPlain_ofOption
  apply option.gives_bind (afterChars_gives ['<'] h)
  intro inner hinner
  apply option.gives_bind (upToChar_gives '>' ['<'] hinner)
  rintro ⟨address, rest⟩ ⟨haddress, hrest⟩
  apply option.gives_after
  intro scheme
  apply option.gives_after
  intro _
  apply option.gives_after
  intro _
  apply option.gives_pure
  refine ⟨⟨?_, haddress⟩, hrest⟩
  rw [List.forall_mem_singleton]
  exact isPlain_of_mem_openTextOf haddress

/-- The number of a character is written without delimiters. -/
theorem numericReference_isPlain (c : Char) :
  (numericReference c).all (!isDelimiter ·)
  := by
  have hdigits : (Nat.toDigits 10 c.toNat).all Char.isDigit := by
    rw [List.all_eq_true]
    intro d hd
    apply Nat.isDigit_of_mem_toDigits (b := 10) (n := c.toNat) (by decide) (by decide) hd
  rw [numericReference, List.all_cons, Bool.and_eq_true]
  exact ⟨rfl, all_not_isDelimiter (by decide) hdigits⟩

/-- The names of characters have no delimiters. -/
theorem characterNames_isPlain :
  characterNames.all fun (_, name) => name.toList.all (!isDelimiter ·)
  := by
  decide +kernel

/-- What is written for a character in an address of mail, its name or its number, has no
delimiters. -/
theorem characterReference_isPlain (c : Char) :
  (characterReference c).all (!isDelimiter ·)
  := by
  unfold characterReference
  split
  case h_1 name hname =>
    obtain ⟨before, after, hsplit, -⟩ := List.lookup_eq_some_iff.mp hname
    have hmem : (c.toNat, name) ∈ characterNames := by
      rw [hsplit]
      exact List.mem_append_right before List.mem_cons_self
    exact List.all_eq_true.mp characterNames_isPlain _ hmem
  case h_2 => exact numericReference_isPlain c

/-- The rule for addresses of mail finds a link with a reference for each character of the address.
-/
theorem mailAddress_keepsPlain :
  mailAddress.KeepsPlain
  := by
  intro previous nodes h
  apply isPlain_ofOption
  apply option.gives_bind (afterChars_gives ['<'] h)
  intro inner hinner
  apply option.gives_bind (upToChar_gives '>' ['<', ' '] hinner)
  rintro ⟨address, rest⟩ ⟨-, hrest⟩
  apply option.gives_after
  intro _
  apply option.gives_pure
  refine ⟨⟨?_, ?_⟩, hrest⟩
  · rw [List.forall_mem_singleton]
    intro s hs
    obtain ⟨c, -, rfl⟩ := List.mem_map.mp hs
    exact numericReference_isPlain c
  · apply allPlain_map
    intro c _
    exact characterReference_isPlain c

/-! ### Breaks and references to characters -/

/-- The rule for line breaks finds an element without content. -/
theorem lineBreak_keepsPlain :
  lineBreak.KeepsPlain
  := by
  intro previous nodes h
  apply isPlain_ofOption
  apply option_gives_map (afterChars_gives [' ', ' ', '\n'] h)
  intro rest hrest
  exact ⟨⟨by simp, trivial⟩, hrest⟩

/-- The body of a character reference in a text has no delimiters: it is a name or a number. -/
theorem isReferenceBody_isPlain {body : List Char} (h : isReferenceBody body) :
  body.all (!isDelimiter ·)
  := by
  unfold isReferenceBody at h
  split at h
  · rw [Bool.and_eq_true] at h
    rw [List.all_cons, List.all_cons, Bool.and_eq_true, Bool.and_eq_true]
    exact ⟨rfl, rfl, all_not_isDelimiter (by decide) h.2⟩
  · rw [Bool.and_eq_true] at h
    rw [List.all_cons, Bool.and_eq_true]
    exact ⟨rfl, all_not_isDelimiter (by decide) h.2⟩
  · rw [Bool.and_eq_true] at h
    exact all_not_isDelimiter (by decide) h.2

/-- The rule for character references finds one whose body is as it should be. -/
theorem characterEntity_keepsPlain :
  characterEntity.KeepsPlain
  := by
  intro previous nodes h
  apply isPlain_ofOption
  apply option.gives_bind (afterChars_gives ['&'] h)
  intro inner hinner
  apply option.gives_bind (upToChar_gives ';' ['&', ' '] hinner)
  rintro ⟨body, rest⟩ ⟨-, hrest⟩
  apply option.gives_after
  intro body
  apply option.gives_bind (option_gives_guard (isReferenceBody body))
  intro _ hbody
  apply option.gives_pure
  exact ⟨isReferenceBody_isPlain hbody, hrest⟩

/-! ### Emphasis -/

/-- The rule for marks of emphasis that stand alone finds these marks. -/
theorem loneMarks_keepsPlain :
  loneMarks.KeepsPlain
  := by
  intro previous nodes h
  unfold loneMarks
  split
  case h_1 c tail =>
    cases hcut : (char c :: tail).span (isChar c) with
    | mk marks rest =>
      obtain ⟨hmarks, hrest⟩ := bothPlain_of_span hcut h
      dsimp only
      split_ifs
      · exact ⟨hmarks, hrest⟩
      · trivial
  case h_2 => trivial

end Rule

/-- What a form of emphasis finds is plain. -/
def Emphasised.IsPlain : Emphasised → Prop
  | whole _ text => AllPlain text
  | front _ _ first rest => AllPlain first ∧ AllPlain rest
  | back _ _ first last => AllPlain first ∧ AllPlain last

/-- Plain emphasis, and plain nodes after it. -/
def EmphasisPlain (found : Emphasised × List Node) : Prop :=
  found.1.IsPlain ∧ AllPlain found.2

namespace EmphasisForm

/-- A form of emphasis that finds plain texts in plain nodes. -/
def KeepsPlain (form : EmphasisForm) : Prop :=
  ∀ previous nodes, AllPlain nodes → option.gives EmphasisPlain (form previous nodes)

/-- At least one node is taken, and both parts are plain. -/
theorem upTo_gives (p : Option Node → List Node → Bool) (h : AllPlain nodes) :
  option.gives BothPlain (upTo p nodes)
  := by
  cases nodes with
  | nil => exact option_gives_none
  | cons node nodes =>
    apply option_gives_map (cutWhere_gives _ h.2)
    intro parts hparts
    exact ⟨⟨h.1, hparts.1⟩, hparts.2⟩

/-- The text in front of a row of marks is plain, and so is what comes after the marks. -/
theorem upToMarks_gives (mark : Char) (n : Nat) (h : AllPlain nodes) :
  option.gives BothPlain (upToMarks mark n nodes)
  := by
  apply option_gives_map (cutWhere_gives _ h)
  intro parts hparts
  exact ⟨hparts.1, hparts.2.mono (List.drop_subset _ _)⟩

/-- The text in front of a row of marks, which is not empty, is plain, and so is what comes after
the marks. -/
theorem upToMarks₁_gives (mark : Char) (n : Nat) (h : AllPlain nodes) :
  option.gives BothPlain (upToMarks₁ mark n nodes)
  := by
  apply option_gives_map (upTo_gives _ h)
  intro parts hparts
  exact ⟨hparts.1, hparts.2.mono (List.drop_subset _ _)⟩

/-- Strong emphasis around a text that ends with emphasis finds plain texts. -/
theorem strongAround_keepsPlain (mark : Char) :
  (strongAround mark).KeepsPlain
  := by
  intro previous nodes h
  apply option.gives_bind (afterChars_gives _ h)
  intro inner hinner
  apply option.gives_bind (upToMarks₁_gives mark 1 hinner)
  rintro ⟨first, inner⟩ ⟨hfirst, hinner⟩
  apply option.gives_bind (upToMarks_gives mark 2 hinner)
  rintro ⟨rest, after⟩ ⟨hrest, hafter⟩
  apply option.gives_pure
  exact ⟨⟨hfirst, hrest⟩, hafter⟩

/-- Emphasis around a text that ends with strong emphasis finds plain texts. -/
theorem emphasisAround_keepsPlain (mark : Char) :
  (emphasisAround mark).KeepsPlain
  := by
  intro previous nodes h
  apply option.gives_bind (afterChars_gives _ h)
  intro inner hinner
  apply option.gives_bind (upToMarks₁_gives mark 2 hinner)
  rintro ⟨first, inner⟩ ⟨hfirst, hinner⟩
  apply option.gives_bind (upToMarks_gives mark 1 hinner)
  rintro ⟨rest, after⟩ ⟨hrest, hafter⟩
  apply option.gives_pure
  exact ⟨⟨hfirst, hrest⟩, hafter⟩

/-- Emphasis and strong emphasis that are closed together have plain texts. -/
theorem closedTogether_keepsPlain :
  closedTogether.KeepsPlain
  := by
  intro previous nodes h
  apply option.gives_bind (afterChars_gives _ h)
  intro inner hinner
  apply option.gives_bind (upTo_gives _ hinner)
  rintro ⟨first, inner⟩ ⟨hfirst, hinner⟩
  apply option.gives_after
  intro _
  apply option.gives_bind (upToMarks₁_gives '*' 3 (hinner.mono (List.drop_subset _ _)))
  rintro ⟨last, after⟩ ⟨hlast, hafter⟩
  apply option.gives_pure
  exact ⟨⟨hfirst, hlast⟩, hafter⟩

/-- Strong emphasis has a plain text. -/
theorem strong_keepsPlain :
  strong.KeepsPlain
  := by
  intro previous nodes h
  apply option.gives_bind (afterChars_gives _ h)
  intro inner hinner
  apply option.gives_bind (upToMarks₁_gives '*' 2 hinner)
  rintro ⟨text, after⟩ hparts
  apply option.gives_pure
  exact hparts

/-- Emphasis has a plain text. -/
theorem single_keepsPlain :
  single.KeepsPlain
  := by
  intro previous nodes h
  apply option.gives_bind (afterChars_gives _ h)
  intro inner hinner
  apply option.gives_bind (upToMarks₁_gives '*' 1 hinner)
  rintro ⟨text, after⟩ hparts
  apply option.gives_after
  intro _
  apply option.gives_pure
  exact hparts

/-- Emphasis and strong emphasis that are closed together at the end of a word have plain texts. -/
theorem closedTogetherAtWord_keepsPlain :
  closedTogetherAtWord.KeepsPlain
  := by
  intro previous nodes h
  apply option.gives_after
  intro _
  apply option.gives_bind (afterChars_gives _ h)
  intro inner hinner
  apply option.gives_after
  intro _
  apply option.gives_bind (upTo_gives _ hinner)
  rintro ⟨first, inner⟩ ⟨hfirst, hinner⟩
  apply option.gives_bind (upTo_gives _ (hinner.mono (List.drop_subset _ _)))
  rintro ⟨last, after⟩ ⟨hlast, hafter⟩
  apply option.gives_pure
  exact ⟨⟨hfirst, hlast⟩, hafter.mono (List.drop_subset _ _)⟩

/-- Emphasis between the start of a word and the end of one has a plain text. -/
theorem atWord_keepsPlain (tag : Tag) (n : Nat) :
  (atWord tag n).KeepsPlain
  := by
  intro previous nodes h
  apply option.gives_after
  intro _
  apply option.gives_bind (afterChars_gives _ h)
  intro inner hinner
  apply option.gives_after
  intro _
  apply option.gives_bind (upTo_gives _ hinner)
  rintro ⟨text, after⟩ ⟨htext, hafter⟩
  apply option.gives_pure
  exact ⟨htext, hafter.mono (List.drop_subset _ _)⟩

/-- All forms of emphasis, for either mark, find plain texts in plain nodes. -/
theorem keepsPlain_of_mem_all (mark : Char) :
  ∀ form ∈ all mark, KeepsPlain form
  := by
  have hstrong := strongAround_keepsPlain mark
  have hemphasis := emphasisAround_keepsPlain mark
  unfold all
  split
  · simp only [List.forall_mem_cons]
    exact ⟨hstrong, hemphasis, closedTogether_keepsPlain, strong_keepsPlain, single_keepsPlain,
      by simp⟩
  · simp only [List.forall_mem_cons]
    exact ⟨hstrong, hemphasis, closedTogetherAtWord_keepsPlain, atWord_keepsPlain _ _,
      atWord_keepsPlain _ _, by simp⟩

end EmphasisForm

/-- The element for emphasis is plain if what is made of the texts inside is. -/
theorem isPlain_toNode {inside : List Node → List Node}
    (hinside : ∀ text, AllPlain text → AllPlain (inside text)) {found : Emphasised}
    (h : found.IsPlain) :
  (found.toNode inside).IsPlain
  := by
  cases found with
  | whole tag text => exact ⟨by simp, hinside _ h⟩
  | front tag inner first rest =>
    exact ⟨by simp, ⟨by simp, hinside _ h.1⟩, hinside _ h.2⟩
  | back tag inner first last =>
    use by simp
    rw [allPlain_append]
    exact ⟨hinside _ h.1, ⟨by simp, hinside _ h.2⟩, trivial⟩

/-- A run through the forms of emphasis gives plain nodes and leaves plain nodes.  The induction is
on the forms, and what is made of the texts inside has only the forms from there on. -/
theorem emphasisRun_bothPlain (mark : Char) (inside : List EmphasisForm → List Node → List Node)
    {forms : List EmphasisForm} (hforms : ∀ form ∈ forms, form.KeepsPlain)
    (hinside : ∀ forms' ⊆ forms, ∀ text, AllPlain text → AllPlain (inside forms' text))
    (previous : Option Node) (h : AllPlain nodes) :
  BothPlain (emphasisRun mark inside forms previous nodes)
  := by
  induction forms generalizing previous nodes with
  | nil => exact ⟨trivial, h⟩
  | cons form forms ih =>
    rw [List.forall_mem_cons] at hforms
    have hlater (previous : Option Node) {nodes : List Node} (h : AllPlain nodes) :=
      ih hforms.2 (fun forms' hsub => hinside forms' (List.subset_cons_of_subset form hsub))
        previous h
    rw [emphasisRun]
    split
    case h_1 => apply hlater previous h
    case h_2 found rest hfound =>
      obtain ⟨hplain, hrest⟩ := option_gives_iff.mp (hforms.1 previous nodes h) _ hfound
      have hmore := hlater (some (.char mark)) hrest
      refine ⟨⟨isPlain_toNode ?_ hplain, hmore.1⟩, hmore.2⟩
      apply hinside forms (List.subset_cons_self form forms)

/-- Emphasis inside emphasis is plain.  The induction is on the bound for the steps, since the nodes
inside are no part of the recursion. -/
theorem allPlain_emphasise (mark : Char) (fuel : Nat) {forms : List EmphasisForm}
    (hforms : ∀ form ∈ forms, form.KeepsPlain) (previous : Option Node) (h : AllPlain nodes) :
  AllPlain (emphasise mark fuel forms previous nodes)
  := by
  induction fuel generalizing forms previous nodes with
  | zero => exact h
  | succ fuel ih =>
    cases nodes with
    | nil => exact h
    | cons node nodes =>
      have hnode : AllPlain (node :: emphasise mark fuel forms (some node) nodes) :=
        ⟨h.1, ih hforms _ h.2⟩
      rw [emphasise]
      split
      case isFalse => exact hnode
      case isTrue =>
        have hrun : BothPlain (emphasisRun mark (fun forms => emphasise mark fuel forms none)
            forms previous (node :: nodes)) := by
          apply emphasisRun_bothPlain mark _ hforms _ previous h
          intro forms' hsub text htext
          exact ih (fun form hform => hforms form (hsub hform)) none htext
        split
        case h_1 => exact hnode
        case h_2 found rest _ heq =>
          rw [heq] at hrun
          rw [allPlain_append]
          exact ⟨hrun.1, ih hforms _ hrun.2⟩

/-- The first form of emphasis that is found gives a plain node. -/
theorem firstEmphasis_gives (mark : Char) (previous : Option Node) {forms : List EmphasisForm}
    (hforms : ∀ form ∈ forms, form.KeepsPlain) (h : AllPlain nodes) :
  option.gives NodePlain (firstEmphasis mark previous nodes forms)
  := by
  induction forms with
  | nil => exact option_gives_none
  | cons form forms ih =>
    rw [List.forall_mem_cons] at hforms
    rw [firstEmphasis]
    split
    case h_1 => apply ih hforms.2
    case h_2 found rest hfound =>
      obtain ⟨hplain, hrest⟩ := option_gives_iff.mp (hforms.1 previous nodes h) _ hfound
      apply option_gives_some
      refine ⟨isPlain_toNode ?_ hplain, hrest⟩
      intro text htext
      apply allPlain_emphasise mark _ hforms.2 none htext

namespace Rule

/-- The rule for emphasis finds a plain node, and nothing where it may not begin. -/
theorem emphasis_keepsPlain (mark : Char) :
  (emphasis mark).KeepsPlain
  := by
  intro previous nodes h
  apply isPlain_ofOption
  unfold emphasis?
  split
  · apply firstEmphasis_gives mark previous (EmphasisForm.keepsPlain_of_mem_all mark) h
  · exact option_gives_none

/-- All rules find plain nodes in plain nodes. -/
theorem keepsPlain_of_mem_all (references : List Reference) :
  ∀ rule ∈ all references, KeepsPlain rule
  := by
  have hlink label target := @isPlain_linkTo label target
  have himage label target := @isPlain_imageOf label target
  simp only [all, List.forall_mem_cons]
  exact ⟨code_keepsPlain, escape_keepsPlain, byName_keepsPlain linkLabel?_gives hlink references,
    direct_keepsPlain linkLabel?_gives hlink, direct_keepsPlain imageLabel?_gives himage,
    byName_keepsPlain imageLabel?_gives himage references,
    byLabel_keepsPlain linkLabel?_gives hlink references,
    byLabel_keepsPlain imageLabel?_gives himage references, webAddress_keepsPlain,
    mailAddress_keepsPlain, lineBreak_keepsPlain, characterEntity_keepsPlain,
    loneMarks_keepsPlain, emphasis_keepsPlain '*', emphasis_keepsPlain '_', by simp⟩

end Rule

end DocTable.Markdown
