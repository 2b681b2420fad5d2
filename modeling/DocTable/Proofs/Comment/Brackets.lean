import DocTable.Proofs.Comment.TagBody

/-!
# Brackets

The brackets of four kinds match in the texts that are `Balanced`, which are those that
`balancedFrom` accepts (`balancedFrom_iff`).  A blank of such a text that is not inside brackets has
a balanced text before it (`blanksInside_iff`), and at the first blank of this kind `splitTypeFrom`
cuts, although it takes no notice of brackets that do not match (`splitTypeFrom_of_balanced`,
`hasNoGap_splitTypeFrom`).
-/

namespace DocTable.Comment

open Text

/-- The brackets of four kinds. -/
def brackets : List (Char × Char) :=
  [('<', '>'), ('(', ')'), ('[', ']'), ('\x7b', '\x7d')]

/-- A character that is no bracket. -/
def IsNoBracket (c : Char) : Prop :=
  ∀ pair ∈ brackets, c ≠ pair.1 ∧ c ≠ pair.2

/-- Texts in which the brackets match. -/
inductive Balanced : List Char → Prop where
  | nil : Balanced []
  | char {c : Char} (hc : IsNoBracket c) {rest : List Char} (hrest : Balanced rest) :
      Balanced (c :: rest)
  | pair {opening closing : Char} (h : (opening, closing) ∈ brackets) {inside rest : List Char}
      (hinside : Balanced inside) (hrest : Balanced rest) :
      Balanced (opening :: (inside ++ closing :: rest))

/-- A character between `before` and `after` stands between two brackets that match. -/
def IsInside (before : List Char) (c : Char) (after : List Char) : Prop :=
  ∃ outer opening left right closing outer', (opening, closing) ∈ brackets
    ∧ before = outer ++ opening :: left ∧ after = right ++ closing :: outer'
    ∧ Balanced (left ++ c :: right)

/-- Every blank of a text is inside brackets. -/
def BlanksInside (cs : List Char) : Prop :=
  ∀ before c after, cs = before ++ c :: after → isBlank c → IsInside before c after

/-! ### Characters -/

/-- A character opens a bracket if it is the first of a pair. -/
theorem closer?_eq_some_iff {c closing : Char} :
  closer? c = some closing ↔ (c, closing) ∈ brackets
  := by
  unfold closer? brackets
  grind

/-- Other characters neither open a bracket nor close one. -/
theorem isNoBracket_iff {c : Char} :
  IsNoBracket c ↔ closer? c = none ∧ isCloser c = false
  := by
  simp only [IsNoBracket, brackets, List.forall_mem_cons]
  unfold closer? isCloser
  grind

/-- The second of a pair closes a bracket and opens none. -/
theorem isCloser_of_mem {pair : Char × Char} (h : pair ∈ brackets) :
  closer? pair.2 = none ∧ isCloser pair.2
  := by
  revert pair
  decide

/-- A character is no bracket if it has a property that no bracket has. -/
theorem isNoBracket_of {p : Char → Bool}
    (hp : ∀ pair ∈ brackets, p pair.1 = false ∧ p pair.2 = false) {c : Char} (hc : p c) :
  IsNoBracket c
  := by
  intro pair hpair
  constructor
  · rintro rfl
    rw [(hp pair hpair).1] at hc
    contradiction
  · rintro rfl
    rw [(hp pair hpair).2] at hc
    contradiction

/-- No blank is a bracket. -/
theorem isNoBracket_of_isBlank {c : Char} (hc : isBlank c) :
  IsNoBracket c
  := isNoBracket_of (by decide) hc

/-! ### Balanced texts -/

/-- Balanced texts in a row are balanced. -/
theorem Balanced.append {cs cs' : List Char} (h : Balanced cs) (h' : Balanced cs') :
  Balanced (cs ++ cs')
  := by
  induction h with
  | nil => exact h'
  | char hc _ ih => exact ih.char hc
  | pair hpair hinside _ _ ih =>
    rw [List.cons_append, List.append_assoc]
    exact .pair hpair hinside ih

/-- What a character adds to the number of open brackets. -/
def rise (c : Char) : Int :=
  if (closer? c).isSome then 1 else if isCloser c then -1 else 0

/-- A text without brackets is balanced. -/
theorem balanced_of_isNoBracket {cs : List Char} (h : ∀ c ∈ cs, IsNoBracket c) :
  Balanced cs
  := by
  induction cs with
  | nil => exact .nil
  | cons c cs ih =>
    rw [List.forall_mem_cons] at h
    exact (ih h.2).char h.1

/-- The number of brackets that are open after a text; those that are closed too often count
negatively. -/
def depth : List Char → Int
  | [] => 0
  | c :: cs => rise c + depth cs

/-- The depth rises with each character. -/
theorem depth_cons (c : Char) (cs : List Char) :
  depth (c :: cs) = rise c + depth cs
  := rfl

/-- The depth of a text is that of its parts together. -/
theorem depth_append (cs cs' : List Char) :
  depth (cs ++ cs') = depth cs + depth cs'
  := by
  induction cs with
  | nil => exact (Int.zero_add _).symm
  | cons c cs ih => rw [List.cons_append, depth_cons, depth_cons, ih, Int.add_assoc]

/-- The depth stays where there is no bracket. -/
theorem rise_of_isNoBracket {c : Char} (hc : IsNoBracket c) :
  rise c = 0
  := by
  obtain ⟨hopening, hclosing⟩ := isNoBracket_iff.mp hc
  rw [rise, hopening, hclosing]
  rfl

/-- A bracket raises the depth by one where it is opened, and lowers it by one where it is closed.
-/
theorem rise_of_mem {pair : Char × Char} (h : pair ∈ brackets) :
  rise pair.1 = 1 ∧ rise pair.2 = -1
  := by
  revert pair
  decide

/-- A balanced text closes what it opens. -/
theorem Balanced.depth_eq_zero {cs : List Char} (h : Balanced cs) :
  depth cs = 0
  := by
  induction h with
  | nil => rfl
  | char hc _ ih => rw [depth_cons, rise_of_isNoBracket hc, ih, Int.zero_add]
  | pair hpair _ _ ih ih' =>
    rw [depth_cons, depth_append, depth_cons, ih, ih', (rise_of_mem hpair).1, (rise_of_mem hpair).2]
    rfl

/-- At no place of a balanced text more brackets are closed than opened before it. -/
theorem Balanced.depth_nonneg {cs : List Char} (h : Balanced cs) {before after : List Char}
    (hcs : cs = before ++ after) :
  0 ≤ depth before
  := by
  induction h generalizing before after with
  | nil =>
    obtain ⟨rfl, -⟩ := List.append_eq_nil_iff.mp hcs.symm
    exact Int.le_refl 0
  | char hc _ ih =>
    cases before with
    | nil => exact Int.le_refl 0
    | cons c before =>
      obtain ⟨rfl, hrest⟩ := List.cons.inj hcs
      rw [depth_cons, rise_of_isNoBracket hc, Int.zero_add]
      exact ih hrest
  | pair hpair hinside _ ih ih' =>
    cases before with
    | nil => exact Int.le_refl 0
    | cons c before =>
      obtain ⟨rfl, hrest⟩ := List.cons.inj hcs
      rw [depth_cons, (rise_of_mem hpair).1]
      obtain ⟨x, rfl, hx⟩ | ⟨x, hx, -⟩ := List.append_eq_append_iff.mp hrest
      · rw [depth_append, hinside.depth_eq_zero]
        cases x with
        | nil => decide
        | cons d x =>
          obtain ⟨rfl, hafter⟩ := List.cons.inj hx
          have hx' := ih' hafter
          rw [depth_cons, (rise_of_mem hpair).2]
          omega
      · have hbefore := ih hx
        omega

/-- Between brackets, the text before a place is not balanced. -/
theorem IsInside.not_balanced {before after : List Char} {c : Char} (h : IsInside before c after) :
  ¬Balanced before
  := by
  obtain ⟨outer, opening, left, right, closing, outer', hpair, rfl, -, hinner⟩ := h
  intro hbefore
  have hzero := hbefore.depth_eq_zero
  have houter := hbefore.depth_nonneg rfl
  have hleft := hinner.depth_nonneg rfl
  rw [depth_append, depth_cons, (rise_of_mem hpair).1] at hzero
  omega

/-- What stands inside brackets still does behind more text. -/
theorem IsInside.append_left {before after : List Char} {c : Char} (h : IsInside before c after)
    (front : List Char) :
  IsInside (front ++ before) c after
  := by
  obtain ⟨outer, opening, left, right, closing, outer', hpair, rfl, hafter, hinner⟩ := h
  refine ⟨front ++ outer, opening, left, right, closing, outer', hpair, ?_, hafter, hinner⟩
  rw [List.append_assoc]

/-- A character of a balanced text that is no bracket stands between brackets, or after a balanced
text. -/
theorem Balanced.balanced_or_isInside {cs : List Char} (h : Balanced cs)
    {before after : List Char} {c : Char} (hc : IsNoBracket c) (hcs : cs = before ++ c :: after) :
  Balanced before ∨ IsInside before c after
  := by
  induction h generalizing before after with
  | nil =>
    exfalso
    exact List.append_ne_nil_of_right_ne_nil _ (List.cons_ne_nil _ _) hcs.symm
  | char hd _ ih =>
    cases before with
    | nil => exact .inl .nil
    | cons d before =>
      obtain ⟨rfl, hrest⟩ := List.cons.inj hcs
      exact (ih hrest).imp (fun h => h.char hd) fun h => h.append_left [_]
  | @pair opening closing hpair inside rest hinside _ ih ih' =>
    cases before with
    | nil => exact .inl .nil
    | cons d before =>
      obtain ⟨rfl, hrest⟩ := List.cons.inj hcs
      obtain ⟨x, rfl, hx⟩ | ⟨x, hx, hafter⟩ := List.append_eq_append_iff.mp hrest
      · cases x with
        | nil => exact absurd (List.cons.inj hx).1.symm (hc _ hpair).2
        | cons d x =>
          obtain ⟨rfl, hafter⟩ := List.cons.inj hx
          apply (ih' hafter).imp
          · intro hbalanced
            exact .pair hpair hinside hbalanced
          · intro h
            have hleft := h.append_left (opening :: (inside ++ [closing]))
            simpa using hleft
      · cases x with
        | nil => exact absurd (List.cons.inj hafter).1 (hc _ hpair).2
        | cons d x =>
          obtain ⟨rfl, rfl⟩ := List.cons.inj hafter
          right
          rw [hx] at hinside
          exact ⟨[], opening, before, x, closing, rest, hpair, rfl, rfl, hinside⟩

/-! ### The check of brackets -/

/-- Other characters do not matter for the brackets that are expected. -/
theorem balancedFrom_cons_char {c : Char} (hc : IsNoBracket c) (expected cs : List Char) :
  balancedFrom expected (c :: cs) = balancedFrom expected cs
  := by
  obtain ⟨hopening, hclosing⟩ := isNoBracket_iff.mp hc
  rw [balancedFrom, hopening]
  dsimp only
  rw [hclosing, if_neg Bool.false_ne_true]

/-- An opened bracket is expected to be closed first. -/
theorem balancedFrom_cons_opening {opening closing : Char} (h : (opening, closing) ∈ brackets)
    (expected cs : List Char) :
  balancedFrom expected (opening :: cs) = balancedFrom (closing :: expected) cs
  := by
  rw [balancedFrom, closer?_eq_some_iff.mpr h]

/-- Only the bracket that is expected first may be closed. -/
theorem balancedFrom_cons_closing {c : Char} (hc : closer? c = none) (hcloser : isCloser c)
    (expected cs : List Char) :
  balancedFrom expected (c :: cs) = (expected.head? = some c && balancedFrom expected.tail cs)
  := by
  rw [balancedFrom, hc]
  dsimp only
  rw [if_pos hcloser]

/-- A balanced text leaves the brackets open that are open before it. -/
theorem Balanced.balancedFrom_append {cs : List Char} (h : Balanced cs)
    (expected rest : List Char) :
  balancedFrom expected (cs ++ rest) = balancedFrom expected rest
  := by
  induction h generalizing expected rest with
  | nil => rfl
  | char hc _ ih => rw [List.cons_append, balancedFrom_cons_char hc, ih]
  | pair hpair _ _ ih ih' =>
    obtain ⟨hnone, hcloser⟩ := isCloser_of_mem hpair
    rw [List.cons_append, List.append_assoc, List.cons_append, balancedFrom_cons_opening hpair, ih,
      balancedFrom_cons_closing hnone hcloser, ih']
    simp

/-- A text that closes the brackets which are open before it, and no others. -/
def Closes : List Char → List Char → Prop
  | [], cs => Balanced cs
  | closing :: expected, cs =>
    ∃ inside rest, cs = inside ++ closing :: rest ∧ Balanced inside ∧ Closes expected rest

/-- A balanced text in front closes nothing that is expected. -/
theorem Closes.append_left {expected cs front : List Char} (h : Closes expected cs)
    (hfront : Balanced front) :
  Closes expected (front ++ cs)
  := by
  cases expected with
  | nil => exact hfront.append h
  | cons closing expected =>
    obtain ⟨inside, rest, rfl, hinside, hrest⟩ := h
    exact ⟨front ++ inside, rest, (List.append_assoc ..).symm, hfront.append hinside, hrest⟩

/-- A text that passes the check closes all that is expected. -/
theorem closes_of_balancedFrom {expected cs : List Char} (h : balancedFrom expected cs) :
  Closes expected cs
  := by
  induction cs generalizing expected with
  | nil =>
    obtain rfl := List.isEmpty_iff.mp h
    exact .nil
  | cons c cs ih =>
    cases hc : closer? c with
    | some closing =>
      have hpair := closer?_eq_some_iff.mp hc
      rw [balancedFrom_cons_opening hpair] at h
      obtain ⟨inside, rest, rfl, hinside, hrest⟩ := ih h
      have hfront : Balanced (c :: (inside ++ closing :: [])) := .pair hpair hinside .nil
      simpa using hrest.append_left hfront
    | none =>
      by_cases hcloser : isCloser c
      · rw [balancedFrom_cons_closing hc hcloser, Bool.and_eq_true, decide_eq_true_iff] at h
        cases expected with
        | nil => exact absurd h.1 (by simp)
        | cons closing expected =>
          obtain rfl := Option.some.inj h.1
          exact ⟨[], cs, rfl, .nil, ih h.2⟩
      · have hplain : IsNoBracket c := isNoBracket_iff.mpr ⟨hc, eq_false_of_ne_true hcloser⟩
        rw [balancedFrom_cons_char hplain] at h
        exact (ih h).append_left (.char hplain .nil)

/-- The check accepts the balanced texts. -/
theorem balancedFrom_iff {cs : List Char} :
  balancedFrom [] cs ↔ Balanced cs
  := by
  constructor
  · exact closes_of_balancedFrom
  · intro h
    rw [← List.append_nil cs, h.balancedFrom_append]
    rfl

/-! ### The cut -/

/-- Puts a character in front of the first of two texts. -/
def extend (c : Char) (cut : List Char × List Char) : List Char × List Char :=
  (c :: cut.1, cut.2)

/-- Other characters belong to the type, unless they are blanks outside brackets. -/
theorem splitTypeFrom_cons_char {c : Char} (hc : IsNoBracket c) {expected : List Char}
    (hexpected : ∀ closing ∈ expected, isCloser closing)
    (hblank : isBlank c = false ∨ expected ≠ []) (cs : List Char) :
  splitTypeFrom expected (c :: cs) = extend c (splitTypeFrom expected cs)
  := by
  obtain ⟨hopening, hclosing⟩ := isNoBracket_iff.mp hc
  have hhead : expected.head? ≠ some c := by
    intro hhead
    rw [hexpected c (List.mem_of_mem_head? hhead)] at hclosing
    contradiction
  have hkept : ¬(isBlank c && expected.isEmpty) = true := by
    rw [Bool.and_eq_true, List.isEmpty_iff]
    rintro ⟨htrue, hnil⟩
    obtain hfalse | hne := hblank
    · rw [htrue] at hfalse
      contradiction
    · exact hne hnil
  rw [splitTypeFrom, hopening]
  dsimp only
  rw [if_neg hhead, if_neg hkept]
  rfl

/-- An opened bracket belongs to the type. -/
theorem splitTypeFrom_cons_opening {opening closing : Char} (h : (opening, closing) ∈ brackets)
    (expected cs : List Char) :
  splitTypeFrom expected (opening :: cs) = extend opening (splitTypeFrom (closing :: expected) cs)
  := by
  rw [splitTypeFrom, closer?_eq_some_iff.mpr h]
  rfl

/-- A bracket that is closed as expected belongs to the type. -/
theorem splitTypeFrom_cons_closing {pair : Char × Char} (h : pair ∈ brackets)
    (expected cs : List Char) :
  splitTypeFrom (pair.2 :: expected) (pair.2 :: cs) = extend pair.2 (splitTypeFrom expected cs)
  := by
  rw [splitTypeFrom, (isCloser_of_mem h).1]
  dsimp only
  rw [if_pos (by rfl)]
  rfl

/-- No blank of a text stands after a balanced text. -/
def HasNoGap (cs : List Char) : Prop :=
  ∀ before c after, cs = before ++ c :: after → isBlank c → ¬Balanced before

/-- The end of a text without gaps has none if what stands before it is balanced. -/
theorem HasNoGap.of_append (front : List Char) {cs : List Char} (h : HasNoGap (front ++ cs))
    (hfront : Balanced front) :
  HasNoGap cs
  := by
  rintro before c after rfl hc hbefore
  exact h (front ++ before) c after (List.append_assoc ..).symm hc (hfront.append hbefore)

/-- In a balanced text all blanks stand inside brackets if and only if there is no gap. -/
theorem blanksInside_iff {cs : List Char} (h : Balanced cs) :
  BlanksInside cs ↔ HasNoGap cs
  := by
  constructor
  · intro hinside before c after hcs hc
    exact (hinside before c after hcs hc).not_balanced
  · intro hgap before c after hcs hc
    have hplace := h.balanced_or_isInside (isNoBracket_of_isBlank hc) hcs
    exact hplace.resolve_left (hgap before c after hcs hc)

/-- The cut is not in a balanced text unless there is a gap in it and no bracket is open. -/
theorem Balanced.splitTypeFrom_append {cs : List Char} (h : Balanced cs) {expected : List Char}
    (hexpected : ∀ closing ∈ expected, isCloser closing) (hgap : expected = [] → HasNoGap cs)
    (rest : List Char) :
  splitTypeFrom expected (cs ++ rest)
    = (cs ++ (splitTypeFrom expected rest).1, (splitTypeFrom expected rest).2)
  := by
  induction h generalizing expected rest with
  | nil => rfl
  | @char c hc cs _ ih =>
    have hblank : isBlank c = false ∨ expected ≠ [] := by
      by_contra hnot
      rw [not_or, not_not, Bool.not_eq_false] at hnot
      exact hgap hnot.2 [] c cs rfl hnot.1 .nil
    rw [List.cons_append, splitTypeFrom_cons_char hc hexpected hblank,
      ih hexpected fun hnil => HasNoGap.of_append [c] (hgap hnil) (.char hc .nil)]
    rfl
  | @pair opening closing hpair inside cs hinside _ ih ih' =>
    have hfront : Balanced (opening :: (inside ++ closing :: [])) := .pair hpair hinside .nil
    have hmore : ∀ c ∈ closing :: expected, isCloser c :=
      List.forall_mem_cons.mpr ⟨(isCloser_of_mem hpair).2, hexpected⟩
    rw [List.cons_append, List.append_assoc, splitTypeFrom_cons_opening hpair,
      ih hmore fun hnil => absurd hnil (List.cons_ne_nil _ _), List.cons_append,
      splitTypeFrom_cons_closing hpair,
      ih' hexpected fun hnil => HasNoGap.of_append _ (by simpa using hgap hnil) hfront]
    simp [extend]

/-- A balanced text without gaps is cut off before a blank. -/
theorem splitTypeFrom_of_balanced {cs rest : List Char} (h : Balanced cs) (hgap : HasNoGap cs)
    (hrest : ∀ c ∈ rest.head?, isBlank c) :
  splitTypeFrom [] (cs ++ rest) = (cs, rest)
  := by
  have hcut : splitTypeFrom [] rest = ([], rest) := by
    cases rest with
    | nil => rfl
    | cons c rest =>
      have hc : isBlank c := hrest c rfl
      rw [splitTypeFrom, (isNoBracket_iff.mp (isNoBracket_of_isBlank hc)).1]
      dsimp only
      rw [if_neg (by simp), if_pos (by simp [hc])]
  rw [h.splitTypeFrom_append (List.forall_mem_nil _) fun _ => hgap, hcut, List.append_nil]

/-- There are no gaps in what is cut off. -/
theorem hasNoGap_splitTypeFrom (body : List Char) :
  HasNoGap (splitTypeFrom [] body).1
  := by
  intro before
  -- If there were a gap, the first one would be where the text is cut.
  induction hn : before.length using Nat.strong_induction_on generalizing before with
  | _ n ih =>
    intro c after hcs hc hbefore
    have hgap : HasNoGap before := by
      rintro front d between rfl hd hfront
      apply ih front.length _ front rfl d (between ++ c :: after) _ hd hfront
      · rw [← hn, List.length_append, List.length_cons]
        omega
      · rw [hcs, List.append_assoc, List.cons_append]
    have hbody := (splitTypeFrom_spec [] body).1
    rw [hcs, List.append_assoc, List.cons_append] at hbody
    have hblank : ∀ d ∈ (c :: (after ++ (splitTypeFrom [] body).2)).head?, isBlank d := by
      simpa using hc
    have hcut := splitTypeFrom_of_balanced hbefore hgap hblank
    rw [hbody] at hcut
    rw [hcut] at hcs
    simp at hcs

end DocTable.Comment
