import DocTable.Proofs.Comment.Brackets
import DocTable.Tag

/-!
# Members of unions

A text with balanced brackets is made of pieces with bars between them, such that every bar of a
piece is inside brackets; there is one way to do so (`Balanced.exists_arePieces`,
`ArePieces.splitBars_eq`).  The members of a union type are those of its pieces that are not empty
(`unionMembers_topLevel`).  One depth for all kinds of brackets is enough to find them, and where
brackets do not match, it still says which bars are taken out of the text.
-/

namespace DocTable.Comment

open Text

variable {cs piece : List Char} {pieces : List (List Char)} {c opening closing : Char}

/-- Every bar of a text is inside brackets. -/
def BarsInside (cs : List Char) : Prop :=
  ∀ before after, cs = before ++ '|' :: after → IsInside before '|' after

/-- The pieces between those bars of a text that are outside brackets. -/
structure ArePieces (cs : List Char) (pieces : List (List Char)) : Prop where
  /-- Even a text without bars is a piece. -/
  ne_nil : pieces ≠ []
  joined : ['|'].intercalate pieces = cs
  balanced : ∀ piece ∈ pieces, Balanced piece
  barsInside : ∀ piece ∈ pieces, BarsInside piece

/-- The number of brackets that are open after a text, if a closing bracket without an opening one
does not count. -/
def openBrackets (cs : List Char) : Int :=
  cs.foldl (fun depth c => max 0 (depth + rise c)) 0

/-- A character after a text is a bar, and no bracket is open. -/
def IsTopBar (before : List Char) (c : Char) : Prop :=
  c = '|' ∧ openBrackets before = 0

instance (before : List Char) (c : Char) : Decidable (IsTopBar before c) :=
  inferInstanceAs (Decidable (_ ∧ _))

/-- The characters of a text without the bars at which no bracket is open. -/
def withoutTopBars (cs : List Char) : List Char :=
  (cs.zipIdx.filter fun (c, place) => ¬IsTopBar (cs.take place) c).map Prod.fst

/-! ### Bars inside brackets -/

theorem isNoBracket_bar :
  IsNoBracket '|'
  := isNoBracket_iff.mpr ⟨rfl, rfl⟩

theorem barsInside_nil :
  BarsInside []
  := by
  intro before after h
  exact absurd h.symm (List.append_ne_nil_of_right_ne_nil _ (List.cons_ne_nil _ _))

theorem BarsInside.cons (h : BarsInside cs) (hc : c ≠ '|') :
  BarsInside (c :: cs)
  := by
  intro before after hcs
  cases before with
  | nil => exact absurd (List.cons.inj hcs).1 hc
  | cons d before =>
    obtain ⟨rfl, hrest⟩ := List.cons.inj hcs
    exact (h before after hrest).append_left [c]

/-- Brackets around a balanced text may stand in front. -/
theorem BarsInside.pair (h : BarsInside cs) (hpair : (opening, closing) ∈ brackets)
    {inside : List Char} (hinside : Balanced inside) :
  BarsInside (opening :: (inside ++ closing :: cs))
  := by
  intro before after hcs
  obtain ⟨hopening, hclosing⟩ := isNoBracket_bar _ hpair
  cases before with
  | nil => exact absurd (List.cons.inj hcs).1.symm hopening
  | cons d before =>
    obtain ⟨rfl, hrest⟩ := List.cons.inj hcs
    obtain ⟨x, rfl, hx⟩ | ⟨x, hx, hafter⟩ := List.append_eq_append_iff.mp hrest
    · cases x with
      | nil => exact absurd (List.cons.inj hx).1.symm hclosing
      | cons d x =>
        obtain ⟨rfl, hbar⟩ := List.cons.inj hx
        have hleft := (h x after hbar).append_left (opening :: (inside ++ [closing]))
        simpa using hleft
    · cases x with
      | nil => exact absurd (List.cons.inj hafter).1 hclosing
      | cons d x =>
        obtain ⟨rfl, rfl⟩ := List.cons.inj hafter
        rw [hx] at hinside
        exact ⟨[], opening, before, x, closing, cs, hpair, rfl, rfl, hinside⟩

/-! ### Pieces -/

/-- A text in front belongs to the first piece, if it keeps its brackets and bars in order. -/
theorem ArePieces.exists_append_left (h : ArePieces cs pieces) (front : List Char)
    (hbalanced : ∀ piece, Balanced piece → Balanced (front ++ piece))
    (hbars : ∀ piece, BarsInside piece → BarsInside (front ++ piece)) :
  ∃ pieces, ArePieces (front ++ cs) pieces
  := by
  obtain ⟨piece, rest, rfl⟩ := List.exists_cons_of_ne_nil h.ne_nil
  obtain ⟨hpiece, hrest⟩ := List.forall_mem_cons.mp h.balanced
  obtain ⟨hpieceBars, hrestBars⟩ := List.forall_mem_cons.mp h.barsInside
  refine ⟨(front ++ piece) :: rest, List.cons_ne_nil _ _, ?_, ?_, ?_⟩
  · rw [← h.joined]
    cases rest with
    | nil => rw [List.intercalate_singleton, List.intercalate_singleton]
    | cons next rest =>
      rw [List.intercalate_cons_cons, List.intercalate_cons_cons, List.append_assoc,
        List.append_assoc, List.append_assoc]
  · exact List.forall_mem_cons.mpr ⟨hbalanced piece hpiece, hrest⟩
  · exact List.forall_mem_cons.mpr ⟨hbars piece hpieceBars, hrestBars⟩

theorem ArePieces.bar (h : ArePieces cs pieces) :
  ArePieces ('|' :: cs) ([] :: pieces)
  where
  ne_nil := List.cons_ne_nil _ _
  joined := by
    obtain ⟨piece, rest, rfl⟩ := List.exists_cons_of_ne_nil h.ne_nil
    rw [List.intercalate_cons_cons, h.joined, List.nil_append, List.singleton_append]
  balanced := List.forall_mem_cons.mpr ⟨.nil, h.balanced⟩
  barsInside := List.forall_mem_cons.mpr ⟨barsInside_nil, h.barsInside⟩

theorem Balanced.exists_arePieces (h : Balanced cs) :
  ∃ pieces, ArePieces cs pieces
  := by
  induction h with
  | nil =>
    refine ⟨[[]], List.cons_ne_nil _ _, List.intercalate_singleton, ?_, ?_⟩
    · exact List.forall_mem_singleton.mpr .nil
    · exact List.forall_mem_singleton.mpr barsInside_nil
  | @char c hc rest _ ih =>
    obtain ⟨pieces, hpieces⟩ := ih
    by_cases hbar : c = '|'
    · rw [hbar]
      exact ⟨_, hpieces.bar⟩
    · exact hpieces.exists_append_left [c] (fun _ h => h.char hc) (fun _ h => h.cons hbar)
  | @pair opening closing hpair inside rest hinside _ _ ih =>
    obtain ⟨pieces, hpieces⟩ := ih
    have happend (cs : List Char) :
        opening :: (inside ++ closing :: cs) = (opening :: (inside ++ [closing])) ++ cs := by
      simp
    rw [happend]
    apply hpieces.exists_append_left
    · intro piece hpiece
      rw [← happend]
      exact .pair hpair hinside hpiece
    · intro piece hbars
      rw [← happend]
      exact hbars.pair hpair hinside

/-! ### The depth -/

theorem bracketDepth_of_isNoBracket (hc : IsNoBracket c) (depth : Nat) :
  bracketDepth depth c = depth
  := by
  obtain ⟨hopening, hclosing⟩ := isNoBracket_iff.mp hc
  unfold closer? at hopening
  unfold isCloser at hclosing
  unfold bracketDepth
  grind

theorem bracketDepth_of_mem (hpair : (opening, closing) ∈ brackets) (depth : Nat) :
  bracketDepth depth opening = depth + 1 ∧ bracketDepth (depth + 1) closing = depth
  := by
  unfold brackets at hpair
  unfold bracketDepth
  grind

theorem cast_bracketDepth (depth : Nat) (c : Char) :
  (bracketDepth depth c : Int) = max 0 (depth + rise c)
  := by
  unfold bracketDepth rise closer? isCloser
  grind

theorem cast_foldl_bracketDepth (cs : List Char) :
  ((cs.foldl bracketDepth 0 : Nat) : Int) = openBrackets cs
  := by
  induction cs using List.reverseRecOn with
  | nil => rfl
  | append_singleton cs c ih =>
    rw [List.foldl_concat, cast_bracketDepth, ih, openBrackets, openBrackets, List.foldl_concat]

/-! ### The split -/

theorem splitBars_cons_of_ne (hc : c ≠ '|') (depth : Nat) (cs : List Char) :
  splitBars depth (c :: cs) = extendFirst c (splitBars (bracketDepth depth c) cs)
  := by
  rw [splitBars, if_neg fun h => hc h.1]

theorem splitBars_cons_of_isNoBracket (hc : IsNoBracket c) {depth : Nat}
    (hbar : c = '|' → depth ≠ 0) (cs : List Char) :
  splitBars depth (c :: cs) = extendFirst c (splitBars depth cs)
  := by
  have hdepth := bracketDepth_of_isNoBracket hc depth
  rw [splitBars, hdepth, if_neg fun h => hbar h.1 h.2]

theorem splitBars_bar (cs : List Char) :
  splitBars 0 ('|' :: cs) = [] :: splitBars 0 cs
  := rfl

theorem foldr_extendFirst (front piece : List Char) (pieces : List (List Char)) :
  front.foldr extendFirst (piece :: pieces) = (front ++ piece) :: pieces
  := by
  induction front with
  | nil => rfl
  | cons c front ih => rw [List.foldr_cons, ih, extendFirst, List.cons_append]

/-- No bar of a text stands after a balanced text. -/
def HasNoTopBar (cs : List Char) : Prop :=
  ∀ before after, cs = before ++ '|' :: after → ¬Balanced before

theorem BarsInside.hasNoTopBar (h : BarsInside cs) :
  HasNoTopBar cs
  := fun before after hcs => (h before after hcs).not_balanced

theorem HasNoTopBar.of_append {front : List Char} (h : HasNoTopBar (front ++ cs))
    (hfront : Balanced front) :
  HasNoTopBar cs
  := by
  rintro before after rfl hbefore
  exact h (front ++ before) after (List.append_assoc ..).symm (hfront.append hbefore)

/-- A balanced text is not cut unless it has a bar at the top and no bracket is open. -/
theorem Balanced.splitBars_append (h : Balanced cs) {depth : Nat}
    (hbars : depth = 0 → HasNoTopBar cs) (rest : List Char) :
  splitBars depth (cs ++ rest) = cs.foldr extendFirst (splitBars depth rest)
  := by
  induction h generalizing depth rest with
  | nil => rfl
  | @char c hc cs _ ih =>
    have hbar : c = '|' → depth ≠ 0 := by
      rintro rfl hzero
      exact hbars hzero [] cs rfl .nil
    have hfront : Balanced [c] := .char hc .nil
    have hrest (hzero : depth = 0) : HasNoTopBar cs := (hbars hzero).of_append hfront
    rw [List.cons_append, splitBars_cons_of_isNoBracket hc hbar, ih hrest, List.foldr_cons]
  | @pair opening closing hpair inside cs hinside _ ihinside ih =>
    obtain ⟨hopening, hclosing⟩ := isNoBracket_bar _ hpair
    obtain ⟨hup, hdown⟩ := bracketDepth_of_mem hpair depth
    have hfront : Balanced (opening :: (inside ++ [closing])) := .pair hpair hinside .nil
    have hrest (hzero : depth = 0) : HasNoTopBar cs := by
      apply HasNoTopBar.of_append _ hfront
      simpa using hbars hzero
    have hinner : depth + 1 = 0 → HasNoTopBar inside := fun hzero => absurd hzero (by omega)
    rw [List.cons_append, splitBars_cons_of_ne (Ne.symm hopening), hup, List.append_assoc,
      ihinside hinner, List.cons_append, splitBars_cons_of_ne (Ne.symm hclosing), hdown, ih hrest,
      List.foldr_cons, List.foldr_append, List.foldr_cons]

/-- The split finds the pieces. -/
theorem ArePieces.splitBars_eq (h : ArePieces cs pieces) :
  splitBars 0 cs = pieces
  := by
  obtain ⟨hne, rfl, hbalanced, hbars⟩ := h
  induction pieces with
  | nil => contradiction
  | cons piece pieces ih =>
    rw [List.forall_mem_cons] at hbalanced hbars
    have hcut (rest : List Char) :
        splitBars 0 (piece ++ rest) = piece.foldr extendFirst (splitBars 0 rest) :=
      hbalanced.1.splitBars_append (fun _ => hbars.1.hasNoTopBar) rest
    cases pieces with
    | nil =>
      have hlast := hcut []
      rw [List.append_nil, splitBars, foldr_extendFirst, List.append_nil] at hlast
      rw [List.intercalate_singleton, hlast]
    | cons next pieces =>
      rw [List.intercalate_cons_cons, List.append_assoc, List.singleton_append, hcut,
        splitBars_bar, foldr_extendFirst, List.append_nil,
        ih (List.cons_ne_nil _ _) hbalanced.2 hbars.2]

theorem flatten_extendFirst (c : Char) (pieces : List (List Char)) :
  (extendFirst c pieces).flatten = c :: pieces.flatten
  := by
  cases pieces with
  | nil => rfl
  | cons piece pieces => rw [extendFirst, List.flatten_cons, List.flatten_cons, List.cons_append]

/-- Whatever its brackets, a text loses by the split the bars at depth zero and nothing else. -/
theorem flatten_splitBars (before cs : List Char) :
  (splitBars (before.foldl bracketDepth 0) cs).flatten
    = ((cs.zipIdx before.length).filter fun (c, place) =>
        ¬IsTopBar ((before ++ cs).take place) c).map Prod.fst
  := by
  induction cs generalizing before with
  | nil => rfl
  | cons c cs ih =>
    have ih := ih (before ++ [c])
    rw [List.foldl_concat, List.length_append, List.length_singleton, List.append_assoc,
      List.singleton_append] at ih
    have hbar : c = '|' ∧ bracketDepth (before.foldl bracketDepth 0) c = 0
        ↔ IsTopBar ((before ++ c :: cs).take before.length) c := by
      rw [List.take_left, IsTopBar, ← cast_foldl_bracketDepth, Int.natCast_eq_zero]
      apply and_congr_right
      rintro rfl
      rw [bracketDepth_of_isNoBracket isNoBracket_bar]
    rw [splitBars, List.zipIdx_cons]
    by_cases h : IsTopBar ((before ++ c :: cs).take before.length) c
    · rw [if_pos (hbar.mpr h), List.filter_cons_of_neg (by simpa using h), List.flatten_cons, ih,
        List.nil_append]
    · rw [if_neg (mt hbar.mp h), List.filter_cons_of_pos (by simpa using h), flatten_extendFirst,
        ih, List.map_cons]

/-! ### The members -/

theorem map_toList_unionMembers (type : String) :
  (unionMembers type).map String.toList
    = (splitBars 0 type.toList).filter fun piece => !piece.isEmpty
  := by
  simp [unionMembers, Function.comp_def]

/-- The pieces of a text, the empty ones left out, written with bars between them. -/
def joinedPieces (pieces : List (List Char)) : String :=
  String.ofList (['|'].intercalate (pieces.filter fun piece => !piece.isEmpty))

/-- The members of a type whose brackets are balanced. -/
structure AreMembers (type : String) (members : List String) : Prop where
  ne_empty : ∀ member ∈ members, member ≠ ""
  balanced : ∀ member ∈ members, Balanced member.toList
  barsInside : ∀ member ∈ members, BarsInside member.toList
  exists_pieces : ∃ pieces, ArePieces type.toList pieces
  joined : ∀ pieces, ArePieces type.toList pieces → "|".intercalate members = joinedPieces pieces
  /-- Without empty pieces the members make up the type. -/
  whole : ∀ pieces, ArePieces type.toList pieces → [] ∉ pieces → "|".intercalate members = type

theorem ArePieces.joinedPieces_eq {type : String} (h : ArePieces type.toList pieces)
    (hne : [] ∉ pieces) :
  joinedPieces pieces = type
  := by
  have hkept : ∀ piece ∈ pieces, (!piece.isEmpty) = true := by
    intro piece hpiece
    rw [Bool.not_eq_true', List.isEmpty_eq_false_iff]
    rintro rfl
    exact hne hpiece
  rw [joinedPieces, List.filter_eq_self.mpr hkept, h.joined, String.ofList_toList]

theorem areMembers_unionMembers {type : String} (h : Balanced type.toList) :
  AreMembers type (unionMembers type)
  := by
  obtain ⟨pieces, hpieces⟩ := h.exists_arePieces
  have hmembers := map_toList_unionMembers type
  rw [hpieces.splitBars_eq] at hmembers
  have hmem {member : String} (hmember : member ∈ unionMembers type) :
      member.toList ∈ pieces ∧ member.toList ≠ [] := by
    have hpiece := List.mem_map_of_mem hmember (f := String.toList)
    rw [hmembers] at hpiece
    simpa using hpiece
  have hjoined : "|".intercalate (unionMembers type) = joinedPieces pieces := by
    rw [← String.toList_inj, String.toList_intercalate, hmembers, joinedPieces,
      String.toList_ofList, String.toList_ofList]
  have hunique {other : List (List Char)} (hother : ArePieces type.toList other) :
      other = pieces := by
    rw [← hother.splitBars_eq, hpieces.splitBars_eq]
  constructor
  case ne_empty =>
    rintro member hmember rfl
    exact (hmem hmember).2 rfl
  case balanced => exact fun member hmember => hpieces.balanced _ (hmem hmember).1
  case barsInside => exact fun member hmember => hpieces.barsInside _ (hmem hmember).1
  case exists_pieces => exact ⟨pieces, hpieces⟩
  case joined =>
    intro other hother
    rw [hjoined, hunique hother]
  case whole =>
    intro other hother hne
    rw [hjoined, ← hunique hother, hother.joinedPieces_eq hne]

/-- The members of a union type are cut exactly at its bars outside brackets.  The brackets of a
type expression are balanced, and the members of such a type are its pieces that are not empty.  In
any text, balanced or not, the members hold all characters but the bars at which no bracket is
open. -/
theorem unionMembers_topLevel (type : String) :
  (isTypeExpression type.toList → Balanced type.toList)
    ∧ (Balanced type.toList → AreMembers type (unionMembers type))
    ∧ (unionMembers type).flatMap String.toList = withoutTopBars type.toList
  := by
  refine ⟨fun h => ?_, areMembers_unionMembers, ?_⟩
  · rw [isTypeExpression, Bool.and_eq_true] at h
    exact balancedFrom_iff.mp h.2
  · rw [List.flatMap_def, map_toList_unionMembers, List.flatten_filter_not_isEmpty]
    exact flatten_splitBars [] type.toList

/-- A union with bars inside brackets, and an empty piece. -/
def nestedUnion : String := "array<int|string>||(a|b)[]"

theorem unionMembers_topLevel_nested :
  isTypeExpression nestedUnion.toList ∧ Balanced nestedUnion.toList
    ∧ AreMembers nestedUnion ["array<int|string>", "(a|b)[]"]
    ∧ withoutTopBars nestedUnion.toList = "array<int|string>(a|b)[]".toList
  := by
  obtain ⟨hbalanced, hmembers, hbars⟩ := unionMembers_topLevel nestedUnion
  have htype : isTypeExpression nestedUnion.toList := by decide
  have hunion : unionMembers nestedUnion = ["array<int|string>", "(a|b)[]"] := by decide
  rw [hunion] at hmembers hbars
  exact ⟨htype, hbalanced htype, hmembers (hbalanced htype), hbars.symm⟩

end DocTable.Comment
