import DocTable.Text.Utf8
import Mathlib.Data.Char
import Mathlib.Tactic.SplitIfs
import Mathlib.Tactic.Use

/-!
# Code points of texts

What is written for some code points has these code points, and no others (`codePoints_flatMap`).
Where two lists of code points differ for the first time, what is written for them is in the order
of the code points there (`ofCodePoint_lt`).

A text can stand in the name of a file if it has no null character and all its surrogates stand for
bytes.  Whether this is so can be told from the pieces of the text (`isUsable_append_cons_iff`).
-/

namespace DocTable.Text

/-! ### Reading what is written -/

/-- A code point is that of its character, unless it is a surrogate. -/
theorem toNat_ofNat {n : Nat} (h : n < 0x110000) (hsurrogate : isSurrogate n = false) :
  (Char.ofNat n).toNat = n
  := by
  have hvalid : n.isValidChar := by
    simp only [isSurrogate, Bool.and_eq_false_iff, decide_eq_false_iff_not] at hsurrogate
    unfold Nat.isValidChar
    omega
  rw [Char.ofNat, dif_pos hvalid]
  rfl

/-- The mark is the last character before the surrogates. -/
theorem toNat_surrogateMark :
  surrogateMark.toNat = 0xD7FF
  := rfl

/-- Another character than the mark stands for its own code point. -/
theorem codePoints_cons {c : Char} (h : c ≠ surrogateMark) (cs : List Char) :
  codePoints (c :: cs) = c.toNat :: codePoints cs
  := by
  cases cs with
  | nil => rfl
  | cons d cs => rw [codePoints, if_neg h]

/-- A code point is read from what is written for it, whatever comes after it. -/
theorem codePoints_ofCodePoint {n : Nat} (h : n < 0x110000) (cs : List Char) :
  codePoints (ofCodePoint n ++ cs) = n :: codePoints cs
  := by
  unfold ofCodePoint
  split_ifs with hsurrogate hmark
  · have hnext : (Char.ofNat (n + 0x800)).toNat = n + 0x800 := by
      simp only [isSurrogate, Bool.and_eq_true, decide_eq_true_iff] at hsurrogate
      apply toNat_ofNat
      · omega
      · simp only [isSurrogate, Bool.and_eq_false_iff, decide_eq_false_iff_not]
        omega
    have hnot : Char.ofNat (n + 0x800) ≠ surrogateMark := by
      intro heq
      have hcode := congrArg Char.toNat heq
      rw [hnext, toNat_surrogateMark] at hcode
      simp only [isSurrogate, Bool.and_eq_true, decide_eq_true_iff] at hsurrogate
      omega
    rw [List.cons_append, List.singleton_append, codePoints, if_pos rfl, if_neg hnot, hnext,
      Nat.add_sub_cancel, if_pos hsurrogate]
  · subst hmark
    rfl
  · rw [Bool.not_eq_true] at hsurrogate
    have hcode := toNat_ofNat h hsurrogate
    rw [List.singleton_append, codePoints_cons, hcode]
    intro heq
    rw [heq, toNat_surrogateMark] at hcode
    exact hmark hcode.symm

/-- What is written for some code points is read as these code points, each from its own characters.
-/
theorem codePoints_flatMap {ns : List Nat} (h : ∀ n ∈ ns, n < 0x110000) :
  codePoints (ns.flatMap ofCodePoint) = ns
  := by
  induction ns with
  | nil => rfl
  | cons n ns ih =>
    rw [List.forall_mem_cons] at h
    rw [List.flatMap_cons, codePoints_ofCodePoint h.1, ih h.2]

/-- The mark and the surrogates are written as two characters, and other code points as one. -/
theorem ofCodePoint_eq (n : Nat) :
  ofCodePoint n
    = if 0xD7FF ≤ n ∧ n < 0xE000 then
        [Char.ofNat 0xD7FF, Char.ofNat (if n = 0xD7FF then n else n + 0x800)]
      else [Char.ofNat n]
  := by
  by_cases hmark : n = 0xD7FF
  · subst hmark
    rfl
  · have hiff : isSurrogate n = true ↔ 0xD7FF ≤ n ∧ n < 0xE000 := by
      simp only [isSurrogate, Bool.and_eq_true, decide_eq_true_iff]
      omega
    simp only [ofCodePoint, hiff, if_neg hmark]
    rfl

/-- Texts are in order if the first code points by which they differ are. -/
theorem ofCodePoint_lt {n m : Nat} (hlt : n < m) (hm : m < 0x110000) (xs ys : List Char) :
  ofCodePoint n ++ xs < ofCodePoint m ++ ys
  := by
  have hchar {k l : Nat} (hkl : k < l) (hl : l < 0x110000) (hk : ¬(0xD800 ≤ k ∧ k < 0xE000))
      (hl' : ¬(0xD800 ≤ l ∧ l < 0xE000)) : Char.ofNat k < Char.ofNat l := by
    show (Char.ofNat k).toNat < (Char.ofNat l).toNat
    rwa [toNat_ofNat (by omega) (by simpa [isSurrogate] using hk),
      toNat_ofNat hl (by simpa [isSurrogate] using hl')]
  rw [ofCodePoint_eq, ofCodePoint_eq]
  by_cases hn : 0xD7FF ≤ n ∧ n < 0xE000
  · rw [if_pos hn]
    by_cases hm' : 0xD7FF ≤ m ∧ m < 0xE000
    · rw [if_pos hm', if_neg (show m ≠ 0xD7FF by omega)]
      apply List.cons_lt_cons_iff.mpr
      right
      use rfl
      apply List.cons_lt_cons_iff.mpr
      left
      split_ifs
      · apply hchar <;> omega
      · apply hchar <;> omega
    · rw [if_neg hm']
      apply List.cons_lt_cons_iff.mpr
      left
      apply hchar <;> omega
  · rw [if_neg hn]
    by_cases hm' : 0xD7FF ≤ m ∧ m < 0xE000
    · rw [if_pos hm']
      apply List.cons_lt_cons_iff.mpr
      left
      apply hchar <;> omega
    · rw [if_neg hm']
      apply List.cons_lt_cons_iff.mpr
      left
      apply hchar <;> omega

/-! ### Usable texts -/

/-- A character that neither begins nor ends what stands for a surrogate. -/
def isOrdinary (c : Char) : Bool :=
  c ≠ surrogateMark && !isSurrogate (c.toNat - 0x800)

/-- Code points are read on either side of an ordinary character. -/
theorem codePoints_append_cons {c : Char} (h : isOrdinary c) (xs ys : List Char) :
  codePoints (xs ++ c :: ys) = codePoints xs ++ c.toNat :: codePoints ys
  := by
  rw [isOrdinary, Bool.and_eq_true, decide_eq_true_iff, Bool.not_eq_true'] at h
  fun_induction codePoints xs with
  | case1 => rw [List.nil_append, codePoints_cons h.1, List.nil_append]
  | case2 d =>
    by_cases hd : d = surrogateMark
    · subst hd
      rw [List.singleton_append, codePoints, if_pos (Eq.refl surrogateMark), if_neg h.1, h.2,
        if_neg Bool.false_ne_true, codePoints_cons h.1]
      rfl
    · rw [List.singleton_append, codePoints_cons hd, codePoints_cons h.1]
      rfl
  | case3 xs ih =>
    rw [List.cons_append, List.cons_append, codePoints, if_pos rfl, if_pos rfl, ih,
      List.cons_append]
  | case4 d xs hd hsurrogate ih =>
    rw [List.cons_append, List.cons_append, codePoints, if_pos rfl, if_neg hd, if_pos hsurrogate,
      ih, List.cons_append]
  | case5 d xs hd hsurrogate ih =>
    rw [List.cons_append, List.cons_append, codePoints, if_pos rfl, if_neg hd, if_neg hsurrogate,
      List.cons_append, ← ih, List.cons_append]
  | case6 d e xs hd ih => rw [List.cons_append, codePoints_cons hd, ih, List.cons_append]

/-- A text that can stand in the name of a file: it has no null character, and all its surrogates
stand for bytes. -/
def IsUsable (cs : List Char) : Prop :=
  ∀ n ∈ codePoints cs, n ≠ 0 ∧ (isSurrogate n → Utf8.isByte n)

instance (cs : List Char) : Decidable (IsUsable cs) :=
  inferInstanceAs (Decidable (∀ n ∈ codePoints cs, n ≠ 0 ∧ (isSurrogate n → Utf8.isByte n)))

/-- No character is a surrogate. -/
theorem isSurrogate_toNat (c : Char) :
  isSurrogate c.toNat = false
  := by
  simp only [isSurrogate, Bool.and_eq_false_iff, decide_eq_false_iff_not]
  have hvalid : c.toNat.isValidChar := c.valid
  unfold Nat.isValidChar at hvalid
  omega

/-- The null character is a code point of a text if it stands there. -/
theorem zero_mem_codePoints_iff {cs : List Char} :
  0 ∈ codePoints cs ↔ '\x00' ∈ cs
  := by
  constructor
  · have hzero : isSurrogate 0 = false := rfl
    have hnull {c : Char} (hc : 0 = c.toNat) : '\x00' = c := Char.toNat_inj.mp hc
    intro h
    fun_induction codePoints cs with
    | case1 => exact absurd h List.not_mem_nil
    | case2 c =>
      exact List.mem_singleton.mpr (hnull (List.mem_singleton.mp h))
    | case3 cs ih =>
      obtain h | h := List.mem_cons.mp h
      · omega
      · exact List.mem_cons_of_mem _ (List.mem_cons_of_mem _ (ih h))
    | case4 d cs hd hsurrogate ih =>
      obtain h | h := List.mem_cons.mp h
      · rw [← h, hzero] at hsurrogate
        exact absurd hsurrogate Bool.false_ne_true
      · exact List.mem_cons_of_mem _ (List.mem_cons_of_mem _ (ih h))
    | case5 d cs hd hsurrogate ih =>
      obtain h | h := List.mem_cons.mp h
      · omega
      · exact List.mem_cons_of_mem _ (ih h)
    | case6 c d cs hc ih =>
      obtain h | h := List.mem_cons.mp h
      · exact List.mem_cons.mpr (.inl (hnull h))
      · exact List.mem_cons_of_mem _ (ih h)
  · intro h
    obtain ⟨before, after, rfl⟩ := List.append_of_mem h
    rw [codePoints_append_cons (by decide)]
    exact List.mem_append_right _ List.mem_cons_self

/-- The empty text is usable, though no name of a file is empty. -/
theorem isUsable_nil :
  IsUsable []
  := by
  intro n hn
  contradiction

/-- A text is usable if what stands on either side of an ordinary character is. -/
theorem isUsable_append_cons_iff {c : Char} (hc : isOrdinary c) (hnull : c.toNat ≠ 0)
    (xs ys : List Char) :
  IsUsable (xs ++ c :: ys) ↔ IsUsable xs ∧ IsUsable ys
  := by
  have hself : c.toNat ≠ 0 ∧ (isSurrogate c.toNat → Utf8.isByte c.toNat) := by
    rw [isSurrogate_toNat]
    exact ⟨hnull, nofun⟩
  rw [IsUsable, codePoints_append_cons hc, List.forall_mem_append, List.forall_mem_cons]
  exact and_congr_right fun _ => and_iff_right hself

/-- A text is usable if its pieces between slashes are. -/
theorem isUsable_intercalate_iff {pieces : List (List Char)} :
  IsUsable (['/'].intercalate pieces) ↔ ∀ piece ∈ pieces, IsUsable piece
  := by
  induction pieces with
  | nil => simp [isUsable_nil]
  | cons piece pieces ih =>
    cases pieces with
    | nil => simp
    | cons next pieces =>
      rw [List.forall_mem_cons, ← ih, List.intercalate_cons_cons, List.append_assoc,
        List.singleton_append]
      exact isUsable_append_cons_iff (by decide) (by decide) _ _

/-- All surrogates have bytes if none of them is found that has not. -/
theorem unencodableFrom_eq_none_iff {kept : Nat → Bool} {ns : List Nat} (position : Nat) :
  Utf8.unencodableFrom kept position ns = none ↔ ∀ n ∈ ns, isSurrogate n → kept n
  := by
  induction ns generalizing position with
  | nil => simp [Utf8.unencodableFrom]
  | cons n ns ih =>
    rw [Utf8.unencodableFrom, List.forall_mem_cons, ← ih (position + 1)]
    cases isSurrogate n <;> cases kept n <;> simp

/-- A text without the mark has the code points of its characters. -/
theorem codePoints_of_notMem {cs : List Char} (h : surrogateMark ∉ cs) :
  codePoints cs = cs.map Char.toNat
  := by
  induction cs with
  | nil => rfl
  | cons c cs ih =>
    rw [List.mem_cons, not_or] at h
    rw [codePoints_cons (Ne.symm h.1), ih h.2, List.map_cons]

/-- A text without the mark has no lone surrogates. -/
theorem unencodable?_of_notMem {cs : List Char} (h : surrogateMark ∉ cs) :
  Utf8.unencodable? cs = none
  := by
  rw [Utf8.unencodable?, unencodableFrom_eq_none_iff, codePoints_of_notMem h]
  intro n hn hsurrogate
  obtain ⟨c, -, rfl⟩ := List.mem_map.mp hn
  rw [isSurrogate_toNat] at hsurrogate
  contradiction

/-- A text has no lone surrogates if none of its bytes begins the mark. -/
theorem unencodable?_of_bytes {s : String} (h : 0xED ∉ s.toByteArray.data.toList) :
  Utf8.unencodable? s.toList = none
  := by
  apply unencodable?_of_notMem
  intro hmark
  apply h
  rw [← String.ofList_toList (s := s), String.toByteArray_ofList, List.utf8Encode,
    List.toList_data_toByteArray]
  exact List.mem_flatMap.mpr ⟨surrogateMark, hmark, by decide⟩

end DocTable.Text
