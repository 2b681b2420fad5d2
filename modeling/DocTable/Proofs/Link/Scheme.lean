import DocTable.Link.Host
import DocTable.Link.Target
import DocTable.Proofs.Text.Lines
import DocTable.Proofs.Text.LowerCase

/-!
# Schemes of targets

A browser reads the scheme of a target from its text without blanks and control characters at either
end and without tabs and line breaks anywhere (`browserScheme?`).  Targets are judged by their text
without all of these.  Where a browser finds a scheme, both texts begin with it and its colon, so a
target that is admitted has a safe scheme for a browser, or none (`isSafeUrl_browserScheme`).
-/

namespace DocTable.Link

open Text

/-! ### The scheme of a target -/

/-- The text before the first colon is the scheme, if it is made as a scheme is. -/
theorem splitScheme_of_colon {before : List Char} (h : ':' ∉ before) (after : List Char) :
  (splitScheme (before ++ ':' :: after)).1
    = if before.head?.any isAsciiLetter && before.all isSchemeChar then before else []
  := by
  have hcut := span_of_not_mem h after
  rw [List.span_eq_takeWhile_dropWhile, Prod.mk.injEq] at hcut
  rw [splitScheme, hcut.1, hcut.2]
  cases before with
  | nil => rfl
  | cons c cs =>
    exact apply_ite Prod.fst _ _ _

theorem splitScheme_of_not_mem {url : List Char} (h : ':' ∉ url) :
  (splitScheme url).1 = []
  := by
  have hdrop : url.dropWhile (· != ':') = [] := by
    rw [List.dropWhile_eq_nil_iff]
    intro c hc
    rw [bne_iff_ne]
    rintro rfl
    exact h hc
  rw [splitScheme, hdrop]
  split
  · contradiction
  · rfl

/-! ### The scheme that a browser reads -/

/-- A space or a control character before it, which a browser passes over at the ends of a
target. -/
def isOuterBlank (c : Char) : Bool :=
  c ≤ ' '

/-- A tab or a line break, which a browser passes over anywhere in a target. -/
def isTabOrBreak (c : Char) : Bool :=
  c = '\t' || c = '\n' || c = '\r'

/-- The text of a target that a browser reads. -/
def browserText (url : List Char) : List Char :=
  (trimWhile isOuterBlank url).filter (!isTabOrBreak ·)

/-- The scheme that a browser reads, if there is one: the text before the first colon, if it is a
letter and characters of schemes. -/
def browserScheme? (url : List Char) : Option (List Char) :=
  match (browserText url).span (· != ':') with
  | (c :: cs, _ :: _) =>
    if isAsciiLetter c && cs.all isSchemeChar then some (c :: cs) else none
  | _ => none

/-- A scheme that a browser reads is made as schemes are, and a colon follows it. -/
theorem browserText_eq_of_browserScheme? {url scheme : List Char}
    (h : browserScheme? url = some scheme) :
  ∃ rest, browserText url = scheme ++ ':' :: rest ∧ ':' ∉ scheme
    ∧ scheme.head?.any isAsciiLetter = true ∧ scheme.all isSchemeChar = true
  := by
  rw [browserScheme?, List.span_eq_takeWhile_dropWhile] at h
  split at h
  case h_2 => contradiction
  case h_1 c cs colon rest hspan =>
    split_ifs at h with hmade
    obtain rfl := Option.some.inj h
    obtain ⟨hbefore, hafter⟩ := Prod.mk.inj hspan
    rw [Bool.and_eq_true] at hmade
    have hcolon : colon = ':' := by
      have hhead := head?_dropWhile (· != ':') (browserText url) colon (by rw [hafter]; rfl)
      simpa using hhead
    have hnone : ':' ∉ c :: cs := by
      rw [← hbefore]
      intro hmem
      simpa using List.mem_takeWhile_imp hmem
    refine ⟨rest, ?_, hnone, hmade.1, ?_⟩
    · conv_lhs => rw [← List.takeWhile_append_dropWhile (p := (· != ':')) (l := browserText url)]
      rw [hbefore, hafter, hcolon]
    · rw [List.all_cons, isSchemeChar, hmade.1, hmade.2]
      rfl

theorem lt_of_isSchemeChar {c : Char} (h : isSchemeChar c = true) :
  ' ' < c
  := by
  by_contra hle
  have hsmall : c.toNat ≤ 0x20 := Nat.not_lt.mp hle
  have hnone : ∀ n ≤ 0x20, isSchemeChar (Char.ofNat n) = false := by decide
  have hnot := hnone c.toNat hsmall
  rw [Char.ofNat_toNat, h] at hnot
  contradiction

/-- What a browser passes over is passed over when a target is judged. -/
theorem filter_browserText (url : List Char) :
  (browserText url).filter (' ' < ·) = url.filter (' ' < ·)
  := by
  have hkept : ∀ c : Char, (decide (' ' < c) && !isTabOrBreak c) = decide (' ' < c) := by
    intro c
    by_cases hbreak : isTabOrBreak c
    · rw [isTabOrBreak, Bool.or_eq_true, Bool.or_eq_true, decide_eq_true_eq, decide_eq_true_eq,
        decide_eq_true_eq] at hbreak
      obtain (rfl | rfl) | rfl := hbreak <;> decide
    · rw [eq_false_of_ne_true hbreak, Bool.not_false, Bool.and_true]
  rw [browserText, List.filter_filter]
  simp only [hkept]
  apply filter_trimWhile
  intro c hc
  simpa [isOuterBlank] using hc

/-- A scheme that a browser reads is the one by which the target is judged. -/
theorem splitScheme_of_browserScheme? {url scheme : List Char}
    (h : browserScheme? url = some scheme) :
  (splitScheme (url.filter (' ' < ·))).1 = scheme
  := by
  obtain ⟨rest, htext, hnone, hletter, hall⟩ := browserText_eq_of_browserScheme? h
  have hscheme : scheme.filter (' ' < ·) = scheme := by
    rw [List.filter_eq_self]
    intro c hc
    exact decide_eq_true (lt_of_isSchemeChar (List.all_eq_true.mp hall c hc))
  rw [← filter_browserText, htext, List.filter_append, hscheme,
    List.filter_cons_of_pos (by decide), splitScheme_of_colon hnone, hletter, hall]
  rfl

/-- Of a target that a comment may link to, a browser reads no scheme but those of web pages and of
mail, whatever the letter case. -/
theorem isSafeUrl_browserScheme (isHost : List Char → Bool) (url : String)
    (hsafe : isSafeUrl isHost url = true) :
  ∀ scheme ∈ browserScheme? url.toList,
    lowerChars scheme ∈ ["http".toList, "https".toList, "mailto".toList]
  := by
  intro scheme hscheme
  obtain ⟨rest, -, -, hletter, -⟩ := browserText_eq_of_browserScheme? hscheme
  rw [isSafeUrl, isSafeTarget, Bool.and_eq_true, List.contains_iff_mem,
    splitScheme_of_browserScheme? hscheme] at hsafe
  obtain hempty | hlisted := List.mem_cons.mp hsafe.2
  · have hne : scheme ≠ [] := by
      rintro rfl
      contradiction
    exact absurd hempty (lowerChars_ne_nil hne)
  · exact hlisted

/-- A browser reads a scheme across the blanks and breaks in a target. -/
theorem isSafeUrl_brokenScheme :
  isSafeUrl isHost "\x01 HT\ntp\ts:a b" = true
    ∧ browserScheme? "\x01 HT\ntp\ts:a b".toList = some "HTtps".toList
    ∧ lowerChars "HTtps".toList ∈ ["http".toList, "https".toList, "mailto".toList]
  := by
  have hsafe : isSafeUrl isHost "\x01 HT\ntp\ts:a b" = true := by decide
  have hscheme : browserScheme? "\x01 HT\ntp\ts:a b".toList = some "HTtps".toList := by decide
  exact ⟨hsafe, hscheme, isSafeUrl_browserScheme _ _ hsafe _ hscheme⟩

end DocTable.Link
