import DocTable.Json.Token
import DocTable.Proofs.Json.Document
import DocTable.Proofs.Text.Surrogate

/-!
# Tokens of a document

`Document.tokens` are the tokens of a document, and the text of a document is cut into them: an
escaped text is read back whole, and a line break is blank.

`Cuts cs ts` says that a text is cut into certain tokens, however many are asked for.  It is shown
from the end of a text to its start, by blanks, marks and texts that are put before it.
-/

namespace DocTable.Json

open Text

/-! ### Texts -/

theorem hexDigits_control :
  ∀ n < 0x20, hexDigits 4 n = ['0', '0', Nat.digitChar (n / 16), Nat.digitChar (n % 16)]
    ∧ unit? '0' '0' (Nat.digitChar (n / 16)) (Nat.digitChar (n % 16)) = some n
  := by decide +kernel

/-- A letter after a backslash is read as the character that it stands for. -/
theorem stringRest?_letter {c e : Char} (h : escaped? c = some e) (cs : List Char) :
  stringRest? ('\\' :: c :: cs) = (stringRest? cs).map fun (s, rest) => (e :: s, rest)
  := by
  have hu : c ≠ 'u' := by
    rintro rfl
    contradiction
  rw [stringRest?.eq_5 c cs (fun _ _ _ _ _ _ _ _ _ hc => absurd hc hu)
    (fun _ _ _ _ _ hc => absurd hc hu), h]
  cases stringRest? cs <;> rfl

/-- An escape that is no unit is a fault. -/
theorem stringRest?_noUnit {a b c d : Char} (h : unit? a b c d = none) (cs : List Char) :
  stringRest? ('\\' :: 'u' :: a :: b :: c :: d :: cs) = none
  := by
  by_cases hnext : ∃ a' b' c' d' cs', cs = '\\' :: 'u' :: a' :: b' :: c' :: d' :: cs'
  · obtain ⟨a', b', c', d', cs', rfl⟩ := hnext
    rw [stringRest?.eq_3, h]
    rfl
  · rw [stringRest?.eq_4 a b c d cs fun a' b' c' d' cs' hcs => hnext ⟨a', b', c', d', cs', hcs⟩, h]
    rfl

/-- A unit that starts no pair of surrogates is a character of its own, whatever comes after it. -/
theorem stringRest?_unit {a b c d : Char} {n : Nat} (h : unit? a b c d = some n)
    (hhigh : isHighSurrogate n = false) (cs : List Char) :
  stringRest? ('\\' :: 'u' :: a :: b :: c :: d :: cs)
    = (stringRest? cs).map fun (s, rest) => (ofCodePoint n ++ s, rest)
  := by
  by_cases hnext : ∃ a' b' c' d' cs', cs = '\\' :: 'u' :: a' :: b' :: c' :: d' :: cs'
  · obtain ⟨a', b', c', d', cs', rfl⟩ := hnext
    rw [stringRest?.eq_3, h]
    cases h' : unit? a' b' c' d' with
    | some n' =>
      simp only [Option.bind_eq_bind, Option.bind_some, hhigh, Bool.false_and, Bool.false_eq_true,
        if_false]
      cases stringRest? ('\\' :: 'u' :: a' :: b' :: c' :: d' :: cs') <;> rfl
    | none =>
      rw [stringRest?_noUnit h']
      rfl
  · rw [stringRest?.eq_4 a b c d cs fun a' b' c' d' cs' hcs => hnext ⟨a', b', c', d', cs', hcs⟩, h]
    cases stringRest? cs <;> rfl

/-- Any other character stands for itself. -/
theorem stringRest?_plain {c : Char} (hquote : c ≠ '\x22') (hbackslash : c ≠ '\\')
    (hcontrol : ¬c.toNat < 0x20) (cs : List Char) :
  stringRest? (c :: cs) = (stringRest? cs).map fun (s, rest) => (c :: s, rest)
  := by
  rw [stringRest?.eq_6 c cs hquote (fun _ _ _ _ _ _ _ _ _ hc => absurd hc hbackslash)
    (fun _ _ _ _ _ hc => absurd hc hbackslash) (fun _ _ hc => absurd hc hbackslash),
    if_neg hcontrol]
  cases stringRest? cs <;> rfl

/-- An escaped character is read as the character. -/
theorem stringRest?_escapeChar (c : Char) (cs : List Char) :
  stringRest? (escapeChar c ++ cs) = (stringRest? cs).map fun (s, rest) => (c :: s, rest)
  := by
  unfold escapeChar
  split_ifs with hquote hfeed hreturn htab hback hform hcontrol
  · apply stringRest?_letter
    rcases hquote with rfl | rfl <;> rfl
  · subst hfeed
    apply stringRest?_letter rfl
  · subst hreturn
    apply stringRest?_letter rfl
  · subst htab
    apply stringRest?_letter rfl
  · subst hback
    apply stringRest?_letter rfl
  · subst hform
    apply stringRest?_letter rfl
  · obtain ⟨hdigits, hunit⟩ := hexDigits_control c.toNat hcontrol
    have hhigh : isHighSurrogate c.toNat = false := by
      simp only [isHighSurrogate, Bool.and_eq_false_iff, decide_eq_false_iff_not]
      omega
    have hchar : ofCodePoint c.toNat = [c] := by
      have hmark : c.toNat ≠ 0xD7FF := by omega
      rw [ofCodePoint, isSurrogate_toNat, if_neg Bool.false_ne_true, if_neg hmark,
        Char.ofNat_toNat]
    rw [hdigits]
    apply (stringRest?_unit hunit hhigh cs).trans
    rw [hchar]
    rfl
  · rw [not_or] at hquote
    apply stringRest?_plain hquote.1 hquote.2 hcontrol

/-- The characters of an escaped text are read up to the quote after it. -/
theorem stringRest?_escaped (s rest : List Char) :
  stringRest? (s.flatMap escapeChar ++ '\x22' :: rest) = some (s, rest)
  := by
  induction s with
  | nil => simp [stringRest?]
  | cons c s ih => rw [List.flatMap_cons, List.append_assoc, stringRest?_escapeChar, ih]; rfl

/-! ### Cutting a text into tokens -/

/-- A text is cut into certain tokens, however many are asked for. -/
def Cuts (cs : List Char) (ts : List Token) : Prop :=
  ∀ n, cs.length ≤ n → firstTokens n cs = ts

theorem cuts_nil :
  Cuts [] []
  := by
  rintro (_ | n) - <;> rfl

theorem Cuts.blank {cs : List Char} {ts : List Token} (h : Cuts cs ts) {c : Char}
    (hc : isJsonBlank c = true) :
  Cuts (c :: cs) ts
  := by
  rintro (_ | n) hn
  · contradiction
  · rw [← h (n + 1) (by grind), firstTokens, firstTokens, List.dropWhile_cons_of_pos hc]

/-- A token before a text that is cut already. -/
theorem Cuts.token {c : Char} {cs rest : List Char} {t : Token} {ts : List Token}
    (h : Cuts rest ts) (hc : isJsonBlank c = false) (ht : token? (c :: cs) = some (t, rest))
    (hrest : rest.length ≤ cs.length) :
  Cuts (c :: cs) (t :: ts)
  := by
  rintro (_ | n) hn
  · contradiction
  · have hdrop : (c :: cs).dropWhile isJsonBlank = c :: cs :=
      List.dropWhile_cons_of_neg (by simp [hc])
    simp only [firstTokens, hdrop, ht]
    rw [h n (by grind)]

/-- A text stands for certain tokens, whatever comes after it. -/
def Spells (cs : List Char) (ts : List Token) : Prop :=
  ∀ rest us, Cuts rest us → Cuts (cs ++ rest) (ts ++ us)

theorem spells_nil :
  Spells [] []
  := fun _ _ h => h

theorem Spells.append {cs ds : List Char} {ts us : List Token} (h : Spells cs ts)
    (h' : Spells ds us) :
  Spells (cs ++ ds) (ts ++ us)
  := by
  intro rest vs hrest
  rw [List.append_assoc, List.append_assoc]
  apply h _ _ (h' _ _ hrest)

theorem Spells.tokens {cs : List Char} {ts : List Token} (h : Spells cs ts) :
  tokens cs = ts
  := by
  have hcuts := h _ _ cuts_nil
  rw [List.append_nil, List.append_nil] at hcuts
  apply hcuts _ (Nat.le_refl _)

theorem spells_blanks {cs : List Char} (h : ∀ c ∈ cs, isJsonBlank c = true) :
  Spells cs []
  := by
  induction cs with
  | nil => exact spells_nil
  | cons c cs ih =>
    rw [List.forall_mem_cons] at h
    intro rest us hrest
    apply (ih h.2 _ _ hrest).blank h.1

theorem spells_mark {s : String} {c : Char} (hs : s.toList = [c])
    (hc : c ∈ ['\x7b', '\x7d', '[', ']', ',', ':']) :
  Spells s.toList [.mark c]
  := by
  intro rest us hrest
  rw [hs]
  simp only [List.mem_cons, List.not_mem_nil, or_false] at hc
  rcases hc with rfl | rfl | rfl | rfl | rfl | rfl <;>
    exact hrest.token rfl rfl (Nat.le_refl _)

theorem spells_string (s : String) :
  Spells (string s).toList [.text s.toList]
  := by
  intro rest us hrest
  have htext := stringRest?_escaped s.toList rest
  rw [string, String.toList_ofList, List.cons_append, List.cons_append, List.append_assoc,
    List.singleton_append]
  apply hrest.token rfl
  · rw [token?, htext]
    rfl
  · rw [List.length_append, List.length_cons]
    omega

theorem spells_intercalate {α : Type} {sep : List Char} {sepTokens : List Token}
    (hsep : Spells sep sepTokens) {text : α → List Char} {tokens : α → List Token}
    {parts : List α} (h : ∀ a ∈ parts, Spells (text a) (tokens a)) :
  Spells (sep.intercalate (parts.map text)) (sepTokens.intercalate (parts.map tokens))
  := by
  induction parts with
  | nil => exact spells_nil
  | cons a parts ih =>
    rw [List.forall_mem_cons] at h
    cases parts with
    | nil => simpa using h.1
    | cons b parts =>
      simp only [List.map_cons, List.intercalate_cons_cons] at ih ⊢
      apply (h.1.append hsep).append (ih h.2)

/-! ### Documents -/

namespace Document

mutual

/-- The tokens of a document. -/
def tokens : Document → List Token
  | text s => [.text s.toList]
  | array items => .mark '[' :: ([.mark ','].intercalate (itemTokens items) ++ [.mark ']'])
  | object fields =>
    .mark '\x7b' :: ([.mark ','].intercalate (fieldTokens fields) ++ [.mark '\x7d'])

/-- The tokens of each item of an array. -/
def itemTokens : List Document → List (List Token)
  | [] => []
  | d :: ds => d.tokens :: itemTokens ds

/-- The tokens of each field of an object. -/
def fieldTokens : List (String × Document) → List (List Token)
  | [] => []
  | (name, d) :: fs => (.text name.toList :: .mark ':' :: d.tokens) :: fieldTokens fs

end

theorem itemTokens_eq_map (items : List Document) :
  itemTokens items = items.map tokens
  := by
  induction items with
  | nil => rfl
  | cons d ds ih => rw [itemTokens, ih, List.map_cons]

theorem fieldTokens_eq_map (fields : List (String × Document)) :
  fieldTokens fields = fields.map fun f => .text f.1.toList :: .mark ':' :: f.2.tokens
  := by
  induction fields with
  | nil => rfl
  | cons f fs ih => rw [fieldTokens, ih, List.map_cons]

theorem spells_lineBreak (level : Nat) :
  Spells (lineBreak level).toList []
  := by
  rw [lineBreak, String.toList_ofList]
  apply spells_blanks
  intro c hc
  rcases List.mem_cons.mp hc with rfl | hc
  · rfl
  · rw [List.eq_of_mem_replicate hc]
    rfl

/-- Parts between brackets, with commas between them. -/
theorem spells_enclose {α : Type} {opening closing : String} {first last : Token}
    (hopening : Spells opening.toList [first]) (hclosing : Spells closing.toList [last])
    (level : Nat) {text : α → String} {tokens : α → List Token} {parts : List α}
    (h : ∀ a ∈ parts, Spells (text a).toList (tokens a)) :
  Spells (enclose opening closing level (parts.map text)).toList
    (first :: ([.mark ','].intercalate (parts.map tokens) ++ [last]))
  := by
  unfold enclose
  split
  case isTrue hparts =>
    rw [List.isEmpty_iff, List.map_eq_nil_iff] at hparts
    subst hparts
    rw [String.toList_append]
    apply hopening.append hclosing
  case isFalse =>
    have hline := spells_lineBreak (level + 1)
    have hend := spells_lineBreak level
    have hcomma : Spells ("," ++ lineBreak (level + 1)).toList [.mark ','] := by
      rw [String.toList_append]
      apply (spells_mark rfl (by simp)).append hline
    have hparts := spells_intercalate hcomma h
    have hall := (((hopening.append hline).append hparts).append hend).append hclosing
    simp only [String.toList_append, String.toList_intercalate, List.map_map] at hall ⊢
    simpa [Function.comp_def] using hall

/-- The text of a document stands for its tokens. -/
theorem spells_indentedAt (d : Document) (level : Nat) :
  Spells (indentedAt level d).toList d.tokens
  := by
  induction d generalizing level with
  | text s => exact spells_string s
  | array items ih =>
    rw [indentedAt, tokens, indentedItems_eq_map, itemTokens_eq_map]
    have hopening : Spells "[".toList [.mark '['] := spells_mark rfl (by simp)
    have hclosing : Spells "]".toList [.mark ']'] := spells_mark rfl (by simp)
    apply spells_enclose hopening hclosing
    intro d hd
    apply ih d hd
  | object fields ih =>
    rw [indentedAt, tokens, indentedFields_eq_map, fieldTokens_eq_map]
    have hopening : Spells "\x7b".toList [.mark '\x7b'] := spells_mark rfl (by simp)
    have hclosing : Spells "\x7d".toList [.mark '\x7d'] := spells_mark rfl (by simp)
    apply spells_enclose hopening hclosing
    intro f hf
    have hcolon : Spells ":".toList [.mark ':'] := spells_mark rfl (by simp)
    have hspace : Spells " ".toList [] := spells_blanks (by simp [isJsonBlank])
    rw [String.toList_append, String.toList_append]
    apply ((spells_string f.1).append (hcolon.append hspace)).append (ih f hf _)

/-- The text of a document with a line feed at its end is cut into the tokens of the document. -/
theorem tokens_indented (d : Document) :
  Json.tokens (d.indented ++ "\n").toList = d.tokens
  := by
  have hfeed : Spells "\n".toList [] := spells_blanks (by simp [isJsonBlank])
  rw [String.toList_append, ← List.append_nil d.tokens]
  apply Spells.tokens ((spells_indentedAt d 0).append hfeed)

end Document

end DocTable.Json
