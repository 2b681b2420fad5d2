import DocTable.Proofs.Json.Token
import DocTable.Proofs.Value.Printed
import Mathlib

/-!
# Values that are printed alike

A tree is a value that is built from null, truth values, integers and texts by lists and by maps of
which the keys are texts (`Value.IsTree`).

The text of a tree in JSON is told apart from the text of any other tree, and its end is found,
whatever comes after it; only a number must not go on there (`Json.IsToldApart`).  Lists and maps
take this over from their parts.  So the token of a value that may be missing is the token of no
other one (`Value.printed?_unique`).
-/

namespace DocTable

/-! ### Trees -/

namespace Value

/-- The values that are built from null, truth values, integers and texts by lists and by maps of
which the keys are texts. -/
inductive IsTree : Value → Prop where
  | null : IsTree .null
  | bool (b : Bool) : IsTree (.bool b)
  | int (n : Int) : IsTree (.int n)
  | text (s : String) : IsTree (.text s)
  | list {items : List Value} (h : ∀ v ∈ items, IsTree v) : IsTree (.list items)
  | map {entries : List (Value × Value)} (names : ∀ e ∈ entries, ∃ name, e.1 = .text name)
    (h : ∀ e ∈ entries, IsTree e.2) : IsTree (.map entries)

theorem IsTree.of_mem_items {items : List Value} (h : IsTree (.list items)) :
  ∀ v ∈ items, v.IsTree
  := by
  cases h with
  | list h => exact h

theorem IsTree.of_mem_entries {entries : List (Value × Value)} (h : IsTree (.map entries)) :
  ∀ e ∈ entries, (∃ name, e.1 = .text name) ∧ e.2.IsTree
  := by
  cases h with
  | map names h => exact fun e he => ⟨names e he, h e he⟩

/-- What occurs in a tree is a tree. -/
theorem IsTree.of_within {v w : Value} (hv : v.IsTree) (h : w.Within v) :
  w.IsTree
  := by
  induction h with
  | here => exact hv
  | item hmem _ ih => apply ih (hv.of_mem_items _ hmem)
  | key hmem _ ih =>
    obtain ⟨⟨name, hname⟩, -⟩ := hv.of_mem_entries _ hmem
    apply ih
    rw [hname]
    exact .text name
  | value hmem _ ih => apply ih (hv.of_mem_entries _ hmem).2
  | first | second | element | body => contradiction

theorem IsTree.hasJson {v : Value} (hv : v.IsTree) :
  v.HasJson where
  forms w hw := by
    cases hv.of_within hw <;> exact not_false
  keys entries hentries e he := by
    obtain ⟨⟨name, hname⟩, -⟩ := (hv.of_within hentries).of_mem_entries e he
    rw [hname]
    trivial
  ends number hnumber := nomatch hv.of_within hnumber
  finite number body hbody := nomatch hv.of_within hbody

theorem IsTree.isPrintable {v : Value} (hv : v.IsTree) :
  v.IsPrintable
  := by
  cases hv with
  | list h => exact (IsTree.list h).hasJson
  | map names h => exact (IsTree.map names h).hasJson
  | _ => trivial

end Value

/-! ### Numbers -/

namespace Json

/-- A character of an integer. -/
def isNumeral (c : Char) : Bool :=
  c == '-' || c.isDigit

theorem isNumeral_of_mem_toString {n : Int} {c : Char} (hc : c ∈ (toString n).toList) :
  isNumeral c = true
  := by
  have hdigits {m : Nat} (hc : c ∈ m.repr.toList) : isNumeral c = true := by
    rw [Nat.toList_repr] at hc
    have hdigit := Nat.isDigit_of_mem_toDigits (by decide) (by decide) hc
    rw [isNumeral, hdigit, Bool.or_true]
  rw [Int.toString_eq_repr, Int.repr_eq_if] at hc
  split at hc
  · exact hdigits hc
  · rw [String.toList_append, List.mem_append] at hc
    obtain hc | hc := hc
    · obtain rfl := List.mem_singleton.mp hc
      rfl
    · exact hdigits hc

theorem eq_toString_of_integerText {n : Int} {s : String} (h : integerText n = .ok s) :
  s = toString n
  := by
  unfold integerText Decimal.integerText? at h
  split_ifs at h
  exact (Except.ok.inj h).symm

theorem toString_ne_nil (n : Int) :
  (toString n).toList ≠ []
  := by
  rw [Int.toString_eq_repr, Int.repr_eq_if]
  split
  · rw [Nat.toList_repr]
    exact Nat.toDigits_ne_nil
  · rw [String.toList_append]
    exact List.append_ne_nil_of_left_ne_nil (by decide) _

/-- No number goes on at the start of the text. -/
def EndsNumber (rest : List Char) : Prop :=
  ∀ c ∈ rest.head?, isNumeral c = false

theorem EndsNumber.takeWhile_eq_nil {rest : List Char} (h : EndsNumber rest) :
  rest.takeWhile isNumeral = []
  := by
  cases rest with
  | nil => rfl
  | cons c rest =>
    have hc := h c rfl
    rw [List.takeWhile_cons_of_neg (by rw [hc]; exact Bool.false_ne_true)]

/-- A number is cut off where it ends. -/
theorem eq_of_toString_append {n m : Int} {rest rest' : List Char} (hrest : EndsNumber rest)
    (hrest' : EndsNumber rest')
    (h : (toString n).toList ++ rest = (toString m).toList ++ rest') :
  n = m ∧ rest = rest'
  := by
  have hcut (k : Int) {rest : List Char} (hrest : EndsNumber rest) :
      ((toString k).toList ++ rest).takeWhile isNumeral = (toString k).toList := by
    rw [List.takeWhile_append_of_pos fun c hc => isNumeral_of_mem_toString hc,
      hrest.takeWhile_eq_nil, List.append_nil]
  have htexts : (toString n).toList = (toString m).toList := by
    rw [← hcut n hrest, h, hcut m hrest']
  constructor
  · have hrepr := String.toList_inj.mp htexts
    rw [Int.toString_eq_repr, Int.toString_eq_repr] at hrepr
    exact Int.repr_inj.mp hrepr
  · rw [htexts] at h
    exact List.append_cancel_left h

/-- A text between quotes is cut off where it ends. -/
theorem eq_of_string_append {s t : String} {rest rest' : List Char}
    (h : (string s).toList ++ rest = (string t).toList ++ rest') :
  s = t ∧ rest = rest'
  := by
  have hread (s : String) (rest : List Char) :
      stringRest? ((string s).toList ++ rest).tail = some (s.toList, rest) := by
    rw [string, String.toList_ofList, List.cons_append, List.cons_append, List.tail_cons,
      List.append_assoc, List.singleton_append, stringRest?_escaped]
  have hpair := hread t rest'
  rw [← h, hread, Option.some.injEq, Prod.mk.injEq] at hpair
  exact ⟨String.toList_inj.mp hpair.1, hpair.2⟩

/-! ### Parts between brackets -/

section

variable {α : Type} {R : α → String → Prop}

/-- The texts of `x` are told apart from the texts of anything else, and their ends are found. -/
def IsToldApart (R : α → String → Prop) (x : α) : Prop :=
  ∀ {y : α} {s t : String} {rest rest' : List Char}, R x s → R y t → EndsNumber rest →
    EndsNumber rest' → s.toList ++ rest = t.toList ++ rest' → x = y ∧ rest = rest'

/-- The texts with commas between them, up to the bracket after them. -/
def enclosed (closing : Char) (texts : List String) (rest : List Char) : List Char :=
  [',', ' '].intercalate (texts.map String.toList) ++ closing :: rest

/-- What stands after the first of some parts. -/
def afterPart (closing : Char) (texts : List String) (rest : List Char) : List Char :=
  if texts.isEmpty then closing :: rest else ',' :: ' ' :: enclosed closing texts rest

theorem enclosed_cons (closing : Char) (s : String) (texts : List String) (rest : List Char) :
  enclosed closing (s :: texts) rest = s.toList ++ afterPart closing texts rest
  := by
  cases texts with
  | nil => simp [enclosed, afterPart]
  | cons t texts =>
    simp only [enclosed, afterPart, List.map_cons, List.intercalate_cons_cons, List.append_assoc,
      List.isEmpty_cons, Bool.false_eq_true, if_false, List.cons_append, List.nil_append]

theorem endsNumber_afterPart {closing : Char} (hclosing : isNumeral closing = false)
    (texts : List String) (rest : List Char) :
  EndsNumber (afterPart closing texts rest)
  := by
  intro c hc
  unfold afterPart at hc
  split at hc
  · obtain rfl := Option.some.inj hc
    exact hclosing
  · obtain rfl := Option.some.inj hc
    rfl

/-- Parts between brackets are told apart if each of them is, and none starts with the bracket at
their end. -/
theorem eq_of_enclosed {closing : Char} (hclosing : closing = ']' ∨ closing = '\x7d')
    (hstart : ∀ {x : α} {s : String}, R x s → ∀ cs ds, closing :: cs ≠ s.toList ++ ds)
    {xs ys : List α} {ss ts : List String} (hxs : List.Forall₂ R xs ss)
    (hys : List.Forall₂ R ys ts) (hparts : ∀ x ∈ xs, IsToldApart R x) {rest rest' : List Char}
    (h : enclosed closing ss rest = enclosed closing ts rest') :
  xs = ys ∧ rest = rest'
  := by
  have hnumeral : isNumeral closing = false := by
    rcases hclosing with rfl | rfl <;> rfl
  have hcomma : closing ≠ ',' := by
    rcases hclosing with rfl | rfl <;> decide
  induction hxs generalizing ys ts with
  | nil =>
    cases hys with
    | nil => exact ⟨rfl, (List.cons.inj h).2⟩
    | cons hy _ =>
      rw [enclosed_cons] at h
      exact absurd h (hstart hy _ _)
  | @cons x s xs ss hx hxs ih =>
    cases hys with
    | nil =>
      rw [enclosed_cons] at h
      exact absurd h.symm (hstart hx _ _)
    | @cons y t ys ts hy hys =>
      rw [List.forall_mem_cons] at hparts
      rw [enclosed_cons, enclosed_cons] at h
      obtain ⟨rfl, hafter⟩ := hparts.1 hx hy (endsNumber_afterPart hnumeral ss rest)
        (endsNumber_afterPart hnumeral ts rest') h
      -- after the first parts both texts end, or both go on with a comma
      cases hxs with
      | nil =>
        cases hys with
        | nil => exact ⟨rfl, (List.cons.inj hafter).2⟩
        | cons => exact absurd (List.cons.inj hafter).1 hcomma
      | cons hx' hxs =>
        cases hys with
        | nil => exact absurd (List.cons.inj hafter).1.symm hcomma
        | cons hy' hys =>
          have htails := (List.cons.inj (List.cons.inj hafter).2).2
          obtain ⟨hrest, hrests⟩ := ih (.cons hy' hys) hparts.2 htails
          exact ⟨congrArg (x :: ·) hrest, hrests⟩

end

/-! ### Texts of trees -/

/-- The tree `v` has the text `s`. -/
def IsTreeText (v : Value) (s : String) : Prop :=
  v.IsTree ∧ compact [] v = .ok s

/-- The entry `e` of a tree has the text `s`. -/
def IsEntryText (e : Value × Value) (s : String) : Prop :=
  ∃ name text, e.1 = .text name ∧ IsTreeText e.2 text ∧ s = string name ++ ":" ++ text

theorem IsTreeText.list {items : List Value} {s : String} (h : IsTreeText (.list items) s) :
  ∃ texts, List.Forall₂ IsTreeText items texts
    ∧ ∀ rest, s.toList ++ rest = '[' :: enclosed ']' texts rest
  := by
  obtain ⟨htree, hs⟩ := h
  rw [compact, compactItems_eq_mapM] at hs
  obtain ⟨texts, htexts, hs⟩ := exists_of_bind_eq_ok hs
  obtain rfl := Except.ok.inj hs
  refine ⟨texts, (List.forall₂_and_left _ _).mpr ⟨htree.of_mem_items, forall₂_of_mapM htexts⟩,
    fun rest => ?_⟩
  simp [enclosed]

theorem IsTreeText.map {entries : List (Value × Value)} {s : String}
    (h : IsTreeText (.map entries) s) :
  ∃ texts, List.Forall₂ IsEntryText entries texts
    ∧ ∀ rest, s.toList ++ rest = '\x7b' :: enclosed '\x7d' texts rest
  := by
  obtain ⟨htree, hs⟩ := h
  rw [compact, compactEntries_eq_mapM] at hs
  obtain ⟨texts, htexts, hs⟩ := exists_of_bind_eq_ok hs
  obtain rfl := Except.ok.inj hs
  have hall := (List.forall₂_and_left _ _).mpr ⟨htree.of_mem_entries, forall₂_of_mapM htexts⟩
  refine ⟨texts, hall.imp ?_, fun rest => ?_⟩
  · rintro e s ⟨⟨⟨name, hname⟩, hvalue⟩, hs⟩
    rw [hname] at hs
    obtain ⟨_, ⟨⟩, hs⟩ := exists_of_bind_eq_ok hs
    obtain ⟨text, htext, hs⟩ := exists_of_bind_eq_ok hs
    exact ⟨name, text, hname, ⟨hvalue, htext⟩, (Except.ok.inj hs).symm⟩
  · simp [enclosed]

/-- The kinds of trees that the first character of a text tells apart. -/
inductive TreeKind where
  | null
  | truth
  | number
  | text
  | list
  | map

/-- The kind of the trees that start with a character. -/
def TreeKind.ofFirst? (c : Char) : Option TreeKind :=
  if isNumeral c then some number
  else match c with
    | 'n' => some null
    | 't' | 'f' => some truth
    | '\x22' => some text
    | '[' => some list
    | '\x7b' => some map
    | _ => none

/-- The kind of a tree. -/
def TreeKind.ofTree? : Value → Option TreeKind
  | .null => some null
  | .bool _ => some truth
  | .int _ => some number
  | .text _ => some text
  | .list _ => some list
  | .map _ => some map
  | _ => none

theorem IsTreeText.first {v : Value} {s : String} (h : IsTreeText v s) :
  ∃ c cs, s.toList = c :: cs ∧ TreeKind.ofFirst? c = TreeKind.ofTree? v
  := by
  obtain ⟨htree, hs⟩ := h
  cases htree with
  | null =>
    obtain rfl := Except.ok.inj hs
    exact ⟨'n', _, rfl, rfl⟩
  | bool b =>
    obtain rfl := Except.ok.inj hs
    cases b with
    | false => exact ⟨'f', _, rfl, rfl⟩
    | true => exact ⟨'t', _, rfl, rfl⟩
  | int n =>
    rw [compact] at hs
    obtain rfl := eq_toString_of_integerText hs
    obtain ⟨c, cs, htext⟩ := List.exists_cons_of_ne_nil (toString_ne_nil n)
    have hc : isNumeral c = true := by
      apply isNumeral_of_mem_toString (n := n)
      rw [htext]
      exact List.mem_cons_self
    exact ⟨c, cs, htext, if_pos hc⟩
  | text s =>
    obtain rfl := Except.ok.inj hs
    exact ⟨'\x22', _, String.toList_ofList, rfl⟩
  | list hitems =>
    obtain ⟨texts, -, htext⟩ := IsTreeText.list ⟨.list hitems, hs⟩
    exact ⟨'[', enclosed ']' texts [], by rw [← htext, List.append_nil], rfl⟩
  | map hnames hvalues =>
    obtain ⟨texts, -, htext⟩ := IsTreeText.map ⟨.map hnames hvalues, hs⟩
    exact ⟨'\x7b', enclosed '\x7d' texts [], by rw [← htext, List.append_nil], rfl⟩

/-- Trees with texts that start alike are of one kind. -/
theorem ofTree?_eq_of_append {v w : Value} {s t : String} {rest rest' : List Char}
    (hs : IsTreeText v s) (ht : IsTreeText w t) (h : s.toList ++ rest = t.toList ++ rest') :
  TreeKind.ofTree? v = TreeKind.ofTree? w
  := by
  obtain ⟨c, cs, hs, hc⟩ := hs.first
  obtain ⟨d, ds, ht, hd⟩ := ht.first
  rw [hs, ht] at h
  rw [← hc, ← hd, (List.cons.inj h).1]

theorem IsTreeText.ne_closing {v : Value} {s : String} (h : IsTreeText v s) (cs ds : List Char) :
  ']' :: cs ≠ s.toList ++ ds
  := by
  obtain ⟨c, cs', hs, hc⟩ := h.first
  rw [hs, List.cons_append]
  intro heq
  rw [← (List.cons.inj heq).1] at hc
  cases h.1 <;> contradiction

theorem IsEntryText.ne_closing {e : Value × Value} {s : String} (h : IsEntryText e s)
    (cs ds : List Char) :
  '\x7d' :: cs ≠ s.toList ++ ds
  := by
  obtain ⟨name, text, -, -, rfl⟩ := h
  simp [string]

/-- Entries are told apart if their values are. -/
theorem isToldApart_entry {e : Value × Value} (he : IsToldApart IsTreeText e.2) :
  IsToldApart IsEntryText e
  := by
  intro f s t rest rest' hs ht hrest hrest' h
  obtain ⟨name, text, hname, htext, rfl⟩ := hs
  obtain ⟨name', text', hname', htext', rfl⟩ := ht
  simp only [String.toList_append, List.append_assoc] at h
  obtain ⟨rfl, hvalues⟩ := eq_of_string_append h
  obtain ⟨hvalue, hrests⟩ := he htext htext' hrest hrest' (List.append_cancel_left hvalues)
  exact ⟨Prod.ext (hname.trans hname'.symm) hvalue, hrests⟩

/-- Lists are told apart if their items are. -/
theorem isToldApart_list {items : List Value}
    (hitems : ∀ v ∈ items, IsToldApart IsTreeText v) :
  IsToldApart IsTreeText (.list items)
  := by
  intro w s t rest rest' hs ht _ _ h
  cases ht.1
  case list items' _ =>
    obtain ⟨texts, htexts, hs⟩ := hs.list
    obtain ⟨texts', htexts', ht⟩ := ht.list
    rw [hs, ht, List.cons.injEq] at h
    obtain ⟨rfl, hrests⟩ :=
      eq_of_enclosed (.inl rfl) IsTreeText.ne_closing htexts htexts' hitems h.2
    exact ⟨rfl, hrests⟩
  all_goals exact nomatch ofTree?_eq_of_append hs ht h

/-- Maps are told apart if their values are. -/
theorem isToldApart_map {entries : List (Value × Value)}
    (hvalues : ∀ e ∈ entries, IsToldApart IsTreeText e.2) :
  IsToldApart IsTreeText (.map entries)
  := by
  intro w s t rest rest' hs ht _ _ h
  cases ht.1
  case map entries' _ _ =>
    obtain ⟨texts, htexts, hs⟩ := hs.map
    obtain ⟨texts', htexts', ht⟩ := ht.map
    rw [hs, ht, List.cons.injEq] at h
    obtain ⟨rfl, hrests⟩ := eq_of_enclosed (.inr rfl) IsEntryText.ne_closing htexts htexts'
      (fun e he => isToldApart_entry (hvalues e he)) h.2
    exact ⟨rfl, hrests⟩
  all_goals exact nomatch ofTree?_eq_of_append hs ht h

/-- The text of a tree is told apart from the texts of all other trees. -/
theorem isToldApart_tree {v : Value} (hv : v.IsTree) :
  IsToldApart IsTreeText v
  := by
  -- the first characters leave only the case in which both trees are of one kind
  induction hv with
  | null =>
    intro w s t rest rest' hs ht _ _ h
    cases ht.1
    case null =>
      obtain rfl := Except.ok.inj (hs.2.symm.trans ht.2)
      exact ⟨rfl, List.append_cancel_left h⟩
    all_goals exact nomatch ofTree?_eq_of_append hs ht h
  | bool b =>
    intro w s t rest rest' hs ht _ _ h
    cases ht.1
    case bool b' =>
      obtain rfl := Except.ok.inj hs.2
      obtain rfl := Except.ok.inj ht.2
      cases b <;> cases b' <;> simp_all
    all_goals exact nomatch ofTree?_eq_of_append hs ht h
  | int n =>
    intro w s t rest rest' hs ht hrest hrest' h
    cases ht.1
    case int m =>
      obtain rfl := eq_toString_of_integerText hs.2
      obtain rfl := eq_toString_of_integerText ht.2
      obtain ⟨rfl, hrests⟩ := eq_of_toString_append hrest hrest' h
      exact ⟨rfl, hrests⟩
    all_goals exact nomatch ofTree?_eq_of_append hs ht h
  | text a =>
    intro w s t rest rest' hs ht _ _ h
    cases ht.1
    case text a' =>
      obtain rfl := Except.ok.inj hs.2
      obtain rfl := Except.ok.inj ht.2
      obtain ⟨rfl, hrests⟩ := eq_of_string_append h
      exact ⟨rfl, hrests⟩
    all_goals exact nomatch ofTree?_eq_of_append hs ht h
  | list _ ih => exact isToldApart_list ih
  | map _ _ ih => exact isToldApart_map ih

/-- Trees with one text are equal. -/
theorem IsTreeText.unique {v w : Value} {s : String} (hv : IsTreeText v s) (hw : IsTreeText w s) :
  v = w
  := by
  have hend : EndsNumber [] := nofun
  exact (isToldApart_tree hv.1 hv hw hend hend rfl).1

end Json

/-! ### Printed tokens -/

namespace Value

open Json

/-- A printed tree is a text between apostrophes, or as in JSON. -/
theorem IsTree.of_printed {v : Value} (hv : v.IsTree) {s : String} (hs : v.printed = .ok s) :
  (∃ text, v = .text text ∧ s = "'" ++ text ++ "'") ∨ IsTreeText v s
  := by
  cases hv with
  | text text => exact .inl ⟨text, rfl, (Except.ok.inj hs).symm⟩
  | null => exact .inr ⟨.null, hs⟩
  | bool b => exact .inr ⟨.bool b, hs⟩
  | int n => exact .inr ⟨.int n, hs⟩
  | list h => exact .inr ⟨.list h, hs⟩
  | map names h => exact .inr ⟨.map names h, hs⟩

/-- No text of a tree starts with an apostrophe. -/
theorem quoted_not_isTreeText (text : String) (v : Value) :
  ¬IsTreeText v ("'" ++ text ++ "'")
  := by
  intro h
  obtain ⟨c, cs, hs, hc⟩ := h.first
  have hquote : c = '\'' := by
    rw [String.toList_append, String.toList_append] at hs
    exact (List.cons.inj hs).1.symm
  rw [hquote] at hc
  cases h.1 <;> contradiction

theorem printed_unique {v w : Value} (hv : v.IsTree) (hw : w.IsTree) {s : String}
    (hs : v.printed = .ok s) (ht : w.printed = .ok s) :
  v = w
  := by
  obtain ⟨text, rfl, rfl⟩ | hs := hv.of_printed hs
  · obtain ⟨text', rfl, htexts⟩ | ht := hw.of_printed ht
    · simpa [← String.toList_inj] using htexts
    · exact absurd ht (quoted_not_isTreeText text w)
  · obtain ⟨text', rfl, rfl⟩ | ht := hw.of_printed ht
    · exact absurd hs (quoted_not_isTreeText text' v)
    · exact hs.unique ht

theorem IsTree.printed_ne_empty {v : Value} (hv : v.IsTree) :
  v.printed ≠ .ok ""
  := by
  intro hs
  obtain ⟨text, -, htext⟩ | hs := hv.of_printed hs
  · simp [← String.toList_inj] at htext
  · obtain ⟨c, cs, htext, -⟩ := hs.first
    contradiction

theorem eq_of_printed? {v w : Option Value} (hv : ∀ x ∈ v, x.IsTree) (hw : ∀ x ∈ w, x.IsTree)
    {s : String} (hs : printed? v = .ok s) (ht : printed? w = .ok s) :
  v = w
  := by
  cases v with
  | none =>
    cases w with
    | none => rfl
    | some w =>
      obtain rfl := Except.ok.inj hs
      exact absurd ht (hw w rfl).printed_ne_empty
  | some v =>
    cases w with
    | none =>
      obtain rfl := Except.ok.inj ht
      exact absurd hs (hv v rfl).printed_ne_empty
    | some w => rw [printed_unique (hv v rfl) (hw w rfl) hs ht]

theorem exists_printed? {v : Option Value} (hv : ∀ x ∈ v, x.IsTree)
    (hwritable : ∀ x ∈ v, x.IsWritable) :
  ∃ s, printed? v = .ok s
  := by
  cases v with
  | none => exact ⟨"", rfl⟩
  | some v =>
    have hfails : FailsOnly (fun _ => False) v.printed :=
      (hwritable v rfl).printed (hv v rfl).isPrintable
    cases hprinted : v.printed with
    | ok s => exact ⟨s, hprinted⟩
    | error e => exact (hfails e hprinted).elim

/-- A value that may be missing is printed if its integers can be written, and its token is that of
no other one.  In particular only a missing value is printed as nothing, and only null as `null`. -/
theorem printed?_unique {v : Option Value} (hv : ∀ x ∈ v, x.IsTree) :
  ((∀ x ∈ v, x.IsWritable) → ∃ s, printed? v = .ok s)
    ∧ (∀ w : Option Value, (∀ x ∈ w, x.IsTree) →
        ∀ s, printed? v = .ok s → printed? w = .ok s → v = w)
    ∧ (printed? v = .ok "" ↔ v = none)
    ∧ (printed? v = .ok "null" ↔ v = some .null)
  := by
  refine ⟨exists_printed? hv, fun w hw s hs ht => eq_of_printed? hv hw hs ht, ⟨fun hs => ?_, ?_⟩,
    fun hs => ?_, ?_⟩
  · exact eq_of_printed? hv nofun hs rfl
  · rintro rfl
    rfl
  · refine eq_of_printed? hv ?_ hs rfl
    rintro _ ⟨⟩
    exact .null
  · rintro rfl
    rfl

/-- No other value has the token of this list, of which the texts hold marks of JSON. -/
theorem printed?_unique_nested :
  printed? (some (.list [.text "\x22, \x22", .map [(.text "]", .int (-10))]]))
      = .ok "[\x22\\\x22, \\\x22\x22, \x7b\x22]\x22:-10\x7d]"
    ∧ ∀ w : Option Value, (∀ x ∈ w, x.IsTree) →
      printed? w = .ok "[\x22\\\x22, \\\x22\x22, \x7b\x22]\x22:-10\x7d]" →
      some (.list [.text "\x22, \x22", .map [(.text "]", .int (-10))]]) = w
  := by
  have hprinted : printed? (some (.list [.text "\x22, \x22", .map [(.text "]", .int (-10))]]))
      = .ok "[\x22\\\x22, \\\x22\x22, \x7b\x22]\x22:-10\x7d]" := by
    decide +kernel
  refine ⟨hprinted, fun w hw ht => (printed?_unique ?_).2.1 w hw _ hprinted ht⟩
  have hmap : IsTree (.map [(.text "]", .int (-10))]) :=
    .map (by simp) (by simpa using IsTree.int (-10))
  rintro _ ⟨⟩
  refine .list ?_
  simpa using ⟨IsTree.text "\x22, \x22", hmap⟩

end Value

end DocTable
