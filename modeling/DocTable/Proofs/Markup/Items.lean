import DocTable.Proofs.Markup.Escape
import DocTable.Proofs.Markup.Tags

/-!
# Reading elements

The items of a text are its characters and its tags (`htmlItems`).  The items of what is written for
a markup are known piece by piece (`Markup.HasItems`): an escaped text shows its characters, and a
tag that is written is one item.

A list of items may be made of elements, start tags with what stands up to their end tags
(`elements?`).  Elements that are written one after the other are read again, as long as none has
an end tag of its own name in it.
-/

namespace DocTable

/-- A character or a tag. -/
inductive HtmlItem where
  | char (c : Char)
  | tag (tag : HtmlTag)
  deriving DecidableEq

/-! ### The items of a text -/

/-- The items of a text.  If a tag is open at its start, what stands in it already is given; a tag
that does not end is no item. -/
def itemsFrom : Option (List Char) → List Char → List HtmlItem
  | _, [] => []
  | none, c :: cs => if c = '<' then itemsFrom (some []) cs else .char c :: itemsFrom none cs
  | some inside, c :: cs =>
    if c = '>' then .tag (readTag inside) :: itemsFrom none cs
    else itemsFrom (some (inside ++ [c])) cs

/-- The items of a text. -/
@[irreducible]
def htmlItems (html : String) : List HtmlItem :=
  itemsFrom none html.toList

/-- A text has certain items, whatever comes after it. -/
def ShowsItems (cs : List Char) (items : List HtmlItem) : Prop :=
  ∀ rest, itemsFrom none (cs ++ rest) = items ++ itemsFrom none rest

theorem showsItems_nil :
  ShowsItems [] []
  := fun _ => rfl

theorem ShowsItems.append {cs ds : List Char} {items items' : List HtmlItem}
    (hcs : ShowsItems cs items) (hds : ShowsItems ds items') :
  ShowsItems (cs ++ ds) (items ++ items')
  := by
  intro rest
  rw [List.append_assoc, hcs, hds, List.append_assoc]

theorem ShowsItems.itemsFrom {cs : List Char} {items : List HtmlItem} (h : ShowsItems cs items) :
  itemsFrom none cs = items
  := by
  have hall := h []
  rwa [List.append_nil, DocTable.itemsFrom, List.append_nil] at hall

/-- A text without `<` shows its characters. -/
theorem showsItems_of_not_mem {cs : List Char} (h : '<' ∉ cs) :
  ShowsItems cs (cs.map .char)
  := by
  intro rest
  induction cs with
  | nil => rfl
  | cons c cs ih =>
    rw [List.mem_cons, not_or] at h
    rw [List.cons_append, itemsFrom, if_neg (Ne.symm h.1), ih h.2, List.map_cons, List.cons_append]

theorem itemsFrom_some (before : List Char) {inside : List Char} (h : '>' ∉ inside)
    (rest : List Char) :
  itemsFrom (some before) (inside ++ '>' :: rest)
    = .tag (readTag (before ++ inside)) :: itemsFrom none rest
  := by
  induction inside generalizing before with
  | nil => rw [List.nil_append, itemsFrom, if_pos rfl, List.append_nil]
  | cons c inside ih =>
    rw [List.mem_cons, not_or] at h
    rw [List.cons_append, itemsFrom, if_neg (Ne.symm h.1), ih _ h.2, List.append_assoc,
      List.singleton_append]

/-- A tag that is written is one item. -/
theorem showsItems_write {tag : HtmlTag} (h : tag.IsWritable) :
  ShowsItems tag.write.toList [.tag tag]
  := by
  obtain ⟨inside, hwrite, ⟨-, hgreater⟩, hread⟩ := h.exists_inside
  intro rest
  have hclosed := itemsFrom_some [] hgreater rest
  rw [List.nil_append, hread] at hclosed
  rw [hwrite, List.cons_append, List.cons_append, itemsFrom, if_pos rfl, List.append_assoc,
    List.singleton_append, hclosed, List.singleton_append]

/-! ### Texts -/

/-- What is made of each item of a list is read item by item. -/
theorem mapM_map_eq_some {α β γ : Type} {f : α → β} {g : β → Option γ} {h : α → γ} {as : List α}
    (hread : ∀ a ∈ as, g (f a) = some (h a)) :
  (as.map f).mapM g = some (as.map h)
  := by
  induction as with
  | nil => rfl
  | cons a as ih =>
    rw [List.forall_mem_cons] at hread
    rw [List.map_cons, List.mapM_cons, hread.1, ih hread.2]
    rfl

/-- The items of a text that is escaped. -/
@[irreducible]
def textItems [Escaping] (s : String) : List HtmlItem :=
  (escapeText s).toList.map .char

/-- The character that an item is. -/
def HtmlItem.char? : HtmlItem → Option Char
  | char c => some c
  | tag _ => none

/-- The text that some items are, without its character references; tags are no text. -/
def readText? (items : List HtmlItem) : Option String :=
  (items.mapM HtmlItem.char?).map fun cs => String.ofList (unescapeChars cs)

theorem readText?_textItems [Escaping] (s : String) :
  readText? (textItems s) = some s
  := by
  have hchars : ((escapeText s).toList.map HtmlItem.char).mapM HtmlItem.char?
      = some ((escapeText s).toList.map id) :=
    mapM_map_eq_some fun _ _ => rfl
  rw [readText?, textItems, hchars, List.map_id, Option.map_some, unescapeChars_escapeText,
    String.ofList_toList]

/-! ### Elements -/

/-- An element: its start tag, and what stands up to its end tag. -/
structure HtmlElement where
  tag : HtmlTag
  inner : List HtmlItem
  deriving DecidableEq

namespace HtmlElement

/-- The end tag of an element. -/
def endTag (e : HtmlElement) : HtmlTag where
  name := "/" ++ e.tag.name

/-- The items of an element. -/
def items (e : HtmlElement) : List HtmlItem :=
  .tag e.tag :: e.inner ++ [.tag e.endTag]

end HtmlElement

/-- The item is the end tag of elements with this name. -/
def HtmlItem.ends (name : String) : HtmlItem → Bool
  | char _ => false
  | tag t => t.name = "/" ++ name

/-- The elements that some items are made of, if they are made of elements only.  If an element is
open at their start, it is given with what stands in it already. -/
def elementsFrom? : Option HtmlElement → List HtmlItem → Option (List HtmlElement)
  | none, [] => some []
  | some _, [] => none
  | none, .char _ :: _ => none
  | none, .tag tag :: items => elementsFrom? (some ⟨tag, []⟩) items
  | some e, item :: items =>
    if item.ends e.tag.name then (elementsFrom? none items).map (e :: ·)
    else elementsFrom? (some ⟨e.tag, e.inner ++ [item]⟩) items

/-- The elements that some items are made of, if they are elements with this name. -/
def elements? (name : String) (items : List HtmlItem) : Option (List HtmlElement) :=
  (elementsFrom? none items).filter fun es => es.all (·.tag.name = name)

/-- No end tag of the element stands in it. -/
def HtmlElement.IsClosed (e : HtmlElement) : Prop :=
  ∀ item ∈ e.inner, item.ends e.tag.name = false

theorem elementsFrom?_some {tag : HtmlTag} (before : List HtmlItem) {inner : List HtmlItem}
    (h : ∀ item ∈ inner, item.ends tag.name = false) (rest : List HtmlItem) :
  elementsFrom? (some ⟨tag, before⟩) (inner ++ .tag ⟨"/" ++ tag.name, []⟩ :: rest)
    = (elementsFrom? none rest).map (⟨tag, before ++ inner⟩ :: ·)
  := by
  induction inner generalizing before with
  | nil => rw [List.nil_append, elementsFrom?, if_pos (by simp [HtmlItem.ends]), List.append_nil]
  | cons item inner ih =>
    rw [List.forall_mem_cons] at h
    rw [List.cons_append, elementsFrom?, if_neg (by simp [h.1]), ih _ h.2, List.append_assoc,
      List.singleton_append]

/-- Elements are read again. -/
theorem elementsFrom?_flatMap {es : List HtmlElement} (h : ∀ e ∈ es, e.IsClosed) :
  elementsFrom? none (es.flatMap HtmlElement.items) = some es
  := by
  induction es with
  | nil => rfl
  | cons e es ih =>
    rw [List.forall_mem_cons] at h
    have hfirst := elementsFrom?_some [] h.1 (es.flatMap HtmlElement.items)
    rw [List.nil_append, ih h.2, Option.map_some] at hfirst
    rw [List.flatMap_cons, HtmlElement.items, List.append_assoc, List.cons_append,
      List.singleton_append, elementsFrom?]
    exact hfirst

theorem elements?_flatMap {name : String} {es : List HtmlElement} (h : ∀ e ∈ es, e.IsClosed)
    (hname : ∀ e ∈ es, e.tag.name = name) :
  elements? name (es.flatMap HtmlElement.items) = some es
  := by
  rw [elements?, elementsFrom?_flatMap h, Option.filter_some, if_pos]
  simpa using hname

/-! ### The names of tags -/

/-- Every tag among the items has one of the names. -/
def UsesTags (names : List String) (items : List HtmlItem) : Prop :=
  ∀ tag, .tag tag ∈ items → tag.name ∈ names

theorem usesTags_nil (names : List String) :
  UsesTags names []
  := nofun

theorem UsesTags.append {names : List String} {items items' : List HtmlItem}
    (h : UsesTags names items) (h' : UsesTags names items') :
  UsesTags names (items ++ items')
  := fun tag htag => (List.mem_append.mp htag).elim (h tag) (h' tag)

theorem UsesTags.flatMap {α : Type} {names : List String} {as : List α} {f : α → List HtmlItem}
    (h : ∀ a ∈ as, UsesTags names (f a)) :
  UsesTags names (as.flatMap f)
  := by
  intro tag htag
  obtain ⟨a, ha, htag⟩ := List.mem_flatMap.mp htag
  exact h a ha tag htag

theorem UsesTags.intercalate {names : List String} {between : List HtmlItem}
    (hbetween : UsesTags names between) {runs : List (List HtmlItem)}
    (h : ∀ run ∈ runs, UsesTags names run) :
  UsesTags names (between.intercalate runs)
  := by
  induction runs with
  | nil => exact usesTags_nil names
  | cons run runs ih =>
    rw [List.forall_mem_cons] at h
    cases runs with
    | nil => simpa using h.1
    | cons next runs =>
      rw [List.intercalate_cons_cons]
      exact (h.1.append hbetween).append (ih h.2)

theorem usesTags_textItems [Escaping] (names : List String) (s : String) :
  UsesTags names (textItems s)
  := by
  intro tag htag
  simp [textItems] at htag

theorem UsesTags.items {names : List String} {e : HtmlElement} (hstart : e.tag.name ∈ names)
    (hend : "/" ++ e.tag.name ∈ names) (h : UsesTags names e.inner) :
  UsesTags names e.items
  := by
  intro tag htag
  simp only [HtmlElement.items, List.cons_append, List.mem_cons, List.mem_append,
    HtmlItem.tag.injEq, List.not_mem_nil, or_false] at htag
  obtain rfl | hinner | rfl := htag
  · exact hstart
  · exact h tag hinner
  · exact hend

theorem UsesTags.mono {names names' : List String} {items : List HtmlItem}
    (h : UsesTags names items) (hnames : names ⊆ names') :
  UsesTags names' items
  := fun tag htag => hnames (h tag htag)

theorem UsesTags.isClosed {names : List String} {e : HtmlElement} (h : UsesTags names e.inner)
    (hname : "/" ++ e.tag.name ∉ names) :
  e.IsClosed
  := by
  intro item hitem
  cases item with
  | char c => rfl
  | tag tag =>
    rw [HtmlItem.ends, decide_eq_false_iff_not]
    intro hends
    rw [← hends] at hname
    exact hname (h tag hitem)

/-! ### The items of a markup -/

namespace Markup

variable [Escaping]

/-- The items of what is written for a markup. -/
def HasItems (m : Markup) (items : List HtmlItem) : Prop :=
  ShowsItems m.toHtml.toList items

theorem HasItems.htmlItems {m : Markup} {items : List HtmlItem} (h : HasItems m items) :
  htmlItems m.toHtml = items
  := by
  rw [DocTable.htmlItems]
  exact ShowsItems.itemsFrom h

theorem hasItems_nil :
  HasItems [] []
  := showsItems_nil

theorem HasItems.append {m n : Markup} {items items' : List HtmlItem} (hm : HasItems m items)
    (hn : HasItems n items') :
  HasItems (m ++ n) (items ++ items')
  := by
  rw [HasItems, toHtml_append, String.toList_append]
  exact ShowsItems.append hm hn

theorem HasItems.flatMap {α : Type} {f : α → Markup} {items : α → List HtmlItem} {as : List α}
    (h : ∀ a ∈ as, HasItems (f a) (items a)) :
  HasItems (as.flatMap f) (as.flatMap items)
  := by
  induction as with
  | nil => exact hasItems_nil
  | cons a as ih =>
    rw [List.forall_mem_cons] at h
    rw [List.flatMap_cons, List.flatMap_cons]
    exact h.1.append (ih h.2)

theorem HasItems.join {α : Type} {separator : String} {between : List HtmlItem}
    (hseparator : HasItems [.fixed separator] between) {f : α → Markup}
    {items : α → List HtmlItem} {as : List α} (h : ∀ a ∈ as, HasItems (f a) (items a)) :
  HasItems (join separator (as.map f)) (between.intercalate (as.map items))
  := by
  induction as with
  | nil => exact hasItems_nil
  | cons a as ih =>
    rw [List.forall_mem_cons] at h
    cases as with
    | nil => simpa [Markup.join] using h.1
    | cons b as =>
      simp only [List.map_cons, List.intercalate_cons_cons] at ih ⊢
      rw [List.append_assoc]
      exact h.1.append (hseparator.append (ih h.2))

theorem hasItems_text (s : String) :
  HasItems [.text s] (textItems s)
  := by
  have htext : (toHtml [.text s]).toList = (escapeText s).toList := by
    simp [toHtml, Piece.toHtml]
  rw [HasItems, htext, textItems]
  exact showsItems_of_not_mem (not_mem_of_marks_eq_nil (marks_escapeText s) rfl)

/-- The items of a fixed text, which is given by its characters. -/
theorem hasItems_fixed {s : String} {cs : List Char} (hs : String.ofList cs = s)
    {items : List HtmlItem} (h : ShowsItems cs items) :
  HasItems [.fixed s] items
  := by
  have htoHtml : (toHtml [.fixed s]).toList = cs := by
    simp [toHtml, Piece.toHtml, ← hs]
  rw [HasItems, htoHtml]
  exact h

/-- What is written for a markup, as a fixed text. -/
theorem HasItems.fixed {m : Markup} {items : List HtmlItem} (h : HasItems m items) :
  HasItems [.fixed m.toHtml] items
  := hasItems_fixed String.ofList_toList h

/-- What is written between the tags of an element. -/
theorem HasItems.element {e : HtmlElement} (htag : e.tag.IsWritable) {content m : Markup}
    (hcontent : HasItems content e.inner)
    (h : m.toHtml.toList
      = e.tag.write.toList ++ content.toHtml.toList ++ e.endTag.write.toList) :
  HasItems m e.items
  := by
  have hslash : DocTable.marks "/" = [] := by
    decide
  have hend : e.endTag.IsWritable := {
    noBlank := by simpa [HtmlElement.endTag] using htag.noBlank
    name := by rw [HtmlElement.endTag, DocTable.marks_append, hslash, htag.name]; rfl
    attributes := nofun }
  rw [HasItems, h]
  exact ((showsItems_write htag).append hcontent).append (showsItems_write hend)

theorem HasItems.wrap {e : HtmlElement} (htag : e.tag.IsWritable) {content : Markup}
    (hcontent : HasItems content e.inner) {opening closing : String}
    (hopening : opening.toList = e.tag.write.toList)
    (hclosing : closing.toList = e.endTag.write.toList) :
  HasItems (wrap opening content closing) e.items
  := by
  apply hcontent.element htag
  simp [Markup.wrap, toHtml, Piece.toHtml, ← hopening, ← hclosing]

/-! ### Plain texts -/

/-- The items of a break between two lines of a plain text. -/
def breakItems : List HtmlItem :=
  [.tag ⟨"br", []⟩, .char '\n']

/-- A plain text shows its lines, with breaks between them. -/
theorem hasItems_ofPlain (s : String) :
  HasItems (.ofPlain s)
    (breakItems.intercalate ((Text.splitLines s.toList).map fun line => textItems (.ofList line)))
  := by
  have hbreak : HasItems [.fixed "<br>\n"] breakItems :=
    hasItems_fixed rfl fun _ => rfl
  exact hbreak.join fun line _ => hasItems_text (.ofList line)

theorem hasItems_plainHtml (s : String) :
  HasItems [.fixed (plainHtml s)] (htmlItems (plainHtml s))
  := by
  rw [plainHtml, (hasItems_ofPlain s).htmlItems]
  exact (hasItems_ofPlain s).fixed

/-- The only tags of a plain text are its breaks. -/
theorem usesTags_plainHtml (s : String) :
  UsesTags ["br"] (htmlItems (plainHtml s))
  := by
  rw [plainHtml, (hasItems_ofPlain s).htmlItems]
  have hbreak : UsesTags ["br"] breakItems := by
    intro tag htag
    simp only [breakItems, List.mem_cons, HtmlItem.tag.injEq, reduceCtorEq, List.not_mem_nil,
      or_false] at htag
    rw [htag]
    exact List.mem_cons_self
  apply hbreak.intercalate
  intro run hrun
  obtain ⟨line, -, rfl⟩ := List.mem_map.mp hrun
  apply usesTags_textItems

end Markup

end DocTable
