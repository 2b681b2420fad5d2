import DocTable.Text.Word

/-!
# Words of a command line

A command line is a list of words.  `classify` decides for each of them whether it is an option,
with or without a value attached, an operand, or the separator that ends the options.  A long option
may be shortened to any beginning that belongs to it alone, and short options can share a word.
-/

namespace DocTable.Command

/-- The spellings of options, with what they stand for. -/
abbrev Spellings (φ : Type) := List (List Char × φ)

/-- What is attached to an option in its word. -/
structure Attachment where
  /-- An equals sign stands before it. -/
  isSigned : Bool
  text : List Char
  deriving DecidableEq, Repr

/-- What a word is. -/
inductive Word (φ : Type) where
  | operand
  /-- Two dashes: the words after it are operands. -/
  | separator
  /-- An option; `short` says that it is written with one dash.  A value may be attached to it. -/
  | option (flag : φ) (short : Bool) (attached : Option Attachment)
  /-- A word that looks like an option and is none. -/
  | unknown
  deriving DecidableEq, Repr

variable {φ : Type}

/-- A negative number, which is an operand. -/
def isNegativeNumber (word : List Char) : Bool :=
  let word := if word.getLast? = some '\n' then word.dropLast else word
  match word with
  | '-' :: digits =>
    let whole := digits.takeWhile Text.isDecimalDigit
    match digits.drop whole.length with
    | [] => !whole.isEmpty
    | '.' :: fraction => !fraction.isEmpty && fraction.all Text.isDecimalDigit
    | _ => false
  | _ => false

/-- The part before the first equals sign, and the part after it. -/
def splitSign (word : List Char) : List Char × Option (List Char) :=
  let name := word.takeWhile (· ≠ '=')
  match word.drop name.length with
  | [] => (name, none)
  | _ :: value => (name, some value)

/-- The options that a word with two dashes can be the beginning of. -/
def longMatches (spellings : Spellings φ) (word : List Char) : List (Word φ) :=
  let (name, attached) := splitSign word
  (spellings.filter fun s => name.isPrefixOf s.1).map fun s =>
    .option s.2 false (attached.map (⟨true, ·⟩))

/-- The option of the first letter of a word with one dash; the rest of the word is attached. -/
def shortMatches (spellings : Spellings φ) (word : List Char) : List (Word φ) :=
  (spellings.filter fun s => s.1 = word.take 2).map fun s =>
    .option s.2 true (some ⟨false, word.drop 2⟩)

/-- What a word is that may be a shortened option; nothing when it can be several. -/
def classifyLoosely (spellings : Spellings φ) (word : List Char) : Option (Word φ) :=
  let found :=
    if word.take 2 = ['-', '-'] then longMatches spellings word else shortMatches spellings word
  match found with
  | [w] => some w
  | _ :: _ :: _ => none
  | [] => some (if isNegativeNumber word || word.contains ' ' then .operand else .unknown)

/-- What a word is, by the spellings of the options; nothing when it can be several options. -/
def classify (spellings : Spellings φ) (word : List Char) : Option (Word φ) :=
  if word = ['-', '-'] then some .separator
  else if word.head? ≠ some '-' ∨ word.length = 1 then some .operand
  else
    let short := word.take 2 ≠ ['-', '-']
    match spellings.lookup word with
    | some flag => some (.option flag short none)
    | none =>
      match splitSign word with
      | (_, none) => classifyLoosely spellings word
      | (name, some attached) =>
        match spellings.lookup name with
        | some flag => some (.option flag short (some ⟨true, attached⟩))
        | none => classifyLoosely spellings word

/-- The words up to the separator, each with what it is; after it all are operands. -/
def classifyAll (spellings : Spellings φ) : List String → Option (List (String × Word φ))
  | [] => some []
  | word :: words => do
    let w ← classify spellings word.toList
    match w with
    | .separator => pure ((word, .separator) :: words.map fun s => (s, .operand))
    | w => pure ((word, w) :: (← classifyAll spellings words))

end DocTable.Command
