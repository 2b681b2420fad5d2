import DocTable.Json.Token

/-!
# Complaints about JSON

`Json.complaint` says what is wrong with a text that is no JSON, and where: it follows the text up
to the first place where it cannot go on.  Places are counted in code points.
-/

namespace DocTable.Json

open Text

/-- What is wrong with a text, and the text from the place in question on. -/
structure Complaint where
  text : List Char
  what : String
  rest : List Char

namespace Complaint

/-- The code points before the place in question. -/
def before (c : Complaint) : List Nat :=
  codePoints (c.text.take (c.text.length - c.rest.length))

/-- What is said of a text that is no JSON. -/
def message (c : Complaint) : String :=
  let lines := c.before.splitOn '\n'.toNat
  c.what ++ ": line " ++ toString lines.length ++ " column "
    ++ toString ((lines.getLastD []).length + 1) ++ " (char " ++ toString c.before.length ++ ")"

end Complaint

/-- What is wrong, and the text from there on. -/
abbrev Stop := String × List Char

/-- Four hexadecimal digits at the start of a text, and the text after them. -/
def takeUnit? : List Char → Option (List Char)
  | a :: b :: c :: d :: cs => (unit? a b c d).map fun _ => cs
  | _ => none

/-- The text after a string whose inside begins the text `cs`; `start` is the text from the
quotation mark on. -/
def skipString (start : List Char) : Nat → List Char → Except Stop (List Char)
  | 0, _ | _, [] => .error ("Unterminated string starting at", start)
  | n + 1, c :: cs =>
    if c = '\x22' then .ok cs
    else if c = '\\' then
      match cs with
      | [] => .error ("Unterminated string starting at", start)
      | 'u' :: digits =>
        match takeUnit? digits with
        | some (d :: rest) => skipString start n (d :: rest)
        | _ => .error ("Invalid \\uXXXX escape", cs)
      | letter :: rest =>
        if (escaped? letter).isSome then skipString start n rest
        else .error ("Invalid \\escape", c :: cs)
    else if c.toNat < 0x20 then .error ("Invalid control character at", c :: cs)
    else skipString start n cs

/-- The words that are values. -/
def valueWords : List (List Char) :=
  ["null", "true", "false", "NaN", "Infinity", "-Infinity"].map String.toList

/-- The text after a word or a number at its start. -/
def skipScalar (cs : List Char) : Except Stop (List Char) :=
  match valueWords.find? (·.isPrefixOf cs) with
  | some word => .ok (cs.drop word.length)
  | none =>
    let number := match cs with
      | '-' :: digits => number? true digits
      | digits => number? false digits
    match number with
    | some (_, rest) => .ok rest
    | none => .error ("Expecting value", cs)

/-- What may stand at a place. -/
inductive Expected where
  | value
  /-- A value, or the end of an array. -/
  | item
  /-- A key. -/
  | key
  /-- A key, or the end of an object. -/
  | field
  | colon
  /-- The end of the array or the object, or a comma before what comes next in it. -/
  | next
  deriving DecidableEq, Repr

/-- Follows a text from a place on, inside the brackets `opened`.  The number bounds the steps. -/
def follow : Nat → List Char → Expected → List Char → Stop
  | 0, _, _, cs => ("Expecting value", cs)
  | n + 1, opened, expected, cs =>
    let cs := cs.dropWhile isJsonBlank
    let goOn (expected : Expected) : Except Stop (List Char) → Stop
      | .error stop => stop
      | .ok rest => follow n opened expected rest
    match expected, cs, opened with
    | .item, ']' :: rest, _ :: outer => follow n outer .next rest
    | .value, '[' :: rest, _ | .item, '[' :: rest, _ => follow n ('[' :: opened) .item rest
    | .value, '\x7b' :: rest, _ | .item, '\x7b' :: rest, _ =>
      follow n ('\x7b' :: opened) .field rest
    | .value, '\x22' :: rest, _ | .item, '\x22' :: rest, _ =>
      goOn .next (skipString cs rest.length rest)
    | .value, _, _ | .item, _, _ => goOn .next (skipScalar cs)
    | .field, '\x7d' :: rest, _ :: outer => follow n outer .next rest
    | .key, '\x22' :: rest, _ | .field, '\x22' :: rest, _ =>
      goOn .colon (skipString cs rest.length rest)
    | .key, _, _ | .field, _, _ => ("Expecting property name enclosed in double quotes", cs)
    | .colon, ':' :: rest, _ => follow n opened .value rest
    | .colon, _, _ => ("Expecting ':' delimiter", cs)
    | .next, ']' :: rest, '[' :: outer => follow n outer .next rest
    | .next, '\x7d' :: rest, '\x7b' :: outer => follow n outer .next rest
    | .next, ',' :: rest, '[' :: _ => follow n opened .value rest
    | .next, ',' :: rest, '\x7b' :: _ => follow n opened .key rest
    | .next, _, _ :: _ => ("Expecting ',' delimiter", cs)
    | .next, _, [] => ("Extra data", cs)

/-- What is wrong with a text that is no JSON. -/
def complaint (s : String) : Complaint :=
  let text := s.toList
  let (what, rest) :=
    if text.head? = some '\ufeff' then ("Unexpected UTF-8 BOM (decode using utf-8-sig)", text)
    else follow (2 * text.length + 2) [] .value text
  { text, what, rest }

end DocTable.Json
