import DocTable.Text.Quoted
import DocTable.Value.Basic
import DocTable.Value.Unprintable

/-!
# Writing JSON

`Json.compact` writes a value on one line and `Json.indented` on as many as it has parts.  Only the
quote, the backslash and control characters are escaped.  `compact` fails at a value that has no
form in JSON, such as a date, and at one that holds itself.
-/

namespace DocTable.Json

/-- Floating point numbers in JSON are laid out as in plain text, but for the words. -/
def jsonFloats : Decimal.FloatLayout where
  positionalFrom := -4
  positionalBelow := 16
  exponentWidth := 2
  nan := "NaN"
  infinity := "Infinity"

/-- A character of a string. -/
def escapeChar (c : Char) : List Char :=
  if c = '\x22' ∨ c = '\\' then ['\\', c]
  else if c = '\n' then ['\\', 'n']
  else if c = '\r' then ['\\', 'r']
  else if c = '\t' then ['\\', 't']
  else if c = '\x08' then ['\\', 'b']
  else if c = '\x0c' then ['\\', 'f']
  else if c.toNat < 0x20 then ['\\', 'u'] ++ Text.hexDigits 4 c.toNat
  else [c]

/-- A text between quotes. -/
def string (s : String) : String :=
  String.ofList ('\x22' :: s.toList.flatMap escapeChar ++ ['\x22'])

/-- The key of an object: scalars other than texts are written as texts. -/
def key : Value → Except Unprintable String
  | .text s => pure (string s)
  | .null => pure (string "null")
  | .bool b => pure (string (if b then "true" else "false"))
  | .int n => do pure (string (← integerText n))
  | .float x => pure (string (Decimal.floatText jsonFloats x))
  | .date _ => throw (.noKey .date)
  | .dateTime _ => throw (.noKey .dateTime)
  | _ => throw (.noKey .bytes)

mutual

/-- A value on one line, with `, ` between items and `:` after keys.  It must hold none of the
values around it, of which the numbers are given. -/
def compact (around : List Nat) : Value → Except Unprintable String
  | .null => pure "null"
  | .bool b => pure (if b then "true" else "false")
  | .int n => integerText n
  | .float x => pure (Decimal.floatText jsonFloats x)
  | .text s => pure (string s)
  | .date _ => throw (.noForm .date)
  | .dateTime _ => throw (.noForm .dateTime)
  | .bytes _ => throw (.noForm .bytes)
  | .set _ => throw (.noForm .set)
  | .list items => do pure ("[" ++ ", ".intercalate (← compactItems around items) ++ "]")
  | .pair first second => do
    pure ("[" ++ (← compact around first) ++ ", " ++ (← compact around second) ++ "]")
  | .map entries => do
    pure ("\x7b" ++ ", ".intercalate (← compactEntries around entries) ++ "\x7d")
  | .loop number body =>
    if around.contains number then throw .circular else compact (number :: around) body
  | .again _ => throw .circular

/-- The items of a list, each on one line. -/
def compactItems (around : List Nat) : List Value → Except Unprintable (List String)
  | [] => pure []
  | v :: vs => do
    let first ← compact around v
    pure (first :: (← compactItems around vs))

/-- The entries of a map, each on one line. -/
def compactEntries (around : List Nat) :
    List (Value × Value) → Except Unprintable (List String)
  | [] => pure []
  | (k, v) :: es => do
    let name ← key k
    let first ← compact around v
    pure ((name ++ ":" ++ first) :: (← compactEntries around es))

end

end DocTable.Json
