import DocTable.Text.Quoted
import DocTable.Value.Basic
import DocTable.Value.Unprintable

/-!
# Values as text

`Value.plain` writes a value as a plain text: a text is itself, a number is its digits, and a list
or a map is written as a literal, with its texts quoted.  Where a value holds itself, dots stand for
it.  Only an integer with too many digits cannot be written.
-/

namespace DocTable

/-- Floating point numbers of a plain text are written without an exponent from `0.0001` up to
sixteen digits. -/
def plainFloats : Decimal.FloatLayout where
  positionalFrom := -4
  positionalBelow := 16
  exponentWidth := 2
  nan := "nan"
  infinity := "inf"

/-- The literal of a date. -/
def Date.literal (d : Date) : String :=
  "datetime.date(" ++ toString d.year ++ ", " ++ toString d.month ++ ", " ++ toString d.day ++ ")"

/-- The literal of an offset from universal time. -/
def DateTime.offsetLiteral (offset : Int) : String :=
  if offset = 0 then "datetime.timezone.utc"
  else "datetime.timezone(" ++ spanLiteral offset ++ ")"

/-- The literal of a moment: seconds and microseconds are left out when they end in zeros. -/
def DateTime.literal (t : DateTime) : String :=
  let fields := [t.date.year, t.date.month, t.date.day, t.hour, t.minute]
    ++ (if t.microsecond = 0 then if t.second = 0 then [] else [t.second]
        else [t.second, t.microsecond])
  "datetime.datetime(" ++ ", ".intercalate (fields.map toString)
    ++ ((t.offset.map fun offset => ", tzinfo=" ++ offsetLiteral offset).getD "") ++ ")"

/-- The literal of some bytes. -/
def bytesLiteral (contents : List UInt8) : String :=
  let chars := contents.map fun b => Char.ofNat b.toNat
  let quote := Text.quoteFor chars
  let byte (c : Char) : List Char :=
    if c.toNat < 0x7F then Text.quoteCodePoint quote c.toNat
    else ['\\', 'x'] ++ Text.hexDigits 2 c.toNat
  String.ofList ('b' :: quote :: chars.flatMap byte ++ [quote])

namespace Value

/-- The dots that stand for a value where it holds itself. -/
def dots : Value → String
  | map _ => "\x7b...\x7d"
  | pair _ _ => "(...)"
  | _ => "[...]"

mutual

/-- The literal of a value.  For the values around it, of which the numbers are given, their dots
are written. -/
def literal (around : List (Nat × String)) : Value → Except Unprintable String
  | null => pure "None"
  | bool b => pure (if b then "True" else "False")
  | int n => integerText n
  | float x => pure (Decimal.floatText plainFloats x)
  | text s => pure (Text.quoted s)
  | date d => pure d.literal
  | dateTime t => pure t.literal
  | bytes contents => pure (bytesLiteral contents)
  | list items => do pure ("[" ++ ", ".intercalate (← literals around items) ++ "]")
  | pair first second => do
    pure ("(" ++ (← first.literal around) ++ ", " ++ (← second.literal around) ++ ")")
  | set items => do
    if items.isEmpty then pure "set()"
    else pure ("\x7b" ++ ", ".intercalate (← literals around items) ++ "\x7d")
  | map entries => do
    pure ("\x7b" ++ ", ".intercalate (← entryLiterals around entries) ++ "\x7d")
  | loop number body =>
    match around.lookup number with
    | some dots => pure dots
    | none => body.literal ((number, body.dots) :: around)
  | again number => pure ((around.lookup number).getD "")

/-- The literals of the items of a list. -/
def literals (around : List (Nat × String)) : List Value → Except Unprintable (List String)
  | [] => pure []
  | v :: vs => do
    let first ← v.literal around
    pure (first :: (← literals around vs))

/-- The literals of the entries of a map. -/
def entryLiterals (around : List (Nat × String)) :
    List (Value × Value) → Except Unprintable (List String)
  | [] => pure []
  | (k, v) :: es => do
    let first := (← k.literal around) ++ ": " ++ (← v.literal around)
    pure (first :: (← entryLiterals around es))

end

/-- The plain text of a value. -/
def plain : Value → Except Unprintable String
  | text s => pure s
  | date d => pure d.text
  | dateTime t => pure (t.text " ")
  | v => v.literal []

/-- The value is a text, a number or a truth value. -/
def isWord : Value → Bool
  | text _ | int _ | float _ | bool _ => true
  | _ => false

/-- The plain texts of those values that are texts, numbers or truth values. -/
def words (items : List Value) : Except Unprintable (List String) :=
  (items.filter isWord).mapM plain

end Value

end DocTable
