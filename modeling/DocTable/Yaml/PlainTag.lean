import DocTable.Json.Token
import DocTable.Text.Lines
import DocTable.Text.Word

/-!
# Tags of YAML

`Tag` lists what a node may stand for.  `Tag.ofPlain` says what a plain scalar stands for by its
form: null, a truth value, a number, a date or a moment, one of two marks, and otherwise its own
text.
-/

namespace DocTable.Yaml

open Text
open Json (takeDigits)

/-- What a node stands for. -/
inductive Tag where
  | null
  | bool
  | int
  | float
  | binary
  | time
  | text
  | sequence
  | mapping
  | set
  /-- A sequence of pairs, each in a mapping of its own. -/
  | pairs
  /-- The mark of a key whose value is taken over into a mapping. -/
  | merge
  /-- The mark of the key of a default value. -/
  | default
  /-- Something that no value is known for. -/
  | other
  deriving DecidableEq, Repr

/-- The start of the tags that every document may use. -/
def coreTagStart : List Char := "tag:yaml.org,2002:".toList

/-- The tag with a full name. -/
def Tag.ofName (name : List Char) : Tag :=
  if !coreTagStart.isPrefixOf name then .other
  else
    match String.ofList (name.drop coreTagStart.length) with
    | "null" => .null
    | "bool" => .bool
    | "int" => .int
    | "float" => .float
    | "binary" => .binary
    | "timestamp" => .time
    | "str" => .text
    | "seq" => .sequence
    | "map" => .mapping
    | "set" => .set
    | "omap" | "pairs" => .pairs
    | "merge" => .merge
    | "value" => .default
    | _ => .other

/-! ### Words -/

/-- The words for truth values. -/
def truthWords : List String :=
  ["yes", "Yes", "YES", "true", "True", "TRUE", "on", "On", "ON",
    "no", "No", "NO", "false", "False", "FALSE", "off", "Off", "OFF"]

/-- The words for null. -/
def nullWords : List String :=
  ["~", "null", "Null", "NULL"]

/-! ### Numbers -/

/-- A digit or an underscore. -/
def isSpacedDigit (c : Char) : Bool :=
  isAsciiDigit c || c == '_'

/-- Digits with underscores between and after them. -/
def isSpacedNumber (cs : List Char) : Bool :=
  cs.head?.any isAsciiDigit && cs.all isSpacedDigit

/-- The text without a sign at its start. -/
def dropSign (cs : List Char) : List Char :=
  match cs with
  | '-' :: rest => rest
  | '+' :: rest => rest
  | cs => cs

/-- A part of a number in base sixty: one or two digits, the first of two below six. -/
def isSixtieth (cs : List Char) : Bool :=
  match cs with
  | [a] => isAsciiDigit a
  | [a, b] => '0' ≤ a && a ≤ '5' && isAsciiDigit b
  | _ => false

/-- A number in base sixty: digits, and sixtieths after colons. -/
def isSixties (cs : List Char) : Bool :=
  match splitOnChar ':' cs with
  | first :: rest => isSpacedNumber first && !rest.isEmpty && rest.all isSixtieth
  | [] => false

/-- The form of an integer, the sign apart. -/
def isNatural (cs : List Char) : Bool :=
  match cs with
  | '0' :: 'b' :: ds => !ds.isEmpty && ds.all fun c => c == '0' || c == '1' || c == '_'
  | '0' :: 'x' :: ds => !ds.isEmpty && ds.all fun c => (Json.hexDigit? c).isSome || c == '_'
  | ['0'] => true
  | '0' :: ds => ds.all fun c => ('0' ≤ c && c ≤ '7') || c == '_'
  | cs => isSpacedNumber cs || isSixties cs

/-- Nothing, or an exponent with a sign. -/
def isExponent : List Char → Bool
  | [] => true
  | e :: sign :: ds =>
    (e == 'e' || e == 'E') && (sign == '+' || sign == '-') && !ds.isEmpty && ds.all isAsciiDigit
  | _ => false

/-- The form of a floating point number, with a point in it. -/
def isPointed (cs : List Char) : Bool :=
  let (whole, rest) := (dropSign cs).span (· != '.')
  let (fraction, after) := (rest.drop 1).span isSpacedDigit
  if rest.isEmpty then false
  else if whole.isEmpty then
    cs.head? = some '.' && fraction.head?.any isAsciiDigit && isExponent after
  else
    (isSpacedNumber whole && isExponent after) || (isSixties whole && after.isEmpty)

/-- The form of a floating point number. -/
def isFloat (cs : List Char) : Bool :=
  [".inf", ".Inf", ".INF"].contains (String.ofList (dropSign cs))
    || [".nan", ".NaN", ".NAN"].contains (String.ofList cs)
    || isPointed cs

/-! ### Dates and moments -/

/-- The parts of the form of a date or a moment, as they are written. -/
structure TimeFields where
  year : List Char
  month : List Char
  day : List Char
  /-- The hour, the minute and the second, the fraction of the second and the offset. -/
  clock : Option (List Char × List Char × List Char × List Char × Option Int) := none

/-- One or two digits at the start of a text, and the rest. -/
def oneOrTwo? (cs : List Char) : Option (List Char × List Char) :=
  match cs with
  | a :: b :: rest =>
    if !isAsciiDigit a then none
    else if isAsciiDigit b then some ([a, b], rest)
    else some ([a], b :: rest)
  | [a] => if isAsciiDigit a then some ([a], []) else none
  | [] => none

/-- The text after a character that has to be there. -/
def after? (c : Char) : List Char → Option (List Char)
  | d :: rest => if d = c then some rest else none
  | [] => none

/-- Two digits at the start of a text, and the rest. -/
def two? (cs : List Char) : Option (List Char × List Char) := do
  let (digits, rest) ← oneOrTwo? cs
  if digits.length = 2 then some (digits, rest) else none

/-- The offset of a moment in seconds, which may be missing, up to the end of the text. -/
def zone? (cs : List Char) : Option (Option Int) :=
  match cs, cs.dropWhile isSpaceOrTab with
  | [], _ => some none
  | _, ['Z'] => some (some 0)
  | _, sign :: rest => do
    if sign ≠ '+' ∧ sign ≠ '-' then none
    else
      let (hours, rest) ← oneOrTwo? rest
      let minutes ← if rest.isEmpty then some ['0'] else do
        let (minutes, rest) ← two? (← after? ':' rest)
        if rest.isEmpty then some minutes else none
      let seconds : Int := (Json.digitsValue hours * 60 + Json.digitsValue minutes) * 60
      some (some (if sign = '-' then -seconds else seconds))
  | _, [] => none

/-- The fields of a date or a moment. -/
def timeFields? (cs : List Char) : Option TimeFields := do
  let year := cs.take 4
  if year.length ≠ 4 ∨ !year.all isAsciiDigit then none
  else
    let (month, rest) ← oneOrTwo? (← after? '-' (cs.drop 4))
    let (day, rest) ← oneOrTwo? (← after? '-' rest)
    match rest with
    | [] => some { year, month, day }
    | c :: more =>
      let rest ← if c = 'T' ∨ c = 't' then some more
        else if isSpaceOrTab c then some (more.dropWhile isSpaceOrTab)
        else none
      let (hour, rest) ← oneOrTwo? rest
      let (minute, rest) ← two? (← after? ':' rest)
      let (second, rest) ← two? (← after? ':' rest)
      let (fraction, rest) := match rest with
        | '.' :: rest => takeDigits rest
        | rest => ([], rest)
      let offset ← zone? rest
      some { year, month, day, clock := some (hour, minute, second, fraction, offset) }

/-- The form of a date or a moment; a date alone has two digits for the month and the day. -/
def isTime (cs : List Char) : Bool :=
  match timeFields? cs with
  | some fields => fields.clock.isSome || cs.length = 10
  | none => false

/-! ### Plain scalars -/

/-- The text without a line feed at its end. -/
def dropFinalBreak (cs : List Char) : List Char :=
  if cs.getLast? = some '\n' then cs.dropLast else cs

/-- What a plain scalar stands for.  A line feed at its end does not count. -/
def Tag.ofPlain (text : List Char) : Tag :=
  let cs := dropFinalBreak text
  let word := String.ofList cs
  if text.isEmpty then .null
  else if cs = ['<', '<'] then .merge
  else if cs = ['='] then .default
  else if nullWords.contains word then .null
  else if truthWords.contains word then .bool
  else if isFloat cs then .float
  else if isNatural (dropSign cs) then .int
  else if isTime cs then .time
  else if ["!", "&", "*"].contains word then .other
  else .text

end DocTable.Yaml
