import DocTable.Decimal.Numeral
import DocTable.Text.LowerCase
import DocTable.Value.Basic
import DocTable.Yaml.Fault
import DocTable.Yaml.PlainTag

/-!
# Values of YAML scalars

The value of a scalar is what its tag makes of its text.  A tag that is given may find a text of
another form, which has no value then.
-/

namespace DocTable.Yaml

open Text

/-! ### Numbers -/

/-- The integer that a text names in a base. -/
def integerIn (base : Nat) (text : List Char) : Except Fault Int :=
  (Decimal.readInteger base text).mapError .badNumber

/-- The floating point number that a text names. -/
def floatOf (text : List Char) : Except Fault Float :=
  (Decimal.readFloat text).mapError .badNumber

/-- The sign of a number, true for a minus, and the text after it, without underscores. -/
def signAndSize (text : List Char) : Except Fault (Bool × List Char) :=
  match text.filter (· != '_') with
  | [] => .error .emptyNumber
  | cs => .ok (Decimal.takeSign cs)

/-- The value of an integer without its sign: a mark or a zero at its start says its base. -/
def sizeOfInteger (cs : List Char) : Except Fault Int :=
  match cs with
  | [] => .error .emptyNumber
  | ['0'] => .ok 0
  | '0' :: 'b' :: digits => integerIn 2 digits
  | '0' :: 'x' :: digits => integerIn 16 digits
  | '0' :: _ => integerIn 8 cs
  | cs =>
    if cs.contains ':' then do
      let parts ← (splitOnChar ':' cs).mapM (integerIn 10)
      pure (parts.foldl (fun n part => n * 60 + part) 0)
    else integerIn 10 cs

/-- The value of an integer. -/
def integerValue (text : List Char) : Except Fault Int := do
  let (negative, cs) ← signAndSize text
  let n ← sizeOfInteger cs
  pure (if negative then -n else n)

/-- The value of a floating point number without its sign. -/
def sizeOfFloat (cs : List Char) : Except Fault Float :=
  if cs = ".inf".toList then .ok (1.0 / 0.0)
  else if cs = ".nan".toList then .ok (0.0 / 0.0)
  else if cs.contains ':' then do
    let parts ← (splitOnChar ':' cs).mapM floatOf
    pure (parts.reverse.foldl
      (fun (sum, base) x => (sum + x * Float.ofNat base, base * 60)) ((0.0 : Float), 1)).1
  else floatOf cs

/-- The value of a floating point number; letter case does not matter. -/
def floatValue (text : List Char) : Except Fault Float := do
  let (negative, cs) ← signAndSize (lowerChars text)
  let x ← sizeOfFloat cs
  pure (if negative then -x else x)

/-! ### Truth values -/

/-- The truth value that a word stands for; letter case does not matter. -/
def truthValue (text : List Char) : Except Fault Bool :=
  match String.ofList (lowerChars text) with
  | "yes" | "true" | "on" => .ok true
  | "no" | "false" | "off" => .ok false
  | word => .error (.noTruthValue word.toList)

/-! ### Dates and moments -/

/-- The microseconds of the digits after the point. -/
def microseconds (fraction : List Char) : Nat :=
  Json.digitsValue ((fraction ++ List.replicate 6 '0').take 6)

/-- The date or the moment with the given fields. -/
def TimeFields.value (fields : TimeFields) : Except FieldFault Value :=
  let year := Json.digitsValue fields.year
  let month := Json.digitsValue fields.month
  let day := Json.digitsValue fields.day
  match fields.clock with
  | none => (Date.ofFields year month day).map .date
  | some (hour, minute, second, fraction, offset) =>
    (DateTime.ofFields year month day (Json.digitsValue hour) (Json.digitsValue minute)
      (Json.digitsValue second) (microseconds fraction) offset).map .dateTime

/-- The value of a date or a moment. -/
def timeValue (text : List Char) : Except Fault Value :=
  match timeFields? (dropFinalBreak text) with
  | some fields => fields.value.mapError .badTime
  | none => .error .noTime

/-! ### Bytes -/

/-- The value of a character of bytes in base sixty-four. -/
def sextet? (c : Char) : Option Nat :=
  if 'A' ≤ c && c ≤ 'Z' then some (c.toNat - 65)
  else if 'a' ≤ c && c ≤ 'z' then some (c.toNat - 71)
  else if isAsciiDigit c then some (c.toNat + 4)
  else if c = '+' then some 62
  else if c = '/' then some 63
  else none

/-- The bytes that characters in base sixty-four stand for; other characters are passed over.  Of a
group of four, `count` characters with the value `bits` have been read, and `fill` signs that fill
it up. -/
def bytesFrom (count bits fill : Nat) : List Char → Except Fault (List UInt8)
  | [] => if count = 0 then .ok [] else .error .malformed
  | c :: cs =>
    if c = '=' then
      if 2 ≤ count && 4 ≤ count + fill + 1 then .ok []
      else bytesFrom count bits (if 2 ≤ count then fill + 1 else fill) cs
    else
      match sextet? c with
      | none => bytesFrom count bits fill cs
      | some n =>
        let bits := bits * 64 + n
        match count with
        | 0 => bytesFrom 1 n 0 cs
        | 1 => (bytesFrom 2 (bits % 16) 0 cs).map (UInt8.ofNat (bits / 16) :: ·)
        | 2 => (bytesFrom 3 (bits % 4) 0 cs).map (UInt8.ofNat (bits / 4) :: ·)
        | _ => (bytesFrom 0 0 0 cs).map (UInt8.ofNat bits :: ·)

/-- The bytes that a text in base sixty-four stands for. -/
def bytesValue (text : List Char) : Except Fault (List UInt8) :=
  if text.all (·.toNat < 128) then bytesFrom 0 0 0 text else .error .malformed

/-! ### Scalars -/

/-- The value that a tag makes of the text of a scalar. -/
def Tag.scalarValue (tag : Tag) (text : List Char) : Except Fault Value :=
  match tag with
  | .null => .ok .null
  | .bool => (truthValue text).map .bool
  | .int => (integerValue text).map .int
  | .float => (floatValue text).map .float
  | .binary => (bytesValue text).map .bytes
  | .time => timeValue text
  | .text => .ok (.text (String.ofList text))
  | _ => .error .malformed

end DocTable.Yaml
