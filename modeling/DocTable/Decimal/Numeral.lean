import DocTable.Decimal.FloatText
import DocTable.Text.Blank
import DocTable.Text.Quoted
import DocTable.Text.Word

/-!
# Numerals

`Decimal.readInteger` and `Decimal.readFloat` read the number that a text names.  Blanks may stand
around it, and the decimal digits of any script count.  An integer in base ten is read and written
only up to a number of digits.
-/

namespace DocTable.Decimal

open Text

/-- Why a text names no number. -/
inductive NumeralFault where
  | noInteger (base : Nat) (text : List Char)
  | noFloat (text : List Char)
  /-- The integer has too many digits to be read. -/
  | tooLong (digits : Nat)
  deriving DecidableEq, Repr

/-- The greatest number of digits of an integer that is read or written in base ten. -/
def longestInteger : Nat := 4300

/-- What is said of an integer with too many digits; the detail says how many it has. -/
def tooLongMessage (detail : String) : String :=
  "Exceeds the limit (" ++ toString longestInteger ++ " digits) for integer string conversion"
    ++ detail ++ "; use sys.set_int_max_str_digits() to increase the limit"

/-- What is said of a fault; of the text at most two hundred characters are shown. -/
def NumeralFault.message : NumeralFault → String
  | noInteger base text =>
    "invalid literal for int() with base " ++ toString base ++ ": "
      ++ String.ofList ((quoteChars text).take 200)
  | noFloat text => "could not convert string to float: " ++ String.ofList (quoteChars text)
  | tooLong digits => tooLongMessage (": value has " ++ toString digits ++ " digits")

/-! ### Digits -/

/-- A blank that may stand around a number: one of ASCII that is no separator of information, or any
other. -/
def isNumberBlank (c : Char) : Bool :=
  isBlank c && !(0x1C ≤ c.toNat && c.toNat ≤ 0x1F)

/-- The character, or the ASCII digit of the same value if it is a decimal digit. -/
def asciiDigit (c : Char) : Char :=
  if c.toNat < 128 then c
  else
    match decimalDigitRanges.find? fun (first, last) => first ≤ c.toNat && c.toNat ≤ last with
    | some (first, _) => Char.ofNat (48 + (c.toNat - first) % 10)
    | none => c

/-- The text of a number: without blanks around it, and with ASCII digits. -/
def numberText (text : List Char) : List Char :=
  (trimWhile isNumberBlank text).map asciiDigit

/-- The value of a digit of a base up to sixteen. -/
def digitValue? (base : Nat) (c : Char) : Option Nat :=
  let value :=
    if isAsciiDigit c then some (c.toNat - 48)
    else if 'a' ≤ c && c ≤ 'f' then some (c.toNat - 87)
    else if 'A' ≤ c && c ≤ 'F' then some (c.toNat - 55)
    else none
  value.filter (· < base)

/-- The value of a list of digits; other characters count as zero. -/
def valueInBase (base : Nat) (digits : List Char) : Nat :=
  digits.foldl (fun n c => n * base + (digitValue? base c).getD 0) 0

/-! ### Numbers -/

/-- The sign of a number, true for a minus, and the text after it. -/
def takeSign : List Char → Bool × List Char
  | '-' :: cs => (true, cs)
  | '+' :: cs => (false, cs)
  | cs => (false, cs)

/-- The digits of a number without the mark of its base. -/
def dropBaseMark (base : Nat) : List Char → List Char
  | '0' :: mark :: cs =>
    let marks := if base = 16 then ['x', 'X'] else if base = 8 then ['o', 'O']
      else if base = 2 then ['b', 'B'] else []
    if marks.contains mark then cs else '0' :: mark :: cs
  | cs => cs

/-- The integer that a text names in a base. -/
def readInteger (base : Nat) (text : List Char) : Except NumeralFault Int :=
  let (negative, rest) := takeSign (numberText text)
  let (digits, after) := (dropBaseMark base rest).span fun c => (digitValue? base c).isSome
  if base = 10 && longestInteger < digits.length then .error (.tooLong digits.length)
  else if digits.isEmpty || !after.isEmpty then .error (.noInteger base text)
  else
    let n : Int := valueInBase base digits
    .ok (if negative then -n else n)

/-- The exponent that a text is, with its mark. -/
def exponent? : List Char → Option Int
  | [] => some 0
  | mark :: cs =>
    let (negative, digits) := takeSign cs
    if (mark = 'e' || mark = 'E') && !digits.isEmpty && digits.all isAsciiDigit then
      let n : Int := valueInBase 10 digits
      some (if negative then -n else n)
    else none

/-- The size of the number that a text without a sign names. -/
def size? (cs : List Char) : Option Float :=
  if ["inf", "infinity"].contains (String.ofList (cs.map Char.toLower)) then some (1.0 / 0.0)
  else if String.ofList (cs.map Char.toLower) = "nan" then some (0.0 / 0.0)
  else
    let (whole, rest) := cs.span isAsciiDigit
    let (fraction, rest) := match rest with
      | '.' :: rest => rest.span isAsciiDigit
      | rest => ([], rest)
    if whole.isEmpty && fraction.isEmpty then none
    else (exponent? rest).map fun exponent =>
      ofScientific (valueInBase 10 (whole ++ fraction)) (exponent - fraction.length)

/-- The floating point number that a text names. -/
def readFloat (text : List Char) : Except NumeralFault Float :=
  let (negative, rest) := takeSign (numberText text)
  match size? rest with
  | some x => .ok (if negative then -x else x)
  | none => .error (.noFloat text)

/-- The digits of an integer, if there are not too many to be written. -/
def integerText? (n : Int) : Option String :=
  if longestInteger < digitCount n.natAbs then none else some (toString n)

end DocTable.Decimal
