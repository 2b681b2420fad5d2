import DocTable.Decimal.Numeral
import DocTable.Text.Surrogate
import DocTable.Text.Word

/-!
# JSON tokens

The tokens of JSON, and `Json.tokens`, which cuts a text into them.  Blanks between tokens are the
space, the tab, the line feed and the carriage return.  Besides the numbers of the standard, the
words `NaN`, `Infinity` and `-Infinity` are numbers.  The text is cut up to the first place where no
token stands.
-/

namespace DocTable.Json

open Text

/-- A token of JSON. -/
inductive Token where
  /-- One of the brackets, the comma and the colon. -/
  | mark (c : Char)
  | word (w : List Char)
  | text (s : List Char)
  | int (n : Int)
  /-- An integer with too many digits, given by their number. -/
  | longInt (digits : Nat)
  | float (x : Float)
  /-- No token: the text is cut no further. -/
  | fault

/-- A blank between tokens. -/
def isJsonBlank (c : Char) : Bool :=
  c == ' ' || c == '\t' || c == '\n' || c == '\r'

/-- The value of a hexadecimal digit. -/
def hexDigit? (c : Char) : Option Nat :=
  if '0' ≤ c ∧ c ≤ '9' then some (c.toNat - 48)
  else if 'a' ≤ c ∧ c ≤ 'f' then some (c.toNat - 87)
  else if 'A' ≤ c ∧ c ≤ 'F' then some (c.toNat - 55)
  else none

/-- The number of four hexadecimal digits. -/
def unit? (a b c d : Char) : Option Nat := do
  let a ← hexDigit? a
  let b ← hexDigit? b
  let c ← hexDigit? c
  let d ← hexDigit? d
  pure (((a * 16 + b) * 16 + c) * 16 + d)

/-- The character of an escape with one letter. -/
def escaped? : Char → Option Char
  | '\x22' => some '\x22'
  | '\\' => some '\\'
  | '/' => some '/'
  | 'b' => some '\x08'
  | 'f' => some '\x0c'
  | 'n' => some '\n'
  | 'r' => some '\r'
  | 't' => some '\t'
  | _ => none

/-- The characters of a string up to its closing quote, and the text after that. -/
def stringRest? : List Char → Option (List Char × List Char)
  | [] => none
  | '\x22' :: cs => some ([], cs)
  | '\\' :: 'u' :: a :: b :: c :: d :: '\\' :: 'u' :: a' :: b' :: c' :: d' :: cs => do
    let n ← unit? a b c d
    match unit? a' b' c' d' with
    | some n' =>
      if isHighSurrogate n && isLowSurrogate n' then
        let (s, rest) ← stringRest? cs
        pure (ofCodePoint (joinSurrogates n n') ++ s, rest)
      else
        let (s, rest) ← stringRest? ('\\' :: 'u' :: a' :: b' :: c' :: d' :: cs)
        pure (ofCodePoint n ++ s, rest)
    | none => none
  | '\\' :: 'u' :: a :: b :: c :: d :: cs => do
    let n ← unit? a b c d
    let (s, rest) ← stringRest? cs
    pure (ofCodePoint n ++ s, rest)
  | '\\' :: c :: cs => do
    let c ← escaped? c
    let (s, rest) ← stringRest? cs
    pure (c :: s, rest)
  | c :: cs =>
    if c.toNat < 0x20 then none
    else do
      let (s, rest) ← stringRest? cs
      pure (c :: s, rest)

/-- The value of a list of decimal digits. -/
def digitsValue (digits : List Char) : Nat :=
  digits.foldl (fun n c => n * 10 + (c.toNat - 48)) 0

/-- The digits at the start of a text, and the rest. -/
def takeDigits (cs : List Char) : List Char × List Char :=
  (cs.takeWhile isAsciiDigit, cs.dropWhile isAsciiDigit)

/-- The fraction of a number at the start of a text: the digits after a point. -/
def takeFraction (cs : List Char) : List Char × List Char :=
  match cs with
  | '.' :: rest =>
    let (digits, after) := takeDigits rest
    if digits.isEmpty then ([], cs) else (digits, after)
  | _ => ([], cs)

/-- The exponent of a number at the start of a text. -/
def takeExponent (cs : List Char) : Option Int × List Char :=
  let signed (negative : Bool) (rest : List Char) : Option Int × List Char :=
    let (digits, after) := takeDigits rest
    if digits.isEmpty then (none, cs)
    else (some (if negative then -(digitsValue digits : Int) else digitsValue digits), after)
  match cs with
  | e :: '-' :: rest => if e = 'e' ∨ e = 'E' then signed true rest else (none, cs)
  | e :: '+' :: rest => if e = 'e' ∨ e = 'E' then signed false rest else (none, cs)
  | e :: rest => if e = 'e' ∨ e = 'E' then signed false rest else (none, cs)
  | [] => (none, cs)

/-- The number at the start of a text, its sign apart.  A number with a fraction or an exponent is
a floating point number; a leading zero is a number of its own. -/
def number? (negative : Bool) (cs : List Char) : Option (Token × List Char) :=
  let (whole, rest) := match cs with
    | '0' :: rest => (['0'], rest)
    | _ => takeDigits cs
  if whole.isEmpty then none
  else
    let (fraction, rest) := takeFraction rest
    let (exponent, rest) := takeExponent rest
    if fraction.isEmpty && exponent.isNone then
      if Decimal.longestInteger < whole.length then some (.longInt whole.length, rest) else
      let n : Int := digitsValue whole
      some (.int (if negative then -n else n), rest)
    else
      let x := Decimal.ofScientific (digitsValue (whole ++ fraction))
        (exponent.getD 0 - fraction.length)
      some (.float (if negative then -x else x), rest)

/-- The first token of a text without leading blanks, and the text after it. -/
def token? : List Char → Option (Token × List Char)
  | [] => none
  | '\x22' :: cs => (stringRest? cs).map fun (s, rest) => (.text s, rest)
  | '-' :: 'I' :: 'n' :: 'f' :: 'i' :: 'n' :: 'i' :: 't' :: 'y' :: cs =>
    some (.float (-(1.0 / 0.0)), cs)
  | 'I' :: 'n' :: 'f' :: 'i' :: 'n' :: 'i' :: 't' :: 'y' :: cs => some (.float (1.0 / 0.0), cs)
  | 'N' :: 'a' :: 'N' :: cs => some (.float (0.0 / 0.0), cs)
  | '-' :: cs => number? true cs
  | c :: cs =>
    if c ∈ ['\x7b', '\x7d', '[', ']', ',', ':'] then some (.mark c, cs)
    else if isAsciiDigit c then number? false (c :: cs)
    else if isAsciiLetter c then
      some (.word (c :: cs.takeWhile isAsciiLetter), cs.dropWhile isAsciiLetter)
    else none

/-- The first `n` tokens of a text. -/
def firstTokens : Nat → List Char → List Token
  | 0, _ => []
  | n + 1, cs =>
    match cs.dropWhile isJsonBlank with
    | [] => []
    | c :: cs =>
      match token? (c :: cs) with
      | some (t, rest) => t :: firstTokens n rest
      | none => [.fault]

/-- The tokens of a text. -/
def tokens (cs : List Char) : List Token :=
  firstTokens cs.length cs

end DocTable.Json
