import DocTable.Decimal.Shortest

/-!
# The text of floating point numbers

`Decimal.floatText` writes a number with the shortest digits that read back, laid out as a
`FloatLayout` says: which numbers are written without an exponent, and the words for the values
that are no numbers.  `Decimal.ofScientific` reads a decimal of any size.
-/

namespace DocTable.Decimal

/-- What a floating point number is: not a number, an infinity, or a finite number with its sign
and, unless it is zero, its binary form. -/
inductive FloatClass where
  | nan
  | infinite (negative : Bool)
  | finite (negative : Bool) (size : Option Binary)
  deriving DecidableEq

/-- The class of the number with the given bits: a sign bit, eleven bits of exponent and 52 bits of
fraction. -/
def FloatClass.ofBits (bits : Nat) : FloatClass :=
  let negative : Bool := bits / Nat.pow 2 63 % 2 == 1
  let exponent : Nat := bits / Nat.pow 2 52 % Nat.pow 2 11
  let fraction : Nat := bits % Nat.pow 2 52
  if exponent = 2047 then
    if fraction = 0 then .infinite negative else .nan
  else if exponent = 0 then
    if fraction = 0 then .finite negative none
    else .finite negative (some ⟨fraction, -1074, false⟩)
  else
    .finite negative
      (some ⟨Nat.pow 2 52 + fraction, (exponent : Int) - 1075, fraction = 0 && 1 < exponent⟩)

/-- The class of a floating point number. -/
def FloatClass.of (x : Float) : FloatClass :=
  .ofBits x.toBits.toNat

/-- How floating point numbers are laid out. -/
structure FloatLayout where
  /-- The least exponent of the leading digit that is written without an exponent. -/
  positionalFrom : Int
  /-- The first exponent of the leading digit that is written with an exponent. -/
  positionalBelow : Int
  /-- The least number of digits of an exponent. -/
  exponentWidth : Nat
  nan : String
  infinity : String

/-- The digits of a natural number, with zeros in front up to `width` digits. -/
def paddedDigits (width n : Nat) : List Char :=
  let digits := Nat.toDigits 10 n
  List.replicate (width - digits.length) '0' ++ digits

/-- A text of digits whose leading digit has the exponent `e`, without an exponent; at least one
digit stands on either side of the point. -/
def positional (digits : List Char) (e : Int) : List Char :=
  if e < 0 then
    ['0', '.'] ++ List.replicate ((-e).toNat - 1) '0' ++ digits
  else
    let whole := e.toNat + 1
    let fraction := digits.drop whole
    digits.take whole ++ List.replicate (whole - digits.length) '0' ++ ['.']
      ++ (if fraction.isEmpty then ['0'] else fraction)

/-- A text of digits whose leading digit has the exponent `e`, with that exponent. -/
def scientific (layout : FloatLayout) (digits : List Char) (e : Int) : List Char :=
  let fraction := digits.drop 1
  digits.take 1 ++ (if fraction.isEmpty then [] else '.' :: fraction)
    ++ ['e', if e < 0 then '-' else '+'] ++ paddedDigits layout.exponentWidth e.natAbs

/-- The text of a positive decimal. -/
def Scaled.text (layout : FloatLayout) (x : Scaled) : List Char :=
  let all := Nat.toDigits 10 x.digits
  let e := x.exponent + (all.length : Int) - 1
  let stripped := (all.reverse.dropWhile (· == '0')).reverse
  let digits := if stripped.isEmpty then ['0'] else stripped
  if layout.positionalFrom ≤ e ∧ e < layout.positionalBelow then positional digits e
  else scientific layout digits e

/-- The text of a class of floating point numbers. -/
def FloatClass.text (layout : FloatLayout) : FloatClass → List Char
  | .nan => layout.nan.toList
  | .infinite negative => (if negative then ['-'] else []) ++ layout.infinity.toList
  | .finite negative size =>
    (if negative then ['-'] else [])
      ++ ((size.map fun x => x.shortest.text layout).getD ['0', '.', '0'])

/-- The text of a floating point number. -/
def floatText (layout : FloatLayout) (x : Float) : String :=
  String.ofList ((FloatClass.of x).text layout)

/-- The floating point number nearest to `digits * 10 ^ exponent`.  Numbers too large to be finite
are infinite, and those too small to be told from zero are zero. -/
def ofScientific (digits : Nat) (exponent : Int) : Float :=
  let leading := exponent + digitCount digits
  if digits = 0 ∨ leading < -330 then 0.0
  else if 310 < leading then 1.0 / 0.0
  else Float.ofScientific digits (exponent < 0) exponent.natAbs

end DocTable.Decimal
