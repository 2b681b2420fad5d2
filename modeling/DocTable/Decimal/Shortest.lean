/-!
# Shortest decimals

Among the decimals that read back as a given binary floating point number, the one with the fewest
digits that lies nearest to it.  A positive number is a significand `m` times a power of two; the
decimals that read back are those in its rounding interval, whose ends belong to it when `m` is
even.  For 1, 2, … digits in turn the two neighbours of the number on the decimal grid are tested.
-/

namespace DocTable.Decimal

/-- A positive binary floating point number `significand * 2 ^ exponent`; `lowGap` says that the
number below is only half as far away as the number above. -/
structure Binary where
  significand : Nat
  exponent : Int
  lowGap : Bool
  deriving DecidableEq, Repr

/-- A decimal `digits * 10 ^ exponent`. -/
structure Scaled where
  digits : Nat
  exponent : Int
  deriving DecidableEq, Repr

/-- The fraction `a / b` times the integral power `base ^ e`. -/
def scale (base a b : Nat) (e : Int) : Nat × Nat :=
  if 0 ≤ e then (a * base.pow e.toNat, b) else (a, b * base.pow (-e).toNat)

/-- The number of decimal digits of a natural number. -/
def digitCount (n : Nat) : Nat :=
  (Nat.toDigits 10 n).length

/-- The exponent of the leading decimal digit of the fraction `a / b`. -/
def leadingExponent (a b : Nat) : Int :=
  if b ≤ a then (digitCount (a / b) : Int) - 1 else -(digitCount (b / a) : Int)

/-- Four times the significand of a number and of the two ends of its rounding interval, as
numbers of quarters of its last place. -/
def Binary.quarters (x : Binary) : Nat × Nat × Nat :=
  (4 * x.significand - (if x.lowGap then 1 else 2), 4 * x.significand, 4 * x.significand + 2)

/-- The decimal `d * 10 ^ k` reads back as `x`. -/
def Binary.admits (x : Binary) (d : Nat) (k : Int) : Bool :=
  let (low, _, high) := x.quarters
  let (a, b) := scale 10 d 1 k
  let (p, q) := scale 2 1 1 (x.exponent - 2)
  if x.significand % 2 = 0 then
    low * p * b ≤ a * q && a * q ≤ high * p * b
  else
    low * p * b < a * q && a * q < high * p * b

/-- The decimal with exponent `k` next to `x` that reads back as `x`, if there is one; of two, the
nearer, and of two equally near ones the even one. -/
def Binary.onGrid? (x : Binary) (k : Int) : Option Scaled :=
  let (p, q) := scale 2 (4 * x.significand) 1 (x.exponent - 2)
  let (a, b) := scale 10 p q (-k)
  let d := a / b
  match x.admits d k && d ≠ 0, x.admits (d + 1) k with
  | true, true =>
    let twice := 2 * (a % b)
    some ⟨if twice < b ∨ (twice = b ∧ d % 2 = 0) then d else d + 1, k⟩
  | true, false => some ⟨d, k⟩
  | false, true => some ⟨d + 1, k⟩
  | false, false => none

/-- The first hit on the grids of exponents `k`, `k - 1`, …, of which there are `n`. -/
def Binary.firstHit? (x : Binary) : Nat → Int → Option Scaled
  | 0, _ => none
  | n + 1, k => (x.onGrid? k).or (x.firstHit? n (k - 1))

/-- The shortest decimal that reads back as `x`.  Seventeen digits always suffice. -/
def Binary.shortest (x : Binary) : Scaled :=
  let (a, b) := scale 2 x.significand 1 x.exponent
  (x.firstHit? 17 (leadingExponent a b)).getD ⟨x.significand, 0⟩

end DocTable.Decimal
