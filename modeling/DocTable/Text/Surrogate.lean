/-!
# Lone surrogates

A text that is given by escapes may hold one half of a pair of 16-bit units without the other half,
a lone surrogate.  No `Char` stands for it, so it is written as two: a mark, which is the last
character before the surrogates, and a private character.  The mark itself is written twice.  So no
code point begins the writing of another, and what is written for code points has their order.

`ofCodePoint` writes a code point, and `codePoints` reads those of a text.
-/

namespace DocTable.Text

/-- A 16-bit unit that starts a pair. -/
def isHighSurrogate (n : Nat) : Bool := 0xD800 ≤ n && n < 0xDC00

/-- A 16-bit unit that ends a pair. -/
def isLowSurrogate (n : Nat) : Bool := 0xDC00 ≤ n && n < 0xE000

/-- Either half of a pair. -/
def isSurrogate (n : Nat) : Bool := 0xD800 ≤ n && n < 0xE000

/-- The code point of the pair of two surrogates. -/
def joinSurrogates (high low : Nat) : Nat :=
  0x10000 + (high - 0xD800) * 0x400 + (low - 0xDC00)

/-- The character in front of what stands for a surrogate. -/
def surrogateMark : Char := Char.ofNat 0xD7FF

/-- What is written for a code point, which may be that of a surrogate. -/
def ofCodePoint (n : Nat) : List Char :=
  if isSurrogate n then [surrogateMark, Char.ofNat (n + 0x800)]
  else if n = 0xD7FF then [surrogateMark, surrogateMark]
  else [Char.ofNat n]

/-- The code points of a text.  A mark with anything else after it is one alone. -/
def codePoints : List Char → List Nat
  | [] => []
  | [c] => [c.toNat]
  | c :: d :: cs =>
    if c = surrogateMark then
      if d = surrogateMark then 0xD7FF :: codePoints cs
      else if isSurrogate (d.toNat - 0x800) then (d.toNat - 0x800) :: codePoints cs
      else 0xD7FF :: codePoints (d :: cs)
    else c.toNat :: codePoints (d :: cs)

end DocTable.Text
