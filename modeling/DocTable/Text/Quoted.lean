import DocTable.Text.Printable
import DocTable.Text.Surrogate

/-!
# Quoted text

A text as it is quoted inside a message: between apostrophes, or between double quotes when it
holds apostrophes and no double quote.  The quote and the backslash are escaped by a backslash, line
breaks and tabs by a letter, and other characters that cannot be printed by their code point.
-/

namespace DocTable.Text

/-- The digits of `n` in base sixteen, with zeros in front up to `width` digits. -/
def hexDigits (width n : Nat) : List Char :=
  let digits := Nat.toDigits 16 n
  List.replicate (width - digits.length) '0' ++ digits

/-- The escape for a code point that cannot be printed. -/
def codePointEscape (n : Nat) : List Char :=
  if n < 0x100 then ['\\', 'x'] ++ hexDigits 2 n
  else if n < 0x10000 then ['\\', 'u'] ++ hexDigits 4 n
  else ['\\', 'U'] ++ hexDigits 8 n

/-- A code point of a text between two of `quote`. -/
def quoteCodePoint (quote : Char) (n : Nat) : List Char :=
  let c := Char.ofNat n
  if isSurrogate n then codePointEscape n
  else if c = quote ∨ c = '\\' then ['\\', c]
  else if c = '\n' then ['\\', 'n']
  else if c = '\r' then ['\\', 'r']
  else if c = '\t' then ['\\', 't']
  else if isPrintable c then [c]
  else codePointEscape n

/-- The quote that surrounds a text. -/
def quoteFor (cs : List Char) : Char :=
  if cs.contains '\x27' && !cs.contains '\x22' then '\x22' else '\x27'

/-- The quoted form of a list of characters. -/
def quoteChars (cs : List Char) : List Char :=
  let quote := quoteFor cs
  quote :: (codePoints cs).flatMap (quoteCodePoint quote) ++ [quote]

/-- The quoted form of a text. -/
def quoted (s : String) : String :=
  String.ofList (quoteChars s.toList)

end DocTable.Text
