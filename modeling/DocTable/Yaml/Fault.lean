import DocTable.Calendar
import DocTable.Decimal.Numeral

/-!
# Faults of YAML texts

`Fault` lists why a YAML text has no value.  A text may be malformed, or one of its scalars is no
value of the kind that it has by its form or by its tag.
-/

namespace DocTable.Yaml

/-- Why a YAML text has no value. -/
inductive Fault where
  /-- The text is not well formed, or names a tag or an anchor that there is not. -/
  | malformed
  /-- A scalar has the form of a date or a time, and is none. -/
  | badTime (cause : FieldFault)
  | badNumber (cause : Decimal.NumeralFault)
  /-- A number has neither digits nor anything else after its sign. -/
  | emptyNumber
  /-- An escape names a code point beyond the last one. -/
  | noCodePoint
  /-- An escape names a number of more than 31 bits. -/
  | wideCodePoint
  /-- A word is tagged as a truth value, and is none. -/
  | noTruthValue (word : List Char)
  /-- A scalar is tagged as a time, and has not the form of one. -/
  | noTime
  /-- A mapping is tagged as a time. -/
  | timeOfMapping
  /-- A text is sought in a mapping that leads to itself. -/
  | endless
  deriving DecidableEq, Repr

namespace Fault

/-- What is said of a fault in a text that is well formed. -/
def message : Fault → String
  | malformed => ""
  | badTime cause => cause.message
  | badNumber cause => cause.message
  | emptyNumber => "string index out of range"
  | noCodePoint => "chr() arg not in range(0x110000)"
  | wideCodePoint => "Python int too large to convert to C int"
  | noTruthValue word => String.ofList (Text.quoteChars word)
  | noTime => "'NoneType' object has no attribute 'groupdict'"
  | timeOfMapping => "expected string or bytes-like object, got 'list'"
  | endless => "maximum recursion depth exceeded"

/-- A scalar has the form of its kind, and no value all the same. -/
def isWrongValue : Fault → Bool
  | badTime _ | badNumber _ | noCodePoint => true
  | _ => false

end Fault

end DocTable.Yaml
