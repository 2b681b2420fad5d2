import DocTable.Markup.Escape

/-!
# Escaping by character references

The function that escapes texts character by character, as documented.
-/

namespace DocTable

/-- Each character with a meaning in HTML is replaced by its character reference. -/
instance : Escaping where
  escapeText s := String.ofList (s.toList.flatMap escapeChar)
  escapeText_eq _ := rfl

end DocTable
