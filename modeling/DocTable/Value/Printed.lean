import DocTable.Json.Writer
import DocTable.Value.Literal

/-!
# Printed values

`Value.printed?` is the token that a table shows for a default value: nothing when there is none,
and `null` for a null that is given.  Texts stand between apostrophes, lists and maps are written as
JSON.
-/

namespace DocTable

namespace Value

/-- The printed token of a value. -/
def printed (v : Value) : Except Unprintable String :=
  match v with
  | null => pure "null"
  | bool b => pure (if b then "true" else "false")
  | text s => pure ("'" ++ s ++ "'")
  | list _ | pair _ _ | map _ | loop _ _ => Json.compact [] v
  | v => v.plain

/-- The printed token of a value that may be missing. -/
def printed? : Option Value → Except Unprintable String
  | none => pure ""
  | some v => v.printed

end Value

end DocTable
