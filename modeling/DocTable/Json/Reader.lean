import DocTable.Json.Token
import DocTable.Value.Basic

/-!
# Reading JSON

`Json.read` reads the value that a JSON text stands for.  A repeated key of an object keeps its
first place and its last value.  Arrays and objects may lie `deepest` deep within one another.  The
first fault of a text is reported.
-/

namespace DocTable.Json

/-- Why a text is no value. -/
inductive Fault where
  | malformed
  /-- An integer has too many digits. -/
  | longInt (digits : Nat)
  /-- An array lies too deep within others. -/
  | deepArray
  /-- An object lies too deep within others. -/
  | deepObject
  deriving DecidableEq, Repr

/-- What is said of a fault in a text that is well formed. -/
def Fault.message : Fault → String
  | malformed => ""
  | longInt digits => (Decimal.NumeralFault.tooLong digits).message
  | deepArray => deepMessage "array"
  | deepObject => deepMessage "object"
where
  deepMessage (what : String) : String :=
    "maximum recursion depth exceeded while decoding a JSON " ++ what ++ " from a unicode string"

/-- A text is well formed, and one of its scalars has no value all the same. -/
def Fault.isWrongValue : Fault → Bool
  | longInt _ => true
  | _ => false

/-- How deep arrays and objects may lie within one another. -/
def deepest : Nat := 990

/-- The value of a word. -/
def wordValue (w : List Char) : Except Fault Value :=
  if w = "null".toList then .ok .null
  else if w = "true".toList then .ok (.bool true)
  else if w = "false".toList then .ok (.bool false)
  else .error .malformed

mutual

/-- The value at the start of a list of tokens, and the tokens after it.  The number bounds the
steps to a value and to an item, and `depth` is how deep arrays and objects may still lie in it. -/
def value (depth : Nat) : Nat → List Token → Except Fault (Value × List Token)
  | 0, _ => .error .malformed
  | _, [] => .error .malformed
  | _ + 1, .word w :: ts => (wordValue w).map (·, ts)
  | _ + 1, .text s :: ts => .ok (.text (String.ofList s), ts)
  | _ + 1, .int k :: ts => .ok (.int k, ts)
  | _ + 1, .longInt digits :: _ => .error (.longInt digits)
  | _ + 1, .float x :: ts => .ok (.float x, ts)
  | n + 1, .mark '[' :: ts =>
    if depth = 0 then .error .deepArray
    else match ts with
      | .mark ']' :: ts => .ok (.list [], ts)
      | ts => (items (depth - 1) n ts).map fun (vs, rest) => (.list vs, rest)
  | n + 1, .mark '\x7b' :: ts =>
    if depth = 0 then .error .deepObject
    else match ts with
      | .mark '\x7d' :: ts => .ok (.map [], ts)
      | ts => (fields (depth - 1) n ts).map fun (es, rest) => (.ofEntries es, rest)
  | _ + 1, .mark _ :: _ => .error .malformed
  | _ + 1, .fault :: _ => .error .malformed

/-- The items up to the end of an array. -/
def items (depth : Nat) : Nat → List Token → Except Fault (List Value × List Token)
  | 0, _ => .error .malformed
  | n + 1, ts => do
    match ← value depth n ts with
    | (v, .mark ']' :: rest) => pure ([v], rest)
    | (v, .mark ',' :: rest) => (items depth n rest).map fun (vs, rest) => (v :: vs, rest)
    | _ => throw .malformed

/-- The entries up to the end of an object. -/
def fields (depth : Nat) : Nat → List Token → Except Fault (List (Value × Value) × List Token)
  | n + 1, .text k :: .mark ':' :: ts => do
    match ← value depth n ts with
    | (v, .mark '\x7d' :: rest) => pure ([(.text (String.ofList k), v)], rest)
    | (v, .mark ',' :: rest) =>
      (fields depth n rest).map fun (es, rest) => ((.text (String.ofList k), v) :: es, rest)
    | _ => throw .malformed
  | _, _ => .error .malformed

end

/-- The value of a JSON text; every value takes a token and two of the steps. -/
def read (s : String) : Except Fault Value := do
  let ts := tokens s.toList
  match ← value deepest (2 * ts.length + 1) ts with
  | (v, []) => pure v
  | _ => throw .malformed

end DocTable.Json
