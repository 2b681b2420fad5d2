import DocTable.Calendar

/-!
# Values

`Value` is what a data file holds: scalars, lists, and maps that keep the order of their keys.
Any value may be written as a key; `Value.isSameKey` says which keys are one, and `putEntry` keeps
the keys of a map apart.  A list or a map may hold itself; `Value.unfold` shows what it holds.
-/

namespace DocTable

/-- A value of a data file. -/
inductive Value where
  | null
  | bool (b : Bool)
  | int (n : Int)
  | float (x : Float)
  | text (s : String)
  | date (d : Date)
  | dateTime (t : DateTime)
  | bytes (contents : List UInt8)
  | list (items : List Value)
  | pair (first second : Value)
  | set (items : List Value)
  | map (entries : List (Value × Value))
  /-- A value that may hold itself: within `body` the value `again number` stands for it. -/
  | loop (number : Nat) (body : Value)
  | again (number : Nat)
  deriving Inhabited

namespace Value

/-- The floating point number `x` is the integer `n`. -/
def floatIsInt (x : Float) (n : Int) : Bool :=
  match Decimal.FloatClass.of x with
  | .finite _ none => n == 0
  | .finite negative (some size) =>
    let (a, b) := Decimal.scale 2 size.significand 1 size.exponent
    (a : Int) == n.natAbs * b && negative == decide (n < 0)
  | _ => false

/-- The number that a scalar stands for when it is compared: a truth value is 1 or 0. -/
def number? : Value → Option Int
  | bool b => some (if b then 1 else 0)
  | int n => some n
  | _ => none

/-- Two scalars are one key of a map: they are equal, numbers and truth values by their size.  What
is not a number is one key. -/
def isSameKey : Value → Value → Bool
  | null, null => true
  | text s, text t => s == t
  | bytes bs, bytes cs => bs == cs
  | float x, float y => x == y || (x.isNaN && y.isNaN)
  | date d, date e => d == e
  | dateTime s, dateTime t => s.sameMoment t
  | float x, w => w.number?.any (floatIsInt x)
  | v, float y => v.number?.any (floatIsInt y)
  | v, w => v.number?.isSome && v.number? == w.number?

/-- The entries with the value `v` for `k`: a known key keeps its place and its spelling. -/
def putEntry (k v : Value) : List (Value × Value) → List (Value × Value)
  | [] => [(k, v)]
  | (k', v') :: es => if k'.isSameKey k then (k', v) :: es else (k', v') :: putEntry k v es

/-- The map of a list of entries: a later entry replaces the value of an earlier one. -/
def ofEntries (es : List (Value × Value)) : Value :=
  .map (es.foldl (fun acc e => putEntry e.1 e.2 acc) [])

/-- The value of the key `name` among the entries. -/
def lookup? (name : String) : List (Value × Value) → Option Value
  | [] => none
  | (text s, v) :: es => if s = name then some v else lookup? name es
  | _ :: es => lookup? name es

/-- The items, each of them once, at its first place. -/
def distinct (items : List Value) : List Value :=
  items.foldl (fun found v => if found.any (·.isSameKey v) then found else found ++ [v]) []

/-- A value that counts as given: neither null nor false, zero or empty. -/
def isTruthy : Value → Bool
  | null => false
  | bool b => b
  | int n => n != 0
  | float x => !(x == 0.0)
  | text s => s != ""
  | date _ => true
  | dateTime _ => true
  | bytes contents => !contents.isEmpty
  | list items => !items.isEmpty
  | pair _ _ => true
  | set items => !items.isEmpty
  | map entries => !entries.isEmpty
  | loop _ body => body.isTruthy
  | again _ => true

/-! ### Values that hold themselves -/

mutual

/-- The value with `v` for `again number`. -/
def replace (number : Nat) (v : Value) : Value → Value
  | list items => list (replaceItems number v items)
  | pair first second => pair (replace number v first) (replace number v second)
  | map entries => map (replaceEntries number v entries)
  | loop other body =>
    if other = number then loop other body else loop other (replace number v body)
  | again other => if other = number then v else again other
  | other => other

/-- The items of a list with `v` for `again number`. -/
def replaceItems (number : Nat) (v : Value) : List Value → List Value
  | [] => []
  | item :: items => replace number v item :: replaceItems number v items

/-- The entries of a map with `v` for `again number` in their values. -/
def replaceEntries (number : Nat) (v : Value) : List (Value × Value) → List (Value × Value)
  | [] => []
  | (key, item) :: entries => (key, replace number v item) :: replaceEntries number v entries

end

/-- The value as a scalar, a list or a map, even if it holds itself. -/
def unfold : Value → Value
  | loop number body => replace number (loop number body) body
  | v => v

end Value

end DocTable
