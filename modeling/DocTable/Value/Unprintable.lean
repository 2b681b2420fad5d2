import DocTable.Decimal.Numeral

/-!
# Values without a printed form

`Unprintable` lists why a value cannot be printed: JSON has no form for it, it holds itself, or it
is an integer with too many digits.
-/

namespace DocTable

/-- The kinds of values that JSON has no form for. -/
inductive OpaqueKind where
  | date
  | dateTime
  | bytes
  | set
  deriving DecidableEq, Repr

/-- The name of a kind. -/
def OpaqueKind.name : OpaqueKind → String
  | date => "date"
  | dateTime => "datetime"
  | bytes => "bytes"
  | set => "set"

/-- The name of a kind with that of the library it comes from. -/
def OpaqueKind.fullName : OpaqueKind → String
  | date => "datetime.date"
  | dateTime => "datetime.datetime"
  | kind => kind.name

/-- Why a value cannot be printed. -/
inductive Unprintable where
  /-- It has no form in JSON. -/
  | noForm (kind : OpaqueKind)
  /-- It has no form as the key of an object in JSON. -/
  | noKey (kind : OpaqueKind)
  /-- It holds itself. -/
  | circular
  /-- It is an integer with too many digits. -/
  | tooLong
  deriving DecidableEq, Repr

/-- What is said of a value that cannot be printed. -/
def Unprintable.message : Unprintable → String
  | noForm kind => "Object of type " ++ kind.name ++ " is not JSON serializable"
  | noKey kind => "keys must be str, int, float, bool or None, not " ++ kind.fullName
  | circular => "Circular reference detected"
  | tooLong => Decimal.tooLongMessage ""

/-- The digits of an integer. -/
def integerText (n : Int) : Except Unprintable String :=
  match Decimal.integerText? n with
  | some text => .ok text
  | none => .error .tooLong

end DocTable
