import DocTable.Decimal.FloatText

/-!
# Dates and times

Days of the Gregorian calendar and moments on them, to the microsecond, with or without an offset
from universal time.
-/

namespace DocTable

/-- A day of the calendar. -/
structure Date where
  year : Nat
  month : Nat
  day : Nat
  deriving DecidableEq, Repr

/-- A moment; the offset from universal time, in seconds, may be unknown. -/
structure DateTime where
  date : Date
  hour : Nat
  minute : Nat
  second : Nat
  microsecond : Nat := 0
  offset : Option Int := none
  deriving DecidableEq, Repr

/-- Why the fields of a date or a time name none. -/
inductive FieldFault where
  | year (n : Nat)
  | month
  | day
  | hour
  | minute
  | second
  /-- The offset from universal time is a day or more. -/
  | offset (seconds : Int)
  deriving DecidableEq, Repr

namespace Date

/-- A year with a 29th of February. -/
def isLeapYear (year : Nat) : Bool :=
  year % 4 = 0 && (year % 100 ≠ 0 || year % 400 = 0)

/-- The number of days of a month. -/
def daysInMonth (year month : Nat) : Nat :=
  if month = 2 then if isLeapYear year then 29 else 28
  else if month = 4 ∨ month = 6 ∨ month = 9 ∨ month = 11 then 30
  else 31

/-- The number of days before a date since the first day of the year 1. -/
def dayNumber (d : Date) : Int :=
  let y : Int := (d.year : Int) - 1
  y * 365 + y / 4 - y / 100 + y / 400
    + (List.range (d.month - 1)).foldl (fun days m => days + daysInMonth d.year (m + 1)) 0
    + (d.day : Int) - 1

/-- The text of a date: `2024-01-02`. -/
def text (d : Date) : String :=
  String.ofList (Decimal.paddedDigits 4 d.year ++ '-' :: Decimal.paddedDigits 2 d.month
    ++ '-' :: Decimal.paddedDigits 2 d.day)

/-- The date with the given fields, if there is one. -/
def ofFields (year month day : Nat) : Except FieldFault Date :=
  if year = 0 then .error (.year year)
  else if month = 0 ∨ 12 < month then .error .month
  else if day = 0 ∨ daysInMonth year month < day then .error .day
  else .ok ⟨year, month, day⟩

end Date

namespace DateTime

/-- The moment with the given fields, if there is one. -/
def ofFields (year month day hour minute second microsecond : Nat) (offset : Option Int) :
    Except FieldFault DateTime := do
  if let some seconds := offset then
    if 86400 ≤ seconds.natAbs then throw (.offset seconds)
  let date ← Date.ofFields year month day
  if 24 ≤ hour then throw .hour
  if 60 ≤ minute then throw .minute
  if 60 ≤ second then throw .second
  pure { date, hour, minute, second, microsecond, offset }

/-- A span of time as days, which may be negative, and seconds, which may not. -/
def spanLiteral (seconds : Int) : String :=
  let days := seconds / 86400
  let rest := seconds % 86400
  let parts := (if days = 0 then [] else ["days=" ++ toString days])
    ++ (if rest = 0 then [] else ["seconds=" ++ toString rest])
  "datetime.timedelta(" ++ ", ".intercalate parts ++ ")"

/-- The text of an offset: `+05:30`, with the seconds when there are any. -/
def offsetText (offset : Int) : String :=
  let n := offset.natAbs
  String.ofList ((if offset < 0 then '-' else '+') :: Decimal.paddedDigits 2 (n / 3600)
    ++ ':' :: Decimal.paddedDigits 2 (n / 60 % 60)
    ++ (if n % 60 = 0 then [] else ':' :: Decimal.paddedDigits 2 (n % 60)))

/-- The text of a moment, with `separator` between the date and the time. -/
def text (separator : String) (t : DateTime) : String :=
  t.date.text ++ separator
    ++ String.ofList (Decimal.paddedDigits 2 t.hour ++ ':' :: Decimal.paddedDigits 2 t.minute
      ++ ':' :: Decimal.paddedDigits 2 t.second
      ++ (if t.microsecond = 0 then [] else '.' :: Decimal.paddedDigits 6 t.microsecond))
    ++ (t.offset.map offsetText).getD ""

/-- The moment without the fraction of its second. -/
def toWholeSecond (t : DateTime) : DateTime :=
  { t with microsecond := 0 }

/-- The microseconds since the first day of the year 1, in universal time if the offset is known. -/
def instant (t : DateTime) : Int :=
  (((t.date.dayNumber * 24 + t.hour) * 60 + t.minute) * 60 + t.second - t.offset.getD 0) * 1000000
    + t.microsecond

/-- Two moments are one: both or neither have an offset, and they fall on one instant. -/
def sameMoment (s t : DateTime) : Bool :=
  s.offset.isSome == t.offset.isSome && s.instant == t.instant

end DateTime

/-- What is said of fields that name no date or time. -/
def FieldFault.message : FieldFault → String
  | year n => "year " ++ toString n ++ " is out of range"
  | month => "month must be in 1..12"
  | day => "day is out of range for month"
  | hour => "hour must be in 0..23"
  | minute => "minute must be in 0..59"
  | second => "second must be in 0..59"
  | offset seconds => "offset must be a timedelta strictly between -timedelta(hours=24) and "
    ++ "timedelta(hours=24), not " ++ DateTime.spanLiteral seconds ++ "."

end DocTable
