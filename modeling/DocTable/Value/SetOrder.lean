import DocTable.Hash
import DocTable.Text.Surrogate
import DocTable.Value.Basic

/-!
# The order of sets

The items of a set have no order of their own.  `Value.setOrder` lists them as they stand in a hash
table: an item goes to the slot that its hash names, or from there to the first free one on its way
through the table.  The order does not depend on the order of the items, as long as no two of them
meet.
-/

namespace DocTable.Value

/-! ### Hashes of items -/

/-- The prime that numbers are reduced by. -/
def hashPrime : Nat := Nat.pow 2 61 - 1

/-- The hash of a signed number, two's complement; the hash of minus one is that of minus two. -/
def signedHash (negative : Bool) (size : Nat) : Nat :=
  if negative then
    if size = 0 then 0 else if size = 1 then Nat.pow 2 64 - 2 else Nat.pow 2 64 - size
  else size

/-- The hash of a floating point number, which for a whole one is that of the integer. -/
def floatHash (x : Float) : Nat :=
  match Decimal.FloatClass.of x with
  | .nan => 0
  | .infinite negative => signedHash negative 314159
  | .finite _ none => 0
  | .finite negative (some size) =>
    signedHash negative (size.significand * Nat.pow 2 (size.exponent % 61).toNat % hashPrime)

/-- The hash of some bytes; nothing has the hash zero, and no hash is minus one. -/
def bytesHash (bytes : List UInt8) : Nat :=
  if bytes.isEmpty then 0
  else
    let hash := (Hash.ofBytes bytes).toNat
    if hash = Nat.pow 2 64 - 1 then Nat.pow 2 64 - 2 else hash

/-- The lowest `width` bytes of a number, the lowest first. -/
def lowBytes (width n : Nat) : List UInt8 :=
  (List.range width).map fun k => UInt8.ofNat (n / Nat.pow 256 k % 256)

/-- The bytes of a text: as many for every character as the widest one takes. -/
def textBytes (cs : List Char) : List UInt8 :=
  let codes := Text.codePoints cs
  let width := if codes.all (· < 0x100) then 1 else if codes.all (· < 0x10000) then 2 else 4
  codes.flatMap (lowBytes width)

/-- The bytes of a date. -/
def dateBytes (d : Date) : List UInt8 :=
  (lowBytes 2 d.year).reverse ++ lowBytes 1 d.month ++ lowBytes 1 d.day

/-- The bytes of a moment. -/
def dateTimeBytes (t : DateTime) : List UInt8 :=
  dateBytes t.date ++ lowBytes 1 t.hour ++ lowBytes 1 t.minute ++ lowBytes 1 t.second
    ++ (lowBytes 3 t.microsecond).reverse

/-- The hash of a scalar. -/
def scalarHash : Value → Nat
  | bool b => if b then 1 else 0
  | int n => signedHash (n < 0) (n.natAbs % hashPrime)
  | float x => floatHash x
  | text s => bytesHash (textBytes s.toList)
  | bytes contents => bytesHash contents
  | date d => bytesHash (dateBytes d)
  | dateTime t => bytesHash (dateTimeBytes t)
  | _ => 0

/-! ### Slots -/

/-- The least power of two from `size` on that is more than `n`; the first number bounds the
doublings. -/
def powerAbove (n : Nat) : Nat → Nat → Nat
  | 0, size => size
  | fuel + 1, size => if n < size then size else powerAbove n fuel (2 * size)

/-- The number of slots for `count` items. -/
def slotCount (count : Nat) : Nat :=
  if count < 5 then 8 else powerAbove (2 * count) count 8

/-- How many slots in a row are tried, from one that is far enough from the end of the table. -/
def slotRun : Nat := 10

/-- The first free slot on the way from `slot`.  The rest of the hash tells where the way goes on;
the first number bounds the steps. -/
def freeSlot (count : Nat) (taken : List Nat) : Nat → Nat → Nat → Nat
  | 0, _, slot => slot
  | fuel + 1, rest, slot =>
    let run := if slot + slotRun ≤ count then slotRun else 1
    match (List.range' slot run).find? (· ∉ taken) with
    | some free => free
    | none =>
      let rest := rest / 32
      freeSlot count taken fuel rest ((slot * 5 + 1 + rest) % count)

/-- The items with their slots in a table of `count` slots. -/
def placed (count : Nat) (items : List Value) : List (Nat × Value) :=
  items.foldl (fun found item =>
    let hash := item.scalarHash
    let slot := freeSlot count (found.map Prod.fst) (count + 64) hash (hash % count)
    (slot, item) :: found) []

/-- The items in the order of their slots. -/
def setOrder (items : List Value) : List Value :=
  ((placed (slotCount items.length) items).mergeSort fun x y => decide (x.1 ≤ y.1)).map Prod.snd

end DocTable.Value
