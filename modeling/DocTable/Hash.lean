/-!
# Hashes of bytes

`Hash.ofBytes` mixes bytes into a word of 64 bits.  Its state has four words; every eight bytes are
stirred in by one round, and three rounds end it.
-/

namespace DocTable.Hash

/-- The words that are mixed. -/
structure State where
  a : UInt64
  b : UInt64
  c : UInt64
  d : UInt64

namespace State

/-- The word turned left by `n` bits. -/
def turn (x n : UInt64) : UInt64 :=
  (x <<< n) ||| (x >>> (64 - n))

/-- One round of mixing. -/
def round (s : State) : State :=
  let a := s.a + s.b
  let c := s.c + s.d
  let b := turn s.b 13 ^^^ a
  let d := turn s.d 16 ^^^ c
  let a := turn a 32 + d
  let c := c + b
  ⟨a, turn b 17 ^^^ c, turn c 32, turn d 21 ^^^ a⟩

/-- The state before the first byte. -/
def start : State :=
  ⟨0x736f6d6570736575, 0x646f72616e646f6d, 0x6c7967656e657261, 0x7465646279746573⟩

/-- The state with a word stirred in. -/
def stir (s : State) (word : UInt64) : State :=
  let next := { s with d := s.d ^^^ word }.round
  { next with a := next.a ^^^ word }

/-- The word that a state ends with. -/
def finish (s : State) : UInt64 :=
  let s := { s with c := s.c ^^^ 0xff }.round.round.round
  s.a ^^^ s.b ^^^ s.c ^^^ s.d

end State

/-- The word of up to eight bytes, the lowest of them first. -/
def wordOf (bytes : List UInt8) : UInt64 :=
  bytes.foldr (fun byte word => word <<< 8 ||| byte.toUInt64) 0

/-- The hash of `count` bytes, of which those are given that are not stirred into `s` yet.  The last
word ends with the number of all bytes. -/
def ofRest (count : Nat) (s : State) : List UInt8 → UInt64
  | a :: b :: c :: d :: e :: f :: g :: h :: bytes =>
    ofRest count (s.stir (wordOf [a, b, c, d, e, f, g, h])) bytes
  | bytes => (s.stir (wordOf bytes ||| (UInt64.ofNat count <<< 56))).finish

/-- The hash of some bytes. -/
def ofBytes (bytes : List UInt8) : UInt64 :=
  ofRest bytes.length .start bytes

end DocTable.Hash
