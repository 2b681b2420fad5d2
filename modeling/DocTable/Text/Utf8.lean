import DocTable.Text.Quoted

/-!
# UTF-8

`Utf8.decode` reads bytes as UTF-8.  Only the shortest encoding of a code point is admitted, and
none of a surrogate.  A fault names the bytes from the start of the character in question up to the
place where it goes wrong.  `Utf8.encode` writes a text, in which `Utf8.unencodable?` should find no
surrogates.

In the names of files some surrogates stand for bytes that are no characters, and only the others,
which `Utf8.unescapable?` finds, cannot be written.
-/

namespace DocTable.Text.Utf8

/-- What is wrong with some bytes. -/
inductive Cause where
  | invalidStart
  | invalidContinuation
  | truncated
  deriving DecidableEq, Repr

/-- Bytes that are no character. -/
structure Fault where
  /-- The byte that begins the character. -/
  lead : UInt8
  start : Nat
  /-- The position after the last byte in question. -/
  stop : Nat
  cause : Cause
  deriving DecidableEq, Repr

/-- The words for a cause. -/
def Cause.words : Cause → String
  | invalidStart => "invalid start byte"
  | invalidContinuation => "invalid continuation byte"
  | truncated => "unexpected end of data"

/-- What is said of a fault. -/
def Fault.message (fault : Fault) : String :=
  "'utf-8' codec can't decode "
    ++ (if fault.stop = fault.start + 1 then
          "byte 0x" ++ String.ofList (hexDigits 2 fault.lead.toNat) ++ " in position "
            ++ toString fault.start
        else
          "bytes in position " ++ toString fault.start ++ "-" ++ toString (fault.stop - 1))
    ++ ": " ++ fault.cause.words

/-- A character of which some bytes are still missing. -/
structure Pending where
  lead : UInt8
  start : Nat
  /-- The bits read so far. -/
  bits : Nat
  /-- The least and the greatest value of each missing byte. -/
  missing : List (Nat × Nat)

/-- The bytes that follow a lead byte, and the bits that it carries. -/
def shape? (lead : Nat) : Option (Nat × List (Nat × Nat)) :=
  let tail := (0x80, 0xBF)
  if lead < 0x80 then some (lead, [])
  else if lead < 0xC2 then none
  else if lead < 0xE0 then some (lead - 0xC0, [tail])
  else if lead = 0xE0 then some (0, [(0xA0, 0xBF), tail])
  else if lead = 0xED then some (0xD, [(0x80, 0x9F), tail])
  else if lead < 0xF0 then some (lead - 0xE0, [tail, tail])
  else if lead = 0xF0 then some (0, [(0x90, 0xBF), tail, tail])
  else if lead < 0xF4 then some (lead - 0xF0, [tail, tail, tail])
  else if lead = 0xF4 then some (4, [(0x80, 0x8F), tail, tail])
  else none

/-- The characters of the bytes from a position on, the first of them begun already. -/
def decodeFrom (position : Nat) : Option Pending → List UInt8 → Except Fault (List Char)
  | none, [] => .ok []
  | some p, [] => .error ⟨p.lead, p.start, position, .truncated⟩
  | none, b :: bs =>
    match shape? b.toNat with
    | none => .error ⟨b, position, position + 1, .invalidStart⟩
    | some (bits, []) => (decodeFrom (position + 1) none bs).map (ofCodePoint bits ++ ·)
    | some (bits, missing) => decodeFrom (position + 1) (some ⟨b, position, bits, missing⟩) bs
  | some p, b :: bs =>
    let bits := p.bits * 0x40 + (b.toNat - 0x80)
    match p.missing with
    | [] => .error ⟨p.lead, p.start, position, .invalidContinuation⟩
    | (low, high) :: missing =>
      if b.toNat < low ∨ high < b.toNat then
        .error ⟨p.lead, p.start, position, .invalidContinuation⟩
      else if missing.isEmpty then
        (decodeFrom (position + 1) none bs).map (ofCodePoint bits ++ ·)
      else
        decodeFrom (position + 1) (some { p with bits, missing }) bs

/-- The characters that some bytes encode. -/
def decode (bytes : List UInt8) : Except Fault (List Char) :=
  decodeFrom 0 none bytes

/-- The bytes of a text. -/
def encode (s : String) : List UInt8 :=
  (codePoints s.toList).flatMap fun n => String.utf8EncodeChar (Char.ofNat n)

/-! ### Texts without bytes -/

/-- Lone surrogates in a row, which have no bytes. -/
structure Unencodable where
  /-- The first of them. -/
  surrogate : Nat
  start : Nat
  /-- The position after the last of them. -/
  stop : Nat
  deriving DecidableEq, Repr

/-- What is said of lone surrogates. -/
def Unencodable.message (found : Unencodable) : String :=
  "'utf-8' codec can't encode "
    ++ (if found.stop = found.start + 1 then
          "character '\\u" ++ String.ofList (hexDigits 4 found.surrogate) ++ "' in position "
            ++ toString found.start
        else
          "characters in position " ++ toString found.start ++ "-" ++ toString (found.stop - 1))
    ++ ": surrogates not allowed"

/-- The first surrogates in a row from a position on that have no bytes.  Those with the property
`kept` have some, unless they follow others that have none. -/
def unencodableFrom (kept : Nat → Bool) (position : Nat) : List Nat → Option Unencodable
  | [] => none
  | n :: ns =>
    if isSurrogate n && !kept n then
      some {
        surrogate := n
        start := position
        stop := position + 1 + (ns.takeWhile isSurrogate).length }
    else unencodableFrom kept (position + 1) ns

/-- The first lone surrogates of a text. -/
def unencodable? (cs : List Char) : Option Unencodable :=
  unencodableFrom (fun _ => false) 0 (codePoints cs)

/-! ### Names of files -/

/-- A surrogate that stands for a byte in the name of a file. -/
def isByte (n : Nat) : Bool :=
  0xDC80 ≤ n && n ≤ 0xDCFF

/-- The first lone surrogates of the name of a file that stand for no bytes. -/
def unescapable? (cs : List Char) : Option Unencodable :=
  unencodableFrom isByte 0 (codePoints cs)

/-- The number of bytes of the name of a file. -/
def nameSize (name : String) : Nat :=
  (codePoints name.toList).foldl (fun size n =>
    size + if isByte n then 1 else (String.utf8EncodeChar (Char.ofNat n)).length) 0

end DocTable.Text.Utf8
