import DocTable.Text.Lines
import DocTable.Text.Word

/-!
# Hosts of links

Which texts may stand where a link names its host.  Square brackets must surround an address of
sixteen bytes or a future kind of address, and no character may stand in for one of the marks that
end a host.
-/

namespace DocTable.Link

open Text

/-- A hexadecimal digit. -/
def isHexDigit (c : Char) : Bool :=
  isAsciiDigit c || ('a' ≤ c && c ≤ 'f') || ('A' ≤ c && c ≤ 'F')

/-- A number from 0 to 255 without leading zeros. -/
def isOctet (cs : List Char) : Bool :=
  !cs.isEmpty && cs.length ≤ 3 && cs.all isAsciiDigit && (cs.length = 1 || cs.head? ≠ some '0')
    && cs.foldl (fun n c => n * 10 + (c.toNat - 48)) 0 ≤ 255

/-- An address of four bytes: four octets with points between them. -/
def isFourByteAddress (cs : List Char) : Bool :=
  let octets := splitOnChar '.' cs
  octets.length = 4 && octets.all isOctet

/-- A group of an address of sixteen bytes: up to four hexadecimal digits. -/
def isGroup (cs : List Char) : Bool :=
  !cs.isEmpty && cs.length ≤ 4 && cs.all isHexDigit

/-- The groups of an address of sixteen bytes, the last one of which may be an address of four
bytes that takes the place of two. -/
def groups? (cs : List Char) : Option (List (List Char)) :=
  let groups := splitOnChar ':' cs
  let last := groups.getLast?.getD []
  if groups.length < 3 then none
  else if last.contains '.' then
    if isFourByteAddress last then some (groups.dropLast ++ [['0'], ['0']]) else none
  else some groups

/-- The groups before and after the gap in a list of groups, its two ends apart from being gaps. -/
def splitGap (groups : List (List Char)) : Option (List (List Char) × List (List Char)) :=
  let inner := groups.tail.dropLast
  match (inner.takeWhile (!·.isEmpty)).length with
  | i => if i < inner.length then some (groups.take (i + 1), groups.drop (i + 2)) else none

/-- An end of an address next to its gap: complete groups, or one empty group alone. -/
def endGroups? (outermost : Option (List Char)) (groups : List (List Char)) : Option Nat :=
  if outermost = some [] then
    if groups.length = 1 then some 0 else none
  else if groups.all isGroup then some groups.length
  else none

/-- An address of sixteen bytes: eight groups, or fewer with one gap for the zeros left out. -/
def isSixteenByteAddress (cs : List Char) : Bool :=
  match groups? cs with
  | none => false
  | some groups =>
    groups.length ≤ 9 && match splitGap groups with
      | none => groups.length = 8 && groups.all isGroup
      | some (before, after) =>
        match endGroups? before.head? before, endGroups? after.getLast? after with
        | some n, some m => n + m < 8
        | _, _ => false

/-- A future kind of address: `v`, hexadecimal digits, a point and more on the same line. -/
def isFutureAddress (cs : List Char) : Bool :=
  match cs with
  | 'v' :: rest =>
    match rest.takeWhile isHexDigit, rest.dropWhile isHexDigit with
    | _ :: _, '.' :: c :: cs => (c :: cs).all (· != '\n')
    | _, _ => false
  | _ => false

/-- A host that may stand between square brackets; an address may name its network zone after a
percent sign. -/
def isBracketed (host : List Char) : Bool :=
  if host.head? = some 'v' then isFutureAddress host
  else
    match splitOnChar '%' host with
    | [address] => isSixteenByteAddress address
    | [address, zone] => !zone.isEmpty && isSixteenByteAddress address
    | _ => false

/-- The characters whose compatibility form holds a mark that ends a host. -/
def markLookalikes : List Nat :=
  [0x2047, 0x2048, 0x2049, 0x2100, 0x2101, 0x2105, 0x2106, 0x2A74, 0xFE13, 0xFE16, 0xFE55, 0xFE56,
    0xFE5F, 0xFE6B, 0xFF03, 0xFF0F, 0xFF1A, 0xFF1F, 0xFF20]

/-- The text after the last user mark: the host and its port. -/
def withoutUser (cs : List Char) : List Char :=
  (cs.reverse.takeWhile (· != '@')).reverse

/-- A host and its port whose brackets, if there are any, surround all of the host. -/
def areBracketsWhole (cs : List Char) : Bool :=
  let (before, bracketed) := cs.span (· != '[')
  match bracketed with
  | [] => isBracketed (cs.takeWhile (· != ':'))
  | _ :: inner =>
    let (host, rest) := inner.span (· != ']')
    before.isEmpty && isBracketed host && (rest.drop 1).head?.all (· == ':')

/-- A text that may stand where a link names its host.  If there are brackets in it, even in the
name of a user, the host is one that may stand between them. -/
def isHost (host : List Char) : Bool :=
  let opens := host.contains '['
  opens == host.contains ']'
    && (!opens || areBracketsWhole (withoutUser host))
    && host.all fun c => !markLookalikes.contains c.toNat

end DocTable.Link
