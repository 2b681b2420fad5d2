import DocTable.Text.LowerCase
import DocTable.Text.Word

/-!
# Link targets

`isSafeUrl` admits the targets that a comment may link to: relative ones, and those of web pages and
mail.  Blanks and control characters are taken out first, since a browser passes over them when it
reads a scheme.  Which texts may stand where a target names its host is given.
-/

namespace DocTable.Link

open Text

/-- A character of a scheme after its first letter. -/
def isSchemeChar (c : Char) : Bool :=
  isAsciiLetter c || isAsciiDigit c || c == '+' || c == '-' || c == '.'

/-- The scheme of a target and the text after its colon; a target whose text before the first colon
is no scheme has the empty one. -/
def splitScheme (url : List Char) : List Char × List Char :=
  let before := url.takeWhile (· != ':')
  match before, url.dropWhile (· != ':') with
  | c :: cs, ':' :: rest =>
    if isAsciiLetter c && (c :: cs).all isSchemeChar then (c :: cs, rest) else ([], url)
  | _, _ => ([], url)

/-- The host that a target names, its scheme apart: the text after two slashes up to the path. -/
def hostOf (rest : List Char) : List Char :=
  match rest with
  | '/' :: '/' :: rest => rest.takeWhile fun c => c != '/' && c != '?' && c != '#'
  | _ => []

/-- The schemes that may be linked to, in lower case; the empty one is that of relative targets. -/
def safeSchemes : List (List Char) :=
  [[], "http".toList, "https".toList, "mailto".toList]

/-- A target with a safe scheme and, if it names a host, one that can be read. -/
def isSafeTarget (isHost : List Char → Bool) (url : List Char) : Bool :=
  let (scheme, rest) := splitScheme (url.filter (' ' < ·))
  isHost (hostOf rest) && safeSchemes.contains (lowerChars scheme)

/-- A target that a comment may link to. -/
def isSafeUrl (isHost : List Char → Bool) (url : String) : Bool :=
  isSafeTarget isHost url.toList

end DocTable.Link
