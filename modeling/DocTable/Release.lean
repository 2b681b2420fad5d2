/-!
# Releases

Command lines and the targets of links are read by functions of which there are several releases.
A `Release` tells in what these differ.
-/

namespace DocTable

/-- A release of the functions that read command lines and the targets of links. -/
structure Release where
  /-- Two dashes that are attached to an option are its value; otherwise it has none. -/
  keepsDashes : Bool
  /-- An equals sign between the options that share a word begins a value; otherwise it is taken
  for an option. -/
  splitsSigns : Bool
  /-- The texts that may stand where a link names its host. -/
  isHost : List Char → Bool

end DocTable
