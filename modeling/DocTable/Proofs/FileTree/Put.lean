import DocTable.FileTree.Changes
import DocTable.Proofs.OrderedMap

/-!
# Putting a leaf into a file tree

`tree.bytes? place` are the bytes of the file at a place, and `tree.IsDirectoryAt place` says that a
directory stands there.  A file, or a directory without entries, that is put at a place below
directories changes the bytes at that place and nowhere else, and all directories stay.
-/

namespace DocTable.FileTree

/-- The bytes of the file at a place, if one is there. -/
def bytes? (tree : FileTree) (place : List String) : Option (List UInt8) :=
  (tree.get? place).bind contents?

/-- A directory stands at a place. -/
def IsDirectoryAt (tree : FileTree) (place : List String) : Prop :=
  ∃ entries, tree.get? place = some (directory entries)

/-- All directories above a place are there. -/
def HasWayTo (tree : FileTree) (place : List String) : Prop :=
  ∀ above below, above ++ below = place → below ≠ [] → tree.IsDirectoryAt above

variable {tree node : FileTree} {place : List String}

/-! ### What stands at a place -/

/-- At the empty place stands the tree itself. -/
@[simp]
theorem get?_nil (tree : FileTree) :
  tree.get? [] = some tree
  := by
  rw [get?]

/-- Below a file there is nothing. -/
@[simp]
theorem get?_file_cons (contents : List UInt8) (name : String) (names : List String) :
  (file contents).get? (name :: names) = none
  := by
  rw [get?, child?, Option.bind_none]

/-- What stands below a directory stands in its entry of the first name, if it has one. -/
theorem get?_directory_cons (entries : List (String × FileTree)) (name : String)
    (names : List String) :
  (directory entries).get? (name :: names) = (entries.lookup name).bind (get? names)
  := by
  rw [get?, child?]

/-- A way may be gone in two parts, as far as the first part leads anywhere. -/
theorem get?_append (tree : FileTree) (above below : List String) :
  tree.get? (above ++ below) = (tree.get? above).bind (get? below)
  := by
  induction above generalizing tree with
  | nil => rw [List.nil_append, get?_nil, Option.bind_some]
  | cons name above ih =>
    rw [List.cons_append, get?, get?, Option.bind_assoc]
    congr 1
    funext child
    apply ih

/-- What stands at a name in a directory is the entry of that name. -/
theorem get?_concat {entries : List (String × FileTree)}
    (h : tree.get? place = some (directory entries)) (name : String) :
  tree.get? (place ++ [name]) = entries.lookup name
  := by
  rw [get?_append, h, Option.bind_some, get?_directory_cons]
  cases entries.lookup name with
  | none => rw [Option.bind_none]
  | some found => rw [Option.bind_some, get?_nil]

/-- Something stands at a place if and only if a directory or a file does. -/
theorem isSome_get?_iff (tree : FileTree) (place : List String) :
  (tree.get? place).isSome ↔ tree.IsDirectoryAt place ∨ (tree.bytes? place).isSome
  := by
  rw [IsDirectoryAt, bytes?]
  cases tree.get? place with
  | none => simp
  | some found =>
    cases found with
    | file contents => simp [contents?]
    | directory entries => simp

/-- Where a directory stands there is no file. -/
theorem IsDirectoryAt.bytes? (h : tree.IsDirectoryAt place) :
  tree.bytes? place = none
  := by
  obtain ⟨entries, h⟩ := h
  rw [FileTree.bytes?, h, Option.bind_some, contents?]

/-- Whatever stands somewhere below a place, a directory stands there. -/
theorem isDirectoryAt_of_append {below : List String} (h : (tree.get? (place ++ below)).isSome)
    (hbelow : below ≠ []) :
  tree.IsDirectoryAt place
  := by
  obtain ⟨name, names, rfl⟩ := List.exists_cons_of_ne_nil hbelow
  rw [get?_append] at h
  cases hplace : tree.get? place with
  | none =>
    rw [hplace] at h
    contradiction
  | some found =>
    cases found with
    | file contents =>
      rw [hplace, Option.bind_some, get?_file_cons] at h
      contradiction
    | directory entries => exact ⟨entries, hplace⟩

/-- All directories above something that stands anywhere are there. -/
theorem hasWayTo_of_isSome (h : (tree.get? place).isSome) :
  tree.HasWayTo place
  := by
  rintro above below rfl hbelow
  apply isDirectoryAt_of_append h hbelow

/-- From a directory there is a way to each name in it, whether or not anything has this name. -/
theorem hasWayTo_concat {name : String} (h : tree.IsDirectoryAt place) :
  tree.HasWayTo (place ++ [name])
  := by
  intro above below happend hbelow
  rw [← List.dropLast_append_getLast hbelow, ← List.append_assoc] at happend
  obtain ⟨rfl, -⟩ := List.append_inj' happend rfl
  obtain hnil | hcons := eq_or_ne below.dropLast []
  · rw [hnil, List.append_nil] at h
    exact h
  · obtain ⟨entries, h⟩ := h
    apply isDirectoryAt_of_append (by rw [h, Option.isSome_some]) hcons

/-- Below a place without a directory there is no file. -/
theorem bytes?_append_of_not_isDirectoryAt (h : ¬ tree.IsDirectoryAt place) {below : List String}
    (hbelow : below ≠ []) :
  tree.bytes? (place ++ below) = none
  := by
  rw [← Option.not_isSome_iff_eq_none]
  intro hbytes
  apply h
  apply isDirectoryAt_of_append ((isSome_get?_iff _ _).mpr (.inr hbytes)) hbelow

/-! ### Leaves -/

/-- A file, or a directory without entries. -/
def IsLeaf (node : FileTree) : Prop :=
  ∀ name names, node.get? (name :: names) = none

/-- A file is a leaf. -/
theorem isLeaf_file (contents : List UInt8) :
  (file contents).IsLeaf
  := get?_file_cons contents

/-- A directory without entries is a leaf: a name leads nowhere in it. -/
theorem isLeaf_directory_nil :
  (directory []).IsLeaf
  := by
  intro name names
  rw [get?_directory_cons, List.lookup_nil, Option.bind_none]

/-- An entry that is missing holds no more files than a directory without entries. -/
theorem bytes?_directory_cons (entries : List (String × FileTree)) (name : String)
    (names : List String) :
  (directory entries).bytes? (name :: names)
    = ((entries.lookup name).getD (directory [])).bytes? names
  := by
  rw [bytes?, get?_directory_cons]
  cases entries.lookup name with
  | some found => rfl
  | none =>
    cases names with
    | nil => rfl
    | cons name' names => rw [Option.getD_none, bytes?, isLeaf_directory_nil, Option.bind_none]

/-! ### Putting a leaf at a place -/

/-- What is put below a place makes a directory of whatever stands there.  The entries of a file
that has to give way are empty. -/
theorem exists_put_cons (tree : FileTree) (name : String) (names : List String)
    (node : FileTree) :
  ∃ entries, tree.put (name :: names) node
    = directory (OrderedMap.alterEntries name
        (fun found => (found.getD (directory [])).put names node) entries)
  := by
  cases tree with
  | file contents => exact ⟨[], by rw [put]⟩
  | directory entries => exact ⟨entries, by rw [put]⟩

/-- What a leaf changes depends only on where files are: none above its place, and none below. -/
theorem bytes?_put_of_bytes? (hnode : node.IsLeaf)
    (hway : ∀ above below, above ++ below = place → below ≠ [] → tree.bytes? above = none)
    (hbelow : ∀ below, below ≠ [] → tree.bytes? (place ++ below) = none) (q : List String) :
  (tree.put place node).bytes? q = if q = place then node.contents? else tree.bytes? q
  := by
  induction place generalizing tree q with
  | nil =>
    rw [put]
    cases q with
    | nil => rw [if_pos rfl, bytes?, get?_nil, Option.bind_some]
    | cons name names =>
      rw [if_neg (List.cons_ne_nil name names), bytes?, hnode, Option.bind_none]
      exact (hbelow _ (List.cons_ne_nil name names)).symm
  | cons name names ih =>
    cases tree with
    | file contents =>
      have hfile := hway [] (name :: names) rfl (List.cons_ne_nil name names)
      contradiction
    | directory entries =>
      rw [put]
      cases q with
      | nil => rfl
      | cons name' q =>
        rw [bytes?_directory_cons, bytes?_directory_cons, OrderedMap.lookup_alterEntries]
        by_cases hname : name' = name
        · subst hname
          rw [if_pos rfl, Option.getD_some]
          simp only [List.cons.injEq, true_and]
          -- The entry that the way goes through may be missing: then nothing is in the way.
          apply ih
          · rintro above below rfl hne
            rw [← bytes?_directory_cons]
            apply hway _ _ (List.cons_append) hne
          · intro below hne
            rw [← bytes?_directory_cons]
            apply hbelow below hne
        · rw [if_neg hname, if_neg fun h => hname (List.cons.inj h).1]

/-- A leaf that stands where no directory is changes the bytes there, and nowhere else. -/
theorem bytes?_put (hnode : node.IsLeaf) (hway : tree.HasWayTo place)
    (hplace : ¬ tree.IsDirectoryAt place) (q : List String) :
  (tree.put place node).bytes? q = if q = place then node.contents? else tree.bytes? q
  := by
  apply bytes?_put_of_bytes? hnode
  · intro above below happend hbelow
    apply (hway above below happend hbelow).bytes?
  · intro below hbelow
    apply bytes?_append_of_not_isDirectoryAt hplace hbelow

/-- All directories stay when something is put where no directory is. -/
theorem isDirectoryAt_put (hplace : ¬ tree.IsDirectoryAt place) {q : List String}
    (hq : tree.IsDirectoryAt q) :
  (tree.put place node).IsDirectoryAt q
  := by
  induction place generalizing tree q with
  | nil =>
    obtain ⟨entries, hq⟩ := hq
    have hroot : tree.IsDirectoryAt [] := by
      cases q with
      | nil => exact ⟨entries, hq⟩
      | cons name names =>
        refine isDirectoryAt_of_append ?_ (List.cons_ne_nil name names)
        rw [List.nil_append, hq, Option.isSome_some]
    contradiction
  | cons name names ih =>
    cases q with
    | nil =>
      obtain ⟨entries, hput⟩ := exists_put_cons tree name names node
      rw [hput]
      exact ⟨_, get?_nil _⟩
    | cons name' q =>
      cases tree with
      | file contents =>
        obtain ⟨entries, hq⟩ := hq
        rw [get?_file_cons] at hq
        contradiction
      | directory entries =>
        rw [IsDirectoryAt, get?_directory_cons] at hq hplace
        rw [put, IsDirectoryAt, get?_directory_cons, OrderedMap.lookup_alterEntries]
        by_cases hname : name' = name
        · subst hname
          rw [if_pos rfl, Option.bind_some]
          cases hfound : entries.lookup name' with
          | none =>
            rw [hfound] at hq
            obtain ⟨_, hq⟩ := hq
            contradiction
          | some found =>
            rw [hfound] at hq hplace
            apply ih hplace hq
        · rw [if_neg hname]
          exact hq

end DocTable.FileTree
