import DocTable.FileTree.Scan
import DocTable.Proofs.FileTree.Put
import DocTable.Proofs.Sorting

/-!
# The files of a scan

Scanning a directory lists the files below it that are accepted and to which no directory leads that
is left out, each of them once.  The files of a directory come first, by their names, and then those
below each directory in it, by the names of these (`scan_complete_ordered`).  If more directories
are excluded, then the files that are still listed keep their order.
-/

namespace DocTable

namespace FileTree

/-- The entries of every directory in a tree have different names. -/
inductive HasDistinctNames : FileTree → Prop where
  | file (contents : List UInt8) : HasDistinctNames (file contents)
  | directory {entries : List (String × FileTree)} (distinct : (entries.map Prod.fst).Nodup)
      (below : ∀ entry ∈ entries, HasDistinctNames entry.2) : HasDistinctNames (directory entries)

/-- A scan of the directory `here` is to list a file: it stands where the directories and its name
lead, none of the directories is left out, and it is no file of a tool and accepted. -/
structure IsListed (accepts : Path → Bool) (exclude : List String) (here : Path) (tree : FileTree)
    (directories : List String) (name : String) : Prop where
  isFile : ∃ contents, tree.get? (directories ++ [name]) = some (file contents)
  entered : ∀ directory ∈ directories, directory ∉ toolDirectories ∧ directory ∉ exclude
  notTool : name ∉ toolFiles
  accepted : accepts (here.join { names := directories ++ [name] })

/-- The names that lead to a file come before those that lead to another one.  The first names that
differ decide: those of two files or of two directories by their order, and a file comes before all
that lies below a directory. -/
inductive Precedes : List String → List String → Prop where
  | files {name name' : String} : name < name' → Precedes [name] [name']
  | fileFirst {name directory : String} {names : List String} :
      name ≠ directory → names ≠ [] → Precedes [name] (directory :: names)
  | directories {directory directory' : String} {names names' : List String} :
      directory < directory' → names ≠ [] → names' ≠ [] →
      Precedes (directory :: names) (directory' :: names')
  | inside (directory : String) {names names' : List String} :
      Precedes names names' → Precedes (directory :: names) (directory :: names')

/-- A file below the directory `here` comes before another one. -/
def ComesBefore (here p q : Path) : Prop :=
  ∃ names names', p = here.join { names } ∧ q = here.join { names := names' }
    ∧ Precedes names names'

/-! ### Paths below a directory -/

theorem join_relative (here : Path) (names : List String) :
  here.join { names } = { here with names := here.names ++ names }
  := rfl

theorem join_relative_injective {here : Path} {names names' : List String}
    (h : here.join { names } = here.join { names := names' }) :
  names = names'
  := List.append_cancel_left (congrArg Path.names h)

theorem join_child (here : Path) (name : String) (names : List String) :
  (here.child name).join { names } = here.join { names := name :: names }
  := by
  rw [join_relative, join_relative, Path.child, List.append_assoc, List.singleton_append]

/-! ### The order -/

theorem Precedes.asymm {names names' : List String} (h : Precedes names names') :
  ¬Precedes names' names
  := by
  induction h with
  | files hlt =>
    rintro (hlt' | ⟨-, hnil⟩ | ⟨-, hnil⟩ | _)
    · exact lt_asymm hlt hlt'
    · exact hnil rfl
    · exact hnil rfl
    · exact lt_irrefl _ hlt
  | fileFirst hne hnil =>
    rintro (_ | ⟨-, hnil'⟩ | ⟨-, -, hnil'⟩ | _)
    · exact hnil rfl
    · exact hnil' rfl
    · exact hnil' rfl
    · exact hne rfl
  | directories hlt hnil hnil' =>
    rintro (_ | ⟨-, hnil''⟩ | hlt' | _)
    · exact hnil rfl
    · exact hnil' rfl
    · exact lt_asymm hlt hlt'
    · exact lt_irrefl _ hlt
  | inside directory h ih =>
    rintro (hlt | ⟨hne, -⟩ | hlt | ⟨-, h'⟩)
    · exact lt_irrefl _ hlt
    · exact hne rfl
    · exact lt_irrefl _ hlt
    · exact ih h'

theorem ComesBefore.asymm {here p q : Path} (h : ComesBefore here p q) :
  ¬ComesBefore here q p
  := by
  obtain ⟨names, names', rfl, rfl, hprecedes⟩ := h
  rintro ⟨_, _, hq, hp, hprecedes'⟩
  rw [← join_relative_injective hq, ← join_relative_injective hp] at hprecedes'
  exact hprecedes.asymm hprecedes'

/-- What comes before within a directory comes before in the directory around it. -/
theorem ComesBefore.of_child {here p q : Path} {name : String}
    (h : ComesBefore (here.child name) p q) :
  ComesBefore here p q
  := by
  obtain ⟨names, names', rfl, rfl, hprecedes⟩ := h
  use name :: names, name :: names', join_child here name names, join_child here name names'
  exact hprecedes.inside name

/-! ### The files that are listed -/

variable {accepts : Path → Bool} {exclude : List String} {here : Path}

/-- The parts of a directory are what is listed below each directory in it that is entered. -/
theorem partsBelow_eq (entries : List (String × FileTree)) :
  partsBelow accepts exclude here entries
    = (entries.filter fun entry => entry.1 ∉ toolDirectories ∧ entry.1 ∉ exclude).map
      fun entry => (entry.1, filesBelow accepts exclude (here.child entry.1) entry.2)
  := by
  induction entries with
  | nil => rw [partsBelow, List.filter_nil, List.map_nil]
  | cons entry entries ih =>
    rw [partsBelow]
    split
    case isTrue hleft =>
      rw [List.filter_cons_of_neg, ih]
      rw [decide_eq_true_iff]
      rintro ⟨htool, hexclude⟩
      exact hleft.elim htool hexclude
    case isFalse hentered =>
      rw [List.filter_cons_of_pos, List.map_cons, ih]
      exact decide_eq_true (not_or.mp hentered)

theorem mem_ownFiles {entries : List (String × FileTree)} {p : Path} :
  p ∈ ownFiles accepts here entries
    ↔ ∃ name contents, (name, file contents) ∈ entries ∧ name ∉ toolFiles
      ∧ accepts (here.child name) ∧ p = here.child name
  := by
  rw [ownFiles, List.mem_filter, List.mem_map]
  constructor
  · rintro ⟨⟨name, hname, rfl⟩, haccepts⟩
    rw [sortNames, List.mem_mergeSort, List.mem_filter, decide_eq_true_iff, List.mem_filterMap]
      at hname
    obtain ⟨⟨⟨found, tree⟩, hentry, hfile⟩, htool⟩ := hname
    cases tree with
    | file contents =>
      obtain rfl := Option.some.inj hfile
      exact ⟨found, contents, hentry, htool, haccepts, rfl⟩
    | directory entries => contradiction
  · rintro ⟨name, contents, hentry, htool, haccepts, rfl⟩
    refine ⟨⟨name, ?_, rfl⟩, haccepts⟩
    rw [sortNames, List.mem_mergeSort, List.mem_filter, decide_eq_true_iff, List.mem_filterMap]
    exact ⟨⟨_, hentry, rfl⟩, htool⟩

theorem mem_joinSorted {entries : List (String × FileTree)} {p : Path} :
  p ∈ joinSorted (partsBelow accepts exclude here entries)
    ↔ ∃ directory tree, (directory, tree) ∈ entries
      ∧ (directory ∉ toolDirectories ∧ directory ∉ exclude)
      ∧ p ∈ filesBelow accepts exclude (here.child directory) tree
  := by
  rw [joinSorted, List.mem_flatMap, partsBelow_eq]
  constructor
  · rintro ⟨part, hpart, hp⟩
    obtain ⟨⟨directory, tree⟩, hentry, rfl⟩ := List.mem_map.mp (List.mem_mergeSort.mp hpart)
    rw [List.mem_filter, decide_eq_true_iff] at hentry
    exact ⟨directory, tree, hentry.1, hentry.2, hp⟩
  · rintro ⟨directory, tree, hentry, hentered, hp⟩
    refine ⟨(directory, filesBelow accepts exclude (here.child directory) tree), ?_, hp⟩
    rw [List.mem_mergeSort, List.mem_map]
    use (directory, tree)
    rw [List.mem_filter, decide_eq_true_iff]
    exact ⟨⟨hentry, hentered⟩, rfl⟩

section

variable {entries : List (String × FileTree)} (hdistinct : (entries.map Prod.fst).Nodup)

include hdistinct

theorem lookup_eq_some_iff_mem {name : String} {tree : FileTree} :
  entries.lookup name = some tree ↔ (name, tree) ∈ entries
  := OrderedMap.get?_eq_some_iff (m := ⟨entries, hdistinct⟩)

/-- The files of a directory itself. -/
theorem isListed_nil_iff {name : String} :
  IsListed accepts exclude here (directory entries) [] name
    ↔ ∃ contents, (name, file contents) ∈ entries ∧ name ∉ toolFiles
      ∧ accepts (here.child name)
  := by
  have hget : (directory entries).get? [name] = entries.lookup name := get?_concat (get?_nil _) name
  constructor
  · rintro ⟨⟨contents, hfile⟩, -, htool, haccepts⟩
    rw [List.nil_append, hget, lookup_eq_some_iff_mem hdistinct] at hfile
    exact ⟨contents, hfile, htool, haccepts⟩
  · rintro ⟨contents, hentry, htool, haccepts⟩
    refine ⟨⟨contents, ?_⟩, List.forall_mem_nil _, htool, haccepts⟩
    rw [List.nil_append, hget, lookup_eq_some_iff_mem hdistinct]
    exact hentry

/-- The files below a directory in a directory. -/
theorem isListed_cons_iff {first name : String} {directories : List String} :
  IsListed accepts exclude here (directory entries) (first :: directories) name
    ↔ ∃ tree, (first, tree) ∈ entries ∧ (first ∉ toolDirectories ∧ first ∉ exclude)
      ∧ IsListed accepts exclude (here.child first) tree directories name
  := by
  constructor
  · rintro ⟨⟨contents, hfile⟩, hentered, htool, haccepts⟩
    rw [List.forall_mem_cons] at hentered
    rw [List.cons_append, get?_directory_cons] at hfile
    obtain ⟨tree, hlookup, hfile⟩ := Option.bind_eq_some_iff.mp hfile
    rw [List.cons_append, ← join_child] at haccepts
    use tree, (lookup_eq_some_iff_mem hdistinct).mp hlookup, hentered.1
    exact ⟨⟨contents, hfile⟩, hentered.2, htool, haccepts⟩
  · rintro ⟨tree, hentry, hfirst, ⟨contents, hfile⟩, hentered, htool, haccepts⟩
    refine ⟨⟨contents, ?_⟩, List.forall_mem_cons.mpr ⟨hfirst, hentered⟩, htool, ?_⟩
    · rw [List.cons_append, get?_directory_cons, (lookup_eq_some_iff_mem hdistinct).mpr hentry]
      exact hfile
    · rw [List.cons_append, ← join_child]
      exact haccepts

end

/-- The files that are listed are those that are to be listed. -/
theorem mem_filesBelow {tree : FileTree} (h : tree.HasDistinctNames) {p : Path} :
  p ∈ filesBelow accepts exclude here tree
    ↔ ∃ directories name, IsListed accepts exclude here tree directories name
      ∧ p = here.join { names := directories ++ [name] }
  := by
  induction h generalizing here with
  | file contents =>
    rw [filesBelow]
    constructor
    · intro hp
      contradiction
    · rintro ⟨directories, name, ⟨⟨contents', hfile⟩, -⟩, -⟩
      obtain ⟨first, names, hnames⟩ := List.exists_cons_of_ne_nil
        (List.append_ne_nil_of_right_ne_nil directories (List.cons_ne_nil name []))
      rw [hnames, get?_file_cons] at hfile
      contradiction
  | directory hdistinct _ ih =>
    rw [filesBelow, List.mem_append, mem_ownFiles, mem_joinSorted]
    constructor
    · rintro (⟨name, contents, hentry, htool, haccepts, rfl⟩ | ⟨first, tree, hentry, hfirst, hp⟩)
      · use [], name
        rw [isListed_nil_iff hdistinct]
        exact ⟨⟨contents, hentry, htool, haccepts⟩, rfl⟩
      · obtain ⟨directories, name, hlisted, rfl⟩ := (ih _ hentry).mp hp
        use first :: directories, name
        rw [isListed_cons_iff hdistinct, join_child, List.cons_append]
        exact ⟨⟨tree, hentry, hfirst, hlisted⟩, rfl⟩
    · rintro ⟨directories, name, hlisted, rfl⟩
      cases directories with
      | nil =>
        left
        obtain ⟨contents, hentry, htool, haccepts⟩ := (isListed_nil_iff hdistinct).mp hlisted
        exact ⟨name, contents, hentry, htool, haccepts, rfl⟩
      | cons first directories =>
        right
        obtain ⟨tree, hentry, hfirst, hlisted⟩ := (isListed_cons_iff hdistinct).mp hlisted
        use first, tree, hentry, hfirst
        rw [ih _ hentry]
        use directories, name, hlisted
        rw [join_child, List.cons_append]

/-! ### The order of the files -/

theorem filterMap_fileName?_sublist (entries : List (String × FileTree)) :
  (entries.filterMap fileName?).Sublist (entries.map Prod.fst)
  := by
  induction entries with
  | nil => exact .slnil
  | cons entry entries ih =>
    obtain ⟨name, tree⟩ := entry
    cases tree with
    | file contents => exact ih.cons_cons name
    | directory inner => exact ih.cons name

/-- The files of a directory come in the order of their names. -/
theorem pairwise_ownFiles {entries : List (String × FileTree)}
    (hdistinct : (entries.map Prod.fst).Nodup) :
  (ownFiles accepts here entries).Pairwise (ComesBefore here)
  := by
  have hnames : ((entries.filterMap fileName?).filter (· ∉ toolFiles)).Nodup :=
    (hdistinct.sublist (filterMap_fileName?_sublist entries)).filter _
  apply List.Pairwise.filter
  rw [List.pairwise_map, sortNames]
  apply (pairwise_lt_mergeSort id (by rwa [List.map_id])).imp
  intro name name' hlt
  use [name], [name'], rfl, rfl
  exact .files hlt

/-- Lists that are joined in the order of their names are ordered as one list if each of them is,
and if the names decide between them. -/
theorem pairwise_joinSorted {parts : List (String × List Path)} (h : (parts.map Prod.fst).Nodup)
    {r : Path → Path → Prop} (hinside : ∀ part ∈ parts, part.2.Pairwise r)
    (hbetween : ∀ part ∈ parts, ∀ part' ∈ parts, part.1 < part'.1 →
      ∀ p ∈ part.2, ∀ q ∈ part'.2, r p q) :
  (joinSorted parts).Pairwise r
  := by
  rw [joinSorted, List.pairwise_flatMap]
  constructor
  · intro part hpart
    apply hinside part (List.mem_mergeSort.mp hpart)
  · apply (pairwise_lt_mergeSort Prod.fst h).imp_of_mem
    intro part part' hpart hpart' hlt
    apply hbetween part (List.mem_mergeSort.mp hpart) part' (List.mem_mergeSort.mp hpart') hlt

/-- A file below a directory in `here` has names from `here` on, the first of them that of the
directory. -/
theorem exists_names_of_mem_filesBelow {tree : FileTree} (h : tree.HasDistinctNames)
    {directory : String} {p : Path}
    (hp : p ∈ filesBelow accepts exclude (here.child directory) tree) :
  ∃ names, names ≠ [] ∧ p = here.join { names := directory :: names }
  := by
  obtain ⟨directories, name, -, rfl⟩ := (mem_filesBelow h).mp hp
  use directories ++ [name], by simp
  apply join_child

/-- The files that are listed come one before the other. -/
theorem pairwise_filesBelow {tree : FileTree} (h : tree.HasDistinctNames) :
  (filesBelow accepts exclude here tree).Pairwise (ComesBefore here)
  := by
  induction h generalizing here with
  | file contents =>
    rw [filesBelow]
    exact .nil
  | @directory entries hdistinct hbelow ih =>
    rw [filesBelow, List.pairwise_append]
    refine ⟨pairwise_ownFiles hdistinct, ?_, ?_⟩
    · rw [partsBelow_eq]
      apply pairwise_joinSorted
      · rw [List.map_map]
        exact hdistinct.sublist (List.filter_sublist.map Prod.fst)
      · rw [List.forall_mem_map]
        intro entry hentry
        apply (ih entry (List.mem_of_mem_filter hentry)).imp
        exact ComesBefore.of_child
      · simp only [List.forall_mem_map]
        intro entry hentry entry' hentry' hlt p hp q hq
        obtain ⟨names, hnames, rfl⟩ :=
          exists_names_of_mem_filesBelow (hbelow entry (List.mem_of_mem_filter hentry)) hp
        obtain ⟨names', hnames', rfl⟩ :=
          exists_names_of_mem_filesBelow (hbelow entry' (List.mem_of_mem_filter hentry')) hq
        exact ⟨_, _, rfl, rfl, .directories hlt hnames hnames'⟩
    · intro p hp q hq
      obtain ⟨name, contents, hfile, -, -, rfl⟩ := mem_ownFiles.mp hp
      obtain ⟨directory, tree, hentry, -, hq⟩ := mem_joinSorted.mp hq
      obtain ⟨names, hnames, rfl⟩ := exists_names_of_mem_filesBelow (hbelow _ hentry) hq
      use [name], directory :: names, rfl, rfl
      apply Precedes.fileFirst _ hnames
      -- an entry of one name is not a file and a directory with files at once
      rintro rfl
      rw [← lookup_eq_some_iff_mem hdistinct] at hfile hentry
      rw [hfile, Option.some.injEq] at hentry
      rw [← hentry, filesBelow] at hq
      contradiction

section

variable {files files' : List Path} (hfiles : files.Pairwise (ComesBefore here))

include hfiles

theorem nodup_of_pairwise :
  files.Nodup
  := by
  apply hfiles.imp
  rintro p _ hbefore rfl
  exact hbefore.asymm hbefore

/-- Files in order that are all among others in order are these with some left out. -/
theorem sublist_of_subset (hfiles' : files'.Pairwise (ComesBefore here)) (h : files ⊆ files') :
  files.Sublist files'
  := by
  have : Std.Antisymm (ComesBefore here) := ⟨fun p q hpq hqp => absurd hqp hpq.asymm⟩
  apply List.sublist_of_subperm_of_pairwise _ hfiles hfiles'
  exact List.subperm_of_subset (nodup_of_pairwise hfiles) h

end

/-- What is listed although more directories are excluded is listed. -/
theorem IsListed.mono {tree : FileTree} {more : List String} (hmore : exclude ⊆ more)
    {directories : List String} {name : String}
    (h : IsListed accepts more here tree directories name) :
  IsListed accepts exclude here tree directories name
  where
  isFile := h.isFile
  entered directory hdirectory :=
    (h.entered directory hdirectory).imp_right fun hnot hmem => hnot (hmore hmem)
  notTool := h.notTool
  accepted := h.accepted

theorem filesBelow_sublist {tree : FileTree} (h : tree.HasDistinctNames) {more : List String}
    (hmore : exclude ⊆ more) :
  (filesBelow accepts more here tree).Sublist (filesBelow accepts exclude here tree)
  := by
  apply sublist_of_subset (pairwise_filesBelow h) (pairwise_filesBelow h)
  intro p hp
  obtain ⟨directories, name, hlisted, rfl⟩ := (mem_filesBelow h).mp hp
  exact (mem_filesBelow h).mpr ⟨directories, name, hlisted.mono hmore, rfl⟩

end FileTree

open FileTree

/-- A scan lists the files below a directory that are to be listed, each of them once and in order.
With more directories excluded, it lists some of these files, in the same order. -/
theorem Disk.scan_complete_ordered (disk : Disk) (accepts : Path → Bool) {root : Path}
    {tree : FileTree} (hroot : disk.find? root = .ok (some tree)) (hdirectory : tree.isDirectory)
    (hdistinct : tree.HasDistinctNames) (exclude : List String) :
  ∃ files, disk.scan accepts exclude root = .ok files
    ∧ (∀ p, p ∈ files ↔ ∃ directories name, IsListed accepts exclude root tree directories name
        ∧ p = root.join { names := directories ++ [name] })
    ∧ files.Nodup
    ∧ files.Pairwise (ComesBefore root)
    ∧ ∀ more, exclude ⊆ more →
        ∃ fewer, disk.scan accepts more root = .ok fewer ∧ fewer.Sublist files
  := by
  have hscan (exclude : List String) :
      disk.scan accepts exclude root = .ok (filesBelow accepts exclude root tree) := by
    rw [scan, hroot]
    exact if_pos hdirectory
  have hordered : (filesBelow accepts exclude root tree).Pairwise (ComesBefore root) :=
    pairwise_filesBelow hdistinct
  use filesBelow accepts exclude root tree, hscan exclude
  refine ⟨fun p => mem_filesBelow hdistinct, nodup_of_pairwise hordered, hordered, ?_⟩
  intro more hmore
  exact ⟨_, hscan more, filesBelow_sublist hdistinct hmore⟩

/-- A tree in which a file and a directory have the name `build`. -/
def nestedTree : FileTree :=
  .directory [
    ("src", .directory [("build", .directory [("b", .file [])]), ("a", .file [])]),
    ("a", .directory [("z", .file []), ("build", .file [])])]

theorem hasDistinctNames_nestedTree :
  nestedTree.HasDistinctNames
  := by
  have hfile (name : String) : ∀ entry ∈ [(name, FileTree.file [])], HasDistinctNames entry.2 :=
    List.forall_mem_singleton.mpr (.file [])
  apply HasDistinctNames.directory (by decide)
  rw [List.forall_mem_cons, List.forall_mem_singleton]
  constructor
  · apply HasDistinctNames.directory (by decide)
    rw [List.forall_mem_cons]
    exact ⟨.directory (by decide) (hfile "b"), hfile "a"⟩
  · apply HasDistinctNames.directory (by decide)
    rw [List.forall_mem_cons]
    exact ⟨.file [], hfile "build"⟩

/-- If `build` is excluded, then the file of this name is listed and what is below the directory of
this name is not. -/
theorem scan_nestedTree :
  let disk : Disk := { tree := nestedTree, here := { root := .absolute } }
  (disk.find? {} = .ok (some nestedTree) ∧ nestedTree.isDirectory ∧ nestedTree.HasDistinctNames)
    ∧ ∃ files, disk.scan (fun _ => true) ["build"] {} = .ok files
      ∧ { names := ["a", "build"] } ∈ files ∧ { names := ["src", "build", "b"] } ∉ files
      ∧ files.Nodup ∧ files.Pairwise (ComesBefore {})
  := by
  intro disk
  have hroot : disk.find? {} = .ok (some nestedTree) := rfl
  use ⟨hroot, rfl, hasDistinctNames_nestedTree⟩
  obtain ⟨files, hscan, hmem, hnodup, hordered, -⟩ := disk.scan_complete_ordered (fun _ => true)
    hroot rfl hasDistinctNames_nestedTree ["build"]
  use files, hscan
  refine ⟨?_, ?_, hnodup, hordered⟩
  · rw [hmem]
    exact ⟨["a"], "build", ⟨⟨[], rfl⟩, by decide, by decide, rfl⟩, rfl⟩
  · rw [hmem]
    rintro ⟨directories, name, hlisted, hpath⟩
    have hnames : ["src", "build"] ++ ["b"] = directories ++ [name] := congrArg Path.names hpath
    obtain ⟨rfl, -⟩ := List.append_inj' hnames rfl
    exact (hlisted.entered "build" (by decide)).2 (by decide)

end DocTable
