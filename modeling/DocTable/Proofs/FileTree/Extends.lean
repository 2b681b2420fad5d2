import DocTable.FileTree.Access
import DocTable.Proofs.FileTree.Put
import Mathlib.Data.List.Infix
import Mathlib.Data.Set.Insert

/-!
# Disks with more files

`disk.Extends touched next` says that the disk `next` has all directories and files of `disk`, and
that only the files at the places `touched` may hold other bytes, or be new.  What a path leads to
on `disk` it leads to on `next`.

Whatever is written to a file touches the place of that file, and a new directory touches nothing.
-/

namespace DocTable

namespace FileTree

variable {tree : FileTree}

/-- A way may be gone in two parts, the second from where the first leads to. -/
theorem locate_append (here above below : List String) :
  tree.locate here (above ++ below)
    = tree.locate here above >>= fun between => tree.locate between below
  := by
  induction above generalizing here with
  | nil =>
    rw [List.nil_append, locate]
    rfl
  | cons name above ih =>
    rw [List.cons_append, locate, locate]
    split
    · split_ifs
      · apply ih
      · rfl
      · apply ih
      · rfl
    · rfl

/-- Names lead to something that is there. -/
theorem isSome_get?_of_locate {here names place : List String} (hhere : (tree.get? here).isSome)
    (h : tree.locate here names = .ok place) :
  (tree.get? place).isSome
  := by
  induction names generalizing here with
  | nil =>
    rw [locate] at h
    obtain rfl := Except.ok.inj h
    exact hhere
  | cons name names ih =>
    rw [locate] at h
    split at h
    case h_1 entries hentries =>
      split_ifs at h with _ _ hname
      · apply ih _ h
        obtain hnil | hne := eq_or_ne here []
        · rw [hnil, List.dropLast_nil, get?_nil, Option.isSome_some]
        · rw [← List.dropLast_append_getLast hne] at hhere
          apply (isSome_get?_iff _ _).mpr
          left
          apply isDirectoryAt_of_append hhere (List.cons_ne_nil _ _)
      · apply ih _ h
        rw [get?_concat hentries]
        exact hname
    case h_2 => contradiction

/-- Names without steps back lead to themselves. -/
theorem eq_of_locate {here names place : List String} (h : tree.locate here names = .ok place)
    (hnames : ".." ∉ names) :
  place = here ++ names
  := by
  induction names generalizing here with
  | nil =>
    rw [locate] at h
    rw [Except.ok.inj h, List.append_nil]
  | cons name names ih =>
    rw [List.mem_cons, not_or] at hnames
    rw [locate] at h
    split at h
    case h_1 =>
      rw [if_neg (Ne.symm hnames.1)] at h
      split_ifs at h
      rw [ih h hnames.2, List.append_assoc, List.singleton_append]
    case h_2 => contradiction

end FileTree

/-- No step back is left when all of them are taken. -/
theorem Path.not_mem_walk {here names : List String} (h : ".." ∉ here) :
  ".." ∉ walk here names
  := by
  induction names generalizing here with
  | nil =>
    rw [walk]
    exact h
  | cons name names ih =>
    rw [walk]
    apply ih
    split_ifs with hname
    · exact fun hmem => h (List.mem_of_mem_dropLast hmem)
    · rw [List.mem_append, List.mem_singleton, not_or]
      exact ⟨h, Ne.symm hname⟩

namespace Disk

open FileTree

/-- The disk `next` has all that `disk` has, and other bytes only in the files at some places. -/
structure Extends (touched : Set (List String)) (disk next : Disk) : Prop where
  here : next.here = disk.here
  directories : ∀ place, disk.tree.IsDirectoryAt place → next.tree.IsDirectoryAt place
  files : ∀ place, (disk.tree.bytes? place).isSome → (next.tree.bytes? place).isSome
  bytes : ∀ place, place ∉ touched → next.tree.bytes? place = disk.tree.bytes? place

namespace Extends

variable {touched touched' : Set (List String)} {disk next last : Disk}

protected theorem refl (touched : Set (List String)) (disk : Disk) :
  disk.Extends touched disk
  where
  here := rfl
  directories _ h := h
  files _ h := h
  bytes _ _ := rfl

protected theorem trans (h : disk.Extends touched next) (h' : next.Extends touched last) :
  disk.Extends touched last
  where
  here := h'.here.trans h.here
  directories place hplace := h'.directories place (h.directories place hplace)
  files place hplace := h'.files place (h.files place hplace)
  bytes place hplace := (h'.bytes place hplace).trans (h.bytes place hplace)

/-- More places may be allowed to change. -/
theorem mono (h : disk.Extends touched next) (hsub : touched ⊆ touched') :
  disk.Extends touched' next
  where
  here := h.here
  directories := h.directories
  files := h.files
  bytes place hplace := h.bytes place fun hmem => hplace (hsub hmem)

/-- Whatever stood at a place, something stands there. -/
theorem isSome_get? (h : disk.Extends touched next) {place : List String}
    (hplace : (disk.tree.get? place).isSome) :
  (next.tree.get? place).isSome
  := by
  rw [isSome_get?_iff] at hplace ⊢
  obtain hdirectory | hfile := hplace
  · exact .inl (h.directories place hdirectory)
  · exact .inr (h.files place hfile)

/-- Names that lead somewhere lead there on the larger disk too. -/
theorem locate_tree (h : disk.Extends touched next) {here names place : List String}
    (hplace : disk.tree.locate here names = .ok place) :
  next.tree.locate here names = .ok place
  := by
  induction names generalizing here with
  | nil =>
    rw [FileTree.locate] at hplace ⊢
    exact hplace
  | cons name names ih =>
    rw [FileTree.locate] at hplace
    split at hplace
    case h_1 entries hentries =>
      obtain ⟨entries', hentries'⟩ := h.directories here ⟨entries, hentries⟩
      rw [FileTree.locate, hentries']
      dsimp only
      split_ifs at hplace with hup hlong hname
      · rw [if_pos hup]
        apply ih hplace
      · rw [if_neg hup, if_neg hlong]
        have hname' : (entries'.lookup name).isSome := by
          rw [← get?_concat hentries']
          apply h.isSome_get?
          rw [get?_concat hentries]
          exact hname
        rw [if_pos hname']
        apply ih hplace
    case h_2 => contradiction

end Extends

/-! ### The place of a path -/

variable {touched : Set (List String)} {disk next : Disk} {p : Path} {place : List String}

/-- Where names lead the last of which may be new: to the root, back along two dots, or to a name in
a directory. -/
inductive LeadsTo (disk : Disk) (names : List String) : List String → Prop where
  | root (hnames : names = []) : LeadsTo disk names []
  | back {place : List String} (hlast : names.getLast? = some "..")
      (h : disk.tree.locate [] names = .ok place) : LeadsTo disk names place
  | down {above : List String} {name : String} (hlast : names.getLast? = some name)
      (hname : name ≠ "..") (hlength : Text.Utf8.nameSize name ≤ longestName)
      (h : disk.tree.locate [] names.dropLast = .ok above)
      (habove : disk.tree.IsDirectoryAt above) : LeadsTo disk names (above ++ [name])

/-- A way down leads to a directory first, whose entry of the last name it ends at. -/
theorem LeadsTo.of_down {names : List String} {name : String} (hlast : names.getLast? = some name)
    (hname : name ≠ "..") (h : disk.LeadsTo names place) :
  ∃ above, disk.tree.locate [] names.dropLast = .ok above ∧ disk.tree.IsDirectoryAt above
    ∧ Text.Utf8.nameSize name ≤ longestName ∧ place = above ++ [name]
  := by
  cases h with
  | root hnames =>
    rw [hnames] at hlast
    contradiction
  | back hback _ =>
    rw [hlast, Option.some.injEq] at hback
    exact absurd hback hname
  | down hdown _ hlength hplace habove =>
    rw [hlast, Option.some.injEq] at hdown
    subst hdown
    exact ⟨_, hplace, habove, hlength, rfl⟩

/-- A way that ends with a step back leads to a directory that is there. -/
theorem LeadsTo.of_back {names : List String} (hlast : names.getLast? = some "..")
    (h : disk.LeadsTo names place) :
  disk.tree.locate [] names = .ok place
  := by
  cases h with
  | root hnames =>
    rw [hnames] at hlast
    contradiction
  | back _ hplace => exact hplace
  | down hdown hname _ _ _ =>
    rw [hlast, Option.some.injEq] at hdown
    exact absurd hdown.symm hname

/-- The place of a path is where its names lead, if the path is not too long. -/
theorem locateNew_eq_ok_iff :
  disk.locateNew p = .ok place ↔ checkLength p = .ok () ∧ disk.LeadsTo (disk.names p) place
  := by
  rw [locateNew]
  cases checkLength p with
  | error fault =>
    constructor
    · intro h
      contradiction
    · rintro ⟨⟨⟩, -⟩
  | ok _ =>
    simp only [bind, Except.bind, true_and]
    generalize disk.names p = names
    split
    case h_1 hlast =>
      obtain rfl := List.getLast?_eq_none_iff.mp hlast
      constructor
      · rintro ⟨⟩
        exact .root rfl
      · rintro (_ | _ | _)
        · rfl
        · contradiction
        · contradiction
    case h_2 hlast => exact ⟨.back hlast, LeadsTo.of_back hlast⟩
    case h_3 name hname hlast =>
      constructor
      · intro h
        split at h
        case h_1 => contradiction
        case h_2 above habove =>
          split at h
          case h_1 entries hentries =>
            split_ifs at h with hlength
            obtain rfl := Except.ok.inj h
            exact .down hlast hname (not_lt.mp hlength) habove ⟨entries, hentries⟩
          case h_2 => contradiction
      · intro h
        obtain ⟨above, habove, ⟨entries, hentries⟩, hlength, rfl⟩ := h.of_down hlast hname
        rw [habove]
        dsimp only
        rw [hentries]
        dsimp only
        rw [if_neg (not_lt.mpr hlength)]

/-- Where a file can be made, all directories above it are there. -/
theorem hasWayTo_of_locateNew (h : disk.locateNew p = .ok place) :
  disk.tree.HasWayTo place
  := by
  obtain ⟨-, hleads⟩ := locateNew_eq_ok_iff.mp h
  cases hleads with
  | root hnames =>
    apply hasWayTo_of_isSome
    rw [get?_nil, Option.isSome_some]
  | back hlast h =>
    apply hasWayTo_of_isSome
    apply isSome_get?_of_locate _ h
    rw [get?_nil, Option.isSome_some]
  | down hlast hname hlength h habove => exact hasWayTo_concat habove

namespace Extends

/-- Paths have the same names, since the working directory stays. -/
theorem names_eq (h : disk.Extends touched next) (p : Path) :
  next.names p = disk.names p
  := by
  rw [names, names, h.here]

/-- A way leads to the same place as before. -/
theorem leadsTo (h : disk.Extends touched next) {names : List String}
    (hplace : disk.LeadsTo names place) :
  next.LeadsTo names place
  := by
  cases hplace with
  | root hnames => exact .root hnames
  | back hlast hlocate => exact .back hlast (h.locate_tree hlocate)
  | down hlast hname hlength hlocate habove =>
    exact .down hlast hname hlength (h.locate_tree hlocate) (h.directories _ habove)

/-- A path leads to the same place on the larger disk. -/
theorem locateNew (h : disk.Extends touched next) (hplace : disk.locateNew p = .ok place) :
  next.locateNew p = .ok place
  := by
  obtain ⟨hlength, hleads⟩ := locateNew_eq_ok_iff.mp hplace
  rw [locateNew_eq_ok_iff, h.names_eq]
  exact ⟨hlength, h.leadsTo hleads⟩

/-- A path that leads somewhere leads there still. -/
theorem locate (h : disk.Extends touched next) (hplace : disk.locate p = .ok place) :
  next.locate p = .ok place
  := by
  rw [Disk.locate] at hplace ⊢
  cases hlength : checkLength p with
  | error fault =>
    rw [hlength] at hplace
    contradiction
  | ok _ =>
    rw [hlength] at hplace
    rw [h.names_eq]
    apply h.locate_tree hplace

end Extends

/-- Where something stands, a path to it leads to it. -/
theorem locate_of_locateNew (h : disk.locateNew p = .ok place)
    (hplace : (disk.tree.get? place).isSome) :
  disk.locate p = .ok place
  := by
  obtain ⟨hlength, hleads⟩ := locateNew_eq_ok_iff.mp h
  rw [locate, hlength]
  change disk.tree.locate [] (disk.names p) = _
  cases hleads with
  | root hnames =>
    rw [hnames, FileTree.locate]
  | back hlast hlocate => exact hlocate
  | down hlast hname hlong hlocate habove =>
    obtain ⟨entries, habove⟩ := habove
    rw [← List.dropLast_append_getLast? _ hlast, locate_append, hlocate]
    change disk.tree.locate _ [_] = _
    rw [get?_concat habove] at hplace
    rw [FileTree.locate, habove]
    dsimp only
    rw [if_neg hname, if_neg (not_lt.mpr hlong), if_pos hplace, FileTree.locate]

/-- A path that leads to a file reads its bytes. -/
theorem read_eq_ok (h : disk.locate p = .ok place) {bytes : List UInt8}
    (hbytes : disk.tree.bytes? place = some bytes) :
  disk.read p = .ok bytes
  := by
  obtain ⟨found, hfound, hcontents⟩ := Option.bind_eq_some_iff.mp hbytes
  rw [read, h]
  dsimp only
  rw [hfound]
  cases found with
  | directory entries => contradiction
  | file contents =>
    rw [contents?, Option.some.injEq] at hcontents
    rw [hcontents]

/-! ### Paths without steps back -/

/-- A normalized path has its own names, wherever the working directory is. -/
theorem names_normalized (disk : Disk) (p : Path) :
  disk.names p.normalized = p.normalized.names
  := rfl

/-- A normalized path leads to its names. -/
theorem eq_of_locateNew_normalized (h : disk.locateNew p.normalized = .ok place) :
  place = p.normalized.names
  := by
  obtain ⟨-, hleads⟩ := locateNew_eq_ok_iff.mp h
  rw [names_normalized] at hleads
  have hback : ".." ∉ p.normalized.names := Path.not_mem_walk List.not_mem_nil
  cases hleads with
  | root hnames => exact hnames.symm
  | back hlast hlocate => exact absurd (List.mem_of_getLast? hlast) hback
  | down hlast hname hlong hlocate habove =>
    have habove := eq_of_locate hlocate fun hmem => hback (List.mem_of_mem_dropLast hmem)
    rw [habove, List.nil_append, List.dropLast_append_getLast? _ hlast]

/-! ### Writing files -/

/-- The disk with a leaf at a place where no directory is. -/
theorem extends_put {node : FileTree} (hnode : node.IsLeaf) (hway : disk.tree.HasWayTo place)
    (hplace : ¬ disk.tree.IsDirectoryAt place)
    (hkept : (disk.tree.bytes? place).isSome → node.contents?.isSome) :
  disk.Extends {place} { disk with tree := disk.tree.put place node }
  where
  here := rfl
  directories _ hq := isDirectoryAt_put hplace hq
  files q hq := by
    rw [bytes?_put hnode hway hplace]
    split_ifs with h
    · exact hkept (h ▸ hq)
    · exact hq
  bytes q hq := by
    rw [bytes?_put hnode hway hplace]
    exact if_neg hq

/-- A file can be changed wherever a path leads to no directory. -/
theorem modifyFile_of_not_isDirectoryAt (f : List UInt8 → List UInt8)
    (h : disk.locateNew p = .ok place) (hplace : ¬ disk.tree.IsDirectoryAt place) :
  disk.modifyFile p f = .ok { disk with
    tree := disk.tree.put place (.file (f ((disk.tree.bytes? place).getD []))) }
  := by
  rw [modifyFile, h, FileTree.bytes?]
  dsimp only
  cases hfound : disk.tree.get? place with
  | none => rfl
  | some found =>
    cases found with
    | file contents => rfl
    | directory entries => exact absurd ⟨entries, hfound⟩ hplace

/-- A changed file has the bytes that its old ones give, and it is the only file that changes. -/
theorem modifyFile_eq_ok {f : List UInt8 → List UInt8} (h : disk.modifyFile p f = .ok next) :
  ∃ place, disk.locateNew p = .ok place ∧ disk.Extends {place} next
    ∧ next.tree.bytes? place = some (f ((disk.tree.bytes? place).getD []))
  := by
  cases hplace : disk.locateNew p with
  | error fault =>
    rw [modifyFile, hplace] at h
    contradiction
  | ok place =>
    have hfree : ¬ disk.tree.IsDirectoryAt place := by
      rintro ⟨entries, hentries⟩
      rw [modifyFile, hplace] at h
      dsimp only at h
      rw [hentries] at h
      contradiction
    rw [modifyFile_of_not_isDirectoryAt f hplace hfree] at h
    obtain rfl := Except.ok.inj h
    have hway := hasWayTo_of_locateNew hplace
    use place, rfl, extends_put (isLeaf_file _) hway hfree fun _ => rfl
    rw [bytes?_put (isLeaf_file _) hway hfree, if_pos rfl, contents?]

/-- Whether a file can be changed does not depend on the change. -/
theorem exists_modifyFile_iff (f g : List UInt8 → List UInt8) :
  (∃ next, disk.modifyFile p f = .ok next) ↔ ∃ next, disk.modifyFile p g = .ok next
  := by
  rw [modifyFile, modifyFile]
  cases disk.locateNew p with
  | error fault => exact ⟨nofun, nofun⟩
  | ok place =>
    dsimp only
    cases disk.tree.get? place with
    | none => exact ⟨fun _ => ⟨_, rfl⟩, fun _ => ⟨_, rfl⟩⟩
    | some found =>
      cases found with
      | file contents => exact ⟨fun _ => ⟨_, rfl⟩, fun _ => ⟨_, rfl⟩⟩
      | directory entries => exact ⟨nofun, nofun⟩

/-! ### Making directories -/

/-- A new directory changes no file. -/
theorem extends_of_makeDirectory (h : disk.makeDirectory p = .ok next) :
  disk.Extends ∅ next
  := by
  rw [makeDirectory] at h
  split at h
  case h_1 => contradiction
  case h_2 place hplace =>
    split_ifs at h with hnew
    obtain rfl := Except.ok.inj h
    have hway := hasWayTo_of_locateNew hplace
    have hnew : ¬ disk.tree.IsDirectoryAt place ∧ ¬ (disk.tree.bytes? place).isSome := by
      rw [isSome_get?_iff, not_or] at hnew
      exact hnew
    have hput := extends_put isLeaf_directory_nil hway hnew.1 (absurd · hnew.2)
    refine ⟨hput.here, hput.directories, hput.files, ?_⟩
    intro q _
    rw [bytes?_put isLeaf_directory_nil hway hnew.1]
    split_ifs with hq
    · rw [hq, Option.not_isSome_iff_eq_none.mp hnew.2, contents?]
    · rfl

/-- A refusal that is passed over changes nothing. -/
theorem eq_of_unlessDirectory {e : FileError} (h : disk.unlessDirectory e = .ok next) :
  next = disk
  := by
  rw [unlessDirectory] at h
  cases hdirectory : disk.hasDirectory e.path with
  | error e' =>
    rw [hdirectory] at h
    contradiction
  | ok isDirectory =>
    rw [hdirectory] at h
    cases isDirectory with
    | false => contradiction
    | true => exact (Except.ok.inj h).symm

/-- Directories that are made on the way change no file.  The induction is on the names, from the
last to the first, as the directories above are made first. -/
theorem extends_of_makeDirectoriesUp {root : Path.Root} {names : List String}
    (h : makeDirectoriesUp root names disk = .ok next) :
  disk.Extends ∅ next
  := by
  induction names generalizing disk next with
  | nil =>
    rw [makeDirectoriesUp] at h
    obtain rfl := Except.ok.inj h
    exact .refl ∅ disk
  | cons name above ih =>
    rw [makeDirectoriesUp] at h
    split at h
    case h_1 made hmade =>
      obtain rfl := Except.ok.inj h
      exact extends_of_makeDirectory hmade
    case h_2 =>
      cases hdeeper : makeDirectoriesUp root above disk with
      | error e =>
        rw [hdeeper] at h
        contradiction
      | ok deeper =>
        rw [hdeeper] at h
        dsimp only [bind, Except.bind] at h
        apply (ih hdeeper).trans
        split at h
        case h_1 made hmade =>
          obtain rfl := Except.ok.inj h
          exact extends_of_makeDirectory hmade
        case h_2 => contradiction
        case h_3 =>
          rw [eq_of_unlessDirectory h]
          exact .refl ∅ deeper
    case h_3 =>
      rw [eq_of_unlessDirectory h]
      exact .refl ∅ disk

/-- New directories change no files.  The induction is on the names, from the last one up. -/
theorem extends_of_makeDirectories (h : disk.makeDirectories p = .ok next) :
  disk.Extends ∅ next
  := extends_of_makeDirectoriesUp h

end Disk

end DocTable
