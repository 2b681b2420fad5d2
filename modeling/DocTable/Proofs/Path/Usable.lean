import DocTable.Path
import DocTable.Proofs.Text.Lines
import DocTable.Proofs.Text.Surrogate

/-!
# Usable paths

A path is usable if the file system can be asked for it: no name of it has a null character, and all
surrogates in its names stand for bytes.  Exactly the usable paths are resolved
(`exists_resolve_iff`), and a path that is read is usable if its text is (`isUsable_ofText_iff`).
-/

namespace DocTable.Path

variable {p q : Path}

/-- All names of the path can stand in the name of a file. -/
def IsUsable (p : Path) : Prop :=
  ∀ name ∈ p.names, Text.IsUsable name.toList

instance (p : Path) : Decidable p.IsUsable :=
  inferInstanceAs (Decidable (∀ name ∈ p.names, Text.IsUsable name.toList))

/-! ### Faults -/

/-- The text of a path is usable if its names are: the slashes around them are no surrogates. -/
theorem isUsable_text_iff :
  Text.IsUsable p.text.toList ↔ p.IsUsable
  := by
  have hnames : Text.IsUsable ("/".intercalate p.names).toList ↔ p.IsUsable := by
    rw [String.toList_intercalate]
    exact Text.isUsable_intercalate_iff.trans List.forall_mem_map
  have hslash {cs : List Char} : Text.IsUsable ('/' :: cs) ↔ Text.IsUsable cs :=
    (Text.isUsable_append_cons_iff (by decide) (by decide) [] cs).trans
      (and_iff_right Text.isUsable_nil)
  rw [text]
  split
  case isTrue h =>
    have hdot : Text.IsUsable ".".toList := by
      intro n hn
      obtain rfl := List.mem_singleton.mp hn
      decide
    rw [IsUsable, h.2]
    exact iff_of_true hdot nofun
  case isFalse =>
    rw [String.toList_append]
    cases p.root with
    | relative => exact hnames
    | absolute => exact hslash.trans hnames
    | doubled => exact hslash.trans (hslash.trans hnames)

/-- A path has no fault as it is written if it is usable. -/
theorem fault?_eq_none_iff :
  p.fault? = none ↔ p.IsUsable
  := by
  have hnull : p.text.toList.contains '\x00' ↔ 0 ∈ Text.codePoints p.text.toList := by
    rw [List.contains_iff_mem, Text.zero_mem_codePoints_iff]
  rw [← isUsable_text_iff, Text.IsUsable, fault?]
  cases hfault : Text.Utf8.unescapable? p.text.toList with
  | some cause =>
    have hnone : ¬∀ n ∈ Text.codePoints p.text.toList, Text.isSurrogate n → Text.Utf8.isByte n := by
      rw [← Text.unencodableFrom_eq_none_iff 0]
      rw [Text.Utf8.unescapable?] at hfault
      simp [hfault]
    exact iff_of_false (Option.some_ne_none _) fun h => hnone fun n hn => (h n hn).2
  | none =>
    have hall := (Text.unencodableFrom_eq_none_iff 0).mp hfault
    dsimp only
    constructor
    · intro h n hn
      refine ⟨?_, hall n hn⟩
      rintro rfl
      rw [if_pos (hnull.mpr hn)] at h
      contradiction
    · intro h
      rw [if_neg]
      intro hmem
      exact (h 0 (hnull.mp hmem)).1 rfl

/-! ### Resolving -/

/-- On the way along some names, no fault is found if all of them are usable. -/
theorem wayFault?_eq_none_iff {root : Root} {before names : List String}
    (hbefore : ∀ name ∈ before, Text.IsUsable name.toList) :
  wayFault? root before names = none ↔ ∀ name ∈ names, Text.IsUsable name.toList
  := by
  have hback : Text.IsUsable "..".toList := by
    have hcodes : Text.codePoints "..".toList = List.replicate 2 '.'.toNat := by decide
    intro n hn
    rw [hcodes] at hn
    rw [List.eq_of_mem_replicate hn]
    decide
  induction names generalizing before with
  | nil => exact iff_of_true rfl nofun
  | cons name names ih =>
    rw [wayFault?, List.forall_mem_cons]
    split
    case isTrue hname =>
      subst hname
      rw [and_iff_right hback]
      apply ih
      intro name hname
      rw [back] at hname
      split at hname
      · obtain hname | hname := List.mem_append.mp hname
        · exact hbefore name hname
        · rwa [List.mem_singleton.mp hname]
      · exact hbefore name (List.dropLast_subset _ hname)
    case isFalse =>
      have hfault : fault? { root, names := before ++ [name] } = none
          ↔ Text.IsUsable name.toList := by
        rw [fault?_eq_none_iff, IsUsable, List.forall_mem_append, List.forall_mem_singleton]
        exact and_iff_right hbefore
      cases hfound : fault? { root, names := before ++ [name] } with
      | some fault =>
        rw [hfound] at hfault
        exact iff_of_false nofun fun h => nomatch hfault.mpr h.1
      | none =>
        have husable := hfault.mp hfound
        rw [and_iff_right husable]
        apply ih
        rw [List.forall_mem_append, List.forall_mem_singleton]
        exact ⟨hbefore, husable⟩

/-- No fault is found on the way along usable names, and along no others. -/
theorem wayFault?_nil_eq_none_iff {root : Root} :
  wayFault? root [] p.names = none ↔ p.IsUsable
  := wayFault?_eq_none_iff nofun

/-- A usable path is resolved to the one that it leads to by its names. -/
theorem resolve_of_isUsable (h : p.IsUsable) (here : Path) :
  p.resolve here = .ok (here.join p).normalized
  := by
  rw [resolve, wayFault?_nil_eq_none_iff.mpr h]

/-- Exactly the usable paths are resolved. -/
theorem exists_resolve_iff {here : Path} :
  (∃ place, p.resolve here = .ok place) ↔ p.IsUsable
  := by
  constructor
  · rintro ⟨place, h⟩
    apply wayFault?_nil_eq_none_iff.mp
    rw [resolve] at h
    split at h
    · contradiction
    case h_2 hnone => exact hnone
  · exact fun h => ⟨_, resolve_of_isUsable h here⟩

/-! ### Paths that are read or put together -/

/-- A path that is read is usable if its text is. -/
theorem isUsable_ofText_iff {s : String} :
  (ofText s).IsUsable ↔ Text.IsUsable s.toList
  := by
  rw [← Text.intercalate_splitOnChar '/' s.toList, Text.isUsable_intercalate_iff, IsUsable, ofText,
    List.forall_mem_map]
  simp only [String.toList_ofList]
  constructor
  · intro h piece hpiece
    by_cases hkeeps : keepsName piece
    · exact h piece (List.mem_filter.mpr ⟨hpiece, hkeeps⟩)
    · -- an empty name or a single dot
      rw [keepsName, Bool.and_eq_true, decide_eq_true_iff, decide_eq_true_iff, not_and_or,
        not_not, not_not] at hkeeps
      obtain rfl | rfl := hkeeps
      · exact Text.isUsable_nil
      · exact (isUsable_text_iff (p := {})).mpr nofun
  · exact fun h piece hpiece => h piece (List.mem_of_mem_filter hpiece)

/-- A usable path below a usable one is usable. -/
theorem IsUsable.join (hp : p.IsUsable) (hq : q.IsUsable) :
  (p.join q).IsUsable
  := by
  unfold Path.join
  split
  · exact hq
  · exact List.forall_mem_append.mpr ⟨hp, hq⟩

/-- What stands above a usable path is usable. -/
theorem IsUsable.parent (hp : p.IsUsable) :
  p.parent.IsUsable
  := fun name hname => hp name (List.dropLast_subset _ hname)

end DocTable.Path
