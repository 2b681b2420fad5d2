import DocTable.Path
import DocTable.Proofs.Text.Lines

/-!
# Paths as they are written

A path that is read has names that it keeps and that no slash would cut (`IsName`), so a relative
path is what is read from its text (`ofText_text`).
-/

namespace DocTable.Path

/-- The name is one that a path keeps, and no slash would cut it. -/
structure IsName (name : String) : Prop where
  keeps : keepsName name.toList
  unbroken : '/' ∉ name.toList

theorem isName_of_mem_ofText {s name : String} (h : name ∈ (ofText s).names) :
  IsName name
  := by
  obtain ⟨piece, hpiece, rfl⟩ := List.mem_map.mp h
  obtain ⟨hmem, hkeeps⟩ := List.mem_filter.mp hpiece
  constructor
  case keeps => rwa [String.toList_ofList]
  case unbroken =>
    rw [String.toList_ofList]
    exact Text.not_mem_of_mem_splitOnChar hmem

theorem IsName.exists_cons {name : String} (h : IsName name) :
  ∃ c cs, name.toList = c :: cs ∧ c ≠ '/'
  := by
  cases hname : name.toList with
  | nil =>
    have hkeeps := h.keeps
    rw [hname] at hkeeps
    contradiction
  | cons c cs =>
    refine ⟨c, cs, rfl, ?_⟩
    rintro rfl
    apply h.unbroken
    rw [hname]
    apply List.mem_cons_self

theorem isAbsolute_ofText_iff {s : String} :
  (ofText s).isAbsolute ↔ s.toList.head? = some '/'
  := by
  rw [isAbsolute, ofText, decide_eq_true_iff]
  cases s.toList with
  | nil => decide
  | cons c cs =>
    rw [List.takeWhile_cons, List.head?_cons, Option.some_inj]
    by_cases h : c = '/'
    · simp only [h, decide_true, if_true, List.length_cons, iff_true]
      unfold Root.ofSlashes
      split <;> simp_all
    · simp [h, Root.ofSlashes]

/-- A relative path is what is read from its text. -/
theorem ofText_text {names : List String} (h : ∀ name ∈ names, IsName name) :
  ofText (text { names }) = { names }
  := by
  cases names with
  | nil => decide
  | cons name names =>
    have htext : (text { names := name :: names }).toList
        = ['/'].intercalate ((name :: names).map String.toList) := by
      rw [text, if_neg (by simp), Root.text, String.empty_append, String.toList_intercalate]
      rfl
    have hpieces : Text.splitOnChar '/' (text { names := name :: names }).toList
        = (name :: names).map String.toList := by
      rw [htext]
      apply Text.splitOnChar_intercalate (by simp)
      rw [List.forall_mem_map]
      exact fun name hname => (h name hname).unbroken
    have hkept : ((name :: names).map String.toList).filter keepsName
        = (name :: names).map String.toList := by
      apply List.filter_eq_self.mpr
      rw [List.forall_mem_map]
      exact fun name hname => (h name hname).keeps
    have hroot : (ofText (text { names := name :: names })).root = .relative := by
      obtain ⟨c, cs, hname, hc⟩ := (h name List.mem_cons_self).exists_cons
      by_contra hroot
      have habsolute := isAbsolute_ofText_iff.mp (decide_eq_true hroot)
      rw [htext, List.map_cons, hname] at habsolute
      cases names with
      | nil => exact hc (by simpa using habsolute)
      | cons next names => exact hc (by simpa using habsolute)
    have hnames : (ofText (text { names := name :: names })).names = name :: names := by
      rw [ofText, hpieces, hkept, List.map_map]
      simp [Function.comp_def]
    exact congrArg₂ Path.mk hroot hnames

end DocTable.Path
