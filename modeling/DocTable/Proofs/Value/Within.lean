import DocTable.Value.Basic
import Mathlib.Data.List.Basic

/-!
# Values within values

A value occurs within another as a part of a part, the keys of maps included.  Where a value that
holds itself is unfolded, nothing occurs that did not occur before, save for the marks of the place
where it holds itself.  The entries of a map are looked up by name, also where one of them is put
anew (`lookup?_putEntry`) or left out (`lookup?_without`).
-/

namespace DocTable.Value

/-- Induction on values: a property that lists, pairs, sets, maps and loops take over from their
parts. -/
@[elab_as_elim, induction_eliminator]
theorem induction {motive : Value → Prop} (null : motive .null) (bool : ∀ b, motive (.bool b))
    (int : ∀ n, motive (.int n)) (float : ∀ x, motive (.float x)) (text : ∀ s, motive (.text s))
    (date : ∀ d, motive (.date d)) (dateTime : ∀ t, motive (.dateTime t))
    (bytes : ∀ contents, motive (.bytes contents))
    (list : ∀ items, (∀ v ∈ items, motive v) → motive (.list items))
    (pair : ∀ first second, motive first → motive second → motive (.pair first second))
    (set : ∀ items, (∀ v ∈ items, motive v) → motive (.set items))
    (map : ∀ entries, (∀ e ∈ entries, motive e.1 ∧ motive e.2) → motive (.map entries))
    (loop : ∀ number body, motive body → motive (.loop number body))
    (again : ∀ number, motive (.again number)) (v : Value) :
  motive v
  := by
  exact @Value.rec motive (fun items => ∀ v ∈ items, motive v)
    (fun entries => ∀ e ∈ entries, motive e.1 ∧ motive e.2) (fun e => motive e.1 ∧ motive e.2)
    null bool int float text date dateTime bytes list pair set map loop again
    (fun _ hv => nomatch hv) (fun _ _ hv hvs => List.forall_mem_cons.mpr ⟨hv, hvs⟩)
    (fun _ he => nomatch he) (fun _ _ he hes => List.forall_mem_cons.mpr ⟨he, hes⟩)
    (fun _ _ hk hv => ⟨hk, hv⟩) v

/-- The value `w` occurs in the other. -/
inductive Within (w : Value) : Value → Prop where
  | here : Within w w
  | item {items : List Value} {v : Value} (hv : v ∈ items) (h : Within w v) :
    Within w (.list items)
  | first {v : Value} (second : Value) (h : Within w v) : Within w (.pair v second)
  | second (first : Value) {v : Value} (h : Within w v) : Within w (.pair first v)
  | element {items : List Value} {v : Value} (hv : v ∈ items) (h : Within w v) :
    Within w (.set items)
  | key {entries : List (Value × Value)} {e : Value × Value} (he : e ∈ entries)
    (h : Within w e.1) : Within w (.map entries)
  | value {entries : List (Value × Value)} {e : Value × Value} (he : e ∈ entries)
    (h : Within w e.2) : Within w (.map entries)
  | body (number : Nat) {v : Value} (h : Within w v) : Within w (.loop number v)

/-! ### Values that hold themselves -/

theorem replaceItems_eq_map (number : Nat) (v : Value) (items : List Value) :
  replaceItems number v items = items.map (replace number v)
  := by
  induction items with
  | nil => rfl
  | cons item items ih => rw [replaceItems, ih, List.map_cons]

theorem replaceEntries_eq_map (number : Nat) (v : Value) (entries : List (Value × Value)) :
  replaceEntries number v entries = entries.map fun e => (e.1, replace number v e.2)
  := by
  induction entries with
  | nil => rfl
  | cons e entries ih => rw [replaceEntries, ih, List.map_cons]

/-- An integer in a value with a part replaced is one of the value or one of the new part. -/
theorem Within.of_replace {n : Int} {number : Nat} {v w : Value}
    (h : (int n).Within (replace number v w)) :
  (int n).Within w ∨ (int n).Within v
  := by
  induction w with
  | list items ih =>
    rw [replace, replaceItems_eq_map] at h
    cases h with
    | item hmem h =>
      obtain ⟨item, hitem, rfl⟩ := List.mem_map.mp hmem
      exact (ih item hitem h).imp_left (.item hitem)
  | pair first second ihfirst ihsecond =>
    rw [replace] at h
    cases h with
    | first _ h => exact (ihfirst h).imp_left (.first second)
    | second _ h => exact (ihsecond h).imp_left (.second first)
  | map entries ih =>
    rw [replace, replaceEntries_eq_map] at h
    cases h with
    | key hmem h =>
      obtain ⟨e, he, rfl⟩ := List.mem_map.mp hmem
      exact .inl (.key he h)
    | value hmem h =>
      obtain ⟨e, he, rfl⟩ := List.mem_map.mp hmem
      exact ((ih e he).2 h).imp_left (.value he)
  | loop other body ih =>
    rw [replace] at h
    split at h
    · exact .inl h
    · cases h with
      | body _ h => exact (ih h).imp_left (.body other)
  | again other =>
    rw [replace] at h
    split at h
    · exact .inr h
    · exact .inl h
  | _ => exact .inl h

/-- Unfolding brings no new integer. -/
theorem Within.of_unfold {n : Int} {v : Value} (h : (int n).Within v.unfold) :
  (int n).Within v
  := by
  cases v with
  | loop number body => exact (of_replace h).elim (.body number) id
  | _ => exact h

/-! ### Entries -/

theorem mem_of_lookup? {name : String} {entries : List (Value × Value)} {v : Value}
    (h : lookup? name entries = some v) :
  (.text name, v) ∈ entries
  := by
  fun_induction lookup? name entries with
  | case1 => contradiction
  | case2 => rw [Option.some.inj h]; apply List.mem_cons_self
  | case3 _ _ _ _ ih => exact List.mem_cons_of_mem _ (ih h)
  | case4 _ _ _ ih => exact List.mem_cons_of_mem _ (ih h)

/-- A name is looked up among the later entries if the earlier ones have no value for it. -/
theorem lookup?_append (name : String) (before after : List (Value × Value)) :
  lookup? name (before ++ after) = (lookup? name before).or (lookup? name after)
  := by
  fun_induction lookup? name before with
  | case1 => rw [List.nil_append, Option.none_or]
  | case2 => rw [List.cons_append, lookup?, if_pos rfl, Option.some_or]
  | case3 _ _ _ h ih => rw [List.cons_append, lookup?, if_neg h, ih]
  | case4 _ _ h ih => rw [List.cons_append, lookup?, ih]; exact h

theorem lookup?_cons_self (name : String) (v : Value) (entries : List (Value × Value)) :
  lookup? name ((.text name, v) :: entries) = some v
  := by
  rw [lookup?, if_pos rfl]

theorem lookup?_cons_of_ne {name other : String} (hne : other ≠ name) (v : Value)
    (entries : List (Value × Value)) :
  lookup? name ((.text other, v) :: entries) = lookup? name entries
  := by
  rw [lookup?, if_neg hne]

/-- No text but the name itself is one key with it. -/
theorem isSameKey_text_iff {k : Value} {name : String} :
  k.isSameKey (.text name) ↔ k = .text name
  := by
  cases k <;> simp [isSameKey, number?]

theorem lookup?_cons (field : String) (e : Value × Value) (entries : List (Value × Value)) :
  lookup? field (e :: entries)
    = if e.1.isSameKey (.text field) then some e.2 else lookup? field entries
  := by
  obtain ⟨key, v⟩ := e
  by_cases h : key.isSameKey (.text field)
  · rw [if_pos h, isSameKey_text_iff.mp h, lookup?_cons_self]
  · rw [if_neg h]
    rw [isSameKey_text_iff] at h
    cases key with
    | text other => exact lookup?_cons_of_ne (fun heq => h (congrArg _ heq)) v entries
    | _ => rfl

theorem lookup?_cons_text (field name : String) (v : Value) (entries : List (Value × Value)) :
  lookup? field ((.text name, v) :: entries)
    = if field = name then some v else lookup? field entries
  := by
  split
  case isTrue h => rw [h, lookup?_cons_self]
  case isFalse h => rw [lookup?_cons_of_ne (Ne.symm h)]

/-- A value that is put is found under its name, and under the other names what was there. -/
theorem lookup?_putEntry (field name : String) (v : Value) (entries : List (Value × Value)) :
  lookup? field (putEntry (.text name) v entries)
    = if field = name then some v else lookup? field entries
  := by
  induction entries with
  | nil => rw [putEntry, lookup?_cons_text]
  | cons e entries ih =>
    obtain ⟨key, w⟩ := e
    rw [putEntry]
    by_cases hkey : key.isSameKey (.text name)
    · rw [if_pos hkey, isSameKey_text_iff.mp hkey, lookup?_cons_text, lookup?_cons_text]
      split <;> rfl
    · rw [if_neg hkey, lookup?_cons, ih, lookup?_cons]
      by_cases hfield : field = name
      · simp only [hfield, hkey, if_true, if_false, Bool.false_eq_true]
      · rw [if_neg hfield, if_neg hfield]

/-- The entries without those of the name. -/
def without (name : String) (entries : List (Value × Value)) : List (Value × Value) :=
  entries.filter fun e => !e.1.isSameKey (.text name)

theorem lookup?_without (field name : String) (entries : List (Value × Value)) :
  lookup? field (without name entries) = if field = name then none else lookup? field entries
  := by
  induction entries with
  | nil => rw [without, List.filter_nil, lookup?, ite_self]
  | cons e entries ih =>
    obtain ⟨key, w⟩ := e
    rw [without] at ih ⊢
    by_cases hkey : key.isSameKey (.text name)
    · rw [List.filter_cons_of_neg (by simpa using hkey), ih, isSameKey_text_iff.mp hkey,
        lookup?_cons_text]
      split <;> rfl
    · rw [List.filter_cons_of_pos (by simpa using hkey), lookup?_cons, ih, lookup?_cons]
      by_cases hfield : field = name
      · simp only [hfield, hkey, if_true, if_false, Bool.false_eq_true]
      · rw [if_neg hfield, if_neg hfield]

end DocTable.Value
