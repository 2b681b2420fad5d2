import DocTable.OrderedMap
import Mathlib.Data.List.Basic
import Mathlib.Data.List.Induction
import Mathlib.Tactic.Common

/-!
# Laws of ordered maps

What `alter` and `put` do to the keys and to the value of a key.  A map is determined by its keys,
in order, and by the value of each.
-/

namespace DocTable

universe u v

/-- Without repetitions, an element that is added at the end counts only if it is new. -/
theorem eraseDups_concat {κ : Type u} [BEq κ] [LawfulBEq κ] (xs : List κ) (x : κ) :
  (xs ++ [x]).eraseDups = if x ∈ xs then xs.eraseDups else xs.eraseDups ++ [x]
  := by
  rw [List.eraseDups_append]
  by_cases h : x ∈ xs
  · rw [if_pos h]
    simp [List.removeAll, h]
  · rw [if_neg h]
    simp [List.removeAll, h, List.eraseDups_cons]

/-- Without its duplicates a list has none. -/
theorem nodup_eraseDups {κ : Type u} [BEq κ] [LawfulBEq κ] (xs : List κ) :
  xs.eraseDups.Nodup
  := by
  induction xs using List.reverseRecOn with
  | nil => exact List.nodup_nil
  | append_singleton xs x ih =>
    rw [eraseDups_concat]
    split
    case isTrue => exact ih
    case isFalse hnew =>
      rw [(List.perm_append_singleton x _).nodup_iff, List.nodup_cons, List.mem_eraseDups]
      exact ⟨hnew, ih⟩

/-- A list without duplicates stays as it is. -/
theorem eraseDups_of_nodup {κ : Type u} [BEq κ] [LawfulBEq κ] {xs : List κ} (h : xs.Nodup) :
  xs.eraseDups = xs
  := by
  induction xs using List.reverseRecOn with
  | nil => rfl
  | append_singleton xs x ih =>
    rw [(List.perm_append_singleton x xs).nodup_iff, List.nodup_cons] at h
    rw [eraseDups_concat, if_neg h.1, ih h.2]

namespace OrderedMap

variable {κ : Type u} {α : Type v}

/-! ### Keeping some of the values -/

/-- The map with only those keys whose values pass a test. -/
def filter (keep : α → Bool) (m : OrderedMap κ α) : OrderedMap κ α where
  entries := m.entries.filter (keep ·.2)
  nodup := m.nodup.sublist (List.filter_sublist.map Prod.fst)

/-- The values of a map that is filtered are its values, filtered. -/
theorem values_filter (keep : α → Bool) (m : OrderedMap κ α) :
  (m.filter keep).values = m.values.filter keep
  := by
  rw [values, filter, values, List.filter_map]
  rfl

/-- The entries of a map that is filtered are those with values that are kept. -/
theorem entries_filter (keep : α → Bool) (m : OrderedMap κ α) :
  (m.filter keep).entries = m.entries.filter (keep ·.2)
  := rfl

variable [DecidableEq κ]

/-- The empty map has no keys. -/
@[simp]
theorem get?_empty (k : κ) :
  (empty : OrderedMap κ α).get? k = none
  := rfl

/-- Nothing is found under exactly those keys that the map has not. -/
theorem get?_eq_none_iff {m : OrderedMap κ α} {k : κ} :
  m.get? k = none ↔ k ∉ m.keys
  := by
  rw [get?, List.lookup_eq_none_iff]
  constructor
  · intro h hk
    obtain ⟨e, he, rfl⟩ := List.mem_map.mp hk
    simpa using h e he
  · intro h e he
    rw [bne_iff_ne]
    rintro rfl
    apply h
    apply List.mem_map_of_mem he

/-- What is found under a key is what its entry holds, since keys occur once. -/
theorem get?_eq_some_iff {m : OrderedMap κ α} {k : κ} {a : α} :
  m.get? k = some a ↔ (k, a) ∈ m.entries
  := by
  rw [get?, List.lookup_eq_some_iff]
  constructor
  · rintro ⟨before, after, h, -⟩
    rw [h]
    apply List.mem_append_right _ List.mem_cons_self
  · intro h
    obtain ⟨before, after, hm⟩ := List.append_of_mem h
    have hnodup := m.nodup
    rw [hm, List.map_append, List.map_cons, List.nodup_append] at hnodup
    use before, after, hm
    intro e he
    rw [bne_iff_ne]
    symm
    apply hnodup.2.2 _ (List.mem_map_of_mem he) _ List.mem_cons_self

/-- A map is determined by its keys, in order, and by the value of each. -/
theorem ext_get? {m n : OrderedMap κ α} (hkeys : m.keys = n.keys)
    (hget : ∀ k, m.get? k = n.get? k) :
  m = n
  := by
  apply OrderedMap.ext
  have hlength : m.entries.length = n.entries.length := by
    simpa [keys] using congrArg List.length hkeys
  apply List.ext_getElem hlength
  intro i hm hn
  have hkey : m.entries[i].1 = n.entries[i].1 := by
    simpa [keys] using List.getElem_of_eq hkeys (i := i) (by simpa [keys] using hm)
  have hvalue : m.get? m.entries[i].1 = some m.entries[i].2 :=
    get?_eq_some_iff.mpr (List.getElem_mem hm)
  have hvalue' : n.get? n.entries[i].1 = some n.entries[i].2 :=
    get?_eq_some_iff.mpr (List.getElem_mem hn)
  rw [hget, hkey, hvalue', Option.some.injEq] at hvalue
  apply Prod.ext hkey hvalue.symm

/-! ### Altering the value of a key -/

/-- A key that is there keeps its place, and a new one comes last. -/
theorem keys_alterEntries (k : κ) (f : Option α → α) (es : List (κ × α)) :
  (alterEntries k f es).map Prod.fst
    = if k ∈ es.map Prod.fst then es.map Prod.fst else es.map Prod.fst ++ [k]
  := by
  induction es with
  | nil => simp [alterEntries]
  | cons e es ih =>
    by_cases h : e.1 = k
    · simp [alterEntries, h]
    · rw [alterEntries, if_neg h, List.map_cons, ih]
      split <;> simp_all [Ne.symm h]

/-- A new key comes last, and a known key keeps its place. -/
theorem keys_alter (m : OrderedMap κ α) (k : κ) (f : Option α → α) :
  (m.alter k f).keys = if k ∈ m.keys then m.keys else m.keys ++ [k]
  := keys_alterEntries k f m.entries

/-- The first entry counts before the others. -/
private theorem lookup_cons_eq (k x : κ) (a : α) (es : List (κ × α)) :
  ((k, a) :: es).lookup x = if x = k then some a else es.lookup x
  := by
  by_cases h : x = k
  · rw [h, List.lookup_cons_self, if_pos rfl]
  · rw [List.lookup_cons, beq_false_of_ne h, if_neg h]

/-- Only the value under the altered key is another. -/
theorem lookup_alterEntries (k x : κ) (f : Option α → α) (es : List (κ × α)) :
  (alterEntries k f es).lookup x = if x = k then some (f (es.lookup k)) else es.lookup x
  := by
  induction es with
  | nil => rw [alterEntries, lookup_cons_eq, List.lookup_nil, List.lookup_nil]
  | cons e es ih =>
    obtain ⟨k', a⟩ := e
    by_cases hk : k' = k
    · subst hk
      rw [alterEntries, if_pos rfl, lookup_cons_eq, lookup_cons_eq, lookup_cons_eq, if_pos rfl]
      split <;> rfl
    · rw [alterEntries, if_neg hk, lookup_cons_eq, lookup_cons_eq, lookup_cons_eq, ih,
        if_neg (Ne.symm hk)]
      by_cases hx : x = k'
      · rw [if_pos hx, if_pos hx, if_neg (hx ▸ hk)]
      · rw [if_neg hx, if_neg hx]

/-- The value of the key becomes `f` of what it was, and all other keys keep their values. -/
theorem get?_alter (m : OrderedMap κ α) (k x : κ) (f : Option α → α) :
  (m.alter k f).get? x = if x = k then some (f (m.get? k)) else m.get? x
  := lookup_alterEntries k x f m.entries

/-- A new key comes last, and the others keep their places. -/
theorem keys_put (m : OrderedMap κ α) (k : κ) (a : α) :
  (m.put k a).keys = if k ∈ m.keys then m.keys else m.keys ++ [k]
  := keys_alter m k _

/-- Only the value under the new key is another. -/
theorem get?_put (m : OrderedMap κ α) (k x : κ) (a : α) :
  (m.put k a).get? x = if x = k then some a else m.get? x
  := get?_alter m k x _

/-! ### Maps of lists -/

/-- A map of some entries grows by the last of them. -/
theorem ofList_concat (es : List (κ × α)) (e : κ × α) :
  ofList (es ++ [e]) = (ofList es).put e.1 e.2
  := List.foldl_append

/-- The keys are those of the entries, in the order in which they first appear. -/
theorem keys_ofList (es : List (κ × α)) :
  (ofList es).keys = (es.map Prod.fst).eraseDups
  := by
  induction es using List.reverseRecOn with
  | nil => rfl
  | append_singleton es e ih =>
    rw [ofList_concat, keys_put, ih, List.map_append, List.map_singleton, eraseDups_concat]
    simp only [List.mem_eraseDups]

/-- The value of a key is that of the last entry for it. -/
theorem exists_last_of_get?_ofList {es : List (κ × α)} {k : κ} {a : α}
    (h : (ofList es).get? k = some a) :
  ∃ before after, es = before ++ (k, a) :: after ∧ k ∉ after.map Prod.fst
  := by
  induction es using List.reverseRecOn with
  | nil => contradiction
  | append_singleton es e ih =>
    rw [ofList_concat, get?_put] at h
    split_ifs at h with hk
    · obtain rfl := Option.some.inj h
      subst hk
      exact ⟨es, [], rfl, List.not_mem_nil⟩
    · obtain ⟨before, after, rfl, hafter⟩ := ih h
      use before, after ++ [e], by rw [List.append_assoc, List.cons_append]
      simpa [hk] using hafter

/-- A map of some entries has no others. -/
theorem mem_entries_ofList {es : List (κ × α)} {e : κ × α} (h : e ∈ (ofList es).entries) :
  e ∈ es
  := by
  obtain ⟨before, after, rfl, -⟩ := exists_last_of_get?_ofList (get?_eq_some_iff.mpr h)
  apply List.mem_append_right _ List.mem_cons_self

end OrderedMap

end DocTable
