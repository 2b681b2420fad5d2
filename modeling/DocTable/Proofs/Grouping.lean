import DocTable.Proofs.OrderedMap
import Mathlib.Data.List.Induction

/-!
# Grouping

`Groups` says what it is to group items by a key: the keys stand in the order of their first
appearance, and the group of a key has its items in their order.
-/

namespace DocTable

universe u v

variable {κ : Type u} {α : Type v}

variable [DecidableEq κ]

/-- Items are grouped by a key. -/
structure Groups (key : α → κ) (items : List α) (groups : OrderedMap κ (List α)) : Prop where
  /-- The keys stand in the order of their first appearance. -/
  keys : groups.keys = (items.map key).eraseDups
  /-- A group has the items of its key in order, and there is no group without items. -/
  group : ∀ k, (groups.get? k).getD [] = items.filter (key · = k)

theorem groups_nil (key : α → κ) :
  Groups key [] .empty
  where
  keys := rfl
  group _ := rfl

theorem Groups.snoc {key : α → κ} {items : List α} {groups : OrderedMap κ (List α)}
    (h : Groups key items groups) (a : α) :
  Groups key (items ++ [a]) (groups.alter (key a) fun group => (group.getD []) ++ [a])
  where
  keys := by
    rw [OrderedMap.keys_alter, List.map_append, List.map_singleton, eraseDups_concat, h.keys]
    simp only [List.mem_eraseDups]
  group k := by
    rw [OrderedMap.get?_alter, List.filter_append]
    by_cases hk : k = key a
    · subst hk
      rw [if_pos rfl, Option.getD_some, h.group]
      simp
    · rw [if_neg hk, h.group]
      simp [Ne.symm hk]

theorem groups_groupBy (key : α → κ) (items : List α) :
  Groups key items (groupBy key items)
  := by
  induction items using List.reverseRecOn with
  | nil => apply groups_nil
  | append_singleton items a ih =>
    rw [groupBy, List.foldl_append]
    apply ih.snoc

/-- A group has the items of its key in order, and there are some. -/
theorem Groups.of_mem_entries {key : α → κ} {items : List α} {groups : OrderedMap κ (List α)}
    (h : Groups key items groups) {k : κ} {group : List α} (hk : (k, group) ∈ groups.entries) :
  group = items.filter (key · = k) ∧ group ≠ []
  := by
  have hgroup := h.group k
  rw [OrderedMap.get?_eq_some_iff.mpr hk, Option.getD_some] at hgroup
  have hkey : k ∈ (items.map key).eraseDups := by
    rw [← h.keys]
    apply List.mem_map_of_mem hk
  obtain ⟨a, ha, rfl⟩ := List.mem_map.mp (List.mem_eraseDups.mp hkey)
  use hgroup
  rw [hgroup]
  apply List.ne_nil_of_mem (List.mem_filter.mpr ⟨ha, decide_eq_true rfl⟩)

/-- An item that is added to the group of its key is one more of all items. -/
theorem perm_flatten_alterEntries (k : κ) (a : α) (es : List (κ × List α)) :
  ((OrderedMap.alterEntries k (fun group => group.getD [] ++ [a]) es).map Prod.snd).flatten.Perm
    ((es.map Prod.snd).flatten ++ [a])
  := by
  induction es with
  | nil => exact List.Perm.refl _
  | cons e es ih =>
    rw [OrderedMap.alterEntries]
    split
    case isTrue =>
      simp only [List.map_cons, List.flatten_cons, Option.getD_some, List.append_assoc]
      apply List.Perm.append_left
      apply List.perm_append_comm
    case isFalse =>
      simp only [List.map_cons, List.flatten_cons, List.append_assoc]
      apply List.Perm.append_left _ ih

/-- The groups hold every item, and each of them as often as it was given. -/
theorem perm_flatten_groupBy (key : α → κ) (items : List α) :
  (groupBy key items).values.flatten.Perm items
  := by
  induction items using List.reverseRecOn with
  | nil => exact List.Perm.refl _
  | append_singleton items a ih =>
    have hlast : groupBy key (items ++ [a])
        = (groupBy key items).alter (key a) fun group => group.getD [] ++ [a] := by
      rw [groupBy, List.foldl_concat]
      rfl
    rw [hlast]
    apply (perm_flatten_alterEntries (key a) a _).trans
    apply ih.append_right

/-- Without groups there are no items. -/
theorem Groups.eq_nil_of_isEmpty {key : α → κ} {items : List α}
    {groups : OrderedMap κ (List α)} (h : Groups key items groups) (hempty : groups.isEmpty) :
  items = []
  := by
  cases items with
  | nil => rfl
  | cons a items =>
    have hgroup := h.group (key a)
    rw [OrderedMap.get?, List.isEmpty_iff.mp hempty] at hgroup
    simp at hgroup

/-- What stands in a group is one of the items. -/
theorem Groups.mem_items {key : α → κ} {items : List α} {groups : OrderedMap κ (List α)}
    (h : Groups key items groups) {k : κ} {group : List α} (hk : (k, group) ∈ groups.entries)
    {a : α} (ha : a ∈ group) :
  a ∈ items
  := by
  rw [(h.of_mem_entries hk).1] at ha
  apply List.mem_of_mem_filter ha

end DocTable
