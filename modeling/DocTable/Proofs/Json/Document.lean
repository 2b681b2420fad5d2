import DocTable.Json.Document
import Mathlib.Data.List.Basic

/-!
# JSON documents as trees

The functions on documents go through arrays and objects item by item, so they are maps over the
parts of a document.  A document is determined by the value that it stands for.

`Document.Within depth` are the documents that a reader with this depth gives back: arrays and
objects lie no deeper in them, and no object has a name twice.
-/

namespace DocTable

/-- Lists are equal if their images are, and equal images come from equal items. -/
theorem eq_of_map_eq {α β : Type} {f : α → β} {xs ys : List α}
    (hf : ∀ x ∈ xs, ∀ y ∈ ys, f x = f y → x = y) (h : xs.map f = ys.map f) :
  xs = ys
  := by
  induction xs generalizing ys with
  | nil => exact (List.map_eq_nil_iff.mp h.symm).symm
  | cons x xs ih =>
    cases ys with
    | nil => contradiction
    | cons y ys =>
      simp only [List.forall_mem_cons, List.map_cons, List.cons.injEq] at hf h
      rw [hf.1.1 h.1, ih (fun x hx y hy => (hf.2 x hx).2 y hy) h.2]

namespace Json

namespace Document

/-- Induction on documents: a property that arrays and objects take over from their parts. -/
@[elab_as_elim, induction_eliminator]
theorem induction {motive : Document → Prop} (text : ∀ s, motive (.text s))
    (array : ∀ items, (∀ d ∈ items, motive d) → motive (.array items))
    (object : ∀ fields, (∀ f ∈ fields, motive f.2) → motive (.object fields)) (d : Document) :
  motive d
  := by
  exact @Document.rec motive (fun items => ∀ d ∈ items, motive d)
    (fun fields => ∀ f ∈ fields, motive f.2) (fun f => motive f.2) text array object
    (fun _ hd => nomatch hd) (fun _ _ hd hds => List.forall_mem_cons.mpr ⟨hd, hds⟩)
    (fun _ hf => nomatch hf) (fun _ _ hf hfs => List.forall_mem_cons.mpr ⟨hf, hfs⟩)
    (fun _ _ hd => hd) d

theorem indentedItems_eq_map (level : Nat) (items : List Document) :
  indentedItems level items = items.map (indentedAt level)
  := by
  induction items with
  | nil => rfl
  | cons d ds ih => rw [indentedItems, ih, List.map_cons]

theorem indentedFields_eq_map (level : Nat) (fields : List (String × Document)) :
  indentedFields level fields
    = fields.map fun f => string f.1 ++ ": " ++ indentedAt level f.2
  := by
  induction fields with
  | nil => rfl
  | cons f fs ih => rw [indentedFields, ih, List.map_cons]

theorem itemValues_eq_map (items : List Document) :
  itemValues items = items.map toValue
  := by
  induction items with
  | nil => rfl
  | cons d ds ih => rw [itemValues, ih, List.map_cons]

theorem fieldValues_eq_map (fields : List (String × Document)) :
  fieldValues fields = fields.map fun f => (.text f.1, f.2.toValue)
  := by
  induction fields with
  | nil => rfl
  | cons f fs ih => rw [fieldValues, ih, List.map_cons]

/-- A document is determined by its value. -/
theorem toValue_injective :
  Function.Injective toValue
  := by
  intro d
  induction d with
  | text s =>
    rintro (t | _ | _) h
    · rw [toValue, toValue, Value.text.injEq] at h
      rw [h]
    all_goals simp [toValue] at h
  | array items ih =>
    rintro (_ | items' | _) h
    case array =>
      rw [toValue, toValue, Value.list.injEq, itemValues_eq_map, itemValues_eq_map] at h
      rw [eq_of_map_eq (fun d hd d' _ => @ih d hd d') h]
    all_goals simp [toValue] at h
  | object fields ih =>
    rintro (_ | _ | fields') h
    case object =>
      rw [toValue, toValue, Value.map.injEq, fieldValues_eq_map, fieldValues_eq_map] at h
      rw [eq_of_map_eq _ h]
      intro f hf f' _ hfields
      simp only [Prod.mk.injEq, Value.text.injEq] at hfields
      apply Prod.ext hfields.1 (ih f hf hfields.2)
    all_goals simp [toValue] at h

/-- The documents without repeated names whose arrays and objects lie at most `depth` deep. -/
inductive Within : Nat → Document → Prop where
  | text {depth : Nat} (s : String) : Within depth (.text s)
  | array {depth : Nat} {items : List Document} (h : ∀ d ∈ items, Within depth d) :
    Within (depth + 1) (.array items)
  | object {depth : Nat} {fields : List (String × Document)}
    (names : (fields.map Prod.fst).Nodup) (h : ∀ f ∈ fields, Within depth f.2) :
    Within (depth + 1) (.object fields)

end Document

end Json

end DocTable
