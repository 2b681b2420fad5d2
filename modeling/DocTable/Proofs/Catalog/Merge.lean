import DocTable.Catalog
import DocTable.Proofs.OrderedMap

/-!
# Merging a batch

A merge has two stages: a batch is checked as a whole, and only then put into the catalog.  A
catalog that refuses a batch stays as it is (`run_merge`).

A batch need not be checked as a whole: `ingest` gives what taking its symbols one by one with `add`
gives, so that it does not matter how a stream of symbols is cut into batches.
-/

namespace DocTable

namespace Catalog

/-! ### Looking up and setting -/

/-- A symbol is found at its place after it is set, and all other places stay as they are. -/
theorem find?_set (catalog : Catalog) (s : Symbol) (name short : String) :
  (catalog.set s).find? name short
    = if (name, short) = s.place then some s else catalog.find? name short
  := by
  rw [find?, set, OrderedMap.get?_alter]
  by_cases hname : name = s.namespaceName
  · subst hname
    rw [if_pos rfl, Option.bind_some, OrderedMap.get?_put, Symbol.place]
    by_cases hshort : short = s.shortName
    · rw [if_pos hshort, if_pos (by rw [hshort])]
    · rw [if_neg hshort, if_neg (by simpa using hshort), find?]
      cases catalog.get? s.namespaceName with
      | none => rfl
      | some symbols => rfl
  · rw [if_neg hname, if_neg (by simp [Symbol.place, hname]), find?]

/-! ### The two stages of a merge -/

theorem run_forM_set (catalog : Catalog) (batch : List Symbol) :
  (batch.forM fun s => modify (m := EStateM Conflict Catalog) (·.set s)).run catalog
    = .ok () (batch.foldl set catalog)
  := by
  induction batch generalizing catalog with
  | nil => rfl
  | cons s batch ih => exact ih (catalog.set s)

/-- A batch is refused for its first conflict, or else put into the catalog symbol by symbol. -/
theorem run_merge (catalog : Catalog) (batch : List Symbol) :
  (merge batch).run catalog
    = match catalog.conflict? .empty batch with
      | some conflict => .error conflict catalog
      | none => .ok () (batch.foldl set catalog)
  := by
  have hcheck : (check batch).run catalog
      = match catalog.conflict? .empty batch with
        | some conflict => .error conflict catalog
        | none => .ok () catalog := by
    simp only [check, EStateM.run_bind, EStateM.run_get]
    cases catalog.conflict? .empty batch with
    | none => rfl
    | some conflict => rfl
  rw [merge, EStateM.run_bind, hcheck]
  cases catalog.conflict? .empty batch with
  | none => exact run_forM_set catalog batch
  | some conflict => rfl

theorem ingest_eq (catalog : Catalog) (batch : List Symbol) :
  catalog.ingest batch
    = match catalog.conflict? .empty batch with
      | some conflict => .error conflict
      | none => .ok (batch.foldl set catalog)
  := by
  rw [ingest, run_merge]
  cases catalog.conflict? .empty batch with
  | none => rfl
  | some conflict => rfl

/-! ### One symbol at a time -/

/-- The catalog with a symbol, unless its place is bound to another full name. -/
def add (catalog : Catalog) (s : Symbol) : Except Conflict Catalog :=
  match (catalog.boundName? .empty s.place).filter (· ≠ s.fullName) with
  | some existing => .error ⟨s.namespaceName, s.shortName, existing, s.fullName⟩
  | none => .ok (catalog.set s)

theorem boundName?_put (catalog : Catalog) (pending : OrderedMap (String × String) String)
    (s : Symbol) (place : String × String) :
  catalog.boundName? (pending.put s.place s.fullName) place
    = if place = s.place then some s.fullName else catalog.boundName? pending place
  := by
  rw [boundName?, OrderedMap.get?_put]
  split
  · rw [Option.some_or]
  · rw [boundName?]

theorem boundName?_set (catalog : Catalog) (s : Symbol) (place : String × String) :
  (catalog.set s).boundName? .empty place
    = if place = s.place then some s.fullName else catalog.boundName? .empty place
  := by
  simp only [boundName?, OrderedMap.get?_empty, Option.none_or, find?_set]
  split
  · rfl
  · rfl

/-- The names that are pending over a catalog may as well be set in it: to check the rest of a
batch is to take its symbols one by one into a catalog `next` that binds the same names. -/
theorem foldlM_add_eq (catalog next : Catalog) (pending : OrderedMap (String × String) String)
    (hbound : ∀ place, catalog.boundName? pending place = next.boundName? .empty place)
    (batch : List Symbol) :
  batch.foldlM add next
    = match catalog.conflict? pending batch with
      | some conflict => .error conflict
      | none => .ok (batch.foldl set next)
  := by
  induction batch generalizing next pending with
  | nil => rfl
  | cons s batch ih =>
    rw [List.foldlM_cons, add, conflict?, hbound]
    cases (next.boundName? .empty s.place).filter (· ≠ s.fullName) with
    | some existing => rfl
    | none =>
      apply ih
      intro place
      rw [boundName?_put, boundName?_set, hbound]

theorem ingest_eq_foldlM (catalog : Catalog) (batch : List Symbol) :
  catalog.ingest batch = batch.foldlM add catalog
  := by
  rw [ingest_eq, foldlM_add_eq catalog catalog .empty (fun _ => rfl)]

/-- Two batches one after the other are taken, or refused for the same conflict, as one batch. -/
theorem ingest_append (catalog : Catalog) (xs ys : List Symbol) :
  catalog.ingest (xs ++ ys) = (catalog.ingest xs).bind fun next => next.ingest ys
  := by
  rw [ingest_eq_foldlM, ingest_eq_foldlM, List.foldlM_append]
  apply congrArg
  funext next
  rw [ingest_eq_foldlM]

end Catalog

end DocTable
