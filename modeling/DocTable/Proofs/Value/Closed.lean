import DocTable.Proofs.Value.Within

/-!
# Closed values

A mark stands for a value that holds itself, and within this value only.  `IsClosedIn around v` says
so of the marks in `v`, where the values of the numbers `around` stand around `v`.  Unfolding a
closed value gives a closed one (`IsClosedIn.unfold`).  Sets and the keys of maps are left aside:
no mark in them is ever replaced.
-/

namespace DocTable.Value

/-- A list, a pair or a map: what may hold itself. -/
def IsCollection : Value → Prop
  | list _ | pair _ _ | map _ => True
  | _ => False

/-- A scalar or a set: what no mark is replaced in. -/
def IsSealed : Value → Prop
  | list _ | pair _ _ | map _ | loop _ _ | again _ => False
  | _ => True

/-- The value is not a bare mark, and if it may hold itself it is a collection. -/
def IsWhole : Value → Prop
  | again _ => False
  | loop _ body => body.IsCollection
  | _ => True

/-- Every mark in the value stands within the value that it is a mark of. -/
inductive IsClosedIn : List Nat → Value → Prop where
  | sealed {around : List Nat} {v : Value} (h : v.IsSealed) : IsClosedIn around v
  | list {around : List Nat} {items : List Value} (h : ∀ v ∈ items, IsClosedIn around v) :
    IsClosedIn around (.list items)
  | pair {around : List Nat} {first second : Value} (hfirst : IsClosedIn around first)
    (hsecond : IsClosedIn around second) : IsClosedIn around (.pair first second)
  | map {around : List Nat} {entries : List (Value × Value)}
    (h : ∀ e ∈ entries, IsClosedIn around e.2) : IsClosedIn around (.map entries)
  | loop {around : List Nat} {number : Nat} {body : Value} (hbody : body.IsCollection)
    (h : IsClosedIn (number :: around) body) : IsClosedIn around (.loop number body)
  | again {around : List Nat} {number : Nat} (h : number ∈ around) :
    IsClosedIn around (.again number)

/-- The value has no mark of a value around it. -/
def IsClosed (v : Value) : Prop :=
  v.IsClosedIn []

variable {around : List Nat} {number : Nat} {v w : Value}

theorem IsClosed.isWhole (h : v.IsClosed) :
  v.IsWhole
  := by
  cases h with
  | sealed h => cases v <;> trivial
  | loop hbody => exact hbody
  | again h => contradiction
  | _ => trivial

theorem IsClosed.of_mem_list {items : List Value} (h : (list items).IsClosed) :
  ∀ v ∈ items, v.IsClosed
  := by
  cases h with
  | sealed h => exact h.elim
  | list h => exact h

theorem IsClosed.of_mem_map {entries : List (Value × Value)} (h : (map entries).IsClosed) :
  ∀ e ∈ entries, e.2.IsClosed
  := by
  cases h with
  | sealed h => exact h.elim
  | map h => exact h

/-! ### Unfolding -/

theorem IsSealed.replace (h : v.IsSealed) (number : Nat) (w : Value) :
  replace number w v = v
  := by
  cases v <;> first | exact h.elim | rfl

theorem IsCollection.replace (h : v.IsCollection) (number : Nat) (w : Value) :
  (replace number w v).IsCollection
  := by
  cases v <;> first | exact h.elim | trivial

theorem IsClosedIn.mono (h : v.IsClosedIn around) {around' : List Nat} (hsub : around ⊆ around') :
  v.IsClosedIn around'
  := by
  induction h generalizing around' with
  | sealed h => exact .sealed h
  | list _ ih => exact .list fun v hv => ih v hv hsub
  | pair _ _ ihfirst ihsecond => exact .pair (ihfirst hsub) (ihsecond hsub)
  | map _ ih => exact .map fun e he => ih e he hsub
  | loop hbody _ ih => exact .loop hbody (ih (List.cons_subset_cons _ hsub))
  | again h => exact .again (hsub h)

/-- A value without marks for one of those around it. -/
theorem IsClosedIn.replace (h : v.IsClosedIn around) (hw : w.IsClosed) {around' : List Nat}
    (hsub : ∀ n ∈ around, n ≠ number → n ∈ around') :
  (replace number w v).IsClosedIn around'
  := by
  induction h generalizing around' with
  | sealed h =>
    rw [h.replace]
    exact .sealed h
  | list _ ih =>
    rw [Value.replace, replaceItems_eq_map]
    refine .list fun v hv => ?_
    obtain ⟨item, hitem, rfl⟩ := List.mem_map.mp hv
    exact ih item hitem hsub
  | pair _ _ ihfirst ihsecond => exact .pair (ihfirst hsub) (ihsecond hsub)
  | map _ ih =>
    rw [Value.replace, replaceEntries_eq_map]
    refine .map fun e he => ?_
    obtain ⟨entry, hentry, rfl⟩ := List.mem_map.mp he
    exact ih entry hentry hsub
  | @loop around other body hbody hclosed ih =>
    rw [Value.replace]
    split
    case isTrue heq =>
      -- the number has another meaning within, so nothing is replaced
      refine .loop hbody (hclosed.mono ?_)
      intro n hn
      rw [heq] at hn
      rw [heq]
      obtain rfl | hn := List.mem_cons.mp hn
      · exact List.mem_cons_self
      · by_cases hnumber : n = number
        · exact hnumber ▸ List.mem_cons_self
        · exact List.mem_cons_of_mem _ (hsub n hn hnumber)
    case isFalse =>
      refine .loop (hbody.replace number w) (ih fun n hn hnumber => ?_)
      obtain rfl | hn := List.mem_cons.mp hn
      · exact List.mem_cons_self
      · exact List.mem_cons_of_mem _ (hsub n hn hnumber)
  | @again around other hother =>
    rw [Value.replace]
    split
    case isTrue => exact hw.mono (List.nil_subset around')
    case isFalse hne => exact .again (hsub other hother hne)

theorem IsClosed.unfold (h : v.IsClosed) :
  v.unfold.IsClosed
  := by
  cases v with
  | loop number body =>
    cases h with
    | sealed hsealed => exact hsealed.elim
    | loop hbody hclosed =>
      refine hclosed.replace (.loop hbody hclosed) fun n hn hnumber => ?_
      obtain rfl | hn := List.mem_cons.mp hn
      · exact absurd rfl hnumber
      · exact hn
  | _ => exact h

/-! ### Maps -/

theorem IsClosed.of_lookup? {name : String} {entries : List (Value × Value)}
    (h : (map entries).IsClosed) (hv : lookup? name entries = some v) :
  v.IsClosed
  := h.of_mem_map _ (mem_of_lookup? hv)

/-- A value of a map that is made entry by entry comes from one of them. -/
theorem exists_of_mem_putEntry {key : Value} {entries : List (Value × Value)}
    {e : Value × Value} (h : e ∈ putEntry key v entries) :
  e.2 = v ∨ e ∈ entries
  := by
  induction entries with
  | nil =>
    obtain rfl := List.mem_singleton.mp h
    exact .inl rfl
  | cons first entries ih =>
    rw [putEntry] at h
    split at h
    · obtain rfl | h := List.mem_cons.mp h
      · exact .inl rfl
      · exact .inr (List.mem_cons_of_mem _ h)
    · obtain rfl | h := List.mem_cons.mp h
      · exact .inr List.mem_cons_self
      · exact (ih h).imp_right (List.mem_cons_of_mem _)

theorem isClosedIn_ofEntries {entries : List (Value × Value)}
    (h : ∀ e ∈ entries, e.2.IsClosedIn around) :
  (ofEntries entries).IsClosedIn around
  := by
  suffices hfold : ∀ made : List (Value × Value), (∀ e ∈ made, e.2.IsClosedIn around) →
      ∀ e ∈ entries.foldl (fun acc e => putEntry e.1 e.2 acc) made, e.2.IsClosedIn around from
    .map (hfold [] nofun)
  induction entries with
  | nil => exact fun _ hmade => hmade
  | cons first entries ih =>
    intro made hmade
    rw [List.forall_mem_cons] at h
    refine ih h.2 _ fun e he => ?_
    obtain heq | he := exists_of_mem_putEntry he
    · exact heq ▸ h.1
    · exact hmade e he

end DocTable.Value
