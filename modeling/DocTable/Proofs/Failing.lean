import DocTable.Log
import Mathlib.Data.List.Forall2
import Mathlib.Tactic.Common

/-!
# How a computation fails

`FailsOnly P r` says that the result `r`, if it is a failure at all, is one with the property `P`.
It is shown step by step along a computation: what comes after a step has to be looked at only for
those results that the step has.
-/

namespace DocTable

variable {ε ε' α β : Type} {P : ε → Prop} {Q : ε' → Prop}

/-- If there is no result, the failure has the property. -/
def FailsOnly (P : ε → Prop) (r : Except ε α) : Prop :=
  ∀ e, r = .error e → P e

/-- A result is no failure. -/
theorem failsOnly_ok (a : α) :
  FailsOnly P (.ok a : Except ε α)
  := nofun

/-- A failure with the property fails as it should. -/
theorem failsOnly_error {e : ε} (h : P e) :
  FailsOnly P (.error e : Except ε α)
  := by
  rintro _ ⟨⟩
  exact h

/-- A property of all failures may be weakened. -/
theorem FailsOnly.imp {P' : ε → Prop} {r : Except ε α} (hr : FailsOnly P r) (h : ∀ e, P e → P' e) :
  FailsOnly P' r
  := fun e he => h e (hr e he)

/-- A computation fails as its first part does, or as its second part does for a result of the
first. -/
theorem FailsOnly.bind {r : Except ε α} {f : α → Except ε β} (hr : FailsOnly P r)
    (hf : ∀ a, r = .ok a → FailsOnly P (f a)) :
  FailsOnly P (r >>= f)
  := by
  cases r with
  | ok a => exact hf a rfl
  | error e => exact failsOnly_error (hr e rfl)

/-- A function of the result changes no failures. -/
theorem FailsOnly.map {r : Except ε α} (hr : FailsOnly P r) (f : α → β) :
  FailsOnly P (r.map f)
  := by
  cases r with
  | ok a => exact failsOnly_ok (f a)
  | error e => exact failsOnly_error (hr e rfl)

/-- Failures with other names have a property if the failures under their own names have the one
that it comes from. -/
theorem FailsOnly.mapError {r : Except ε α} {f : ε → ε'} (hr : FailsOnly (fun e => Q (f e)) r) :
  FailsOnly Q (r.mapError f)
  := by
  cases r with
  | ok a => exact failsOnly_ok a
  | error e => exact failsOnly_error (hr e rfl)

/-- A list of computations fails as one of them does. -/
theorem failsOnly_mapM {f : α → Except ε β} {items : List α} (hf : ∀ a ∈ items, FailsOnly P (f a)) :
  FailsOnly P (items.mapM f)
  := by
  induction items with
  | nil => exact failsOnly_ok []
  | cons a items ih =>
    rw [List.forall_mem_cons] at hf
    rw [List.mapM_cons]
    refine hf.1.bind fun b _ => (ih hf.2).bind fun bs _ => failsOnly_ok _

/-! ### Results -/

/-- If a computation has a result, then its first part has one with which the second part has it.
-/
theorem exists_of_bind_eq_ok {r : Except ε α} {f : α → Except ε β} {b : β}
    (h : r >>= f = .ok b) :
  ∃ a, r = .ok a ∧ f a = .ok b
  := by
  cases r with
  | ok a => exact ⟨a, rfl, h⟩
  | error e => contradiction

/-- The results are those of the items, in their order. -/
theorem forall₂_of_mapM {f : α → Except ε β} {items : List α} {bs : List β}
    (h : items.mapM f = .ok bs) :
  List.Forall₂ (fun a b => f a = .ok b) items bs
  := by
  induction items generalizing bs with
  | nil =>
    obtain rfl := Except.ok.inj h
    exact .nil
  | cons a items ih =>
    rw [List.mapM_cons] at h
    obtain ⟨first, hfirst, h⟩ := exists_of_bind_eq_ok h
    obtain ⟨rest, hrest, h⟩ := exists_of_bind_eq_ok h
    obtain rfl := Except.ok.inj h
    exact .cons hfirst (ih hrest)

/-- To each element of the second list belongs one of the first. -/
theorem exists_of_mem_forall₂ {R : α → β → Prop} {items : List α} {bs : List β}
    (h : List.Forall₂ R items bs) {b : β} (hb : b ∈ bs) :
  ∃ a ∈ items, R a b
  := by
  induction h with
  | nil => contradiction
  | cons hfirst _ ih =>
    obtain rfl | hb := List.mem_cons.mp hb
    · exact ⟨_, List.mem_cons_self, hfirst⟩
    · obtain ⟨a, ha, hab⟩ := ih hb
      exact ⟨a, List.mem_cons_of_mem _ ha, hab⟩

/-- Each of the results comes from an item. -/
theorem exists_of_mem_mapM {f : α → Except ε β} {items : List α} {bs : List β}
    (h : items.mapM f = .ok bs) {b : β} (hb : b ∈ bs) :
  ∃ a ∈ items, f a = .ok b
  := exists_of_mem_forall₂ (forall₂_of_mapM h) hb

/-! ### With events -/

/-- A logged computation fails as one of its two parts does. -/
theorem FailsOnly.result_bind {x : Logged ε α} {f : α → Logged ε β} (hx : FailsOnly P x.result)
    (hf : ∀ a, x.result = .ok a → FailsOnly P (f a).result) :
  FailsOnly P (x >>= f).result
  := by
  rw [Logged.result_bind]
  exact hx.bind hf

/-- A list of logged computations fails as one of them does. -/
theorem failsOnly_forAll {f : α → Logged ε β} {items : List α}
    (hf : ∀ a ∈ items, FailsOnly P (f a).result) :
  FailsOnly P (Logged.forAll f items).result
  := by
  induction items with
  | nil => exact failsOnly_ok []
  | cons a items ih =>
    rw [List.forall_mem_cons] at hf
    rw [Logged.forAll]
    refine hf.1.result_bind fun b _ => (ih hf.2).result_bind fun bs _ => failsOnly_ok _

end DocTable
