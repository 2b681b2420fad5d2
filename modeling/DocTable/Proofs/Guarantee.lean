import DocTable.Proofs.Contract

/-!
# What computations give

A `Guarantee` says of the computations of a monad what it means that they give something with a
property.  It is shown for a computation by showing it for its steps.
-/

namespace DocTable

/-- What it means for the computations of a monad that they give something with a property: steps
that do so can be put together. -/
structure Guarantee (m : Type → Type) [Monad m] where
  gives : {α : Type} → (α → Prop) → m α → Prop
  gives_pure : ∀ {α : Type} {p : α → Prop} {a : α}, p a → gives p (pure a)
  gives_bind : ∀ {α β : Type} {p : α → Prop} {q : β → Prop} {x : m α} {f : α → m β},
    gives p x → (∀ a, p a → gives q (f a)) → gives q (x >>= f)
  gives_any : ∀ {α : Type} (x : m α), gives (fun _ => True) x

namespace Guarantee

/-- Computations without effects give what they are. -/
def id : Guarantee Id where
  gives p x := p x.run
  gives_pure h := h
  gives_bind hx hf := hf _ hx
  gives_any _ := trivial

/-- If there is a result, it has the property. -/
def option : Guarantee Option where
  gives p x := ∀ a, x = some a → p a
  gives_pure h := by
    rintro _ ⟨⟩
    exact h
  gives_bind hx hf := by
    intro b hb
    obtain ⟨a, ha, hb⟩ := Option.bind_eq_some_iff.mp hb
    apply hf a (hx a ha) b hb
  gives_any _ _ _ := trivial

/-- Computations with a state give something with the property in every state. -/
def stateful (σ : Type) : Guarantee (StateM σ) where
  gives p x := ∀ s, p (x.run s).1
  gives_pure h := fun _ => h
  gives_bind hx hf := fun s => hf _ (hx s) _
  gives_any _ _ := trivial

section

variable {α β : Type} {p : α → Prop} {q : β → Prop}

theorem option_gives_iff {x : Option α} :
  option.gives p x ↔ ∀ a, x = some a → p a
  := Iff.rfl

theorem option_gives_some {a : α} (h : p a) :
  option.gives p (some a)
  := option.gives_pure h

theorem option_gives_none :
  option.gives p none
  := by
  intro a ha
  contradiction

theorem option_gives_map {x : Option α} (hx : option.gives p x) {f : α → β}
    (hf : ∀ a, p a → q (f a)) :
  option.gives q (x.map f)
  := by
  intro b hb
  obtain ⟨a, ha, rfl⟩ := Option.map_eq_some_iff.mp hb
  apply hf a (hx a ha)

theorem option_gives_orElse {x y : Option α} (hx : option.gives p x) (hy : option.gives p y) :
  option.gives p (x <|> y)
  := by
  cases x with
  | none => exact hy
  | some a => exact hx

theorem option_gives_guard (b : Prop) [Decidable b] :
  option.gives (fun _ => b) (guard b)
  := by
  intro _ h
  by_cases hb : b
  · exact hb
  · rw [guard, if_neg hb] at h
    contradiction

theorem stateful_gives_iff {σ : Type} {x : StateM σ α} :
  (stateful σ).gives p x ↔ ∀ s, p (x.run s).1
  := Iff.rfl

end

-- A goal is taken apart by the rules, and not by unfolding what is guaranteed.
attribute [irreducible] Guarantee.option Guarantee.stateful

variable {m : Type → Type} [Monad m] (guarantee : Guarantee m)

/-- The first step may give anything. -/
theorem gives_after {α β : Type} {q : β → Prop} {x : m α} {f : α → m β}
    (hf : ∀ a, guarantee.gives q (f a)) :
  guarantee.gives q (x >>= f)
  := guarantee.gives_bind (guarantee.gives_any x) fun a _ => hf a

/-- The first step is one of two. -/
theorem gives_ite_bind {α β : Type} {p : α → Prop} {q : β → Prop} {c : Prop} [Decidable c]
    {x y : m α} {f : α → m β} (hx : guarantee.gives p x) (hy : guarantee.gives p y)
    (hf : ∀ a, p a → guarantee.gives q (f a)) :
  guarantee.gives q (if c then x >>= f else y >>= f)
  := by
  split
  · exact guarantee.gives_bind hx hf
  · exact guarantee.gives_bind hy hf

/-- What is guaranteed is in particular a contract. -/
def toContract : Contract m :=
  ⟨guarantee.gives, guarantee.gives_pure, guarantee.gives_bind⟩

theorem gives_mapM [LawfulMonad m] {α β : Type} {q : β → Prop} {f : α → m β} {xs : List α}
    (h : ∀ x ∈ xs, guarantee.gives q (f x)) :
  guarantee.gives (fun ys => ∀ y ∈ ys, q y) (xs.mapM f)
  := guarantee.toContract.gives_mapM h

end Guarantee

end DocTable
