import DocTable.Log

/-!
# What a computation gives

A computation that goes on with a result has a result if both of its parts do.  `x.Gives P` says
that the result of the computation `x` has the property `P`, if there is a result.  It is shown step
by step along the computation.
-/

namespace DocTable

/-- Another name for the failures changes no results. -/
theorem mapError_eq_ok_iff {ε ε' α : Type} {r : Except ε α} {f : ε → ε'} {a : α} :
  r.mapError f = .ok a ↔ r = .ok a
  := by
  cases r with
  | error e =>
    constructor
    · intro h
      contradiction
    · intro h
      contradiction
  | ok b =>
    constructor
    · rintro ⟨⟩
      rfl
    · rintro ⟨⟩
      rfl

/-- What is left of a computation without its failures is its result. -/
theorem toOption_eq_some_iff {ε α : Type} {r : Except ε α} {a : α} :
  r.toOption = some a ↔ r = .ok a
  := by
  cases r with
  | error e => exact ⟨nofun, nofun⟩
  | ok b => rw [Except.toOption, Option.some.injEq, Except.ok.injEq]

namespace Logged

variable {ε α β : Type}

/-- A computation without log records keeps its result. -/
theorem result_ofExcept (r : Except ε α) :
  (ofExcept r).result = r
  := rfl

/-- There is a result if the first part has one with which the second part has one. -/
theorem result_bind_eq_ok_iff {x : Logged ε α} {f : α → Logged ε β} {b : β} :
  (x >>= f).result = .ok b ↔ ∃ a, x.result = .ok a ∧ (f a).result = .ok b
  := by
  rw [result_bind]
  constructor
  · intro h
    cases ha : x.result with
    | error e =>
      rw [ha] at h
      contradiction
    | ok a =>
      rw [ha] at h
      exact ⟨a, rfl, h⟩
  · rintro ⟨a, ha, hb⟩
    rw [ha]
    exact hb

/-- There is a failure if the first part has it, or else if the second part has it. -/
theorem result_bind_eq_error_iff {x : Logged ε α} {f : α → Logged ε β} {e : ε} :
  (x >>= f).result = .error e
    ↔ x.result = .error e ∨ ∃ a, x.result = .ok a ∧ (f a).result = .error e
  := by
  rw [result_bind]
  cases x.result with
  | error e' =>
    constructor
    · rintro ⟨⟩
      exact .inl rfl
    · rintro (⟨⟨⟩⟩ | ⟨a, ha, -⟩)
      · rfl
      · contradiction
  | ok a =>
    constructor
    · exact fun h => .inr ⟨a, rfl, h⟩
    · rintro (h | ⟨b, ⟨⟩, h⟩)
      · contradiction
      · exact h

/-- Another name for the failures of a logged computation changes no results. -/
theorem result_mapError_eq_ok_iff {ε' : Type} {x : Logged ε α} {f : ε → ε'} {a : α} :
  (x.mapError f).result = .ok a ↔ x.result = .ok a
  := mapError_eq_ok_iff

/-- Some items have results if the first has one, and if the others have results after the log
records of the first. -/
theorem forAllAfter_cons_eq_ok_iff {f : List Event → α → Logged ε β} {earlier : List Event} {a : α}
    {items : List α} {bs : List β} :
  (forAllAfter f earlier (a :: items)).result = .ok bs
    ↔ ∃ b rest, (f earlier a).result = .ok b
      ∧ (forAllAfter f (earlier ++ (f earlier a).events) items).result = .ok rest
      ∧ b :: rest = bs
  := by
  rw [forAllAfter, result_bind_eq_ok_iff]
  constructor
  · rintro ⟨b, hb, h⟩
    obtain ⟨rest, hrest, ⟨⟩⟩ := result_bind_eq_ok_iff.mp h
    exact ⟨b, rest, hb, hrest, rfl⟩
  · rintro ⟨b, rest, hb, hrest, rfl⟩
    refine ⟨b, hb, ?_⟩
    rw [result_bind_eq_ok_iff]
    exact ⟨rest, hrest, rfl⟩

/-- If there is a result, it has the property. -/
def Gives (x : Logged ε α) (P : α → Prop) : Prop :=
  ∀ a, x.result = .ok a → P a

variable {P : α → Prop} {Q : β → Prop}

/-- A computation that does nothing gives its result. -/
theorem gives_pure {a : α} (h : P a) :
  (pure a : Logged ε α).Gives P
  := by
  rintro _ ⟨⟩
  exact h

/-- What a computation gives is what its second part gives for all that the first part gives. -/
theorem Gives.bind {x : Logged ε α} {f : α → Logged ε β} (hx : x.Gives P)
    (hf : ∀ a, P a → (f a).Gives Q) :
  (x >>= f).Gives Q
  := by
  intro b hb
  rw [result_bind] at hb
  cases ha : x.result with
  | error e =>
    rw [ha] at hb
    contradiction
  | ok a =>
    rw [ha] at hb
    apply hf a (hx a ha) b hb

/-- The first step may give anything. -/
theorem gives_bind {x : Logged ε α} {f : α → Logged ε β} (hf : ∀ a, (f a).Gives Q) :
  (x >>= f).Gives Q
  := Gives.bind (P := fun _ => True) (fun _ _ => trivial) fun a _ => hf a

/-- Another name for the failures changes nothing of what a computation gives. -/
theorem Gives.mapError {x : Logged ε α} (hx : x.Gives P) {ε' : Type} (f : ε → ε') :
  (x.mapError f).Gives P
  := by
  intro a ha
  rw [Logged.mapError] at ha
  cases hresult : x.result with
  | error e =>
    rw [hresult] at ha
    contradiction
  | ok b =>
    rw [hresult] at ha
    obtain rfl := Except.ok.inj ha
    apply hx b hresult

/-- If each item gives a result with a property, whatever the records before it are, then all
results have it. -/
theorem gives_forAllAfter {f : List Event → α → Logged ε β}
    (hf : ∀ earlier a, (f earlier a).Gives Q) (earlier : List Event) (items : List α) :
  (forAllAfter f earlier items).Gives fun bs => ∀ b ∈ bs, Q b
  := by
  induction items generalizing earlier with
  | nil =>
    rw [forAllAfter]
    exact gives_pure (by simp)
  | cons a items ih =>
    rw [forAllAfter]
    refine (hf earlier a).bind fun b hb => (ih _).bind fun bs hbs => ?_
    exact gives_pure (List.forall_mem_cons.mpr ⟨hb, hbs⟩)

end Logged

end DocTable
