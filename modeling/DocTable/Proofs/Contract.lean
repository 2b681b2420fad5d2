import Mathlib.Control.Monad.Basic
import Mathlib.Data.List.Basic

/-!
# Computations that keep a condition

A `Contract` says of the computations of a monad what it means that they give something with a
property, when nothing is known of those for which it is not shown.  In particular computations with
a state may have to keep a condition on it.  It is shown for a computation by showing it for its
steps.
-/

namespace DocTable

/-- What it means for the computations of a monad that they give something with a property: steps
that do so can be put together. -/
structure Contract (m : Type → Type) [Monad m] where
  gives : {α : Type} → (α → Prop) → m α → Prop
  gives_pure : ∀ {α : Type} {p : α → Prop} {a : α}, p a → gives p (pure a)
  gives_bind : ∀ {α β : Type} {p : α → Prop} {q : β → Prop} {x : m α} {f : α → m β},
    gives p x → (∀ a, p a → gives q (f a)) → gives q (x >>= f)

namespace Contract

/-- Computations without effects give what they are. -/
def id : Contract Id where
  gives p x := p x.run
  gives_pure h := h
  gives_bind hx hf := hf _ hx

/-- If there is a result, it has the property. -/
def except (ε : Type) : Contract (Except ε) where
  gives p r := ∀ a, r = .ok a → p a
  gives_pure h := by
    rintro _ ⟨⟩
    exact h
  gives_bind {_ _ _ _ r f} hr hf := by
    intro b hb
    cases r with
    | ok a => exact hf a (hr a rfl) b hb
    | error e => contradiction

section

variable {ε α β : Type} {p : α → Prop} {q : β → Prop}

theorem except_gives_error (e : ε) :
  (except ε).gives p (.error e)
  := nofun

theorem except_gives_map {r : Except ε α} (hr : (except ε).gives p r) {f : α → β}
    (hf : ∀ a, p a → q (f a)) :
  (except ε).gives q (r.map f)
  := by
  intro b hb
  cases r with
  | ok a => exact Except.ok.inj hb ▸ hf a (hr a rfl)
  | error e => contradiction

/-- What is made of any result has the property. -/
theorem except_gives_map_any (r : Except ε α) {f : α → β} (hf : ∀ a, q (f a)) :
  (except ε).gives q (r.map f)
  := except_gives_map (p := fun _ => True) (fun _ _ => trivial) fun a _ => hf a

end

variable {m : Type → Type} [Monad m] {σ : Type}

/-- From every state with the condition, the computation leads to one with the condition. -/
def stateful (c : Contract m) (condition : σ → Prop) : Contract (StateT σ m) where
  gives {α} p x := ∀ s, condition s → c.gives (fun r : α × σ => p r.1 ∧ condition r.2) (x.run s)
  gives_pure h := fun _ hs => c.gives_pure ⟨h, hs⟩
  gives_bind hx hf := fun s hs => c.gives_bind (hx s hs) fun ⟨a, t⟩ hr => hf a hr.1 t hr.2

variable (c : Contract m) {α β : Type} {p : α → Prop} {q : β → Prop}

/-! ### Steps -/

theorem gives_imp [LawfulMonad m] {x : m α} {p' : α → Prop} (hx : c.gives p x)
    (himp : ∀ a, p a → p' a) :
  c.gives p' x
  := by
  rw [← bind_pure x]
  exact c.gives_bind hx fun a ha => c.gives_pure (himp a ha)

/-- A step whose result is not looked at. -/
theorem gives_then {x : m α} {y : m β} (hx : c.gives p x) (hy : c.gives q y) :
  c.gives q (x >>= fun _ => y)
  := c.gives_bind hx fun _ _ => hy

theorem gives_mapM [LawfulMonad m] {f : α → m β} {items : List α}
    (h : ∀ a ∈ items, c.gives q (f a)) :
  c.gives (fun bs => ∀ b ∈ bs, q b) (items.mapM f)
  := by
  induction items with
  | nil =>
    rw [List.mapM_nil]
    apply c.gives_pure
    simp
  | cons a items ih =>
    rw [List.forall_mem_cons] at h
    rw [List.mapM_cons]
    refine c.gives_bind h.1 fun b hb => c.gives_bind (ih h.2) fun bs hbs => c.gives_pure ?_
    rw [List.forall_mem_cons]
    exact ⟨hb, hbs⟩

theorem gives_forM {f : α → m PUnit} {items : List α}
    (h : ∀ a ∈ items, c.gives (fun _ => True) (f a)) :
  c.gives (fun _ => True) (items.forM f)
  := by
  induction items with
  | nil => exact c.gives_pure trivial
  | cons a items ih =>
    rw [List.forall_mem_cons] at h
    exact c.gives_then h.1 (ih h.2)

theorem gives_filterM {f : α → m Bool} {items : List α}
    (h : ∀ a ∈ items, c.gives (fun _ => True) (f a)) :
  c.gives (fun _ => True) (items.filterM f)
  := by
  suffices hfrom : ∀ kept, c.gives (fun _ => True) (items.filterAuxM f kept) from
    c.gives_bind (hfrom []) fun _ _ => c.gives_pure trivial
  induction items with
  | nil => exact fun kept => c.gives_pure trivial
  | cons a items ih =>
    rw [List.forall_mem_cons] at h
    exact fun kept => c.gives_bind h.1 fun _ _ => ih h.2 _

/-! ### States -/

variable {condition : σ → Prop}

theorem gives_get :
  (c.stateful condition).gives condition get
  := fun _ hs => c.gives_pure ⟨hs, hs⟩

theorem gives_modify {f : σ → σ} (hf : ∀ s, condition s → condition (f s)) :
  (c.stateful condition).gives (fun _ => True) (modify f)
  := fun s hs => c.gives_pure ⟨trivial, hf s hs⟩

/-- A failure gives nothing. -/
theorem gives_throw {ε : Type} (e : ε) :
  ((except ε).stateful condition).gives p (throw e)
  := by
  intro s hs r hr
  contradiction

/-- A step that does not look at the state. -/
theorem gives_lift {x : m α} (hx : c.gives p x) :
  (c.stateful condition).gives p (liftM x)
  := fun _ hs => c.gives_bind hx fun _ ha => c.gives_pure ⟨ha, hs⟩

end Contract

end DocTable
