import DocTable.Proofs.Contract
import DocTable.Proofs.Failing
import DocTable.Proofs.Logged
import DocTable.Proofs.Value.Closed
import DocTable.Yaml.Load
import Mathlib.Data.Finset.Card

/-!
# Values of YAML texts are closed

While a document is gone through it keeps the number of its nodes, and the values that are noted are
those of scalars (`Building.HasScalars`).  A node that leads to itself is marked by its number, and
only within the value of this node: every value of a text is closed (`isClosed_loader`).
-/

namespace DocTable.Yaml

open Value

/-! ### Scalars -/

/-- The fields of a time stamp make a date or a moment, which has no parts. -/
theorem TimeFields.isSealed_value {fields : TimeFields} {v : Value} (h : fields.value = .ok v) :
  v.IsSealed
  := by
  unfold value at h
  extract_lets year month day at h
  split at h
  · exact Contract.except_gives_map_any _ (f := .date) (fun _ => trivial) v h
  · exact Contract.except_gives_map_any _ (f := .dateTime) (fun _ => trivial) v h

/-- A text that is read as a time stamp gives a value without parts. -/
theorem isSealed_timeValue {text : List Char} {v : Value} (h : timeValue text = .ok v) :
  v.IsSealed
  := by
  unfold timeValue at h
  split at h
  · exact TimeFields.isSealed_value (mapError_eq_ok_iff.mp h)
  · contradiction

/-- Whatever its tag is, a scalar is a value without parts. -/
theorem Tag.isSealed_scalarValue {tag : Tag} {text : List Char} {v : Value}
    (h : tag.scalarValue text = .ok v) :
  v.IsSealed
  := by
  unfold scalarValue at h
  split at h
  case h_1 => exact Except.ok.inj h ▸ trivial
  case h_2 => exact Contract.except_gives_map_any _ (f := .bool) (fun _ => trivial) v h
  case h_3 => exact Contract.except_gives_map_any _ (f := .int) (fun _ => trivial) v h
  case h_4 => exact Contract.except_gives_map_any _ (f := .float) (fun _ => trivial) v h
  case h_5 => exact Contract.except_gives_map_any _ (f := .bytes) (fun _ => trivial) v h
  case h_6 => exact isSealed_timeValue h
  case h_7 => exact Except.ok.inj h ▸ trivial
  case h_8 => contradiction

namespace Building

/-- All values that are noted have a property. -/
def AllNoted (P : Value → Prop) (values : Array (Option Value)) : Prop :=
  ∀ (number : Nat) (v : Value), values[number]? = some (some v) → P v

/-- Nothing is noted at first. -/
theorem allNoted_replicate (P : Value → Prop) (count : Nat) :
  AllNoted P (.replicate count none)
  := by
  intro number v hv
  rw [Array.getElem?_replicate] at hv
  split_ifs at hv
  simp at hv

/-- One more value may be noted if it has the property. -/
theorem AllNoted.note {P : Value → Prop} {values : Array (Option Value)} (h : AllNoted P values)
    (number : Nat) {v : Value} (hv : P v) :
  AllNoted P (values.setIfInBounds number (some v))
  := by
  intro other w hw
  rw [Array.getElem?_setIfInBounds] at hw
  split_ifs at hw
  · obtain rfl := Option.some.inj (Option.some.inj hw)
    exact hv
  · exact h other w hw

/-- The document has as many nodes as at the start, and the values that are noted are scalars. -/
structure HasScalars (count : Nat) (b : Building) : Prop where
  size : b.nodes.size = count
  sealed : AllNoted IsSealed b.scalars

variable {count : Nat}

/-- What a step of going through a document gives, if it keeps the scalars. -/
def keeping (count : Nat) : Contract Build :=
  (Contract.except Fault).stateful (HasScalars count)

/-- The step keeps the scalars. -/
def Keeps (count : Nat) {α : Type} (x : Build α) : Prop :=
  (keeping count).gives (fun _ => True) x

/-- A step that does nothing leaves the scalars as they are. -/
theorem keeps_pure {α : Type} (a : α) :
  Keeps count (pure a)
  := (keeping count).gives_pure trivial

/-- A look at the nodes leaves the scalars as they are. -/
theorem keeps_get :
  Keeps count get
  := (keeping count).gives_imp (Contract.gives_get _) fun _ _ => trivial

/-- A step that fails leaves nothing. -/
theorem keeps_throw {α : Type} (e : Fault) :
  Keeps count (throw e : Build α)
  := Contract.gives_throw e

/-- A change of the nodes is a step that keeps the scalars if it does. -/
theorem keeps_modify {f : Building → Building}
    (hf : ∀ b, HasScalars count b → HasScalars count (f b)) :
  Keeps count (modify f)
  := Contract.gives_modify _ hf

/-- Two steps that keep the scalars are one that does. -/
theorem Keeps.bind {α β : Type} {x : Build α} {f : α → Build β} (hx : Keeps count x)
    (hf : ∀ a, Keeps count (f a)) :
  Keeps count (x >>= f)
  := (keeping count).gives_bind hx fun a _ => hf a

/-- A step for each of some numbers keeps the scalars if each of them does. -/
theorem keeps_forM {f : Nat → Build PUnit} (hf : ∀ number, Keeps count (f number))
    (numbers : List Nat) :
  Keeps count (numbers.forM f)
  := (keeping count).gives_forM fun number _ => hf number

/-- The same holds where the results of the steps are gathered. -/
theorem keeps_mapM {α : Type} {f : Nat → Build α} (hf : ∀ number, Keeps count (f number))
    (numbers : List Nat) :
  Keeps count (numbers.mapM f)
  := (keeping count).gives_imp ((keeping count).gives_mapM fun number _ => hf number)
    fun _ _ => trivial

/-- To look a node up changes nothing. -/
theorem keeps_nodeAt (number : Nat) :
  Keeps count (nodeAt number)
  := keeps_get.bind fun _ => keeps_pure _

/-- To look the entries of a map up changes nothing. -/
theorem keeps_entriesOf (number : Nat) :
  Keeps count (entriesOf number)
  := by
  refine (keeps_nodeAt number).bind fun node => ?_
  split
  · apply keeps_pure
  · apply keeps_pure

/-- Another node in the place of one changes nothing of the scalars, which are noted apart. -/
theorem keeps_setNode (number : Nat) (node : Node) :
  Keeps count (setNode number node)
  := keeps_modify fun _ hb => ⟨Array.size_setIfInBounds.trans hb.size, hb.sealed⟩

/-- The entries of a map may be replaced: they are no scalars. -/
theorem keeps_setEntries (number : Nat) (entries : List (Nat × Nat)) :
  Keeps count (setEntries number entries)
  := (keeps_nodeAt number).bind fun _ => keeps_setNode number _

/-! ### Entries taken over -/

section

variable {flatten : Nat → Build Unit} (hflatten : ∀ number, Keeps count (flatten number))

include hflatten

/-- Taking over the entries of another map changes entries only. -/
theorem keeps_entriesTaken (number : Nat) :
  Keeps count (entriesTaken flatten number)
  := by
  refine (keeps_nodeAt number).bind fun node => ?_
  split
  · exact (hflatten number).bind fun _ => keeps_entriesOf number
  · apply keeps_throw

/-- Taking over the entries of some maps, one after another, changes entries only. -/
theorem keeps_takenOver (number n index : Nat) :
  Keeps count (takenOver flatten number n index)
  := by
  induction n generalizing index with
  | zero => exact keeps_pure []
  | succ n ih =>
    refine (keeps_entriesOf number).bind fun entries => ?_
    split
    case h_1 => apply keeps_pure
    case h_2 key value _ =>
      refine (keeps_nodeAt key).bind fun node => ?_
      split
      case h_1 =>
        refine (keeps_setEntries number _).bind fun _ => (keeps_nodeAt value).bind fun other => ?_
        extract_lets append
        have happend : ∀ taken, Keeps count (append taken) := fun taken =>
          (ih index).bind fun _ => keeps_pure _
        split
        · exact (keeps_mapM (keeps_entriesTaken hflatten) _).bind fun _ =>
            (keeps_pure _).bind happend
        · exact (keeps_entriesTaken hflatten value).bind happend
      case h_2 => exact (keeps_setNode key _).bind fun _ => ih (index + 1)
      case h_3 => exact ih (index + 1)

end

/-- Maps are flattened by taking over entries.  The induction is on the number of steps, since a map
may be its own merge. -/
theorem keeps_flatten (bound n number : Nat) :
  Keeps count (flatten bound n number)
  := by
  induction n generalizing number with
  | zero => exact keeps_pure ()
  | succ n ih =>
    refine (keeps_takenOver ih number bound 0).bind fun taken => ?_
    split
    · exact (keeps_entriesOf number).bind fun _ => keeps_setEntries number _
    · apply keeps_pure

/-! ### Scalars and collections -/

/-- Reading the text of a key changes nothing. -/
theorem keeps_textAt (n number : Nat) :
  Keeps count (textAt n number)
  := by
  induction n generalizing number with
  | zero => apply keeps_throw
  | succ n ih =>
    refine (keeps_nodeAt number).bind fun node => ?_
    split
    case h_1 => apply keeps_pure
    case h_2 => apply keeps_throw
    case h_3 =>
      refine Keeps.bind ((keeping count).gives_filterM fun entry _ => ?_) fun defaults => ?_
      · exact (keeps_nodeAt entry.1).bind fun _ => keeps_pure _
      · split
        · apply ih
        · apply keeps_throw

/-- A scalar that is made of a node is a value without parts. -/
theorem scalarAt_gives (number : Nat) :
  (keeping count).gives IsSealed (scalarAt number)
  := by
  refine (keeping count).gives_bind keeps_get fun b _ => ?_
  refine (keeping count).gives_bind (keeps_textAt _ number) fun text _ => ?_
  refine (keeping count).gives_bind (keeps_nodeAt number) fun node _ => ?_
  split
  · apply Contract.gives_throw
  · exact Contract.gives_lift _ fun v hv => Tag.isSealed_scalarValue hv

/-- The way to the values of a node leaves the scalars as they are. -/
theorem keeps_reach (number : Nat) :
  Keeps count (reach number)
  := by
  refine keeps_get.bind fun b => ?_
  split
  · apply keeps_pure
  · refine (keeps_nodeAt number).bind fun node => ?_
    extract_lets tag finish
    have hfinish : ∀ u, Keeps count (finish u) := fun _ =>
      keeps_modify fun _ hb => ⟨hb.size, hb.sealed⟩
    split
    · refine Keeps.bind (keeps_modify ?_) hfinish
      exact fun _ hb => ⟨hb.size, hb.sealed⟩
    · split
      · exact (keeps_throw _).bind hfinish
      · refine (keeping count).gives_bind (scalarAt_gives number) fun v hv => ?_
        exact Keeps.bind (keeps_modify fun b hb => ⟨hb.size, hb.sealed.note number hv⟩) hfinish

/-- Entering a collection changes no scalars. -/
theorem keeps_enter (number : Nat) :
  Keeps count (enter number)
  := by
  refine (keeps_nodeAt number).bind fun node => ?_
  split
  case h_1 => exact keeps_forM keeps_reach _
  case h_2 =>
    refine keeps_forM (fun item => (keeps_nodeAt item).bind fun node => ?_) _
    split
    · exact (keeps_reach _).bind fun _ => keeps_reach _
    · apply keeps_throw
  case h_3 | h_4 =>
    refine keeps_get.bind fun b => ?_
    extract_lets bound
    refine (keeps_flatten _ _ number).bind fun _ => (keeps_entriesOf number).bind fun entries => ?_
    refine (keeping count).gives_forM fun entry _ => ?_
    refine (keeps_reach entry.1).bind fun _ => (keeps_nodeAt entry.1).bind fun key => ?_
    extract_lets next
    split
    · exact (keeps_throw _).bind fun _ => keeps_reach entry.2
    · exact keeps_reach entry.2
  case h_5 => apply keeps_throw

/-- Entering collections until no new ones are found changes no scalars. -/
theorem keeps_enterAll (n : Nat) :
  Keeps count (enterAll n)
  := by
  induction n with
  | zero => exact keeps_pure ()
  | succ n ih =>
    refine keeps_get.bind fun b => ?_
    extract_lets level
    split
    · apply keeps_pure
    · refine Keeps.bind (keeps_modify ?_) fun _ => (keeps_forM keeps_enter level).bind fun _ => ih
      exact fun _ hb => ⟨hb.size, hb.sealed⟩

/-! ### Values -/

/-- The value of a node is closed if the values of the nodes in it are, where `around` are the
numbers around a value on a way to it, and a mark takes its number from these. -/
theorem valueWith_gives {m : Type → Type} [Monad m] [LawfulMonad m] (c : Contract m) {b : Building}
    (hb : AllNoted IsSealed b.scalars) {inside : List Nat → Nat → m Value}
    {mark : Nat → Value → Value} {number : Nat} (around : List Nat → List Nat)
    (hinside : number < b.nodes.size → ∀ way other, number ∈ way →
      c.gives (IsClosedIn (around way)) (inside way other))
    (hmark : ∀ n way v, v.IsCollection → v.IsClosedIn (around (n :: way)) →
      (mark n v).IsClosedIn (around way)) :
  c.gives (IsClosedIn (around [])) (b.valueWith inside mark number)
  := by
  unfold valueWith
  extract_lets node
  -- only a node of the document leads to others
  have hnumber (hnode : node.tag ≠ .null) : number < b.nodes.size := by
    by_contra hlarge
    apply hnode
    unfold node
    rw [Array.getElem?_eq_none (Nat.not_lt.mp hlarge)]
    rfl
  have hpart (hnode : node.tag ≠ .null) (other : Nat) :=
    hinside (hnumber hnode) [number] other List.mem_cons_self
  split
  case h_1 items htag _ =>
    have hitems := c.gives_mapM fun other (_ : other ∈ items) => hpart (by simp [htag]) other
    refine c.gives_bind hitems fun vs hvs => c.gives_pure ?_
    exact hmark number [] _ trivial (.list hvs)
  case h_2 items htag _ =>
    have hsize := hnumber (by simp [htag])
    refine c.gives_bind (c.gives_mapM (q := IsClosedIn (around [number])) fun item _ => ?_)
      fun vs hvs => c.gives_pure (hmark number [] _ trivial (.list hvs))
    split
    · extract_lets within
      have hwithin (other : Nat) := hinside hsize [item, number] other (by simp)
      refine c.gives_bind (hwithin _) fun first hfirst => ?_
      refine c.gives_bind (hwithin _) fun second hsecond => c.gives_pure ?_
      exact hmark item [number] _ trivial (.pair hfirst hsecond)
    · exact c.gives_pure (.sealed trivial)
  case h_3 entries htag _ =>
    refine c.gives_bind (c.gives_mapM (q := fun e => IsClosedIn (around [number]) e.2)
      fun entry _ => ?_) fun es hes => c.gives_pure ?_
    · refine c.gives_bind (hpart (by simp [htag]) entry.1) fun key _ => ?_
      exact c.gives_bind (hpart (by simp [htag]) entry.2) fun v hv => c.gives_pure hv
    · exact hmark number [] _ trivial (isClosedIn_ofEntries hes)
  case h_4 entries htag _ =>
    have hitems := c.gives_mapM fun (entry : Nat × Nat) (_ : entry ∈ entries) =>
      hpart (by simp [htag]) entry.1
    exact c.gives_bind hitems fun _ _ => c.gives_pure (.sealed trivial)
  case h_5 =>
    apply c.gives_pure
    cases hv : b.scalars[number]?.join with
    | none => exact .sealed trivial
    | some v => exact .sealed (hb number v (Option.join_eq_some_iff.mp hv))

/-- The nodes of a document that are not among those around a value. -/
def others (b : Building) (around : List Nat) : Finset Nat :=
  (Finset.range b.nodes.size).filter (· ∉ around)

/-- Going into a node that is not on the way yet leaves fewer others, which bounds the depth of the
value. -/
theorem card_others_lt {b : Building} {around way : List Nat} {number : Nat}
    (hnumber : number < b.nodes.size) (hnot : number ∉ around) (hway : number ∈ way) :
  (b.others (way ++ around)).card < (b.others around).card
  := by
  apply Finset.card_lt_card
  rw [Finset.ssubset_iff_of_subset]
  · use number
    simp [others, hnumber, hnot, hway]
  · intro other hother
    simp only [others, Finset.mem_filter, List.mem_append, not_or] at hother ⊢
    exact ⟨hother.1, hother.2.2⟩

/-- A value that is nested deep enough is closed among those around it: the bound is never reached,
since each step leads to another node or to a mark. -/
theorem isClosedIn_numberedValue {b : Building} (hb : AllNoted IsSealed b.scalars) {n : Nat}
    {around : List Nat} (hn : (b.others around).card < n) (number : Nat) :
  (b.numberedValue n around number).IsClosedIn around
  := by
  induction n generalizing around number with
  | zero => contradiction
  | succ n ih =>
    unfold numberedValue
    split
    case isTrue h => exact .again (by simpa using h)
    case isFalse h =>
      have hnot : number ∉ around := by simpa using h
      extract_lets inside
      refine valueWith_gives .id hb (· ++ around) (fun hnumber way other hway => ?_)
        fun m way v hv hclosed => .loop hv hclosed
      have hless := card_others_lt hnumber hnot hway
      exact ih (by omega) other

/-- However a value is worked out, it is closed if those that are known already are. -/
theorem sharedValue_gives {b : Building} (hb : AllNoted IsSealed b.scalars) (n number : Nat) :
  (Contract.id.stateful (AllNoted IsClosed)).gives IsClosed (b.sharedValue n number)
  := by
  induction n generalizing number with
  | zero => exact Contract.gives_pure _ (.sealed trivial)
  | succ n ih =>
    unfold sharedValue
    refine Contract.gives_bind _ (Contract.gives_get _) fun known hknown => ?_
    split
    case h_1 v hv => exact Contract.gives_pure _ (hknown number v (Option.join_eq_some_iff.mp hv))
    case h_2 =>
      refine Contract.gives_bind _ (valueWith_gives _ hb (fun _ => [])
        (fun _ _ other _ => ih other) fun _ _ _ _ hv => hv) fun v hv => ?_
      refine Contract.gives_then _ (Contract.gives_modify _ ?_) (Contract.gives_pure _ hv)
      exact fun known hknown => hknown.note number hv

end Building

/-- The values of a document are closed. -/
theorem Document.isClosed_value {d : Document} {v : Value} (h : d.value = .ok v) :
  v.IsClosed
  := by
  unfold value at h
  extract_lets count start build at h
  obtain ⟨⟨_, b⟩, hbuild, h⟩ := exists_of_bind_eq_ok h
  have hstart : Building.HasScalars count start := ⟨rfl, Building.allNoted_replicate _ _⟩
  have hb : Building.HasScalars count b := by
    have hkeeps : Building.Keeps count build :=
      (Building.keeps_reach d.root).bind fun _ => Building.keeps_enterAll _
    exact (hkeeps start hstart _ hbuild).2
  dsimp only at h
  split at h
  · obtain rfl := Except.ok.inj h
    apply Building.isClosedIn_numberedValue hb.sealed
    rw [Building.others, hb.size]
    exact Nat.lt_succ_of_le ((Finset.card_filter_le _ _).trans (Finset.card_range count).le)
  · obtain rfl := Except.ok.inj h
    exact (Building.sharedValue_gives hb.sealed (count + 1) d.root _
      (Building.allNoted_replicate _ _)).1

/-- A value that is loaded from a text is closed. -/
theorem isClosed_load {text : String} {v : Value} (h : load text = .ok v) :
  v.IsClosed
  := by
  unfold load at h
  obtain ⟨found, -, h⟩ := exists_of_bind_eq_ok h
  cases found with
  | none =>
    obtain rfl := Except.ok.inj h
    exact .sealed trivial
  | some d => exact d.isClosed_value h

/-- All values that the loader gives are closed. -/
def Loader.IsClosed (loadYaml : Loader) : Prop :=
  ∀ text v, loadYaml text = .ok v → v.IsClosed

/-- The loader gives closed values only. -/
theorem isClosed_loader :
  loader.IsClosed
  := fun _ _ h => isClosed_load (mapError_eq_ok_iff.mp h)

end DocTable.Yaml
