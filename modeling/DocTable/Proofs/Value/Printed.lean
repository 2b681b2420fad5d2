import DocTable.Proofs.Failing
import DocTable.Proofs.Value.Within
import DocTable.Value.Printed

/-!
# Values that can be printed

A value has a plain text unless an integer in it has too many digits (`IsWritable`).  To be printed
as JSON it must besides hold neither itself nor a value without a form in JSON (`HasJson`).
-/

namespace DocTable

namespace Value

/-- Every integer in the value has few enough digits to be written. -/
def IsWritable (v : Value) : Prop :=
  ∀ n, (int n).Within v → Decimal.digitCount n.natAbs ≤ Decimal.longestInteger

/-- A value that may be the key of an object. -/
def IsObjectKey : Value → Prop
  | text _ | null | bool _ | int _ | float _ => True
  | _ => False

/-- A date, a moment, some bytes or a set. -/
def IsOpaque : Value → Prop
  | date _ | dateTime _ | bytes _ | set _ => True
  | _ => False

/-- JSON has a form for the value. -/
structure HasJson (v : Value) : Prop where
  forms : ∀ w : Value, w.Within v → ¬w.IsOpaque
  keys : ∀ entries, (map entries).Within v → ∀ e ∈ entries, e.1.IsObjectKey
  /-- There is no mark of a place where some value holds itself. -/
  ends : ∀ number, ¬(again number).Within v
  /-- A value that might hold itself does not occur in itself. -/
  finite : ∀ number body, (loop number body).Within v → ∀ other, ¬(loop number other).Within body

/-- A value of a kind that is printed as JSON has a form in JSON. -/
def IsPrintable (v : Value) : Prop :=
  match v with
  | list _ | pair _ _ | map _ | loop _ _ => v.HasJson
  | _ => True

/-! ### Parts -/

theorem IsWritable.of_within {v w : Value} (h : v.IsWritable)
    (hw : ∀ n, (int n).Within w → (int n).Within v) :
  w.IsWritable
  := fun n hn => h n (hw n hn)

theorem IsWritable.unfold {v : Value} (h : v.IsWritable) :
  v.unfold.IsWritable
  := h.of_within fun _ => Within.of_unfold

theorem HasJson.of_within {v w : Value} (h : v.HasJson)
    (hw : ∀ u : Value, u.Within w → u.Within v) :
  w.HasJson where
  forms u hu := h.forms u (hw u hu)
  keys entries hentries := h.keys entries (hw _ hentries)
  ends number hnumber := h.ends number (hw _ hnumber)
  finite number body hbody := h.finite number body (hw _ hbody)

/-! ### Plain texts -/

theorem integerText_ok {n : Int} (h : Decimal.digitCount n.natAbs ≤ Decimal.longestInteger) :
  integerText n = .ok (toString n)
  := by
  rw [integerText, Decimal.integerText?, if_neg (Nat.not_lt.mpr h)]

theorem literals_eq_mapM (around : List (Nat × String)) (items : List Value) :
  literals around items = items.mapM (literal around)
  := by
  induction items with
  | nil => rfl
  | cons v vs ih => rw [literals, ih, List.mapM_cons]

theorem entryLiterals_eq_mapM (around : List (Nat × String)) (entries : List (Value × Value)) :
  entryLiterals around entries
    = entries.mapM fun e => do return (← e.1.literal around) ++ ": " ++ (← e.2.literal around)
  := by
  induction entries with
  | nil => rfl
  | cons e es ih =>
    rw [entryLiterals, ih, List.mapM_cons]
    simp only [bind_assoc, pure_bind]

/-- A value of which all integers can be written has a literal. -/
theorem IsWritable.literal {P : Unprintable → Prop} {v : Value} (h : v.IsWritable)
    (around : List (Nat × String)) :
  FailsOnly P (v.literal around)
  := by
  induction v generalizing around with
  | int n =>
    rw [Value.literal, integerText_ok (h n .here)]
    apply failsOnly_ok
  | list items ih =>
    rw [Value.literal, literals_eq_mapM]
    refine (failsOnly_mapM fun v hv => ?_).bind fun _ _ => failsOnly_ok _
    exact ih v hv (h.of_within fun _ => .item hv) around
  | pair first second ihfirst ihsecond =>
    rw [Value.literal]
    refine (ihfirst (h.of_within fun _ => .first second) around).bind fun _ _ => ?_
    exact (ihsecond (h.of_within fun _ => .second first) around).bind fun _ _ => failsOnly_ok _
  | set items ih =>
    rw [Value.literal, literals_eq_mapM]
    split
    · apply failsOnly_ok
    · refine (failsOnly_mapM fun v hv => ?_).bind fun _ _ => failsOnly_ok _
      exact ih v hv (h.of_within fun _ => .element hv) around
  | map entries ih =>
    rw [Value.literal, entryLiterals_eq_mapM]
    refine (failsOnly_mapM fun e he => ?_).bind fun _ _ => failsOnly_ok _
    refine ((ih e he).1 (h.of_within fun _ => .key he) around).bind fun _ _ => ?_
    exact ((ih e he).2 (h.of_within fun _ => .value he) around).bind fun _ _ => failsOnly_ok _
  | loop number body ih =>
    rw [Value.literal]
    split
    · apply failsOnly_ok
    · exact ih (h.of_within fun _ => .body number) _
  | _ => rw [Value.literal]; apply failsOnly_ok

theorem IsWritable.plain {P : Unprintable → Prop} {v : Value} (h : v.IsWritable) :
  FailsOnly P v.plain
  := by
  rw [Value.plain.eq_def]
  split
  case h_1 | h_2 | h_3 => apply failsOnly_ok
  case h_4 => exact h.literal []

/-! ### JSON -/

end Value

namespace Json

theorem compactItems_eq_mapM (around : List Nat) (items : List Value) :
  compactItems around items = items.mapM (compact around)
  := by
  induction items with
  | nil => rfl
  | cons v vs ih => rw [compactItems, ih, List.mapM_cons]

theorem compactEntries_eq_mapM (around : List Nat) (entries : List (Value × Value)) :
  compactEntries around entries
    = entries.mapM fun e => do return (← key e.1) ++ ":" ++ (← compact around e.2)
  := by
  induction entries with
  | nil => rfl
  | cons e es ih =>
    rw [compactEntries, ih, List.mapM_cons]
    simp only [bind_assoc, pure_bind]

theorem failsOnly_key {P : Unprintable → Prop} {v : Value} (hwritable : v.IsWritable)
    (hkey : v.IsObjectKey) :
  FailsOnly P (key v)
  := by
  cases v with
  | int n =>
    rw [key, Value.integerText_ok (hwritable n .here)]
    apply failsOnly_ok
  | null | bool | float | text => apply failsOnly_ok
  | _ => exact hkey.elim

/-- A value that can be written inside the values with the numbers `around`: JSON has a form for it,
and none of these values occurs in it. -/
structure IsCompactable (around : List Nat) (v : Value) : Prop where
  writable : v.IsWritable
  json : v.HasJson
  outside : ∀ number ∈ around, ∀ body, ¬(Value.loop number body).Within v

theorem IsCompactable.of_within {around : List Nat} {v w : Value} (h : IsCompactable around v)
    (hw : ∀ u : Value, u.Within w → u.Within v) :
  IsCompactable around w where
  writable := h.writable.of_within fun _ => hw _
  json := h.json.of_within hw
  outside number hnumber body hbody := h.outside number hnumber body (hw _ hbody)

theorem IsCompactable.body {around : List Nat} {number : Nat} {body : Value}
    (h : IsCompactable around (.loop number body)) :
  IsCompactable (number :: around) body where
  writable := h.writable.of_within fun _ => .body number
  json := h.json.of_within fun _ => .body number
  outside other hother inner hinner := by
    obtain rfl | hother := List.mem_cons.mp hother
    · exact h.json.finite other body .here inner hinner
    · exact h.outside other hother inner (.body number hinner)

/-- A value that JSON has a form for is written, unless it occurs in a value around it. -/
theorem failsOnly_compact {P : Unprintable → Prop} {v : Value} {around : List Nat}
    (h : IsCompactable around v) :
  FailsOnly P (compact around v)
  := by
  induction v generalizing around with
  | null | bool | float | text => rw [compact]; apply failsOnly_ok
  | int n =>
    rw [compact, Value.integerText_ok (h.writable n .here)]
    apply failsOnly_ok
  | date | dateTime | bytes | set => exact (h.json.forms _ .here trivial).elim
  | list items ih =>
    rw [compact, compactItems_eq_mapM]
    refine (failsOnly_mapM fun v hv => ?_).bind fun _ _ => failsOnly_ok _
    exact ih v hv (h.of_within fun _ => .item hv)
  | pair first second ihfirst ihsecond =>
    rw [compact]
    refine (ihfirst (h.of_within fun _ => .first second)).bind fun _ _ => ?_
    exact (ihsecond (h.of_within fun _ => .second first)).bind fun _ _ => failsOnly_ok _
  | map entries ih =>
    rw [compact, compactEntries_eq_mapM]
    refine (failsOnly_mapM fun e he => ?_).bind fun _ _ => failsOnly_ok _
    have hkey := failsOnly_key (P := P) (h.of_within fun _ => .key he).writable
      (h.json.keys entries .here e he)
    refine hkey.bind fun _ _ => ?_
    exact ((ih e he).2 (h.of_within fun _ => .value he)).bind fun _ _ => failsOnly_ok _
  | loop number body ih =>
    rw [compact]
    split
    case isTrue hmem =>
      have hnumber : number ∈ around := by simpa using hmem
      exact (h.outside number hnumber body .here).elim
    case isFalse => exact ih h.body
  | again number => exact (h.json.ends number .here).elim

end Json

namespace Value

theorem IsWritable.printed {P : Unprintable → Prop} {v : Value} (hwritable : v.IsWritable)
    (hprintable : v.IsPrintable) :
  FailsOnly P v.printed
  := by
  cases v with
  | null | bool | text => apply failsOnly_ok
  | list | pair | map | loop => exact Json.failsOnly_compact ⟨hwritable, hprintable, nofun⟩
  | _ => exact hwritable.plain

end Value

end DocTable
