import DocTable.Json.Reader
import DocTable.Proofs.Json.Token
import Mathlib.Data.List.Induction

/-!
# Reading a document back

The text of a document is read as the value of the document, with the names of its objects in their
order, if the document is within the depth of the reader.  Texts that are read alike are therefore
texts of one document.
-/

namespace DocTable

namespace Value

theorem putEntry_new {k : Value} {es : List (Value × Value)}
    (h : ∀ e ∈ es, e.1.isSameKey k = false) (v : Value) :
  putEntry k v es = es ++ [(k, v)]
  := by
  induction es with
  | nil => rfl
  | cons e es ih =>
    rw [List.forall_mem_cons] at h
    rw [putEntry, h.1, if_neg Bool.false_ne_true, ih h.2, List.cons_append]

end Value

namespace Json

namespace Document

/-- A reader with this depth reads the tokens of a document as its value. -/
def IsReadWithin (depth : Nat) (d : Document) : Prop :=
  ∀ n rest, 2 * d.tokens.length ≤ n → value depth n (d.tokens ++ rest) = .ok (d.toValue, rest)

/-- The items of an array are read up to the bracket after them. -/
theorem items_tokens {depth : Nat} {ds : List Document} (hds : ds ≠ [])
    (h : ∀ d ∈ ds, d.IsReadWithin depth) {n : Nat} (rest : List Token)
    (hn : 2 * ([.mark ','].intercalate (ds.map tokens)).length + 2 ≤ n) :
  items depth n ([.mark ','].intercalate (ds.map tokens) ++ .mark ']' :: rest)
    = .ok (ds.map toValue, rest)
  := by
  induction ds generalizing n with
  | nil => contradiction
  | cons d ds ih =>
    rw [List.forall_mem_cons] at h
    obtain _ | n := n
    · contradiction
    cases ds with
    | nil =>
      simp only [List.map_cons, List.map_nil, List.intercalate_singleton] at hn ⊢
      rw [items, h.1 n _ (by omega)]
      rfl
    | cons d' ds =>
      simp only [List.map_cons, List.intercalate_cons_cons, List.length_append, List.length_cons,
        List.append_assoc, List.singleton_append] at ih hn ⊢
      rw [items, h.1 n _ (by omega)]
      have hrest := @ih (by simp) h.2 n (by omega)
      simp only [bind, Except.bind, List.cons_append, hrest]
      rfl

/-- The fields of an object are read up to the bracket after them. -/
theorem fields_tokens {depth : Nat} {fs : List (String × Document)} (hfs : fs ≠ [])
    (h : ∀ f ∈ fs, f.2.IsReadWithin depth) {n : Nat} (rest : List Token)
    (hn : 2 * ([.mark ','].intercalate (fieldTokens fs)).length + 2 ≤ n) :
  fields depth n ([.mark ','].intercalate (fieldTokens fs) ++ .mark '\x7d' :: rest)
    = .ok (fieldValues fs, rest)
  := by
  induction fs generalizing n with
  | nil => contradiction
  | cons f fs ih =>
    rw [List.forall_mem_cons] at h
    obtain _ | n := n
    · contradiction
    cases fs with
    | nil =>
      simp only [fieldTokens, fieldValues, List.intercalate_singleton, List.length_cons,
        List.cons_append] at hn ⊢
      rw [fields, h.1 n _ (by omega)]
      simp [bind, Except.bind, pure, Except.pure]
    | cons f' fs =>
      simp only [fieldTokens, fieldValues, List.intercalate_cons_cons, List.length_append,
        List.length_cons, List.append_assoc, List.cons_append, List.nil_append] at ih hn ⊢
      rw [fields, h.1 n _ (by omega)]
      have hrest := @ih (by simp) h.2 n (by omega)
      simp only [bind, Except.bind, hrest]
      simp [Except.map]

/-- No item starts with the bracket at the end of an array. -/
theorem items_start {ds : List Document} (hds : ds ≠ []) (ts us : List Token) :
  [.mark ','].intercalate (ds.map tokens) ++ ts ≠ .mark ']' :: us
  := by
  have hstart (d : Document) (ts : List Token) : d.tokens ++ ts ≠ .mark ']' :: us := by
    cases d <;> simp [tokens]
  obtain _ | ⟨d, _ | ⟨d', ds⟩⟩ := ds
  · contradiction
  · rw [List.map_singleton, List.intercalate_singleton]
    apply hstart
  · rw [List.map_cons, List.map_cons, List.intercalate_cons_cons, List.append_assoc,
      List.append_assoc]
    apply hstart

/-- No field starts with the bracket at the end of an object. -/
theorem fields_start {fs : List (String × Document)} (hfs : fs ≠ []) (ts us : List Token) :
  [.mark ','].intercalate (fieldTokens fs) ++ ts ≠ .mark '\x7d' :: us
  := by
  obtain _ | ⟨f, _ | ⟨f', fs⟩⟩ := fs
  · contradiction
  · simp [fieldTokens]
  · simp [fieldTokens, List.intercalate_cons_cons]

theorem value_array {depth n : Nat} {ts : List Token} (hts : ∀ us, ts ≠ .mark ']' :: us) :
  value (depth + 1) (n + 1) (.mark '[' :: ts)
    = (items depth n ts).map fun (vs, rest) => (.list vs, rest)
  := by
  rw [value, if_neg (Nat.succ_ne_zero _)]
  · rfl
  · exact hts

theorem value_object {depth n : Nat} {ts : List Token} (hts : ∀ us, ts ≠ .mark '\x7d' :: us) :
  value (depth + 1) (n + 1) (.mark '\x7b' :: ts)
    = (fields depth n ts).map fun (es, rest) => (.ofEntries es, rest)
  := by
  rw [value, if_neg (Nat.succ_ne_zero _)]
  · rfl
  · exact hts

/-- Fields with distinct names are a map as they stand. -/
theorem ofEntries_fieldValues {fs : List (String × Document)} (h : (fs.map Prod.fst).Nodup) :
  Value.ofEntries (fieldValues fs) = .map (fieldValues fs)
  := by
  rw [Value.ofEntries, Value.map.injEq, fieldValues_eq_map]
  induction fs using List.reverseRecOn with
  | nil => rfl
  | append_singleton fs f ih =>
    rw [List.map_append, List.nodup_append] at h
    rw [List.map_append, List.foldl_append, ih h.1]
    apply Value.putEntry_new
    intro e he
    obtain ⟨f', hf', rfl⟩ := List.mem_map.mp he
    have hname := h.2.2 f'.1 (List.mem_map_of_mem hf') f.1 (by simp)
    simpa [Value.isSameKey] using hname

/-- A reader gives back the documents within its depth. -/
theorem Within.isRead {depth : Nat} {d : Document} (h : d.Within depth) :
  d.IsReadWithin depth
  := by
  induction h with
  | text s =>
    rintro (_ | n) rest hn
    · contradiction
    · rw [tokens, List.singleton_append, value, String.ofList_toList, toValue]
  | @array depth items _ ih =>
    rintro (_ | n) rest hn
    · simp [tokens] at hn
    rw [toValue, itemValues_eq_map]
    simp only [tokens, itemTokens_eq_map, List.cons_append, List.append_assoc, List.nil_append,
      List.length_cons, List.length_append, List.length_nil] at hn ⊢
    by_cases hitems : items = []
    · subst hitems
      rfl
    · rw [value_array (items_start hitems _), items_tokens hitems ih rest (by omega)]
      rfl
  | @object depth fields names _ ih =>
    rintro (_ | n) rest hn
    · simp [tokens] at hn
    rw [toValue]
    simp only [tokens, List.cons_append, List.append_assoc, List.nil_append, List.length_cons,
      List.length_append, List.length_nil] at hn ⊢
    by_cases hfields : fields = []
    · subst hfields
      rfl
    · rw [value_object (fields_start hfields _), fields_tokens hfields ih rest (by omega)]
      exact congrArg (fun v => Except.ok (v, rest)) (ofEntries_fieldValues names)

/-- The text of a document is read as its value. -/
theorem read_indented {d : Document} (h : d.Within deepest) :
  read (d.indented ++ "\n") = .ok d.toValue
  := by
  have hvalue := h.isRead (2 * d.tokens.length + 1) [] (by omega)
  rw [List.append_nil] at hvalue
  simp only [read, tokens_indented, hvalue, bind, Except.bind, pure, Except.pure]

end Document

end Json

end DocTable
