import DocTable.Json.Reader
import DocTable.Proofs.Contract
import DocTable.Proofs.Failing
import DocTable.Proofs.Value.Closed

/-!
# Values of JSON texts are closed

No value of a JSON text holds itself, and so none has a mark: it is closed (`isClosed_read`).
-/

namespace DocTable.Json

open Value

/-- A bare word stands for a value without parts. -/
theorem isSealed_wordValue {w : List Char} {v : Value} (h : wordValue w = .ok v) :
  v.IsSealed
  := by
  unfold wordValue at h
  split_ifs at h
  all_goals exact Except.ok.inj h ▸ trivial

/-- What is read with at most `n` steps is closed. -/
structure ReadsClosed (n : Nat) : Prop where
  value : ∀ depth ts, (Contract.except Fault).gives (fun r => r.1.IsClosed) (value depth n ts)
  items : ∀ depth ts,
    (Contract.except Fault).gives (fun r => ∀ v ∈ r.1, v.IsClosed) (items depth n ts)
  fields : ∀ depth ts,
    (Contract.except Fault).gives (fun r => ∀ e ∈ r.1, e.2.IsClosed) (fields depth n ts)

variable {n : Nat}

/-- If all values of `n` steps are closed, then so are those of one step more: the parts of a list
or a map are read in fewer steps. -/
theorem ReadsClosed.value_succ (h : ReadsClosed n) (depth : Nat) (ts : List Token) :
  (Contract.except Fault).gives (fun r => r.1.IsClosed) (Json.value depth (n + 1) ts)
  := by
  have hscalar (v : Value) (hv : v.IsSealed) (ts : List Token) :
      (Contract.except Fault).gives (fun r => r.1.IsClosed) (.ok (v, ts)) :=
    (Contract.except Fault).gives_pure (.sealed hv)
  rw [Json.value.eq_def]
  split
  case h_1 | h_2 | h_6 | h_10 | h_11 => apply Contract.except_gives_error
  case h_3 w ts hn =>
    exact Contract.except_gives_map (fun _ hv => isSealed_wordValue hv) fun _ hv => .sealed hv
  case h_4 | h_5 | h_7 => exact hscalar _ (by trivial) _
  case h_8 k ts hn =>
    obtain rfl := Nat.succ.inj hn
    split
    · apply Contract.except_gives_error
    · split
      · exact (Contract.except Fault).gives_pure (.list nofun)
      · exact Contract.except_gives_map (h.items (depth - 1) _) fun _ hvs => .list hvs
  case h_9 k ts hn =>
    obtain rfl := Nat.succ.inj hn
    split
    · apply Contract.except_gives_error
    · split
      · exact (Contract.except Fault).gives_pure (.map nofun)
      · exact Contract.except_gives_map (h.fields (depth - 1) _) fun _ hes =>
          isClosedIn_ofEntries hes

/-- The items of a list are closed if the values of fewer steps are. -/
theorem ReadsClosed.items_succ (h : ReadsClosed n) (depth : Nat) (ts : List Token) :
  (Contract.except Fault).gives (fun r => ∀ v ∈ r.1, v.IsClosed) (Json.items depth (n + 1) ts)
  := by
  refine (Contract.except Fault).gives_bind (h.value depth ts) fun r hr => ?_
  split
  case h_1 v rest =>
    exact (Contract.except Fault).gives_pure (List.forall_mem_singleton.mpr hr)
  case h_2 v rest =>
    exact Contract.except_gives_map (h.items depth rest) fun _ hvs =>
      List.forall_mem_cons.mpr ⟨hr, hvs⟩
  case h_3 => apply Contract.except_gives_error

/-- The values of the fields of a map are closed if the values of fewer steps are. -/
theorem ReadsClosed.fields_succ (h : ReadsClosed n) (depth : Nat) (ts : List Token) :
  (Contract.except Fault).gives (fun r => ∀ e ∈ r.1, e.2.IsClosed) (Json.fields depth (n + 1) ts)
  := by
  rw [Json.fields.eq_def]
  split
  case h_1 k key ts hn =>
    obtain rfl := Nat.succ.inj hn
    refine (Contract.except Fault).gives_bind (h.value depth ts) fun r hr => ?_
    split
    case h_1 => exact (Contract.except Fault).gives_pure (List.forall_mem_singleton.mpr hr)
    case h_2 v rest =>
      exact Contract.except_gives_map (h.fields depth rest) fun _ hes =>
        List.forall_mem_cons.mpr ⟨hr, hes⟩
    case h_3 => apply Contract.except_gives_error
  case h_2 => apply Contract.except_gives_error

/-- Whatever the number of steps is, what is read is closed.  The induction is on this number, for
values, items and fields together. -/
theorem readsClosed (n : Nat) :
  ReadsClosed n
  := by
  induction n with
  | zero =>
    refine ⟨fun _ _ => ?_, fun _ _ => ?_, fun _ _ => ?_⟩
    · apply Contract.except_gives_error
    · apply Contract.except_gives_error
    · apply Contract.except_gives_error
  | succ n ih => exact ⟨ih.value_succ, ih.items_succ, ih.fields_succ⟩

/-- A value that is read from a text is closed. -/
theorem isClosed_read {s : String} {v : Value} (h : read s = .ok v) :
  v.IsClosed
  := by
  obtain ⟨r, hr, h⟩ := exists_of_bind_eq_ok h
  have hclosed := (readsClosed _).value _ _ r hr
  split at h
  · obtain rfl := Except.ok.inj h
    exact hclosed
  · contradiction

end DocTable.Json
