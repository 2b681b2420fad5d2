import DocTable.Inspection
import DocTable.Proofs.Catalog.Repeat
import DocTable.Proofs.Logged

/-!
# Inspections are all or nothing

`inspect` carries a call out on the catalog in place, so that whatever a failing call has done to
the catalog stays done.  `Reads` says which symbols a call collects: those of all accepted files
below its target, in the order of the scan, each file read by the first introspector that accepts
it.

A call that fails has done nothing to the catalog, and a call that succeeds has put exactly the
batch into it that it reads (`inspect_all_or_nothing`).
-/

namespace DocTable

variable {ε : Type}

/-! ### The files of a scan -/

namespace FileTree

theorem accepts_of_mem_ownFiles {accepts : Path → Bool} {here file : Path}
    {entries : List (String × FileTree)} (h : file ∈ ownFiles accepts here entries) :
  accepts file
  := (List.mem_filter.mp h).2

mutual

/-- Every file that is listed is accepted. -/
theorem accepts_of_mem_filesBelow {accepts : Path → Bool} {exclude : List String}
    {here file : Path} {tree : FileTree} (h : file ∈ filesBelow accepts exclude here tree) :
  accepts file
  := by
  cases tree with
  | file contents =>
    rw [filesBelow] at h
    contradiction
  | directory entries =>
    rw [filesBelow, List.mem_append] at h
    obtain h | h := h
    · apply accepts_of_mem_ownFiles h
    · obtain ⟨part, hpart, hfile⟩ := List.mem_flatMap.mp h
      apply accepts_of_mem_partsBelow (List.mem_mergeSort.mp hpart) hfile

theorem accepts_of_mem_partsBelow {accepts : Path → Bool} {exclude : List String}
    {here file : Path} {entries : List (String × FileTree)} {part : String × List Path}
    (hpart : part ∈ partsBelow accepts exclude here entries) (h : file ∈ part.2) :
  accepts file
  := by
  cases entries with
  | nil =>
    rw [partsBelow] at hpart
    contradiction
  | cons entry entries =>
    rw [partsBelow] at hpart
    split at hpart
    · apply accepts_of_mem_partsBelow hpart h
    · obtain rfl | hpart := List.mem_cons.mp hpart
      · apply accepts_of_mem_filesBelow h
      · apply accepts_of_mem_partsBelow hpart h

end

end FileTree

/-- Every file of a scan is accepted. -/
theorem Disk.accepts_of_scan {disk : Disk} {accepts : Path → Bool} {exclude : List String}
    {root : Path} {files : List Path} (h : disk.scan accepts exclude root = .ok files) :
  ∀ file ∈ files, accepts file
  := by
  intro file hfile
  rw [scan] at h
  split at h
  case h_1 => contradiction
  case h_2 => contradiction
  case h_3 tree _ =>
    split at h
    · obtain rfl := Except.ok.inj h
      apply FileTree.accepts_of_mem_filesBelow hfile
    · contradiction

/-- A directory that can be scanned is there. -/
theorem Disk.hasPath_of_scan {disk : Disk} {accepts : Path → Bool} {exclude : List String}
    {root : Path} {files : List Path} (h : disk.scan accepts exclude root = .ok files) :
  disk.hasPath root = .ok true
  := by
  rw [scan] at h
  rw [hasPath]
  split at h
  case h_1 => contradiction
  case h_2 => contradiction
  case h_3 tree htree =>
    rw [htree]
    rfl

/-! ### The introspector of a file -/

/-- The introspector `i` is the first of a list that accepts a file. -/
def Introspector.IsFirst (introspectors : List (Introspector ε)) (file : Path)
    (i : Introspector ε) : Prop :=
  ∃ before after, introspectors = before ++ i :: after
    ∧ i.accepts file ∧ ∀ j ∈ before, ¬ j.accepts file

theorem Introspector.select?_eq_some_iff {introspectors : List (Introspector ε)} {file : Path}
    {i : Introspector ε} :
  select? introspectors file = some i ↔ IsFirst introspectors file i
  := by
  rw [select?, List.find?_eq_some_iff_append]
  constructor
  · rintro ⟨haccepts, before, after, h, hbefore⟩
    use before, after, h, haccepts
    simpa using hbefore
  · rintro ⟨before, after, h, haccepts, hbefore⟩
    use haccepts, before, after, h
    simpa using hbefore

namespace Inspection

/-! ### Calls -/

/-- A call that inspects a target, on the files as they are then. -/
structure Call (ε : Type) where
  setup : Setup ε
  /-- What was reported before the call. -/
  earlier : List Event := []
  target : String
  exclude : List String := []

/-- Reading files one after the other, after the events `earlier`, gives a batch: the symbols of
each file as the first introspector that accepts it reads them, their source files named from the
base directory on. -/
inductive FilesGive (setup : Setup ε) : List Event → List Path → List Symbol → Prop where
  | nil (earlier : List Event) : FilesGive setup earlier [] []
  | cons {earlier : List Event} {file : Path} {files : List Path} {i : Introspector ε}
      {found batch : List Symbol} (first : Introspector.IsFirst setup.introspectors file i)
      (reads : (i.inspect (setup.record setup.disk earlier) file).result = .ok found)
      (rest : FilesGive setup
        (earlier ++ ((i.inspect (setup.record setup.disk earlier) file).events
          ++ [.fileRead file found.length])) files batch) :
      FilesGive setup earlier (file :: files) (found.map (Symbol.relativeTo setup.base) ++ batch)

/-- The files that a call accepts, in the order of the scan, and the place of its target. -/
def Call.Accepts (call : Call ε) (place : Path) (files : List Path) : Prop :=
  targetOf call.setup call.target = .ok place
    ∧ call.setup.disk.scan (Introspector.anyAccepts call.setup.introspectors) call.exclude place
      = .ok files

/-- The batch that a call reads. -/
def Call.Reads (call : Call ε) (batch : List Symbol) : Prop :=
  ∃ place files, call.Accepts place files
    ∧ FilesGive call.setup (call.earlier ++ [.inspecting place]) files batch

/-- A call carried out on the catalog in place.  What a failing one has done to the catalog stays
done. -/
def inspect (call : Call ε) : EStateM (Failure ε) Catalog Unit := do
  let entered := enter call.setup call.target
  let place ← MonadExcept.ofExcept entered.result
  let found := collect call.setup (call.earlier ++ entered.events) call.exclude place
  let batch ← MonadExcept.ofExcept found.result
  (Catalog.merge batch).adaptExcept .conflict

/-- The catalog after a call, whether it succeeds or fails. -/
def after (catalog : Catalog) (call : Call ε) : Catalog :=
  match (inspect call).run catalog with
  | .ok _ next => next
  | .error _ next => next

/-- The catalog after some calls, one after the other. -/
def afterAll (catalog : Catalog) (calls : List (Call ε)) : Catalog :=
  calls.foldl after catalog

/-! ### What a call reads -/

section

variable {setup : Setup ε} {earlier : List Event} {file : Path} {i : Introspector ε}

theorem fileSymbols_of_ok {found : List Symbol}
    (first : Introspector.IsFirst setup.introspectors file i)
    (reads : (i.inspect (setup.record setup.disk earlier) file).result = .ok found) :
  fileSymbols setup earlier file
    = ⟨(i.inspect (setup.record setup.disk earlier) file).events
        ++ [.fileRead file found.length], .ok (found.map (Symbol.relativeTo setup.base))⟩
  := by
  rw [fileSymbols, Introspector.select?_eq_some_iff.mpr first]
  show Logged.andThen _ _ = _
  rw [Logged.andThen, Logged.mapError, reads]
  rfl

theorem exists_reads_of_fileSymbols {symbols : List Symbol}
    (first : Introspector.IsFirst setup.introspectors file i)
    (h : (fileSymbols setup earlier file).result = .ok symbols) :
  ∃ found, (i.inspect (setup.record setup.disk earlier) file).result = .ok found
    ∧ found.map (Symbol.relativeTo setup.base) = symbols
  := by
  cases hresult : (i.inspect (setup.record setup.disk earlier) file).result with
  | error cause =>
    rw [fileSymbols, Introspector.select?_eq_some_iff.mpr first] at h
    obtain ⟨found, hfound, -⟩ := Logged.result_bind_eq_ok_iff.mp h
    rw [Logged.mapError, hresult] at hfound
    contradiction
  | ok found =>
    rw [fileSymbols_of_ok first hresult] at h
    use found, rfl, Except.ok.inj h

/-- What is collected from accepted files, joined, is what they give. -/
theorem filesGive_iff {files : List Path}
    (haccepts : ∀ file ∈ files, Introspector.anyAccepts setup.introspectors file)
    (earlier : List Event) (batch : List Symbol) :
  FilesGive setup earlier files batch
    ↔ ∃ groups, (Logged.forAllAfter (fileSymbols setup) earlier files).result = .ok groups
      ∧ groups.flatten = batch
  := by
  induction files generalizing earlier batch with
  | nil =>
    constructor
    · rintro ⟨⟩
      use [], rfl
      rfl
    · rintro ⟨_, ⟨⟩, rfl⟩
      apply FilesGive.nil
  | cons file files ih =>
    obtain ⟨hfile, hfiles⟩ := List.forall_mem_cons.mp haccepts
    constructor
    · rintro (_ | ⟨first, reads, rest⟩)
      obtain ⟨groups, hgroups, rfl⟩ := (ih hfiles _ _).mp rest
      have hfound := fileSymbols_of_ok first reads
      refine ⟨_ :: groups, ?_, List.flatten_cons⟩
      rw [Logged.forAllAfter_cons_eq_ok_iff, hfound]
      exact ⟨_, groups, rfl, hgroups, rfl⟩
    · rintro ⟨_, hall, rfl⟩
      obtain ⟨symbols, groups, hsymbols, hgroups, rfl⟩ := Logged.forAllAfter_cons_eq_ok_iff.mp hall
      obtain ⟨i, hi⟩ := Option.isSome_iff_exists.mp hfile
      have first := Introspector.select?_eq_some_iff.mp hi
      obtain ⟨found, reads, rfl⟩ := exists_reads_of_fileSymbols first hsymbols
      rw [fileSymbols_of_ok first reads] at hgroups
      apply FilesGive.cons first reads
      apply (ih hfiles _ _).mpr
      use groups, hgroups

end

variable {call : Call ε} {place : Path} {files : List Path} {batch : List Symbol}

theorem Call.Accepts.anyAccepts (h : call.Accepts place files) :
  ∀ file ∈ files, Introspector.anyAccepts call.setup.introspectors file
  := Disk.accepts_of_scan h.2

/-- An accepted file has an introspector. -/
theorem Call.Accepts.exists_isFirst (h : call.Accepts place files) :
  ∀ file ∈ files, ∃ i, Introspector.IsFirst call.setup.introspectors file i
  := by
  intro file hfile
  obtain ⟨i, hi⟩ := Option.isSome_iff_exists.mp (h.anyAccepts file hfile)
  exact ⟨i, Introspector.select?_eq_some_iff.mp hi⟩

/-- A target whose files can be listed can be entered. -/
theorem Call.Accepts.enter_eq (h : call.Accepts place files) :
  enter call.setup call.target = ⟨[.inspecting place], .ok place⟩
  := by
  obtain ⟨htarget, hscan⟩ := h
  rw [enter, htarget]
  change Logged.andThen (.ofExcept ((call.setup.disk.hasPath place).mapError _)) _ = _
  rw [Disk.hasPath_of_scan hscan]
  rfl

theorem targetOf_of_enter {setup : Setup ε} {target : String}
    (h : (enter setup target).result = .ok place) :
  targetOf setup target = .ok place
  := by
  obtain ⟨place', hplace, h⟩ := Logged.result_bind_eq_ok_iff.mp h
  obtain ⟨isThere, -, h⟩ := Logged.result_bind_eq_ok_iff.mp h
  split at h
  · obtain ⟨_, ⟨⟩, -⟩ := Logged.result_bind_eq_ok_iff.mp h
  · obtain ⟨_, -, ⟨⟩⟩ := Logged.result_bind_eq_ok_iff.mp h
    exact hplace

theorem collect_eq_ok_iff {setup : Setup ε} {earlier : List Event} {exclude : List String} :
  (collect setup earlier exclude place).result = .ok batch
    ↔ ∃ files, setup.disk.scan (Introspector.anyAccepts setup.introspectors) exclude place
        = .ok files
      ∧ FilesGive setup earlier files batch
  := by
  rw [collect, Logged.result_bind_eq_ok_iff]
  constructor
  · rintro ⟨files, hfiles, h⟩
    obtain ⟨groups, hgroups, ⟨⟩⟩ := Logged.result_bind_eq_ok_iff.mp h
    cases hscan : setup.disk.scan (Introspector.anyAccepts setup.introspectors) exclude place with
    | error cause =>
      rw [hscan] at hfiles
      contradiction
    | ok scanned =>
      rw [hscan] at hfiles
      obtain rfl := Except.ok.inj hfiles
      use scanned, rfl
      rw [filesGive_iff (Disk.accepts_of_scan hscan)]
      use groups, hgroups
  · rintro ⟨files, hscan, hgive⟩
    rw [filesGive_iff (Disk.accepts_of_scan hscan)] at hgive
    obtain ⟨groups, hgroups, rfl⟩ := hgive
    use files
    rw [hscan, Logged.result_bind_eq_ok_iff]
    exact ⟨rfl, groups, hgroups, rfl⟩

/-- A call reads what is collected where it enters. -/
theorem reads_iff :
  call.Reads batch
    ↔ ∃ place, (enter call.setup call.target).result = .ok place
      ∧ (collect call.setup (call.earlier ++ (enter call.setup call.target).events) call.exclude
          place).result = .ok batch
  := by
  constructor
  · rintro ⟨place, files, haccepts, hgive⟩
    use place
    rw [haccepts.enter_eq, collect_eq_ok_iff]
    exact ⟨rfl, files, haccepts.2, hgive⟩
  · rintro ⟨place, henter, hcollect⟩
    obtain ⟨files, hscan, hgive⟩ := collect_eq_ok_iff.mp hcollect
    have haccepts : call.Accepts place files := ⟨targetOf_of_enter henter, hscan⟩
    rw [haccepts.enter_eq] at hgive
    use place, files

/-! ### What a call does to the catalog -/

/-- A merge in place does what an ingestion answers with. -/
theorem run_merge_ingest (catalog : Catalog) (batch : List Symbol) :
  ((Catalog.merge batch).adaptExcept (.conflict : Conflict → Failure ε)).run catalog
    = match (ingest catalog batch : Logged (Failure ε) Catalog).result with
      | .ok next => .ok () next
      | .error failure => .error failure catalog
  := by
  have hmerge := Catalog.run_merge catalog batch
  rw [EStateM.run] at hmerge
  rw [EStateM.run, EStateM.adaptExcept, hmerge, ingest, Catalog.ingest_eq]
  cases catalog.conflict? .empty batch with
  | none => rfl
  | some conflict => rfl

theorem run_ofExcept_bind {α σ : Type} (x : Except ε α) (f : α → EStateM ε σ Unit) (state : σ) :
  (MonadExcept.ofExcept x >>= f).run state
    = match x with
      | .ok a => (f a).run state
      | .error e => .error e state
  := by
  cases x with
  | ok a => rfl
  | error e => rfl

/-- A call in place does what an inspection answers with. -/
theorem run_inspect (call : Call ε) (catalog : Catalog) :
  (inspect call).run catalog
    = match (run call.setup call.earlier catalog call.target call.exclude).result with
      | .ok next => .ok () next
      | .error failure => .error failure catalog
  := by
  rw [inspect, run]
  simp only [run_ofExcept_bind, run_merge_ingest, Logged.result_bind]
  cases (enter call.setup call.target).result with
  | error failure => rfl
  | ok place =>
    dsimp only [bind, Except.bind]
    cases (collect call.setup (call.earlier ++ (enter call.setup call.target).events) call.exclude
        place).result with
    | error failure => rfl
    | ok batch =>
      dsimp only
      cases (ingest catalog batch).result with
      | error failure => rfl
      | ok next => rfl

theorem ingest_eq_ok_iff {catalog next : Catalog} :
  (ingest catalog batch : Logged (Failure ε) Catalog).result = .ok next
    ↔ catalog.ingest batch = .ok next
  := by
  rw [ingest]
  cases catalog.ingest batch with
  | error conflict =>
    constructor
    · intro h
      contradiction
    · intro h
      contradiction
  | ok found =>
    constructor
    · intro h
      rw [Except.ok.inj h]
    · intro h
      rw [Except.ok.inj h]

/-- A call succeeds if it reads a batch that the catalog takes. -/
theorem run_eq_ok_iff {catalog next : Catalog} :
  (run call.setup call.earlier catalog call.target call.exclude).result = .ok next
    ↔ ∃ batch, call.Reads batch ∧ catalog.ingest batch = .ok next
  := by
  rw [run, Logged.result_bind_eq_ok_iff]
  constructor
  · rintro ⟨place, hplace, h⟩
    obtain ⟨batch, hbatch, h⟩ := Logged.result_bind_eq_ok_iff.mp h
    obtain ⟨found, hfound, h⟩ := Logged.result_bind_eq_ok_iff.mp h
    obtain ⟨_, -, ⟨⟩⟩ := Logged.result_bind_eq_ok_iff.mp h
    use batch, reads_iff.mpr ⟨place, hplace, hbatch⟩, ingest_eq_ok_iff.mp hfound
  · rintro ⟨batch, hreads, hnext⟩
    obtain ⟨place, hplace, hbatch⟩ := reads_iff.mp hreads
    use place, hplace
    rw [Logged.result_bind_eq_ok_iff]
    use batch, hbatch
    rw [Logged.result_bind_eq_ok_iff]
    use next, ingest_eq_ok_iff.mpr hnext
    rfl

theorem run_inspect_eq_ok_iff {catalog next : Catalog} :
  (inspect call).run catalog = .ok () next
    ↔ ∃ batch, call.Reads batch ∧ catalog.ingest batch = .ok next
  := by
  rw [run_inspect, ← run_eq_ok_iff]
  cases (run call.setup call.earlier catalog call.target call.exclude).result with
  | error failure => simp
  | ok found => simp

theorem eq_of_run_inspect_eq_error {catalog next : Catalog} {failure : Failure ε}
    (h : (inspect call).run catalog = .error failure next) :
  next = catalog
  := by
  rw [run_inspect] at h
  split at h
  · contradiction
  · injection h with _ h
    exact h.symm

/-- Files that do not change give the same batch again, whatever is reported before. -/
theorem FilesGive.again {setup : Setup ε} {earlier : List Event}
    (h : FilesGive setup earlier files batch)
    (hdisk : ∀ events, setup.record setup.disk events = setup.disk) (earlier' : List Event) :
  FilesGive setup earlier' files batch
  := by
  induction h generalizing earlier' with
  | nil => apply FilesGive.nil
  | cons first reads rest ih =>
    rw [hdisk] at reads
    apply FilesGive.cons first
    · rw [hdisk]
      exact reads
    · apply ih

/-- A call that comes again on the same disk reads the same batch. -/
theorem Call.Reads.again (h : call.Reads batch)
    (hdisk : ∀ events, call.setup.record call.setup.disk events = call.setup.disk)
    (earlier : List Event) :
  { call with earlier }.Reads batch
  := by
  obtain ⟨place, files, haccepts, hgive⟩ := h
  use place, files, haccepts, hgive.again hdisk _

/-! ### Runs of calls -/

/-- The batch that a call reads, if it reads one. -/
def Call.batch? (call : Call ε) : Option (List Symbol) :=
  let entered := enter call.setup call.target
  match entered.result with
  | .error _ => none
  | .ok place =>
    (collect call.setup (call.earlier ++ entered.events) call.exclude place).result.toOption

theorem batch?_eq_some_iff :
  call.batch? = some batch ↔ call.Reads batch
  := by
  rw [reads_iff, Call.batch?]
  cases (enter call.setup call.target).result with
  | error failure => simp
  | ok place =>
    simp only [Except.ok.injEq, exists_eq_left']
    cases (collect call.setup (call.earlier ++ (enter call.setup call.target).events) call.exclude
        place).result with
    | error failure => simp [Except.toOption]
    | ok found => simp [Except.toOption]

theorem after_eq (catalog : Catalog) (call : Call ε) :
  after catalog call = call.batch?.elim catalog catalog.after
  := by
  rw [after]
  cases hrun : (inspect call).run catalog with
  | ok _ next =>
    obtain ⟨batch, hreads, hnext⟩ := run_inspect_eq_ok_iff.mp hrun
    rw [batch?_eq_some_iff.mpr hreads, Option.elim_some, Catalog.after_eq, hnext]
  | error failure next =>
    rw [eq_of_run_inspect_eq_error hrun]
    cases hbatch : call.batch? with
    | none => rfl
    | some batch =>
      rw [Option.elim_some, Catalog.after_eq]
      cases hnext : catalog.ingest batch with
      | error conflict => rfl
      | ok found =>
        have hok := run_inspect_eq_ok_iff.mpr ⟨batch, batch?_eq_some_iff.mp hbatch, hnext⟩
        rw [hrun] at hok
        contradiction

/-- A run of calls does to a catalog what a run of the batches does that they read. -/
theorem afterAll_eq (catalog : Catalog) (calls : List (Call ε)) :
  afterAll catalog calls = (calls.filterMap Call.batch?).foldl Catalog.after catalog
  := by
  induction calls generalizing catalog with
  | nil => rfl
  | cons call calls ih =>
    rw [afterAll, List.foldl_cons, ← afterAll, ih, after_eq, List.filterMap_cons]
    cases call.batch? with
    | none => rfl
    | some batch => rfl

/-- What a call does to a catalog. -/
structure IsAllOrNothing (call : Call ε) (before : Catalog) : Prop where
  /-- A call that fails has done nothing. -/
  failed : ∀ failure next, (inspect call).run before = .error failure next → next = before
  /-- A call that succeeds has put the batch into the catalog that it reads, and nothing else. -/
  succeeded : ∀ next, (inspect call).run before = .ok () next
    ↔ ∃ batch, call.Reads batch ∧ before.ingest batch = .ok next
  /-- Every file that is accepted has an introspector. -/
  selected : ∀ place files, call.Accepts place files →
    ∀ file ∈ files, ∃ i, Introspector.IsFirst call.setup.introspectors file i
  /-- A call that has succeeded changes nothing when it comes again on the same disk. -/
  repeated : ∀ next, (inspect call).run before = .ok () next →
    (∀ events, call.setup.record call.setup.disk events = call.setup.disk) →
      ∀ earlier, (inspect { call with earlier }).run next = .ok () next

/-- In every run of calls, each call does all that it reads to the catalog, or nothing, and the run
as a whole leaves behind what the batches that were read leave behind one after the other. -/
theorem inspect_all_or_nothing (catalog : Catalog) (calls : List (Call ε)) :
  afterAll catalog calls = (calls.filterMap Call.batch?).foldl Catalog.after catalog
    ∧ ∀ call : Call ε, IsAllOrNothing call (afterAll catalog calls)
  := by
  use afterAll_eq catalog calls
  intro call
  constructor
  case failed =>
    intro failure next h
    apply eq_of_run_inspect_eq_error h
  case succeeded =>
    intro next
    apply run_inspect_eq_ok_iff
  case selected =>
    intro place files h
    apply h.exists_isFirst
  case repeated =>
    intro next h hdisk earlier
    obtain ⟨batch, hreads, hnext⟩ := run_inspect_eq_ok_iff.mp h
    apply run_inspect_eq_ok_iff.mpr
    use batch, hreads.again hdisk earlier, Catalog.ingest_ingest hnext

end Inspection

end DocTable
