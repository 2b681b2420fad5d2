import DocTable.Path
import DocTable.Text.Quoted

/-!
# Log records

`Event` lists what is reported on the way from a manifest to the report.  `Logged ε α` is a result
together with the events on the way to it; a failure keeps the events before it.
-/

namespace DocTable

/-- How much detail a log record gives. -/
inductive Log.Level where
  | detail
  | progress
  deriving DecidableEq, Repr

/-- The word for a level. -/
def Log.Level.word : Log.Level → String
  | detail => "DEBUG"
  | progress => "INFO"

/-- Something that is reported. -/
inductive Event where
  /-- The inspection of a directory begins. -/
  | inspecting (target : Path)
  /-- A file gave a number of symbols. -/
  | fileRead (file : Path) (symbols : Nat)
  /-- A directory gave a number of symbols. -/
  | collected (symbols : Nat) (target : Path)
  /-- A symbol was read from a manifest. -/
  | symbolRead (fullName : String) (constants properties methods : Nat)
  /-- The body of a tag could not be read as its class asks. -/
  | malformedTag (name body : String)
  /-- A symbol of the catalog is replaced. -/
  | replacing (fullName : String)
  /-- A batch went into the catalog. -/
  | ingested (symbols : Nat)
  /-- A table was laid out. -/
  | laidOut (rows namespaces : Nat)
  /-- A report was written to a file. -/
  | reportWritten (output : Path)
  /-- A plugin accepts manifests, which it does not get. -/
  | manifestsKept (plugin : String)
  deriving DecidableEq, Repr

namespace Event

/-- The level of an event. -/
def level : Event → Log.Level
  | inspecting _ => .progress
  | collected _ _ => .progress
  | reportWritten _ => .progress
  | _ => .detail

/-- The part of the program that reports an event. -/
def source : Event → String
  | inspecting _ => "doctracer.orchestrator"
  | fileRead _ _ => "doctracer.orchestrator"
  | collected _ _ => "doctracer.orchestrator"
  | symbolRead _ _ _ _ => "doctracer.introspect.manifest"
  | malformedTag _ _ => "doctracer.docblock"
  | replacing _ => "doctracer.catalog"
  | ingested _ => "doctracer.catalog"
  | laidOut _ _ => "doctracer.layout"
  | reportWritten _ => "doctracer.cli"
  | manifestsKept _ => "doctracer.introspect"

/-- What is said of an event. -/
def message : Event → String
  | inspecting target => "Inspecting " ++ target.text
  | fileRead file symbols => file.text ++ ": " ++ toString symbols ++ " symbols"
  | collected symbols target =>
    "Collected " ++ toString symbols ++ " symbols from " ++ target.text
  | symbolRead fullName constants properties methods =>
    "Read " ++ fullName ++ " (" ++ toString constants ++ " constants, " ++ toString properties
      ++ " properties, " ++ toString methods ++ " methods)"
  | malformedTag name body =>
    "Keeping malformed @" ++ name ++ " tag verbatim: " ++ Text.quoted body
  | replacing fullName => "Replacing " ++ fullName
  | ingested symbols => "Ingested " ++ toString symbols ++ " symbols"
  | laidOut rows namespaces =>
    "Laid out " ++ toString rows ++ " rows across " ++ toString namespaces ++ " namespaces"
  | reportWritten output => "Report written to " ++ output.text
  | manifestsKept plugin =>
    "Plugin '" ++ plugin ++ "' also accepts symbol manifests; the built-in reader keeps them"

end Event

/-- A result, or a failure, and the events on the way to it. -/
structure Logged (ε α : Type) where
  events : List Event
  result : Except ε α

namespace Logged

variable {ε α β : Type}

/-- A result without events. -/
def ofExcept (r : Except ε α) : Logged ε α := ⟨[], r⟩

/-- Events without a result. -/
def report (events : List Event) : Logged ε Unit := ⟨events, .ok ()⟩

/-- Goes on with a result; a failure ends the computation. -/
def andThen (x : Logged ε α) (f : α → Logged ε β) : Logged ε β :=
  match x.result with
  | .ok a => ⟨x.events ++ (f a).events, (f a).result⟩
  | .error e => ⟨x.events, .error e⟩

instance : Monad (Logged ε) where
  pure a := .ofExcept (.ok a)
  bind := andThen

instance : MonadExceptOf ε (Logged ε) where
  throw e := .ofExcept (.error e)
  tryCatch x f :=
    match x.result with
    | .ok _ => x
    | .error e => ⟨x.events ++ (f e).events, (f e).result⟩

instance : MonadLift (Except ε) (Logged ε) := ⟨ofExcept⟩

/-- The computation with another kind of failure. -/
def mapError {ε' : Type} (f : ε → ε') (x : Logged ε α) : Logged ε' α :=
  ⟨x.events, x.result.mapError f⟩

/-- The results of a computation for every item of a list, in order, up to the first failure. -/
def forAll (f : α → Logged ε β) : List α → Logged ε (List β)
  | [] => pure []
  | a :: rest => do
    let b ← f a
    let bs ← forAll f rest
    pure (b :: bs)

/-- The results of a computation for every item of a list, in order, up to the first failure.  Each
computation is told the events before it, of which the first are `earlier`. -/
def forAllAfter (f : List Event → α → Logged ε β) (earlier : List Event) :
    List α → Logged ε (List β)
  | [] => pure []
  | a :: rest => do
    let first := f earlier a
    let b ← first
    let bs ← forAllAfter f (earlier ++ first.events) rest
    pure (b :: bs)

@[simp]
theorem result_pure (a : α) :
  (pure a : Logged ε α).result = .ok a
  := rfl

@[simp]
theorem result_bind (x : Logged ε α) (f : α → Logged ε β) :
  (x >>= f).result = x.result >>= fun a => (f a).result
  := by
  show (x.andThen f).result = _
  unfold andThen
  cases x.result <;> rfl

end Logged

end DocTable
