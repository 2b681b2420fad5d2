import DocTable.Command.Words
import DocTable.Config
import DocTable.Release

/-!
# Arguments

`Arguments.ofWords?` reads the words of a command line: options of the program, the name of a
command, and the options and the targets of that command.
-/

namespace DocTable.Command

/-- The options of the program and of its commands. -/
inductive Flag where
  | verbose
  | logFile
  | baseDir
  | config
  | exclude
  | output
  | format
  | title
  | tagline
  | footer
  | theme
  deriving DecidableEq, Repr

/-- The option takes a value. -/
def Flag.takesValue (flag : Flag) : Bool :=
  flag ≠ .verbose

/-- What the program can be asked to do. -/
inductive Action where
  /-- Write the report. -/
  | build
  /-- Print the namespaces and their symbols. -/
  | list
  deriving DecidableEq, Repr

namespace Action

/-- The word for an action. -/
def word : Action → String
  | build => "build"
  | list => "list"

/-- The action that a word names. -/
def ofWord? (w : String) : Option Action :=
  [build, list].find? (·.word = w)

end Action

/-- The spellings of the option that asks for more detail. -/
def verboseSpellings : List (String × Flag) :=
  [("-v", .verbose), ("--verbose", .verbose)]

/-- The spellings of the options of the program. -/
def programSpellings : List (String × Flag) :=
  verboseSpellings ++ [("--log-file", .logFile)]

/-- The spellings of the options that all actions have. -/
def inspectSpellings : List (String × Flag) :=
  verboseSpellings ++ [("--base-dir", .baseDir), ("--config", .config), ("--exclude", .exclude)]

/-- The spellings of the options of an action. -/
def Action.spellings : Action → List (String × Flag)
  | list => inspectSpellings
  | build => inspectSpellings
    ++ [("-o", .output), ("--output", .output), ("--format", .format), ("--title", .title),
      ("--tagline", .tagline), ("--footer", .footer), ("--theme", .theme)]

/-- The spellings as lists of characters. -/
def spelled (spellings : List (String × Flag)) : Spellings Flag :=
  spellings.map fun (s, flag) => (s.toList, flag)

/-! ### Settings -/

/-- An option with its value, if it has one. -/
abbrev Setting := Flag × Option String

/-- What stands behind short options that share a word. -/
inductive Cluster where
  /-- The options are complete. -/
  | complete (settings : List Setting)
  /-- The last of the options takes the next word as its value. -/
  | wanting (settings : List Setting) (flag : Flag)
  deriving Repr

/-- An option in front of others that share its word. -/
def Cluster.cons (setting : Setting) : Cluster → Cluster
  | complete settings => .complete (setting :: settings)
  | wanting settings flag => .wanting (setting :: settings) flag

/-- An option without anything attached to it. -/
def alone (flag : Flag) : Cluster :=
  if flag.takesValue then .wanting [] flag else .complete [(flag, none)]

section

variable (release : Release)

/-- The value that is attached to an option.  Two dashes may stand for no value. -/
def attachedValue (value : List Char) : Option String :=
  if value = ['-', '-'] ∧ !release.keepsDashes then none else some (String.ofList value)

/-- What follows an option among others that share its word. -/
def attachmentOf (rest : List Char) : Attachment :=
  match release.splitsSigns, rest with
  | true, '=' :: value => ⟨true, value⟩
  | _, _ => ⟨false, rest⟩

/-- Reads the letters that share a word with an option that takes no value. -/
def readLetters (spellings : Spellings Flag) (flag : Flag) : List Char → Option Cluster
  | [] => none
  | c :: rest => do
    let next ← spellings.lookup ['-', c]
    let attached := attachmentOf release rest
    let cluster ←
      if rest.isEmpty then some (alone next)
      else if next.takesValue then some (.complete [(next, attachedValue release attached.text)])
      else if attached.isSigned then none
      else readLetters spellings next rest
    pure (cluster.cons (flag, none))

/-- Reads an option together with what is attached to it.  Further short options may be attached to
a short option that takes no value. -/
def readOption (spellings : Spellings Flag) (short : Bool) (flag : Flag) :
    Option Attachment → Option Cluster
  | none => some (alone flag)
  | some attached =>
    if flag.takesValue then some (.complete [(flag, attachedValue release attached.text)])
    else if short && !(release.splitsSigns && attached.isSigned) then
      readLetters release spellings flag attached.text
    else none

/-- The options and the operands of a command line. -/
structure Parsed where
  /-- The options in order. -/
  settings : List Setting := []
  operands : List String := []
  deriving Repr

/-- The words of a command line after its first run of operands, which has to be the only one. -/
inductive Stage where
  | before
  | within
  | after
  deriving DecidableEq, Repr

/-- Reads classified words.  The operands stand next to each other, but for options. -/
def readWords (spellings : Spellings Flag) (stage : Stage) :
    List (String × Word Flag) → Option Parsed
  | [] => some {}
  | (word, .operand) :: words => do
    if stage = .after then none
    let rest ← readWords spellings .within words
    pure { rest with operands := word :: rest.operands }
  | (_, .separator) :: words =>
    if stage = .after then none else some { operands := words.map Prod.fst }
  | (_, .unknown) :: _ => none
  | (_, .option flag short attached) :: words => do
    let next := if stage = .before then Stage.before else .after
    match ← readOption release spellings short flag attached, words with
    | .complete settings, words =>
      let rest ← readWords spellings next words
      pure { rest with settings := settings ++ rest.settings }
    | .wanting settings flag, (value, .operand) :: words =>
      let rest ← readWords spellings next words
      pure { rest with settings := settings ++ (flag, some value) :: rest.settings }
    | .wanting _ _, _ => none

/-- The settings of the program, the command and the words after it. -/
def readProgram (spellings : Spellings Flag) :
    List String → Option (List Setting × Action × List String)
  | [] => none
  | word :: words => do
    match ← classify spellings word.toList with
    | .operand => pure ([], ← Action.ofWord? word, words)
    | .option flag short attached =>
      match ← readOption release spellings short flag attached with
      | .complete settings =>
        let (later, rest) ← readProgram spellings words
        pure (settings ++ later, rest)
      | .wanting settings flag =>
        match words with
        | [] => none
        | value :: words =>
          match ← classify spellings value.toList with
          | .operand =>
            let (later, rest) ← readProgram spellings words
            pure (settings ++ (flag, some value) :: later, rest)
          | _ => none
    | _ => none

end

/-! ### Arguments -/

/-- What the words of a command line ask for. -/
structure Arguments where
  action : Action
  /-- How often more detail is asked for. -/
  verbosity : Nat := 0
  logFile : Option String := none
  targets : List String := []
  baseDir : Option String := none
  /-- The place of the configuration; nothing when its option has no value. -/
  config : Option String := some "."
  /-- The names of directories to leave out; nothing where an option has no value. -/
  exclude : List (Option String) := []
  output : Option String := none
  format : Option OutputFormat := none
  title : Option String := none
  tagline : Option String := none
  footer : Option String := none
  theme : Option String := none
  deriving DecidableEq, Repr

/-- The values of an option, in order. -/
def valuesOf (flag : Flag) (settings : List Setting) : List (Option String) :=
  (settings.filter (·.1 = flag)).map Prod.snd

/-- The last value of an option, which is `missing` when the option stands there without one. -/
def valueOr (missing : String) (flag : Flag) (settings : List Setting) : Option String :=
  (valuesOf flag settings).getLast?.map (·.getD missing)

/-- The last value of an option; none when the option stands there without one. -/
def valueOf? (flag : Flag) (settings : List Setting) : Option String :=
  (valuesOf flag settings).getLast?.join

/-- The output format that is asked for, if any; all values have to be formats. -/
def formatOf? (settings : List Setting) : Option (Option OutputFormat) := do
  let formats ← (valuesOf .format settings).mapM fun
    | some value => (OutputFormat.ofWord? value).map some
    | none => some none
  pure formats.getLast?.join

/-- The text that is shown for a value that is missing. -/
def emptyText : String := "[]"

namespace Arguments

/-- A file that is named by a text that is not empty. -/
def pathOf? (s : Option String) : Option Path :=
  (s.filter (· ≠ "")).map Path.ofText

/-- Reads the words of a command line; nothing when they cannot be understood.  The detail that is
asked for after the command counts instead of that before it. -/
def ofWords? (release : Release) (words : List String) : Option Arguments := do
  let (outer, action, rest) ← readProgram release (spelled programSpellings) words
  let spellings := spelled action.spellings
  let parsed ← readWords release spellings .before (← classifyAll spellings rest)
  let inner := parsed.settings
  let count (settings : List Setting) := (valuesOf .verbose settings).length
  pure {
    action
    verbosity := if count inner = 0 then count outer else count inner
    logFile := valueOf? .logFile outer
    targets := parsed.operands
    baseDir := valueOf? .baseDir inner
    config := (valuesOf .config inner).getLast?.getD (some ".")
    exclude := valuesOf .exclude inner
    output := valueOf? .output inner
    format := ← formatOf? inner
    title := valueOr emptyText .title inner
    tagline := valueOr emptyText .tagline inner
    footer := valueOr "" .footer inner
    theme := valueOr emptyText .theme inner }

end Arguments

end DocTable.Command
