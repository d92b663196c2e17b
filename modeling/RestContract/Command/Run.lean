import RestContract.Command.Help
import RestContract.Command.LogFilter
import RestContract.Compilation
import RestContract.OptionsFile
import RestContract.Source.File

/-!
Carrying out an invocation. Lines of output and log events are collected in order;
what was printed and written before a failure stays. How arguments are understood and
how texts are read and rendered is left to conventions, which a run is given.
-/
namespace RestContract.Command

inductive CommandError where
  | options (path : String) (cause : OptionsError)
  | source (path : String) (cause : SourceError)
  | compilation (path : String) (cause : CompileError)
  | noSuchInterface (name path : String)
  | noInterfaces (path : String)
  | output (cause : OutputError)
  deriving DecidableEq

namespace CommandError

def headline : CommandError → String
  | options path _ => s!"Failed to load options from {path}"
  | source path _ => s!"Failed to load contract source {path}"
  | compilation path _ => s!"Failed to compile {path}"
  | noSuchInterface name path => s!"no interface named `{name}` in {path}"
  | noInterfaces path => s!"{path} declares no interfaces"
  | output cause => cause.message

def cause? : CommandError → Option String
  | options _ cause => some cause.message
  | source _ cause => some cause.message
  | compilation _ cause => some cause.message
  | noSuchInterface _ _ => none
  | noInterfaces _ => none
  | output cause => some cause.cause.message

/-- Every line of a text moved to the right. -/
def indented (text : String) : String :=
  String.ofList
    (("    ".toList) ++ text.toList.flatMap fun c => if c == '\n' then "\n    ".toList else [c])

/-- The text that reports the failure. -/
def report (e : CommandError) : String :=
  let headline := "Error: " ++ e.headline
  match e.cause? with
  | some cause => headline ++ "\n\nCaused by:\n" ++ indented cause
  | none => headline

end CommandError

/-- How arguments are understood, options and sources read, and documents rendered. -/
structure Conventions where
  interpret : Environment → List String → Except Stop Invocation
  parseOptions : String → Except OptionsError CompilerOptions
  readSource? : SourceFormat → String → Option ContractSource
  render : Document → OutputFormat → String

def Conventions.standard : Conventions where
  interpret := Command.interpret
  parseOptions := CompilerOptions.parse
  readSource? := SourceFormat.read?
  render := Document.render

/-- The topics of log events: those of the program itself and those of compilation. -/
def programTopic : String := "restcraft"

def compilationTopic : String := "restcraft_compiler"

structure LogRecord where
  topic : String
  event : LogEvent
  deriving DecidableEq, Repr

/-- What a run leaves behind, beside files. -/
structure Transcript where
  lines : List String := []
  log : List LogRecord := []

/-- Steps that may fail and keep the transcript when they do. -/
abbrev Session (m : Type → Type) := ExceptT CommandError (StateT Transcript m)

namespace Session

variable {m : Type → Type} [Monad m]

def printLine (line : String) : Session m Unit :=
  modify fun t => { t with lines := t.lines ++ [line] }

def log (records : List LogRecord) : Session m Unit :=
  modify fun t => { t with log := t.log ++ records }

def note (level : LogLevel) (message : String) (fields : List (String × LogValue)) :
    Session m Unit :=
  log [⟨programTopic, ⟨level, message, fields⟩⟩]

/-- Take over the result of a step, with its own kind of failure. -/
def orFail {ε α : Type} (failure : ε → CommandError) (work : m (Except ε α)) : Session m α := do
  match ← (liftM work : StateT Transcript m (Except ε α)) with
  | .ok value => return value
  | .error e => throw (failure e)

end Session

open Session

variable {m : Type → Type} [Monad m] (conventions : Conventions) (files : FileAccess m)

def defaultConfig : String := "restcraft.toml"

/-- The options file: the one that is given, or the usual one if it is there. -/
def configPath? (o : Overrides) : m (Option String) := do
  match o.config with
  | some path => return some path
  | none => return if ← files.isFile defaultConfig then some defaultConfig else none

def loadOptions (o : Overrides) : Session m CompilerOptions := do
  match ← (liftM (configPath? files o) : StateT Transcript m (Option String)) with
  | none => return o.apply {}
  | some path =>
      note .debug "loading options" [("path", .text path)]
      let options ← orFail (.options path)
        (CompilerOptions.load conventions.parseOptions files path)
      return o.apply options

/-- The documents of a source, of which there must be one at least. -/
def compileDocuments (i : Invocation) : Session m (List Document) := do
  let options ← loadOptions conventions files i.overrides
  let source ← orFail (.source i.source)
    (ContractSource.load conventions.readSource? files i.source)
  let outcome := Compilation.compileSource source options
  log (outcome.log.map (⟨compilationTopic, ·⟩))
  match outcome.result with
  | .error e => throw (.compilation i.source e)
  | .ok [] =>
      match options.only with
      | some name => throw (.noSuchInterface name i.source)
      | none => throw (.noInterfaces i.source)
  | .ok documents => return documents

def writeDocuments (out : String) (format : OutputFormat) : List Document → Session m Unit
  | [] => return ()
  | d :: rest => do
      let path ← orFail .output (d.write conventions.render files out format)
      note .info "wrote contract" [("path", .text path)]
      printLine path
      writeDocuments out format rest

/-- One line on what a document holds. -/
def summary (d : Document) : String :=
  s!"{d.info.title}: {d.paths.size} paths, {d.schemaCount} schemas"

def printSummaries : List Document → Session m Unit
  | [] => return ()
  | d :: rest => do
      printLine (summary d)
      printSummaries rest

def Invocation.run (i : Invocation) : Session m Unit := do
  let documents ← compileDocuments conventions files i
  match i.action with
  | .compile out format => writeDocuments conventions files out format documents
  | .check => printSummaries documents

/-- The end of a run: its exit code, its output, the log events to be shown and the
failure, if any. -/
structure Completion where
  exitCode : Nat
  output : String := ""
  log : List LogEvent := []
  failure : Option CommandError := none

def versionLine : String := "restcraft 0.1.0\n"

def Stop.completion (environment : Environment) : Stop → Completion
  | help topic => { exitCode := 0, output := helpText environment topic }
  | version => { exitCode := 0, output := versionLine }
  | misuse => { exitCode := 2 }

/-- The variable that holds a log filter. -/
def filterVariable : String := "RUST_LOG"

/-- A filter that cannot be read shows warnings. -/
def logFilter (environment : Environment) (verbosity : Nat) : LogFilter :=
  match environment.lookup filterVariable with
  | some text => (LogFilter.ofText? text).getD (.level .warn)
  | none => .level (.ofVerbosity verbosity)

def shownEvents (filter : LogFilter) (log : List LogRecord) : List LogEvent :=
  (log.filter fun r => filter.shows r.topic r.event.level).map (·.event)

/-- Understand the arguments and carry them out. -/
def execute (environment : Environment) (arguments : List String) : m Completion := do
  match conventions.interpret environment arguments with
  | .error stop => return stop.completion environment
  | .ok i =>
      let (result, transcript) ← ((i.run conventions files).run).run {}
      let output := String.join (transcript.lines.map (· ++ "\n"))
      let log := shownEvents (logFilter environment i.verbosity) transcript.log
      match result with
      | .ok () => return { exitCode := 0, output, log }
      | .error e => return { exitCode := 1, output, log, failure := some e }

end RestContract.Command
