import RestContract.Command.Arguments
import RestContract.Options
import RestContract.Output

/-!
What the program is asked to do: to compile a contract source and write the
documents, or only to check it. Some options can also be given by variables of the
environment, which count where the option is not given.
-/
namespace RestContract.Command

/-- The options of a compilation that are set by arguments, beside those of the
options file. -/
structure Overrides where
  config : Option String := none
  only : Option String := none
  strict : Bool := false
  collisionPolicy : Option CollisionPolicy := none
  version : Option String := none
  deriving DecidableEq, Repr

inductive Action where
  | compile (out : String) (format : OutputFormat)
  | check
  deriving DecidableEq, Repr

structure Invocation where
  action : Action
  source : String
  overrides : Overrides
  verbosity : Nat
  deriving DecidableEq, Repr

/-- The variables of the environment. -/
abbrev Environment := List (String × String)

def Overrides.apply (o : Overrides) (options : CompilerOptions) : CompilerOptions where
  version := o.version.getD options.version
  collisionPolicy := o.collisionPolicy.getD options.collisionPolicy
  strict := o.strict || options.strict
  only := o.only.or options.only

/-- The variables that stand in for options. -/
def outVariable : String := "RESTCRAFT_OUT"

def formatVariable : String := "RESTCRAFT_FORMAT"

def configVariable : String := "RESTCRAFT_CONFIG"

def defaultFolder : String := "openapi"

namespace HelpTopic

def word : HelpTopic → String
  | program => "restcraft"
  | compile => "compile"
  | check => "check"
  | help => "help"

def about : HelpTopic → String
  | program => "Compile legacy RPC interface descriptions into OpenAPI contracts"
  | compile => "Compile a contract source into OpenAPI documents"
  | check => "Compile a contract source without writing anything"
  | help => "Print this message or the help of the given subcommand(s)"

def commands : List HelpTopic := [compile, check, help]

end HelpTopic

def helpForm (topic : HelpTopic) : OptionForm where
  name := .help topic
  word := "help"
  letter := some 'h'
  about := "Print help"

def verboseForm : OptionForm where
  name := .verbose
  word := "verbose"
  letter := some 'v'
  about := "Increase verbosity (-v INFO, -vv DEBUG)"

def programForms : List OptionForm :=
  [verboseForm, helpForm .program,
    { name := .version, word := "version", letter := some 'V', about := "Print version" }]

def configForm : OptionForm where
  name := .config
  word := "config"
  letter := some 'c'
  takesValue := true
  about := "Path to the options file (default: ./restcraft.toml when present)"
  variableName := some configVariable

/-- The options of both actions that no variable stands in for. -/
def overrideForms : List OptionForm :=
  [{ name := .only, word := "only", takesValue := true
     about := "Compile only this interface (qualified or simple name)" },
    { name := .strict, word := "strict"
      about := "Fail on map parameters and duplicate routes instead of skipping them" },
    { name := .collisionPolicy, word := "collision-policy", takesValue := true
      about := "Schema name collision handling (error, qualify)" },
    { name := .apiVersion, word := "api-version", takesValue := true
      about := "`info.version` of the generated documents" }]

def checkForms : List OptionForm :=
  [configForm, verboseForm] ++ overrideForms ++ [helpForm .check]

def compileForms : List OptionForm :=
  [{ name := .out, word := "out", letter := some 'o', takesValue := true
     about := "Output directory", variableName := some outVariable
     usualValue := some defaultFolder },
    verboseForm,
    { name := .format, word := "format", letter := some 'f', takesValue := true
      about := "Output format (yaml, json)", variableName := some formatVariable
      usualValue := some OutputFormat.yaml.extension },
    configForm] ++ overrideForms ++ [helpForm .compile]

/-- An option that is not given takes the value of a variable. -/
def singleOr (environment : Environment) (variableName : String) (name : OptionName)
    (given : List Given) : Except Stop (Option String) :=
  match Given.single name given with
  | .ok none => .ok (environment.lookup variableName)
  | other => other

/-- A path has to be there. -/
def pathValue (text : String) : Except Stop String :=
  if text.isEmpty then .error .misuse else .ok text

def formatValue (text : String) : Except Stop OutputFormat :=
  match OutputFormat.parse text with
  | .ok format => .ok format
  | .error _ => .error .misuse

def policyValue (text : String) : Except Stop CollisionPolicy :=
  match CollisionPolicy.parse text with
  | .ok policy => .ok policy
  | .error _ => .error .misuse

def readOverrides (environment : Environment) (given : List Given) : Except Stop Overrides := do
  let config ← singleOr environment configVariable .config given
  let policy ← Given.single .collisionPolicy given
  return {
    config := ← config.mapM pathValue
    only := ← Given.single .only given
    strict := ← Given.once .strict given
    collisionPolicy := ← policy.mapM policyValue
    version := ← Given.single .apiVersion given }

def readCompile (environment : Environment) (given : List Given) : Except Stop Action := do
  let out ← singleOr environment outVariable .out given
  let format ← singleOr environment formatVariable .format given
  return .compile ((← out.mapM pathValue).getD defaultFolder)
    ((← format.mapM formatValue).getD .yaml)

/-- A count given behind the name of the action replaces the one before it. -/
def verbosityOf (leading given : List Given) : Nat :=
  match Given.countFlag .verbose given with
  | 0 => Given.countFlag .verbose leading
  | n => n

/-- Read the arguments of an action whose options are known. -/
def readInvocation (environment : Environment) (leading : List Given) (forms : List OptionForm)
    (readAction : List Given → Except Stop Action) (arguments : List String) :
    Except Stop Invocation := do
  let given ← readArguments forms arguments
  let source ← pathValue (← Given.onlyOperand given)
  let overrides ← readOverrides environment given
  return ⟨← readAction given, source, overrides, verbosityOf leading given⟩

/-- The topic that the arguments of the help command name. -/
def readTopic : List String → Stop
  | [] => .help .program
  | [name] =>
      match HelpTopic.commands.find? (·.word == name) with
      | some topic => .help topic
      | none => .misuse
  | _ => .misuse

/-- What a list of arguments asks for. -/
def interpret (environment : Environment) (arguments : List String) : Except Stop Invocation := do
  let (leading, name, rest) ← readLeading programForms arguments
  match name with
  | "compile" =>
      readInvocation environment leading compileForms (readCompile environment) rest
  | "check" => readInvocation environment leading checkForms (fun _ => .ok .check) rest
  | "help" => .error (readTopic rest)
  | _ => .error .misuse

end RestContract.Command
