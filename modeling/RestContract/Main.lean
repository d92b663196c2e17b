import RestContract.Command.Run

/-!
The command line. Everything is decided by `Command.execute`; here it gets the
files, the environment and the streams of the system.
-/
namespace RestContract.Main

/-- The cause behind an error of the system. -/
def fileError : IO.Error → FileError
  | .noFileOrDirectory .. => .notFound
  | .alreadyExists .. => .exists
  | .inappropriateType _ 20 _ => .notDirectory
  | .inappropriateType _ 21 _ => .isDirectory
  | .invalidArgument _ 36 _ => .nameTooLong
  | e => .other (toString e)

def attempt {α : Type} (work : IO α) : IO (Except FileError α) := do
  match ← work.toBaseIO with
  | .ok value => return .ok value
  | .error e => return .error (fileError e)

/-- The files of the system. -/
def systemFiles : FileAccess IO where
  readText path := do
    match ← attempt (IO.FS.readBinFile path) with
    | .error e => return .error e
    | .ok bytes =>
        match String.fromUTF8? bytes with
        | some text => return .ok text
        | none => return .error .notText
  isFile path := do
    match ← attempt (IO.FS.readBinFile path) with
    | .ok _ => return true
    | .error _ => return false
  createFolders path := attempt (IO.FS.createDirAll path)
  writeText path text := attempt (IO.FS.writeFile path text)

def variableNames : List String :=
  [Command.outVariable, Command.formatVariable, Command.configVariable, Command.filterVariable]

/-- The variables that the program looks at. -/
def environment : IO Command.Environment := do
  let values ← variableNames.mapM fun name => do
    return (← IO.getEnv name).map (name, ·)
  return values.filterMap id

def logText (value : LogValue) : String :=
  match value with
  | .text text => text
  | .count n => toString n
  | .flag b => toString b

def logLine (e : LogEvent) : String :=
  e.level.name ++ " " ++ e.message ++
    String.join (e.fields.map fun (name, value) => s!" {name}=" ++ logText value)

end RestContract.Main

open RestContract in
def main (arguments : List String) : IO UInt32 := do
  let completion ← Command.execute .standard Main.systemFiles (← Main.environment) arguments
  let errors ← IO.getStderr
  completion.log.forM fun e => errors.putStrLn (Main.logLine e)
  (← IO.getStdout).putStr completion.output
  if let some e := completion.failure then
    errors.putStrLn e.report
  return completion.exitCode.toUInt32
