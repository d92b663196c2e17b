import RestContract.Command.Invocation

/-!
The help texts. A text says what a command does, how it is called, and what its
operands and options are. The options of a command stand with their explanations
beside them, or below them where they take too much room.
-/
namespace RestContract.Command

/-- A name for the value of an option. -/
def OptionForm.valueName (form : OptionForm) : String :=
  form.word.map fun c => if c == '-' then '_' else c.toUpper

/-- An option as it may be written. -/
def OptionForm.heading (form : OptionForm) : String :=
  let letter := match form.letter with
    | some c => "-" ++ c.toString ++ ", "
    | none => "    "
  let value :=
    if form.takesValue then " <" ++ form.valueName ++ ">"
    else if form.name = .verbose then "..." else ""
  letter ++ "--" ++ form.word ++ value

/-- What an option is for, with the variable that stands in for it and its value there, and
with the value that it has otherwise. -/
def OptionForm.explanation (environment : Environment) (form : OptionForm) : String :=
  let variableText := match form.variableName with
    | some name => " [env: " ++ name ++ "=" ++ (environment.lookup name).getD "" ++ "]"
    | none => ""
  let valueText := match form.usualValue with
    | some value => " [default: " ++ value ++ "]"
    | none => ""
  form.about ++ variableText ++ valueText

/-- Lines of two columns. -/
def besideLines (entries : List (String × String)) : String :=
  let width := (entries.map (·.1.length)).foldl max 0
  String.join (entries.map fun (heading, text) =>
    "  " ++ heading.pushn ' ' (width - heading.length) ++ "  " ++ text ++ "\n")

/-- Two lines for each entry. -/
def belowLines (entries : List (String × String)) : String :=
  String.join (entries.map fun (heading, text) =>
    "  " ++ heading ++ "\n          " ++ text ++ "\n")

def programHelp (environment : Environment) : String :=
  HelpTopic.program.about ++ "\n\n" ++
  "Usage: restcraft [OPTIONS] <COMMAND>\n\n" ++
  "Commands:\n" ++ besideLines (HelpTopic.commands.map fun topic => (topic.word, topic.about)) ++
  "\nOptions:\n" ++ besideLines (programForms.map fun form =>
    (form.heading, form.explanation environment))

/-- The help for a command that takes a source. -/
def sourceHelp (environment : Environment) (topic : HelpTopic) (forms : List OptionForm) :
    String :=
  topic.about ++ "\n\n" ++
  "Usage: restcraft " ++ topic.word ++ " [OPTIONS] <SOURCE>\n\n" ++
  "Arguments:\n" ++
  besideLines [("<SOURCE>", "Contract source file (YAML, or JSON by extension)")] ++
  "\nOptions:\n" ++ belowLines (forms.map fun form =>
    (form.heading, form.explanation environment))

def helpText (environment : Environment) : HelpTopic → String
  | .program => programHelp environment
  | .compile => sourceHelp environment .compile compileForms
  | .check => sourceHelp environment .check checkForms
  | .help =>
      HelpTopic.help.about ++ "\n\n" ++
      "Usage: restcraft help [COMMAND]...\n\n" ++
      "Arguments:\n" ++ besideLines [("[COMMAND]...", "Print help for the subcommand(s)")]

end RestContract.Command
