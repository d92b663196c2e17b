/-!
Reading the arguments of a command. An option is named in full behind two dashes
or by a letter behind one; letters may be written together. The value of an option
follows it, directly, behind an equals sign, or as the next argument, which then
must not look like an option. Two dashes alone end the options.
-/
namespace RestContract.Command

/-- What help can be had on: the program or one of its commands. -/
inductive HelpTopic where
  | program | compile | check | help
  deriving DecidableEq, Repr

/-- Why arguments are not carried out. -/
inductive Stop where
  | help (topic : HelpTopic)
  | version
  | misuse
  deriving DecidableEq, Repr

inductive OptionName where
  | help (topic : HelpTopic)
  | version | verbose | out | format | config | only | strict | collisionPolicy | apiVersion
  deriving DecidableEq, Repr

structure OptionForm where
  name : OptionName
  word : String
  letter : Option Char := none
  takesValue : Bool := false
  about : String
  /-- The variable that stands in for the option. -/
  variableName : Option String := none
  usualValue : Option String := none

/-- An argument once it is understood. -/
inductive Given where
  | flag (name : OptionName)
  | value (name : OptionName) (text : String)
  | operand (text : String)
  deriving DecidableEq, Repr

/-- What one argument gives; an option at its end may still lack its value. -/
structure Reading where
  given : List Given := []
  awaiting : Option OptionName := none

def Reading.add (g : Given) (r : Reading) : Reading := { r with given := g :: r.given }

/-- A flag; those that ask for information end the reading. -/
def readFlag : OptionName → Except Stop Given
  | .help topic => .error (.help topic)
  | .version => .error .version
  | name => .ok (.flag name)

/-- An option named in full, with what follows an equals sign. -/
def readWord (forms : List OptionForm) (text : List Char) : Except Stop Reading :=
  let word := String.ofList (text.takeWhile (· != '='))
  match forms.find? (·.word == word), text.dropWhile (· != '=') with
  | none, _ => .error .misuse
  | some form, [] =>
      if form.takesValue then .ok { awaiting := some form.name }
      else (readFlag form.name).map fun flag => { given := [flag] }
  | some form, _ :: value =>
      if form.takesValue then .ok { given := [.value form.name (String.ofList value)] }
      else .error .misuse

/-- Options named by letters; what follows the letter of one that takes a value is
that value. -/
def readLetters (forms : List OptionForm) : List Char → Except Stop Reading
  | [] => .ok {}
  | c :: rest =>
      match forms.find? (·.letter == some c) with
      | none => .error .misuse
      | some form =>
          if form.takesValue then
            match rest with
            | [] => .ok { awaiting := some form.name }
            | '=' :: value => .ok { given := [.value form.name (String.ofList value)] }
            | value => .ok { given := [.value form.name (String.ofList value)] }
          else
            match readFlag form.name with
            | .error stop => .error stop
            | .ok flag => (readLetters forms rest).map (.add flag)

/-- Looks like an option; a dash alone does not. -/
def isOption (argument : String) : Bool :=
  match argument.toList with
  | '-' :: _ :: _ => true
  | _ => false

def readArgument (forms : List OptionForm) (argument : String) : Except Stop Reading :=
  match argument.toList with
  | '-' :: '-' :: word => readWord forms word
  | '-' :: letter :: letters => readLetters forms (letter :: letters)
  | _ => .ok { given := [.operand argument] }

/-- All arguments in order. -/
def readArguments (forms : List OptionForm) : List String → Except Stop (List Given)
  | [] => .ok []
  | "--" :: rest => .ok (rest.map .operand)
  | argument :: rest =>
      match readArgument forms argument with
      | .error stop => .error stop
      | .ok ⟨given, none⟩ => (readArguments forms rest).map (given ++ ·)
      | .ok ⟨given, some name⟩ =>
          match rest with
          | [] => .error .misuse
          | value :: rest =>
              if isOption value then .error .misuse
              else (readArguments forms rest).map (given ++ .value name value :: ·)

/-- The arguments up to the first operand, which must be there, and the others. -/
def readLeading (forms : List OptionForm) : List String →
    Except Stop (List Given × String × List String)
  | [] => .error .misuse
  | "--" :: _ => .error .misuse
  | argument :: rest =>
      match readArgument forms argument with
      | .error stop => .error stop
      | .ok ⟨[.operand text], _⟩ => .ok ([], text, rest)
      | .ok ⟨given, _⟩ =>
          (readLeading forms rest).map fun (others, operand, rest) =>
            (given ++ others, operand, rest)

namespace Given

def countFlag (name : OptionName) (given : List Given) : Nat := given.count (.flag name)

def values (name : OptionName) (given : List Given) : List String :=
  given.filterMap fun
    | .value n text => if n == name then some text else none
    | _ => none

def operands (given : List Given) : List String :=
  given.filterMap fun
    | .operand text => some text
    | _ => none

/-- The value of an option that may be given once. -/
def single (name : OptionName) (given : List Given) : Except Stop (Option String) :=
  match values name given with
  | [] => .ok none
  | [text] => .ok (some text)
  | _ => .error .misuse

/-- A flag that may be given once. -/
def once (name : OptionName) (given : List Given) : Except Stop Bool :=
  match countFlag name given with
  | 0 => .ok false
  | 1 => .ok true
  | _ => .error .misuse

/-- The only operand. -/
def onlyOperand (given : List Given) : Except Stop String :=
  match operands given with
  | [text] => .ok text
  | _ => .error .misuse

end Given

end RestContract.Command
