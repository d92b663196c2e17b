import RestContract.Log
import RestContract.Text.Alphanumeric
import RestContract.Text.CaseMapping

/-!
Which log events are shown. A filter is a list of directives, each a threshold for
all topics or for those whose names start in a given way. Of the directives for a
topic the one with the longest name counts, and of several the last.
-/
namespace RestContract.Command

/-- The least severe level that is shown. -/
inductive LogThreshold where
  | off | error | warn | info | debug | trace
  deriving DecidableEq, Repr

namespace LogThreshold

/-- Every threshold with its name, in order. -/
def all : List (String × LogThreshold) :=
  [("off", off), ("error", error), ("warn", warn), ("info", info), ("debug", debug),
    ("trace", trace)]

/-- The threshold of a name in any case, or of its number. -/
def ofText? (text : String) : Option LogThreshold :=
  match all.find? (Text.equalIgnoringAsciiCase ·.1 text) with
  | some (_, threshold) => some threshold
  | none =>
      if !text.isEmpty && text.toList.all Char.isDigit then
        text.toNat?.bind (all[·]?) |>.map (·.2)
      else none

def shows : LogThreshold → LogLevel → Bool
  | off, _ => false
  | error, _ => false
  | warn, level => level == .warn
  | info, level => level == .warn || level == .info
  | debug, _ => true
  | trace, _ => true

/-- The threshold for so many requests to be verbose. -/
def ofVerbosity : Nat → LogThreshold
  | 0 => warn
  | 1 => info
  | _ => debug

end LogThreshold

structure LogDirective where
  topic : Option String
  threshold : LogThreshold
  deriving DecidableEq, Repr

namespace LogDirective

def startsName (c : Char) : Bool :=
  Text.isAlphanumeric c || c == '-' || c == ':' || c == '_'

/-- A level, a topic, or both with an equals sign between them. A topic without a
level is shown whole. -/
def ofText? (text : String) : Option LogDirective :=
  let cs := text.toList
  if !cs.head?.any startsName || cs.contains '[' then none
  else
    match cs.dropWhile (· != '=') with
    | [] =>
        match LogThreshold.ofText? text with
        | some threshold => some ⟨none, threshold⟩
        | none => some ⟨some text, .trace⟩
    | _ :: level =>
        let topic := String.ofList (cs.takeWhile (· != '='))
        if level.isEmpty then some ⟨some topic, .trace⟩
        else (LogThreshold.ofText? (String.ofList level)).map (⟨some topic, ·⟩)

def concerns (topic : String) (d : LogDirective) : Bool :=
  d.topic.all fun name => name.toList.isPrefixOf topic.toList

/-- The length of the name of its topic; all topics come before the empty name. -/
def specificity (d : LogDirective) : Nat :=
  match d.topic with
  | none => 0
  | some name => name.length + 1

end LogDirective

abbrev LogFilter := List LogDirective

namespace LogFilter

/-- One threshold for all topics. -/
def level (threshold : LogThreshold) : LogFilter := [⟨none, threshold⟩]

/-- The parts between commas. -/
def splitCommas : List Char → List (List Char)
  | [] => [[]]
  | ',' :: rest => [] :: splitCommas rest
  | c :: rest =>
      match splitCommas rest with
      | [] => [[c]]
      | part :: parts => (c :: part) :: parts

/-- The filter that a text describes; an empty one shows errors only. -/
def ofText? (text : String) : Option LogFilter :=
  let parts := (splitCommas text.toList).filter (! ·.isEmpty)
  if parts.isEmpty then some (level .error)
  else parts.mapM fun part => LogDirective.ofText? (String.ofList part)

/-- The directive that counts: a later one replaces one that is no more specific. -/
def directiveFor? (filter : LogFilter) (topic : String) : Option LogDirective :=
  (filter.filter (·.concerns topic)).foldl (fun best? d =>
    match best? with
    | some best => if best.specificity ≤ d.specificity then some d else some best
    | none => some d) none

def shows (filter : LogFilter) (topic : String) (level : LogLevel) : Bool :=
  (filter.directiveFor? topic).any (·.threshold.shows level)

end LogFilter

end RestContract.Command
