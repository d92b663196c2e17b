import RestContract.Descriptor.Basic
import RestContract.Text.Alphanumeric
import RestContract.Text.Character

/-!
Reading a type descriptor from text. A type is a name, optionally followed by
arguments in angle brackets, or a wildcard, which stands for its bound and
without a bound for the type of all objects. Blanks may stand between any two
parts. A refusal keeps the unread rest of the text; the offset reported for it is
the number of bytes read before that rest.
-/
namespace RestContract

inductive DescriptorFault where
  | emptyName
  | unbalanced
  | trailingInput
  deriving DecidableEq, Repr

structure DescriptorError where
  fault : DescriptorFault
  input : String
  position : Nat
  deriving DecidableEq, Repr

def DescriptorError.message (e : DescriptorError) : String :=
  match e.fault with
  | .emptyName => s!"expected a type name at offset {e.position} in `{e.input}`"
  | .unbalanced => s!"unbalanced `<`/`>` at offset {e.position} in `{e.input}`"
  | .trailingInput => s!"unexpected trailing input at offset {e.position} in `{e.input}`"

namespace TypeDescriptor

def isNameChar (c : Char) : Bool :=
  Text.isAlphanumeric c || c == '.' || c == '_' || c == '$'

def skipBlanks (cs : List Char) : List Char := cs.dropWhile Text.isBlank

/-- The longest run of name characters and what follows it. -/
def splitName (cs : List Char) : List Char × List Char :=
  (cs.takeWhile isNameChar, cs.dropWhile isNameChar)

def isBoundKeyword (word : List Char) : Bool :=
  word == "extends".toList || word == "super".toList

/-- Where reading stopped: the fault and the rest that was not read. -/
structure Refusal where
  fault : DescriptorFault
  rest : List Char

mutual

def readType : Nat → List Char → Except Refusal (TypeDescriptor × List Char)
  | 0, cs => .error ⟨.emptyName, cs⟩
  | fuel + 1, cs =>
      match skipBlanks cs with
      | '?' :: afterMark =>
          let bound := skipBlanks afterMark
          let (word, afterWord) := splitName bound
          if isBoundKeyword word then readType fuel afterWord else .ok (object, bound)
      | start =>
          match splitName start with
          | ([], _) => .error ⟨.emptyName, start⟩
          | (name, afterName) =>
              match skipBlanks afterName with
              | '<' :: inside =>
                  match readArguments fuel inside with
                  | .error refusal => .error refusal
                  | .ok (arguments, rest) => .ok (⟨String.ofList name, arguments⟩, rest)
              | rest => .ok (ofName (String.ofList name), rest)

/-- The arguments up to and with the closing bracket. -/
def readArguments : Nat → List Char → Except Refusal (List TypeDescriptor × List Char)
  | 0, cs => .error ⟨.unbalanced, cs⟩
  | fuel + 1, cs =>
      match readType fuel cs with
      | .error refusal => .error refusal
      | .ok (argument, rest) =>
          match skipBlanks rest with
          | ',' :: more =>
              match readArguments fuel more with
              | .error refusal => .error refusal
              | .ok (arguments, after) => .ok (argument :: arguments, after)
          | '>' :: after => .ok ([argument], after)
          | stop => .error ⟨.unbalanced, stop⟩

end

def byteSize : List Char → Nat
  | [] => 0
  | c :: rest => c.utf8Size + byteSize rest

/-- Reading with enough fuel: each character read uses up at most two steps. -/
def readAll (cs : List Char) : Except Refusal TypeDescriptor :=
  match readType (2 * cs.length + 2) cs with
  | .error refusal => .error refusal
  | .ok (t, rest) =>
      match skipBlanks rest with
      | [] => .ok t
      | stop => .error ⟨.trailingInput, stop⟩

def parse (text : String) : Except DescriptorError TypeDescriptor :=
  match readAll text.toList with
  | .ok t => .ok t
  | .error ⟨fault, rest⟩ => .error ⟨fault, text, byteSize text.toList - byteSize rest⟩

end TypeDescriptor

end RestContract
