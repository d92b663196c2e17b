import RestContract.Naming

/-!
Type descriptors: a type name with its type arguments in order. The qualified
text keeps every name in full; the display text keeps simple names only.
-/
namespace RestContract

structure TypeDescriptor where
  name : String
  arguments : List TypeDescriptor

namespace TypeDescriptor

instance : Inhabited TypeDescriptor := ⟨⟨"", []⟩⟩

/-- A type without arguments. -/
def ofName (name : String) : TypeDescriptor := ⟨name, []⟩

def void : TypeDescriptor := ofName "void"

/-- The type that an unbounded wildcard stands for. -/
def object : TypeDescriptor := ofName "java.lang.Object"

def simpleName (t : TypeDescriptor) : String := Naming.simpleName t.name

def isVoid (t : TypeDescriptor) : Bool :=
  t.name == "void" || t.name == "java.lang.Void" || t.name == "Void"

mutual

def render (label : String → String) : TypeDescriptor → String
  | ⟨name, []⟩ => label name
  | ⟨name, first :: rest⟩ =>
      label name ++ "<" ++ render label first ++ renderRest label rest ++ ">"

/-- The arguments after the first, each behind a comma and a blank. -/
def renderRest (label : String → String) : List TypeDescriptor → String
  | [] => ""
  | first :: rest => ", " ++ render label first ++ renderRest label rest

end

def qualified (t : TypeDescriptor) : String := t.render id

def display (t : TypeDescriptor) : String := t.render Naming.simpleName

mutual

/-- The names of the tree in preorder, each with its depth. -/
def outline (depth : Nat) : TypeDescriptor → List (Nat × String)
  | ⟨name, arguments⟩ => (depth, name) :: outlineAll (depth + 1) arguments

def outlineAll (depth : Nat) : List TypeDescriptor → List (Nat × String)
  | [] => []
  | first :: rest => outline depth first ++ outlineAll depth rest

end

mutual

def decEq : (s t : TypeDescriptor) → Decidable (s = t)
  | ⟨a, as⟩, ⟨b, bs⟩ =>
      if h : a = b then
        match decEqAll as bs with
        | isTrue h' => isTrue (by rw [h, h'])
        | isFalse h' => isFalse (fun e => h' (by injection e))
      else isFalse (fun e => h (by injection e))

def decEqAll : (ss ts : List TypeDescriptor) → Decidable (ss = ts)
  | [], [] => isTrue rfl
  | [], _ :: _ => isFalse (fun e => by cases e)
  | _ :: _, [] => isFalse (fun e => by cases e)
  | s :: ss, t :: ts =>
      match decEq s t with
      | isTrue h =>
          match decEqAll ss ts with
          | isTrue h' => isTrue (by rw [h, h'])
          | isFalse h' => isFalse (fun e => h' (by injection e))
      | isFalse h => isFalse (fun e => h (by injection e))

end

instance : DecidableEq TypeDescriptor := decEq

end TypeDescriptor

end RestContract
