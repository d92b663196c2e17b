import RestContract.Descriptor.Basic
import RestContract.Text.CaseMapping

/-!
Container types: sequences, sets and maps, recognised by simple name in any case,
and the optional wrapper, which is looked through.
-/
namespace RestContract

inductive ContainerFamily where
  | sequence
  | set
  | map
  deriving DecidableEq, Repr

namespace ContainerFamily

def sequenceNames : List String :=
  ["List", "Collection", "Iterable", "ArrayList", "LinkedList", "Vector", "Stack", "Queue",
    "Deque", "ArrayDeque"]

def setNames : List String :=
  ["Set", "HashSet", "LinkedHashSet", "TreeSet", "SortedSet", "NavigableSet", "EnumSet"]

def mapNames : List String :=
  ["Map", "HashMap", "LinkedHashMap", "TreeMap", "Hashtable", "ConcurrentHashMap",
    "ConcurrentMap", "ConcurrentSkipListMap", "EnumMap", "SortedMap", "NavigableMap"]

def ofSimpleName? (name : String) : Option ContainerFamily :=
  if sequenceNames.any (Text.equalIgnoringAsciiCase name) then some sequence
  else if setNames.any (Text.equalIgnoringAsciiCase name) then some set
  else if mapNames.any (Text.equalIgnoringAsciiCase name) then some map
  else none

def of? (t : TypeDescriptor) : Option ContainerFamily := ofSimpleName? t.simpleName

/-- A sequence or a set. -/
def isCollection : ContainerFamily → Bool
  | map => false
  | _ => true

end ContainerFamily

def isOptional (t : TypeDescriptor) : Bool :=
  t.name == "Optional" || t.name == "java.util.Optional"

/-- The type inside any number of optional layers of one argument each. -/
def stripOptional : TypeDescriptor → TypeDescriptor
  | ⟨name, [inner]⟩ => if isOptional ⟨name, [inner]⟩ then stripOptional inner else ⟨name, [inner]⟩
  | t => t

end RestContract
