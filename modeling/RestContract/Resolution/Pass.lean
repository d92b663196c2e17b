import RestContract.Resolution.Attachment
import RestContract.Source.Catalog

/-!
The state of one compilation pass: the registry, the subtype lookups already made,
the attachments that wait for their targets, and the log. A step of the pass
changes the state also when it fails.
-/
namespace RestContract

structure Pass where
  registry : Registry
  /-- Subtype lookups by base. -/
  lookups : List (String × List String)
  /-- Attachments that wait for their targets, in order. -/
  deferred : List Attachment
  /-- Log events, newest first. -/
  events : List LogEvent

abbrev Resolving := EStateM CompileError Pass

namespace Pass

def start (policy : CollisionPolicy) : Pass := ⟨.empty policy, [], [], []⟩

def log (p : Pass) : List LogEvent := p.events.reverse

def record (p : Pass) (event : LogEvent) : Pass := { p with events := event :: p.events }

def recordAll (p : Pass) (events : List LogEvent) : Pass := events.foldl record p

/-- The direct subtypes of a base, looked up once. -/
def subtypesOf (p : Pass) (catalog : TypeCatalog) (base : String) : List String × Pass :=
  match p.lookups.lookup base with
  | some known => (known, p)
  | none =>
      let found := catalog.subtypesOf base
      (found,
        { p with lookups := (base, found) :: p.lookups }.record
          ⟨.debug, "subtype lookup", [("base", .text base), ("subtypes", .count found.length)]⟩)

/-- Apply an attachment. If its target is not built yet, go on from the other pass. -/
def applyOr (p : Pass) (a : Attachment) (other : Pass) : Pass :=
  match a.applyTo? p.registry with
  | some registry => { p with registry }
  | none => other

/-- Apply an attachment now, or keep it for the end of the pass. -/
def attach (p : Pass) (a : Attachment) : Pass :=
  p.applyOr a { p with deferred := p.deferred ++ [a] }

/-- Apply a deferred attachment, or drop it if its target never came. -/
def settle (p : Pass) (a : Attachment) : Pass :=
  p.applyOr a (p.record ⟨.debug, "descendant never registered, attachment dropped",
    [("descendant", .text a.target.display)]⟩)

/-- End the pass: settle what was deferred, in order. -/
def finish (p : Pass) : Pass := p.deferred.foldl settle { p with deferred := [] }

end Pass

namespace Resolving

def note (level : LogLevel) (message : String) (fields : List (String × LogValue)) :
    Resolving Unit :=
  modify (·.record ⟨level, message, fields⟩)

def claim (preferred : String) (origin : Origin) : Resolving Claim := fun p =>
  match p.registry.claim preferred origin with
  | .error e => .error e p
  | .ok (claim, registry) =>
      let events := (Registry.renameEvent? preferred origin claim).toList
      .ok claim ({ p with registry }.recordAll events)

def define (name : String) (schema : Schema) : Resolving Unit :=
  modify fun p => { p with registry := p.registry.define name schema }

def subtypesOf (catalog : TypeCatalog) (base : String) : Resolving (List String) :=
  modifyGet (·.subtypesOf catalog base)

def attach (a : Attachment) : Resolving Unit := modify (·.attach a)

/-- The component of an origin. Unless the origin owns one already, a name is claimed
and then the schema is built, so that the schema may refer to its own name. -/
def construct (preferred : String) (origin : Origin) (build : Resolving Schema) :
    Resolving SchemaRef := do
  match ← claim preferred origin with
  | .existing name => return .component name
  | .new name =>
      let schema ← build
      define name schema
      return .component name

end Resolving

end RestContract
