import RestContract.Endpoint

/-!
Compilation: one document for each interface. The operations are taken in order;
the first on a route keeps it. Each interface has a pass of its own, whose registry
becomes the components of the document.
-/
namespace RestContract

/-- A result with the log of the work that led to it. -/
structure Outcome (α : Type) where
  log : List LogEvent
  result : Except CompileError α

namespace Compilation

open Resolving

/-- The document of an interface before any operation. -/
def blank (interface : Interface) (options : CompilerOptions) : Document :=
  let title := interface.simpleName
  .ofInfo ⟨title, options.version, some s!"{title} API definition"⟩

def isTaken (document : Document) (route : EndpointRoute) : Bool :=
  (document.getOperation? route.path route.method).isSome

def addEndpoint (document : Document) (e : Endpoint) : Document :=
  (document.setOperation e.route.path e.route.method e.toOperation).addTag e.route.tag

/-- Add an operation. One whose route is taken fails a strict compilation and is
dropped by a lenient one, before any of its types is resolved. -/
def addOperation (catalog : TypeCatalog) (options : CompilerOptions) (interface : Interface)
    (document : Document) (operation : Operation) : Resolving Document := do
  let route ← EndpointRoute.decide interface operation
  if isTaken document route then
    let e := CompileError.duplicateRoute operation.name route.method route.path
    if options.strict then throw e
    note .warn "keeping the first operation on this route" [("error", .text e.message)]
    return document
  else
    let endpoint ← Endpoint.assemble catalog interface operation options.strict route
    return addEndpoint document endpoint

def addOperations (catalog : TypeCatalog) (options : CompilerOptions) (interface : Interface) :
    List Operation → Document → Resolving Document
  | [], document => return document
  | operation :: rest, document => do
      let document ← addOperation catalog options interface document operation
      addOperations catalog options interface rest document

def withSchemas (document : Document) (schemas : SortedMap Schema) : Document :=
  if schemas.isEmpty then document else { document with components := some ⟨some schemas⟩ }

/-- End the pass and put its schemas into the document. -/
def close (interface : Interface) (document : Document) : Resolving Document := do
  modify Pass.finish
  let schemas := (← get).registry.schemas
  note .info "compiled interface"
    [("interface", .text interface.name), ("operations", .count interface.operations.length),
      ("paths", .count document.paths.size), ("schemas", .count schemas.size)]
  return withSchemas document schemas

def interfacePass (catalog : TypeCatalog) (options : CompilerOptions) (interface : Interface) :
    Resolving Document := do
  let document ←
    addOperations catalog options interface interface.operations (blank interface options)
  close interface document

def compile (catalog : TypeCatalog) (options : CompilerOptions) (interface : Interface) :
    Outcome Document :=
  match interfacePass catalog options interface (.start options.collisionPolicy) with
  | .ok document pass => ⟨pass.log, .ok document⟩
  | .error e pass => ⟨pass.log, .error e⟩

/-- Compile interfaces in order, up to the first that fails. -/
def compileAll (catalog : TypeCatalog) (options : CompilerOptions) :
    List Interface → Outcome (List Document)
  | [] => ⟨[], .ok []⟩
  | interface :: rest =>
      let first := compile catalog options interface
      match first.result with
      | .error e => ⟨first.log, .error e⟩
      | .ok document =>
          let others := compileAll catalog options rest
          ⟨first.log ++ others.log, others.result.map (document :: ·)⟩

/-- The interfaces that the options ask for. -/
def selected (options : CompilerOptions) (interfaces : List Interface) : List Interface :=
  match options.only with
  | some name => interfaces.filter (·.isNamed name)
  | none => interfaces

def compileSource (source : ContractSource) (options : CompilerOptions) :
    Outcome (List Document) :=
  compileAll source.types options (selected options source.interfaces)

end Compilation

end RestContract
