import RestContract.Document.Route

/-!
Contract documents: the information block, the paths, the component schemas and
the list of tags.
-/
namespace RestContract

inductive DocumentVersion where
  | v303
  deriving DecidableEq, Repr

structure Info where
  title : String
  version : String
  description : Option String
  deriving DecidableEq, Repr

structure Tag where
  name : String
  description : Option String
  deriving DecidableEq, Repr

structure Components where
  schemas : Option (SortedMap Schema)

structure Document where
  openapi : DocumentVersion
  info : Info
  paths : SortedMap PathItem
  components : Option Components
  tags : Option (List Tag)

namespace Document

/-- A document that carries its information block only. -/
def ofInfo (info : Info) : Document := ⟨.v303, info, .empty, none, none⟩

def hasTag (d : Document) (name : String) : Bool := (d.tags.getD []).any (·.name == name)

/-- List a tag, unless one of its name is listed already. -/
def addTag (d : Document) (name : String) : Document :=
  let tags := d.tags.getD []
  { d with tags := some (if d.hasTag name then tags else tags ++ [⟨name, none⟩]) }

def getOperation? (d : Document) (path : String) (method : HttpMethod) : Option RestOperation :=
  (d.paths.get? path).bind (·.getOperation? method)

def setOperation (d : Document) (path : String) (method : HttpMethod)
    (operation : RestOperation) : Document :=
  let item := (d.paths.get? path).getD {}
  { d with paths := d.paths.insert path (item.setOperation method operation) }

def schemas (d : Document) : SortedMap Schema :=
  (d.components.bind Components.schemas).getD .empty

def schema? (d : Document) (name : String) : Option Schema := d.schemas.get? name

def schemaCount (d : Document) : Nat := d.schemas.size

end Document

end RestContract
