import RestContract.Descriptor.Reading
import RestContract.Document.Route

/-!
The reasons why an interface does not compile.
-/
namespace RestContract

inductive CompileError where
  /-- A map was declared as a parameter. -/
  | unsupportedMapParameter (operation parameter typeName : String)
  /-- Two origins want one schema name. -/
  | schemaNameCollision (name existing incoming : String)
  /-- Routing metadata names a method that contracts do not use. -/
  | unsupportedMethod (operation method : String)
  /-- An earlier operation has the path and the method. -/
  | duplicateRoute (operation : String) (method : HttpMethod) (path : String)
  /-- A type descriptor could not be read. -/
  | descriptor (error : DescriptorError)
  deriving DecidableEq, Repr

def CompileError.message : CompileError → String
  | unsupportedMapParameter operation parameter typeName =>
      s!"operation `{operation}`: parameter `{parameter}` has map type `{typeName}`, " ++
        "which cannot be exposed as a request parameter"
  | schemaNameCollision name existing incoming =>
      s!"schema name `{name}` is claimed by both `{existing}` and `{incoming}`"
  | unsupportedMethod operation method =>
      s!"operation `{operation}`: unsupported HTTP method `{method}`"
  | duplicateRoute operation method path =>
      s!"operation `{operation}`: route {method.name} {path} is already taken"
  | descriptor error => error.message

end RestContract
