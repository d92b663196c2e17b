import RestContract.Descriptor.Basic
import RestContract.Schema.Basic

/-!
Scalar types: the primitives, and the well-known value types, which may be
written by simple name or in full with one of the well-known packages.
-/
namespace RestContract

/-- What a type means before containers and declared types are considered. -/
inductive Classification where
  | void
  | scalar (schema : Schema)
  | composite

def wellKnownPackages : List String :=
  ["java.lang", "java.util", "java.time", "java.sql", "java.math", "java.util.concurrent.atomic"]

def primitives : List (String × Schema) :=
  [("int", Schema.integer.withFormat "int32"), ("long", Schema.integer.withFormat "int64"),
    ("short", Schema.integer), ("byte", Schema.integer),
    ("float", Schema.number.withFormat "double"), ("double", Schema.number.withFormat "double"),
    ("boolean", Schema.boolean), ("char", Schema.string)]

/-- The well-known value types, by simple name. -/
def wellKnownScalars : List (String × Schema) :=
  [("String", Schema.string), ("Character", Schema.string), ("CharSequence", Schema.string),
    ("Boolean", Schema.boolean),
    ("Date", Schema.string.withFormat "date"), ("LocalDate", Schema.string.withFormat "date"),
    ("LocalTime", Schema.string.withFormat "date-time"),
    ("LocalDateTime", Schema.string.withFormat "date-time"),
    ("OffsetDateTime", Schema.string.withFormat "date-time"),
    ("ZonedDateTime", Schema.string.withFormat "date-time"),
    ("Instant", Schema.string.withFormat "date-time"),
    ("Timestamp", Schema.string.withFormat "date-time"),
    ("Calendar", Schema.string.withFormat "date-time"),
    ("Integer", Schema.integer.withFormat "int32"), ("Long", Schema.integer.withFormat "int64"),
    ("Short", Schema.integer), ("Byte", Schema.integer), ("BigInteger", Schema.integer),
    ("AtomicInteger", Schema.integer), ("AtomicLong", Schema.integer),
    ("Float", Schema.number.withFormat "double"), ("Double", Schema.number.withFormat "double"),
    ("BigDecimal", Schema.number.withFormat "double")]

/-- The simple name of a name without package or with a well-known one. -/
def wellKnownSimpleName? (name : String) : Option String :=
  match Naming.packageName name with
  | none => some name
  | some package =>
      if wellKnownPackages.contains package then some (Naming.simpleName name) else none

def scalar? (name : String) : Option Schema :=
  match primitives.lookup name with
  | some schema => some schema
  | none => (wellKnownSimpleName? name).bind (wellKnownScalars.lookup ·)

def classify (t : TypeDescriptor) : Classification :=
  if t.isVoid then .void
  else
    match scalar? t.name with
    | some schema => .scalar schema
    | none => .composite

/-- The text type, the only key type of an open map. -/
def isText (t : TypeDescriptor) : Bool := t.name == "String" || t.name == "java.lang.String"

/-- The type of all objects. -/
def isAnyObject (t : TypeDescriptor) : Bool :=
  t.name == "java.lang.Object" || t.name == "Object"

end RestContract
