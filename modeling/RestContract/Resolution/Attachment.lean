import RestContract.Registry

/-!
What a concrete base type adds to the schemas of its descendants: a required
discriminator property, the members of the base as an inline part, and the
discriminator itself.
-/
namespace RestContract

structure Attachment where
  target : Origin
  property : String
  inherited : Option Schema
  /-- The target is a direct subtype of the base. -/
  direct : Bool

namespace Attachment

def discriminatorAfter (a : Attachment) (s : Schema) : Option Discriminator :=
  if a.direct || s.discriminator.isNone then some ⟨a.property⟩ else s.discriminator

def allOfAfter (a : Attachment) (s : Schema) : Option (List SchemaRef) :=
  match a.inherited with
  | some members => some (s.allOf.getD [] ++ [.inline members])
  | none => s.allOf

/-- Only plain objects take an attachment; a polymorphic descendant keeps its
alternatives. A direct base sets the discriminator, a farther one only fills it. -/
def apply (a : Attachment) (s : Schema) : Schema :=
  if s.isPlainObject then
    { (s.insertProperty a.property (.inline Schema.string)).require a.property with
      discriminator := a.discriminatorAfter s
      allOf := a.allOfAfter s }
  else s

/-- The name of the target, if its schema is built. -/
def builtTarget? (a : Attachment) (r : Registry) : Option String :=
  match r.nameOf? a.target with
  | some name => if (r.get? name).isSome then some name else none
  | none => none

/-- Apply to the target if its schema is built. -/
def applyTo? (a : Attachment) (r : Registry) : Option Registry :=
  (a.builtTarget? r).map fun name => r.edit name a.apply

end Attachment

end RestContract
