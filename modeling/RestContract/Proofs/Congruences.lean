import RestContract.Proofs.Catalogs
import RestContract.Resolution.Resolver

/-!
Relations that resolution respects. A resolver is put together from few steps: notes,
claims, definitions, lookups of subtypes, walks over descendants and attachments, one after
the other. A relation between computations that respects these steps is respected by
everything a resolver does one level up, as soon as the two resolvers of the level below
are related at the types that are resolved there.

Comparing two runs of resolution, or following one of them, is then a matter of the steps
alone. The two runs may have catalogs of their own, if these find the same definitions for
the types that are resolved.
-/
namespace RestContract

def TypeCatalog.Discriminates (catalog : TypeCatalog) (name : String) : Prop :=
  ∃ d ∈ catalog.definitions, name = Naming.discriminatorProperty d.simpleName

/-- A relation between computations that notes respect, and that holds of computations one
after the other. -/
structure Resolving.Sequences (related : ∀ {α : Type}, Resolving α → Resolving α → Prop) :
    Prop where
  pure : ∀ {α : Type} (a : α), related (pure a) (pure a)
  bind : ∀ {α β : Type} {x y : Resolving α} {f g : α → Resolving β}, related x y →
    (∀ a, related (f a) (g a)) → related (x >>= f) (y >>= g)
  note : ∀ level message fields, related (note level message fields) (note level message fields)

/-- A relation that components respect, at least those of some origins. -/
structure Resolving.Steps (allowed : Origin → Prop)
    (related : ∀ {α : Type}, Resolving α → Resolving α → Prop) : Prop
    extends Sequences related where
  construct : ∀ {preferred : String} {origin : Origin} {build build' : Resolving Schema},
    allowed origin → related build build' →
      related (construct preferred origin build) (construct preferred origin build')

/-- A relation that the single actions on a registry respect. -/
structure Resolving.Actions (related : ∀ {α : Type}, Resolving α → Resolving α → Prop) : Prop
    extends Sequences related where
  claim : ∀ preferred origin, related (claim preferred origin) (claim preferred origin)
  define : ∀ name schema, related (define name schema) (define name schema)

theorem Resolving.Actions.steps {related : ∀ {α : Type}, Resolving α → Resolving α → Prop}
    (h : Actions related) : Steps (fun _ => True) related where
  toSequences := h.toSequences
  construct := by
    intro preferred origin build build' _ hbuild
    refine h.bind (h.claim preferred origin) fun claim => ?_
    cases claim with
    | existing name => exact h.pure _
    | new name => exact h.bind hbuild fun schema => h.bind (h.define name schema) fun _ => h.pure _

/-- A relation that all steps of resolution respect. Lookups of subtypes may be limited to
some answers, and what is attached are discriminators of declared types. -/
structure Resolving.Congruence (catalog catalog' : TypeCatalog) (allowed : Origin → Prop)
    (possible : String → List String → Prop)
    (related : ∀ {α : Type}, Resolving α → Resolving α → Prop) : Prop
    extends Steps allowed related where
  lookup : ∀ {β : Type} {base : String} {f g : List String → Resolving β},
    (∀ direct, possible base direct → related (f direct) (g direct)) →
      related (subtypesOf catalog base >>= f) (subtypesOf catalog' base >>= g)
  descendants : ∀ {base : String} {direct : List String}, possible base direct →
    related (descendants catalog base direct) (descendants catalog' base direct)
  attach : ∀ a : Attachment, catalog.Discriminates a.property → related (attach a) (attach a)

namespace TypeDescriptor

def optionalParts (t : TypeDescriptor) : List TypeDescriptor :=
  match t.arguments with
  | [inner] => [inner]
  | _ => []

def collectionParts (t : TypeDescriptor) : List TypeDescriptor := t.arguments.take 1

def mapParts (t : TypeDescriptor) : List TypeDescriptor :=
  match t.arguments with
  | [key, value] => if isText key then [value] else [key, value]
  | _ => []

def parts (t : TypeDescriptor) : List TypeDescriptor :=
  if isAnyObject t then []
  else if isOptional t then t.optionalParts
  else
    match ContainerFamily.of? t with
    | some .map => t.mapParts
    | some _ => t.collectionParts
    | none => []

/-- A map whose keys are not texts. Such a map has a component of its own, and any other
container is written in place. -/
structure IsCompositeMap (t key value : TypeDescriptor) : Prop where
  notAny : isAnyObject t = false
  notOptional : isOptional t = false
  family : ContainerFamily.of? t = some .map
  arguments : t.arguments = [key, value]
  keys : isText key = false

/-- The type is no wrapper and no container, so that its name is all there is to it. -/
def isNamed (t : TypeDescriptor) : Bool :=
  !isAnyObject t && !isOptional t && (ContainerFamily.of? t).isNone

end TypeDescriptor

namespace Resolver

open Resolving TypeDescriptor

variable {catalog catalog' : TypeCatalog} {allowed : Origin → Prop}
  {possible : String → List String → Prop}
  {related : ∀ {α : Type}, Resolving α → Resolving α → Prop}
  {r r' : Resolver} {t : TypeDescriptor} {d : TypeDefinition} {depth : Nat}

section Parts

variable (h : Steps allowed related)

include h

theorem related_optional (hparts : ∀ inner ∈ t.optionalParts,
      related (r.resolve inner (depth + 1)) (r'.resolve inner (depth + 1))) :
    related (r.optional t depth) (r'.optional t depth) := by
  match t with
  | ⟨name, [inner]⟩ => exact hparts inner (List.mem_singleton.mpr rfl)
  | ⟨name, []⟩ | ⟨name, _ :: _ :: _⟩ => exact h.bind (h.note ..) fun _ => h.pure _

theorem related_collection (family : ContainerFamily) (hparts : ∀ inner ∈ t.collectionParts,
      related (r.resolve inner (depth + 1)) (r'.resolve inner (depth + 1))) :
    related (r.collection t family depth) (r'.collection t family depth) := by
  match t with
  | ⟨name, element :: rest⟩ =>
    exact h.bind (hparts element (List.mem_cons_self ..)) fun _ => h.pure _
  | ⟨name, []⟩ => exact h.bind (h.note ..) fun _ => h.pure _

theorem related_map
    (hsynthetic : ∀ key value, t.arguments = [key, value] → isText key = false →
      allowed (.synthetic s!"map {t.qualified}"))
    (hparts : ∀ inner ∈ t.mapParts,
      related (r.resolve inner (depth + 1)) (r'.resolve inner (depth + 1))) :
    related (r.map t depth) (r'.map t depth) := by
  match t with
  | ⟨name, [key, value]⟩ =>
    cases htext : isText key with
    | true =>
      simp only [mapParts, htext, if_true, List.mem_singleton, forall_eq] at hparts
      simp only [map, htext, if_true]
      exact h.bind hparts fun _ => h.pure _
    | false =>
      simp only [mapParts, htext, Bool.false_eq_true, if_false, List.mem_cons, List.not_mem_nil,
        or_false, forall_eq_or_imp, forall_eq] at hparts
      simp only [map, htext, Bool.false_eq_true, if_false]
      refine h.construct (hsynthetic key value rfl htext) ?_
      exact h.bind hparts.1 fun _ => h.bind hparts.2 fun _ => h.pure _
  | ⟨name, []⟩ | ⟨name, [_]⟩ | ⟨name, _ :: _ :: _ :: _⟩ =>
    exact h.bind (h.note ..) fun _ => h.pure _

theorem related_addMembers (members : List Member) (schema : Schema)
    (hmembers : ∀ m ∈ members,
      related (r.resolve m.type (depth + 1)) (r'.resolve m.type (depth + 1))) :
    related (r.addMembers depth members schema) (r'.addMembers depth members schema) := by
  induction members generalizing schema with
  | nil => exact h.pure _
  | cons m rest ih =>
    obtain ⟨hfirst, hrest⟩ := List.forall_mem_cons.mp hmembers
    exact h.bind hfirst fun property => ih _ hrest

theorem related_subtypes (names : List String)
    (hnames : ∀ name ∈ names, related (r.subtype name (depth + 1)) (r'.subtype name (depth + 1))) :
    related (r.subtypes depth names) (r'.subtypes depth names) := by
  induction names with
  | nil => exact h.pure _
  | cons name rest ih =>
    obtain ⟨hfirst, hrest⟩ := List.forall_mem_cons.mp hnames
    exact h.bind hfirst fun _ => h.bind (ih hrest) fun _ => h.pure _

theorem related_inherited (hmembers : ∀ m ∈ d.serializedMembers,
      related (r.resolve m.type (depth + 1)) (r'.resolve m.type (depth + 1))) :
    related (r.inherited d depth) (r'.inherited d depth) := by
  unfold inherited
  split
  · exact h.pure _
  · rw [map_eq_pure_bind, map_eq_pure_bind]
    exact h.bind (related_addMembers h _ _ hmembers) fun _ => h.pure _

theorem related_undeclared (hallowed : allowed (.type t.name)) :
    related (undeclared t) (undeclared t) :=
  h.construct hallowed (h.bind (h.note ..) fun _ => h.pure _)

theorem related_named (hsame : catalog'.lookup? t.name = catalog.lookup? t.name)
    (hundeclared : catalog.lookup? t.name = none → allowed (.type t.name))
    (hdeclared : ∀ d, catalog.lookup? t.name = some d →
      related (r.declared catalog d depth) (r'.declared catalog' d depth)) :
    related (r.named catalog t depth) (r'.named catalog' t depth) := by
  unfold named
  rw [hsame]
  cases hlookup : catalog.lookup? t.name with
  | none => exact related_undeclared h (hundeclared hlookup)
  | some d =>
    cases t.arguments.isEmpty with
    | true => exact hdeclared d hlookup
    | false => exact h.bind (h.note ..) fun _ => hdeclared d hlookup

theorem related_composite
    (hsynthetic : ∀ key value, t.IsCompositeMap key value →
      allowed (.synthetic s!"map {t.qualified}"))
    (hparts : ∀ inner ∈ t.parts,
      related (r.resolve inner (depth + 1)) (r'.resolve inner (depth + 1)))
    (hnamed : t.isNamed = true →
      related (r.named catalog t depth) (r'.named catalog' t depth)) :
    related (r.composite catalog t depth) (r'.composite catalog' t depth) := by
  unfold composite
  unfold parts at hparts
  by_cases hany : isAnyObject t = true
  · simp only [if_pos hany]
    exact h.pure _
  by_cases hoptional : isOptional t = true
  · simp only [if_neg hany, if_pos hoptional] at hparts ⊢
    exact related_optional h hparts
  simp only [if_neg hany, if_neg hoptional] at hparts ⊢
  cases hfamily : ContainerFamily.of? t with
  | none => exact hnamed (by simp [isNamed, hany, hoptional, hfamily])
  | some family =>
    rw [hfamily] at hparts
    cases family with
    | map =>
      refine related_map h (fun key value harguments htext => ?_) hparts
      exact hsynthetic key value
        ⟨by simpa using hany, by simpa using hoptional, hfamily, harguments, htext⟩
    | sequence => exact related_collection h .sequence hparts
    | set => exact related_collection h .set hparts

/-- The resolution of any type. Past the limit nothing is resolved further. -/
theorem related_any (hcomposite : depth ≤ maxDepth → classify t = .composite →
      related (r.composite catalog t depth) (r'.composite catalog' t depth)) :
    related (r.any catalog t depth) (r'.any catalog' t depth) := by
  unfold any
  split
  · exact h.bind (h.note ..) fun _ => h.pure _
  next hshallow =>
    cases hclass : classify t with
    | scalar schema => exact h.pure _
    | void => exact h.bind (h.note ..) fun _ => h.pure _
    | composite => exact hcomposite (by omega) hclass

end Parts

section Component

variable (h : Congruence catalog catalog' allowed possible related)

include h

theorem related_attachAll {property : String} (hproperty : catalog.Discriminates property)
    (inherited : Option Schema) (direct below : List String) :
    related (attachAll property inherited direct below)
      (attachAll property inherited direct below) := by
  induction below with
  | nil => exact h.pure _
  | cons name rest ih => exact h.bind (h.attach _ hproperty) fun _ => ih

theorem related_handDown (hd : d ∈ catalog.definitions) {direct : List String}
    (hdirect : possible d.name direct)
    (hmembers : ∀ m ∈ d.serializedMembers,
      related (r.resolve m.type (depth + 1)) (r'.resolve m.type (depth + 1))) :
    related (r.handDown catalog d direct depth) (r'.handDown catalog' d direct depth) :=
  h.bind (related_inherited h.toSteps hmembers) fun inherited =>
    h.bind (h.descendants hdirect) fun below =>
      related_attachAll h ⟨d, hd, rfl⟩ inherited direct below

theorem related_polymorphic (hd : d ∈ catalog.definitions) {direct : List String}
    (hdirect : possible d.name direct)
    (hmembers : d.isInterface = false → ∀ m ∈ d.serializedMembers,
      related (r.resolve m.type (depth + 1)) (r'.resolve m.type (depth + 1)))
    (hsubtypes : ∀ name ∈ direct,
      related (r.subtype name (depth + 1)) (r'.subtype name (depth + 1))) :
    related (r.polymorphic catalog d direct depth) (r'.polymorphic catalog' d direct depth) := by
  refine h.bind (h.note ..) fun _ => ?_
  refine h.bind (related_subtypes h.toSteps direct hsubtypes) fun _ => ?_
  cases hinterface : d.isInterface with
  | true => exact h.pure _
  | false => exact h.bind (related_handDown h hd hdirect (hmembers hinterface)) fun _ => h.pure _

/-- The schema of a declared type. Its members are resolved unless it is an interface
with subtypes. -/
theorem related_component (hd : d ∈ catalog.definitions)
    (hmembers : possible d.name [] ∨ d.isInterface = false → ∀ m ∈ d.serializedMembers,
      related (r.resolve m.type (depth + 1)) (r'.resolve m.type (depth + 1)))
    (hsubtypes : ∀ direct, possible d.name direct → ∀ name ∈ direct,
      related (r.subtype name (depth + 1)) (r'.subtype name (depth + 1))) :
    related (r.component catalog d depth) (r'.component catalog' d depth) := by
  refine h.lookup fun direct hdirect => ?_
  cases direct with
  | nil =>
    exact h.bind (related_addMembers h.toSteps _ _ (hmembers (.inl hdirect))) fun _ => h.pure _
  | cons name rest =>
    exact related_polymorphic h hd hdirect (fun hconcrete => hmembers (.inr hconcrete))
      (hsubtypes _ hdirect)

end Component

/-- A relation that allows every component relates each number of levels to itself. -/
theorem related_ofLevels (h : Congruence catalog catalog (fun _ => True) possible related)
    (levels : Nat) :
    (∀ t depth, related ((ofLevels catalog levels).resolve t depth)
      ((ofLevels catalog levels).resolve t depth)) ∧
    ∀ name depth, related ((ofLevels catalog levels).subtype name depth)
      ((ofLevels catalog levels).subtype name depth) := by
  induction levels with
  | zero => exact ⟨fun _ _ => h.pure _, fun _ _ => h.pure _⟩
  | succ levels ih =>
    obtain ⟨hresolve, hsubtype⟩ := ih
    have hnamed : ∀ t depth, related ((ofLevels catalog levels).named catalog t depth)
        ((ofLevels catalog levels).named catalog t depth) := by
      intro t depth
      refine related_named h.toSteps rfl (fun _ => trivial) fun d hlookup => ?_
      unfold declared
      split
      · exact h.pure _
      · exact h.construct trivial (related_component h (TypeCatalog.mem_of_lookup? hlookup)
          (fun _ m _ => hresolve m.type _) fun _ _ name _ => hsubtype name _)
    refine ⟨fun t depth => ?_, fun name depth => hnamed (.ofName name) depth⟩
    exact related_any h.toSteps fun _ _ => related_composite h.toSteps (fun _ _ _ => trivial)
      (fun inner _ => hresolve inner _) fun _ => hnamed t depth

end Resolver

end RestContract
