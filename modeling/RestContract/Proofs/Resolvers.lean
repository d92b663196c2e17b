import RestContract.Proofs.Congruences
import RestContract.Proofs.Constructions
import RestContract.Proofs.GrowingRuns

/-!
The levels of resolution. Given enough levels, resolving a type grows the pass by
lawful constructions and ends with the position of the type in the registry.

Enough is what the room asks for: one level for each declared type that has no name
yet, and one for each depth up to the limit. Going one level down costs a level of
depth, or, where the limit no longer counts, follows a name that was just claimed for
a declared type. Either way the room shrinks.

One level up, everything a resolver does grows the pass as soon as the level below does so
at the types that are asked for. This holds under any rule for the constructions that
follows from their being lawful, and from any condition on the pass that outlasts its
growth.
-/
namespace RestContract

namespace TypeCatalog

variable {catalog : TypeCatalog} {r r' : Registry}

def unclaimed (catalog : TypeCatalog) (r : Registry) : Nat :=
  (catalog.definitions.filter fun d => (r.nameOf? (.type d.name)).isNone).length

theorem unclaimed_le_size : catalog.unclaimed r ≤ catalog.size := List.length_filter_le ..

theorem unclaimed_mono (hext : r.Extends r') : catalog.unclaimed r' ≤ catalog.unclaimed r := by
  refine (List.monotone_filter_right _ ?_).length_le
  intro d hnone
  cases hname : r.nameOf? (.type d.name) with
  | none => rfl
  | some name => simp [hext _ name hname] at hnone

/-- Claiming a name for a declared type leaves one fewer. -/
theorem unclaimed_lt {d : TypeDefinition} {name : String} {p p' : Pass}
    (hd : d ∈ catalog.definitions) (h : p.Enrolls name (.type d.name) p') :
    catalog.unclaimed p'.registry < catalog.unclaimed p.registry := by
  have hfilter : catalog.definitions.filter
        (fun e => (p'.registry.nameOf? (.type e.name)).isNone) =
      (catalog.definitions.filter fun e => (p.registry.nameOf? (.type e.name)).isNone).filter
        fun e => e.name ≠ d.name := by
    rw [List.filter_filter]
    refine List.filter_congr fun e _ => ?_
    rw [h.nameOf?_eq]
    by_cases heq : e.name = d.name
    · simp [heq]
    · simp [heq]
  unfold unclaimed
  rw [hfilter]
  refine List.length_filter_lt_length_iff_exists.mpr ⟨d, ?_, by simp⟩
  exact List.mem_filter.mpr ⟨hd, by simp [h.unknown]⟩

def room (catalog : TypeCatalog) (r : Registry) (depth : Nat) : Nat :=
  catalog.unclaimed r + (maxDepth + 1 - depth)

theorem room_mono {depth : Nat} (hext : r.Extends r') :
    catalog.room r' depth ≤ catalog.room r depth :=
  Nat.add_le_add_right (unclaimed_mono hext) _

/-- Claiming a name for a declared type makes up for the level that is used. -/
theorem room_lt {d : TypeDefinition} {name : String} {p p' : Pass} {depth room : Nat}
    (hroom : catalog.room p.registry depth < room + 1) (hd : d ∈ catalog.definitions)
    (h : p.Enrolls name (.type d.name) p') : catalog.room p'.registry (depth + 1) < room := by
  -- Past the depth limit nothing is gained by going deeper; the claim is what counts there.
  have hclaimed := unclaimed_lt hd h
  unfold TypeCatalog.room at hroom ⊢
  omega

/-- From the depth of a root on, root resolution has more levels than there is room. -/
theorem room_lt_full {depth : Nat} (h : 1 ≤ depth) :
    catalog.room r depth < maxDepth + 1 + catalog.size := by
  have hsize := @unclaimed_le_size catalog r
  unfold room
  omega

end TypeCatalog

/-- A condition on passes under which resolution can go on, and a rule for what it
constructs. The condition lasts while the pass grows, and while a name is claimed for a
map. Maps fall under the rule; about types more may have to be known. -/
structure Resolver.Setting (catalog : TypeCatalog) (rule : Registry → Construction → Prop)
    (within : Pass → Prop) : Prop where
  faithful : ∀ p, within p → p.Faithful catalog
  grows : ∀ p p', within p → p.GrowsTo catalog rule p' → within p'
  claims : ∀ p p' name signature, within p → p.Enrolls name (.synthetic signature) p' → within p'
  synthetic : ∀ r c signature, c.origin = .synthetic signature → Lawful catalog r c → rule r c

def Resolver.Places (resolver : Resolver) (catalog : TypeCatalog)
    (rule : Registry → Construction → Prop) (within : Pass → Prop) (t : TypeDescriptor)
    (depth : Nat) : Prop :=
  ∀ p, within p → Resolving.Grows catalog rule (resolver.resolve t depth) p fun ref r =>
    r.position? catalog t depth = some ref

def Resolver.Names (resolver : Resolver) (catalog : TypeCatalog)
    (rule : Registry → Construction → Prop) (within : Pass → Prop) (name : String)
    (depth : Nat) : Prop :=
  ∀ p, within p → Resolving.Grows catalog rule (resolver.subtype name depth) p fun ref r =>
    r.namedPosition? catalog name = some ref

namespace Resolver

open Resolving TypeDescriptor

variable {catalog : TypeCatalog} {rule : Registry → Construction → Prop} {within : Pass → Prop}
  {levels depth : Nat} {resolver : Resolver} {p : Pass} {d : TypeDefinition} {t : TypeDescriptor}

theorem grows_optional (hp : within p)
    (hparts : ∀ inner ∈ t.optionalParts, resolver.Places catalog rule within inner (depth + 1)) :
    Grows catalog rule (resolver.optional t depth) p fun ref r =>
      Registry.optionalPosition? (r.position? catalog · (depth + 1)) t = some ref := by
  match t with
  | ⟨name, [inner]⟩ => exact hparts inner (List.mem_singleton.mpr rfl) p hp
  | ⟨name, []⟩ | ⟨name, _ :: _ :: _⟩ => exact Grows.note.bind fun _ _ _ _ => .pure rfl

theorem grows_collection (hp : within p) (family : ContainerFamily)
    (hparts : ∀ inner ∈ t.collectionParts,
      resolver.Places catalog rule within inner (depth + 1)) :
    Grows catalog rule (resolver.collection t family depth) p fun ref r =>
      Registry.collectionPosition? (r.position? catalog · (depth + 1)) family t = some ref := by
  match t with
  | ⟨name, element :: rest⟩ =>
    have helement := hparts element (List.mem_cons_self ..)
    refine (helement p hp).bind fun items p' _ hitems => .pure ?_
    simp [Registry.collectionPosition?, hitems]
  | ⟨name, []⟩ => exact Grows.note.bind fun _ _ _ _ => .pure rfl

section Inside

variable (h : Setting catalog rule within) (hp : within p)

include h hp

/-- The keys are resolved before the values, so their position is carried along. -/
theorem builds_compositeMap {name : String} {key value : TypeDescriptor}
    (hkey : resolver.Places catalog rule within key (depth + 1))
    (hvalue : resolver.Places catalog rule within value (depth + 1))
    (harguments : t.arguments = [key, value]) (htext : isText key = false) :
    Builds catalog rule
      (do
        let keys ← resolver.resolve key (depth + 1)
        let values ← resolver.resolve value (depth + 1)
        return compositeMapSchema key value keys values)
      p fun schema attachments r =>
        rule r ⟨compositeMapName depth, name, .synthetic s!"map {t.qualified}", schema,
          attachments⟩ := by
  refine Builds.bind (hkey p hp) fun keys p₁ hgrows hkeys => ?_
  have hp₁ := h.grows p p₁ hp hgrows
  refine Builds.bind (hvalue p₁ hp₁) fun values p₂ hgrows₂ hvalues => ?_
  have hkeys₂ := Registry.position?_mono hgrows₂.keeps hkeys
  have hrule := h.synthetic p₂.registry _ _ rfl
    (@Lawful.compositeMap catalog _ name t key value depth keys values harguments htext hkeys₂
      hvalues)
  exact Builds.of_grows (.pure hrule) fun _ _ hrule => hrule

theorem grows_map
    (hparts : ∀ inner ∈ t.mapParts, resolver.Places catalog rule within inner (depth + 1)) :
    Grows catalog rule (resolver.map t depth) p fun ref r =>
      r.mapPosition? (r.position? catalog · (depth + 1)) t = some ref := by
  match t with
  | ⟨name, [key, value]⟩ =>
    cases htext : isText key with
    | true =>
      simp only [mapParts, htext, if_true, List.mem_singleton, forall_eq] at hparts
      simp only [map, Registry.mapPosition?, htext, if_true]
      refine (hparts p hp).bind fun values p' _ hvalues => .pure ?_
      simp [hvalues]
    | false =>
      simp only [mapParts, htext, Bool.false_eq_true, if_false, List.mem_cons, List.not_mem_nil,
        or_false, forall_eq_or_imp, forall_eq] at hparts
      simp only [map, Registry.mapPosition?, htext, Bool.false_eq_true, if_false]
      refine Grows.construct fun claimed p' henrolls => ?_
      have hclaimed := h.claims p p' claimed _ hp henrolls
      exact builds_compositeMap h hclaimed hparts.1 hparts.2 rfl htext
  | ⟨name, []⟩ | ⟨name, [_]⟩ | ⟨name, _ :: _ :: _ :: _⟩ =>
    exact Grows.note.bind fun _ _ _ _ => .pure rfl

theorem grows_addMembers (members : List Member) (schema : Schema)
    (hmembers : ∀ m ∈ members, resolver.Places catalog rule within m.type (depth + 1)) :
    Grows catalog rule (resolver.addMembers depth members schema) p fun result r =>
      ∃ placed, r.PlacesMembers catalog depth members placed ∧
        result = placed.foldl (fun s entry => s.insertProperty entry.1 entry.2) schema := by
  induction members generalizing p schema with
  | nil => exact .pure ⟨[], .nil, rfl⟩
  | cons m rest ih =>
    obtain ⟨hfirst, hrest⟩ := List.forall_mem_cons.mp hmembers
    refine (hfirst p hp).bind fun property p₁ hgrows hproperty => ?_
    have hp₁ := h.grows p p₁ hp hgrows
    refine (ih hp₁ (schema.insertProperty m.name property) hrest).imp ?_
    rintro result p₂ hgrows₂ ⟨placed, hplaced, rfl⟩
    have hproperty₂ := Registry.position?_mono hgrows₂.keeps hproperty
    exact ⟨(m.name, property) :: placed, .cons ⟨rfl, hproperty₂⟩ hplaced, rfl⟩

theorem grows_memberObject
    (hmembers : ∀ m ∈ d.serializedMembers,
      resolver.Places catalog rule within m.type (depth + 1)) :
    Grows catalog rule (resolver.memberObject d depth) p fun schema r =>
      r.IsMemberObject catalog d depth schema := by
  refine (grows_addMembers h hp d.serializedMembers Schema.object hmembers).imp ?_
  rintro schema p' - ⟨placed, hplaced, rfl⟩
  exact ⟨placed, hplaced, Schema.foldl_insertProperty _ .empty placed rfl⟩

theorem grows_subtypes (names : List String)
    (hnames : ∀ name ∈ names, resolver.Names catalog rule within name (depth + 1)) :
    Grows catalog rule (resolver.subtypes depth names) p fun alternatives r =>
      List.Forall₂ (fun name ref => r.namedPosition? catalog name = some ref) names
        alternatives := by
  induction names generalizing p with
  | nil => exact .pure .nil
  | cons name rest ih =>
    obtain ⟨hname, hrest⟩ := List.forall_mem_cons.mp hnames
    refine (hname p hp).bind fun first p₁ hgrows hfirst => ?_
    have hp₁ := h.grows p p₁ hp hgrows
    refine (ih hp₁ hrest).bind fun others p₂ hgrows₂ hothers => .pure ?_
    exact .cons (Registry.namedPosition?_mono hgrows₂.keeps hfirst) hothers

theorem grows_inherited
    (hmembers : ∀ m ∈ d.serializedMembers,
      resolver.Places catalog rule within m.type (depth + 1)) :
    Grows catalog rule (resolver.inherited d depth) p fun inherited r =>
      (inherited = none ↔ d.serializedMembers = []) ∧
        ∀ members, inherited = some members → r.IsMemberObject catalog d depth members := by
  unfold inherited
  split
  next hempty => exact .pure ⟨by simpa using hempty, by simp⟩
  next hsome =>
    refine (grows_memberObject h hp hmembers).map fun schema r hschema => ⟨?_, ?_⟩
    · simpa using hsome
    · rintro members ⟨⟩
      exact hschema

end Inside

theorem attachAll_eq_modify (property : String) (inherited : Option Schema)
    (direct below : List String) :
    attachAll property inherited direct below = modify (Pass.attachAll · (below.map fun name =>
      ⟨.type name, property, inherited, direct.contains name⟩)) := by
  induction below with
  | nil => rfl
  | cons name rest ih =>
    rw [attachAll, ih]
    rfl

/-- The walk over the descendants leaves the registry as it is. -/
theorem grows_descendants (hp : p.Faithful catalog) (base : String) :
    Grows catalog rule (descendants catalog base (catalog.subtypesOf base)) p fun below _ =>
      below.Nodup ∧ ∀ name, name ∈ below ↔ catalog.Below base name ∧ name ≠ base := by
  obtain ⟨hwalk, hquiet⟩ := @descendantsFrom_spec catalog
    (without base (catalog.definitions.map TypeDefinition.name)) (catalog.subtypesOf base) p
    hp
  exact .modifyGet hquiet ⟨hwalk.nodup, fun _ => hwalk.mem_iff⟩

section Component

variable (h : Setting catalog rule within) (hp : within p)

include h hp

theorem builds_handDown
    (hmembers : ∀ m ∈ d.serializedMembers,
      resolver.Places catalog rule within m.type (depth + 1)) :
    Builds catalog rule (resolver.handDown catalog d (catalog.subtypesOf d.name) depth) p
      fun _ attachments r => r.HandsDown catalog d depth attachments := by
  refine Builds.bind (grows_inherited h hp hmembers) fun inherited p₁ hgrows hinherited => ?_
  have hp₁ := h.faithful p₁ (h.grows p p₁ hp hgrows)
  refine Builds.bind (grows_descendants hp₁ d.name) fun below p₂ hgrows₂ hbelow => ?_
  rw [attachAll_eq_modify]
  refine ⟨p₂, _, .refl p₂, rfl, inherited, below, hinherited.1, ?_, hbelow.1, hbelow.2, rfl⟩
  exact fun members h => (hinherited.2 members h).mono hgrows₂.keeps

variable (hrule : ∀ p c, within p → c.origin = .type d.name → Lawful catalog p.registry c →
  rule p.registry c)

include hrule

theorem builds_polymorphic {name : String} (hd : d ∈ catalog.definitions)
    (henum : d.isEnum = false) (hsub : catalog.subtypesOf d.name ≠ [])
    (hmembers : d.isInterface = false → ∀ m ∈ d.serializedMembers,
      resolver.Places catalog rule within m.type (depth + 1))
    (hsubtypes : ∀ name ∈ catalog.subtypesOf d.name,
      resolver.Names catalog rule within name (depth + 1)) :
    Builds catalog rule (resolver.polymorphic catalog d (catalog.subtypesOf d.name) depth) p
      fun schema attachments r =>
        rule r ⟨d.simpleName, name, .type d.name, schema, attachments⟩ := by
  refine Builds.bind Grows.note fun _ p₁ hgrows _ => ?_
  have hp₁ := h.grows p p₁ hp hgrows
  refine Builds.bind (grows_subtypes h hp₁ (catalog.subtypesOf d.name) hsubtypes)
    fun alternatives p₂ hgrows₂ halternatives => ?_
  have hp₂ := h.grows p₁ p₂ hp₁ hgrows₂
  cases hinterface : d.isInterface with
  | true =>
    refine Builds.of_grows (.pure ?_) fun _ _ hrule => hrule
    exact hrule p₂ _ hp₂ rfl (@Lawful.polymorphic catalog p₂.registry name d depth alternatives []
      hd henum hsub halternatives (fun _ => rfl) (by simp [hinterface]))
  | false =>
    refine Builds.bind_pure (builds_handDown h hp₂ (hmembers hinterface))
      fun _ attachments p₃ hgrows₃ hattachments => ?_
    have halternatives₃ := Registry.Alternatives.mono halternatives
      hgrows₃.keeps
    exact hrule p₃ _ (h.grows p₂ p₃ hp₂ hgrows₃) rfl
      (.polymorphic hd henum hsub halternatives₃ (by simp [hinterface]) fun _ => hattachments)

/-- The schema of a declared type. Its members are asked for unless it is an interface with
subtypes. -/
theorem builds_component {name : String} (hd : d ∈ catalog.definitions)
    (henum : d.isEnum = false)
    (hmembers : catalog.subtypesOf d.name = [] ∨ d.isInterface = false →
      ∀ m ∈ d.serializedMembers, resolver.Places catalog rule within m.type (depth + 1))
    (hsubtypes : ∀ name ∈ catalog.subtypesOf d.name,
      resolver.Names catalog rule within name (depth + 1)) :
    Builds catalog rule (resolver.component catalog d depth) p fun schema attachments r =>
      rule r ⟨d.simpleName, name, .type d.name, schema, attachments⟩ := by
  have hlookup : Grows catalog rule (subtypesOf catalog d.name) p
      fun direct _ => direct = catalog.subtypesOf d.name :=
    .modifyGet (Pass.quiet_subtypesOf catalog p d.name)
      ((h.faithful p hp).subtypesOf_eq d.name)
  refine Builds.bind hlookup fun direct p₁ hgrows hdirect => ?_
  have hp₁ := h.grows p p₁ hp hgrows
  subst hdirect
  split
  next hleaf =>
    refine Builds.bind (grows_memberObject h hp₁ (hmembers (.inl hleaf)))
      fun members p₂ hgrows₂ hobject => ?_
    have hlawful := hrule p₂ _ (h.grows p₁ p₂ hp₁ hgrows₂) rfl
      (@Lawful.leaf catalog p₂.registry name d depth members hd henum hleaf hobject)
    exact Builds.of_grows (.pure hlawful) fun _ _ hrule => hrule
  next hsub =>
    exact builds_polymorphic h hp₁ hrule hd henum hsub (fun hconcrete => hmembers (.inr hconcrete))
      hsubtypes

end Component

theorem grows_declared
    (hcomponent : d.isEnum = false → ∀ name p', p.Enrolls name (.type d.name) p' →
      Builds catalog rule (resolver.component catalog d depth) p' fun schema attachments r =>
        rule r ⟨d.simpleName, name, .type d.name, schema, attachments⟩) :
    Grows catalog rule (resolver.declared catalog d depth) p fun ref r =>
      (if d.isEnum then some (.inline (enumSchema d)) else r.reference? (.type d.name)) =
        some ref := by
  unfold declared
  cases henum : d.isEnum with
  | true => exact .pure rfl
  | false => exact Grows.construct (hcomponent henum)

theorem grows_undeclared (hlookup : catalog.lookup? t.name = none)
    (hrule : ∀ r c, c.origin = .type t.name → Lawful catalog r c → rule r c) :
    Grows catalog rule (undeclared t) p fun ref r =>
      r.reference? (.type t.name) = some ref := by
  refine Grows.construct fun name p' _ => ?_
  refine Builds.of_grows ?_ fun _ _ hrule => hrule
  exact Grows.note.bind fun _ _ _ _ => .pure (hrule _ _ rfl (.undeclared hlookup))

theorem grows_named (hundeclared : catalog.lookup? t.name = none → ∀ r c, c.origin = .type t.name →
      Lawful catalog r c → rule r c)
    (hdeclared : ∀ d, catalog.lookup? t.name = some d → ∀ p', p.GrowsTo catalog rule p' →
      Grows catalog rule (resolver.declared catalog d depth) p' fun ref r =>
        (if d.isEnum then some (.inline (enumSchema d)) else r.reference? (.type d.name)) =
          some ref) :
    Grows catalog rule (resolver.named catalog t depth) p fun ref r =>
      r.namedPosition? catalog t.name = some ref := by
  unfold named Registry.namedPosition?
  cases hlookup : catalog.lookup? t.name with
  | none => exact grows_undeclared hlookup (hundeclared hlookup)
  | some d =>
    cases t.arguments.isEmpty with
    | true => exact hdeclared d hlookup p (.refl p)
    | false => exact Grows.note.bind fun _ p' hgrows _ => hdeclared d hlookup p' hgrows

theorem grows_composite (h : Setting catalog rule within) (hp : within p)
    (hparts : ∀ inner ∈ t.parts, resolver.Places catalog rule within inner (depth + 1))
    (hnamed : t.isNamed = true →
      Grows catalog rule (resolver.named catalog t depth) p fun ref r =>
        r.namedPosition? catalog t.name = some ref) :
    Grows catalog rule (resolver.composite catalog t depth) p fun ref r =>
      r.compositePosition? catalog (r.position? catalog · (depth + 1)) t = some ref := by
  unfold composite Registry.compositePosition?
  unfold parts at hparts
  by_cases hany : isAnyObject t = true
  · simp only [if_pos hany]
    exact .pure rfl
  by_cases hoptional : isOptional t = true
  · simp only [if_neg hany, if_pos hoptional] at hparts ⊢
    exact grows_optional hp hparts
  simp only [if_neg hany, if_neg hoptional] at hparts ⊢
  cases hfamily : ContainerFamily.of? t with
  | none => exact hnamed (by simp [isNamed, hany, hoptional, hfamily])
  | some family =>
    rw [hfamily] at hparts
    cases family with
    | map => exact grows_map h hp hparts
    | sequence => exact grows_collection hp .sequence hparts
    | set => exact grows_collection hp .set hparts

theorem grows_any (hcomposite : depth ≤ maxDepth → classify t = .composite →
      Grows catalog rule (resolver.composite catalog t depth) p fun ref r =>
        r.compositePosition? catalog (r.position? catalog · (depth + 1)) t = some ref) :
    Grows catalog rule (resolver.any catalog t depth) p fun ref r =>
      r.position? catalog t depth = some ref := by
  unfold any
  split
  next hdeep =>
    exact Grows.note.bind fun _ _ _ _ => .pure (Registry.position?_of_deep hdeep)
  next hshallow =>
    have hdepth : depth ≤ maxDepth := by omega
    simp only [Registry.position?_of_shallow hdepth]
    cases hclass : classify t with
    | scalar schema => exact .pure rfl
    | void => exact Grows.note.bind fun _ _ _ _ => .pure rfl
    | composite => exact hcomposite hdepth hclass

end Resolver

structure Resolver.Sound (catalog : TypeCatalog) (levels : Nat) (resolver : Resolver) : Prop where
  resolve : ∀ (t : TypeDescriptor) (depth : Nat) (p : Pass), p.Faithful catalog →
    catalog.room p.registry depth < levels →
    Resolving.Grows catalog (Lawful catalog) (resolver.resolve t depth) p fun ref r =>
      r.position? catalog t depth = some ref
  subtype : ∀ (name : String) (depth : Nat) (p : Pass), p.Faithful catalog →
    catalog.room p.registry depth < levels →
    Resolving.Grows catalog (Lawful catalog) (resolver.subtype name depth) p fun ref r =>
      r.namedPosition? catalog name = some ref

structure Pass.Roomy (catalog : TypeCatalog) (depth levels : Nat) (p : Pass) : Prop where
  faithful : p.Faithful catalog
  room : catalog.room p.registry depth < levels

theorem Pass.Roomy.of_extends {catalog : TypeCatalog} {depth levels : Nat} {p p' : Pass}
    (hp : p.Roomy catalog depth levels) (hp' : p'.Faithful catalog)
    (hext : p.registry.Extends p'.registry) : p'.Roomy catalog depth levels :=
  ⟨hp', Nat.lt_of_le_of_lt (TypeCatalog.room_mono hext) hp.room⟩

namespace Resolver

open Resolving

variable {catalog : TypeCatalog} {levels depth : Nat} {resolver : Resolver} {p : Pass}
  {d : TypeDefinition} {t : TypeDescriptor}

theorem setting_roomy (catalog : TypeCatalog) (depth levels : Nat) :
    Setting catalog (Lawful catalog) (Pass.Roomy catalog depth levels) where
  faithful _ hp := hp.faithful
  grows _ _ hp hgrows := hp.of_extends (hgrows.faithful hp.faithful) hgrows.keeps
  claims _ _ _ _ hp henrolls := hp.of_extends (henrolls.faithful hp.faithful) henrolls.keeps
  synthetic _ _ _ _ hlawful := hlawful

namespace Sound

variable (hr : resolver.Sound catalog levels)

include hr

theorem places (t : TypeDescriptor) (depth : Nat) :
    resolver.Places catalog (Lawful catalog) (Pass.Roomy catalog depth levels) t depth :=
  fun p hp => hr.resolve t depth p hp.faithful hp.room

theorem names (name : String) (depth : Nat) :
    resolver.Names catalog (Lawful catalog) (Pass.Roomy catalog depth levels) name depth :=
  fun p hp => hr.subtype name depth p hp.faithful hp.room

theorem declared (hp : p.Roomy catalog depth (levels + 1)) (hd : d ∈ catalog.definitions) :
    Grows catalog (Lawful catalog) (resolver.declared catalog d depth) p fun ref r =>
      (if d.isEnum then some (.inline (enumSchema d)) else r.reference? (.type d.name)) =
        some ref := by
  refine grows_declared fun henum name p' henrolls => ?_
  have hinside : p'.Roomy catalog (depth + 1) levels :=
    ⟨henrolls.faithful hp.faithful, TypeCatalog.room_lt hp.room hd henrolls⟩
  exact builds_component (setting_roomy catalog (depth + 1) levels) hinside
    (fun _ _ _ _ hlawful => hlawful) hd henum (fun _ m _ => hr.places m.type (depth + 1))
    fun name _ => hr.names name (depth + 1)

theorem named (hp : p.Roomy catalog depth (levels + 1)) :
    Grows catalog (Lawful catalog) (resolver.named catalog t depth) p fun ref r =>
      r.namedPosition? catalog t.name = some ref := by
  refine grows_named (fun _ _ _ _ hlawful => hlawful) fun d hlookup p' hgrows => ?_
  have hp' := (setting_roomy catalog depth (levels + 1)).grows p p' hp hgrows
  exact hr.declared hp' (TypeCatalog.mem_of_lookup? hlookup)

theorem step : (resolver.step catalog).Sound catalog (levels + 1) where
  subtype name depth p hp hroom := hr.named ⟨hp, hroom⟩
  resolve t depth p hp hroom := by
    refine grows_any fun hdepth _ => ?_
    have hinside : p.Roomy catalog (depth + 1) levels := by
      refine ⟨hp, ?_⟩
      unfold TypeCatalog.room at hroom ⊢
      omega
    exact grows_composite (setting_roomy catalog (depth + 1) levels) hinside
      (fun inner _ => hr.places inner (depth + 1)) fun _ => hr.named ⟨hp, hroom⟩

end Sound

theorem sound_ofLevels (catalog : TypeCatalog) (levels : Nat) :
    (ofLevels catalog levels).Sound catalog levels := by
  induction levels with
  | zero => exact ⟨fun _ _ _ _ h => absurd h (by omega), fun _ _ _ _ h => absurd h (by omega)⟩
  | succ levels ih => exact ih.step

end Resolver

/-- The levels of a root resolution are enough for every type. -/
theorem grows_resolveRoot {catalog : TypeCatalog} {p : Pass} (hp : p.Faithful catalog)
    (t : TypeDescriptor) :
    Resolving.Grows catalog (Lawful catalog) (resolveRoot catalog t) p fun ref r =>
      r.position? catalog t 1 = some ref :=
  (Resolver.sound_ofLevels catalog _).resolve t 1 p hp (TypeCatalog.room_lt_full (Nat.le_refl 1))

end RestContract
