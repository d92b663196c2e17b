import RestContract.Proofs.FirstMeetings

/-!
Where constructions come from. Resolution constructs a component only on the way to a
position that refers to it: the position that is asked for, a position in the schema of
another construction, or one in the members that another construction hands down. So every
construction of a run can be traced back, from one construction to the next, to the
position that the run ends with.

Here this is said of the names at the end, whatever is constructed in between: the traced
origins are those that lie in every set that holds the roots and, with the origin of a
construction, all origins that the construction bears.
-/
namespace RestContract

/-- Catalogs in which no member is written over and no members are handed down in vain: the
members of each type have names of their own, none is named like a discriminator, no type
is below itself, and no enumeration is below another type. -/
structure TypeCatalog.Tidy (catalog : TypeCatalog) : Prop where
  distinct : ∀ d ∈ catalog.definitions, (d.serializedMembers.map Member.name).Nodup
  apart : ∀ d ∈ catalog.definitions, ∀ b ∈ catalog.definitions,
    Naming.discriminatorProperty b.simpleName ∉ d.serializedMembers.map Member.name
  acyclic : ∀ name, ¬catalog.Below name name
  enums : ∀ d ∈ catalog.definitions, d.isEnum = true → d.supertypes = []

theorem TypeCatalog.Tidy.ne_of_below {catalog : TypeCatalog} {base name : String}
    (h : catalog.Tidy) (hbelow : catalog.Below base name) : name ≠ base := by
  intro heq
  rw [heq] at hbelow
  exact h.acyclic base hbelow

namespace Registry

variable {catalog : TypeCatalog} {r : Registry} {ref : SchemaRef} {schema : Schema}
  {origin : Origin} {name : String} {t inner : TypeDescriptor} {depth : Nat}

def Shows (r : Registry) (ref : SchemaRef) (origin : Origin) : Prop :=
  ∃ name, r.nameOf? origin = some name ∧ ref.Mentions (componentPath ++ name)

theorem shows_component (h : r.nameOf? origin = some name) : r.Shows (.component name) origin :=
  ⟨name, h, .here⟩

theorem Shows.inside {part : SchemaRef} (h : r.Shows part origin) (hpart : part ∈ schema.parts) :
    r.Shows (.inline schema) origin := by
  obtain ⟨name, hname, hmention⟩ := h
  exact ⟨name, hname, .inside hpart hmention⟩

theorem Shows.array (h : r.Shows ref origin) : r.Shows (.inline (.array ref)) origin :=
  h.inside (by simp [Schema.parts, Schema.array])

theorem Shows.collection (h : r.Shows ref origin) (family : ContainerFamily) :
    r.Shows (Resolver.collectionSchema family ref) origin := by
  cases family with
  | sequence | map => exact h.array
  | set => exact h.inside (by simp [Schema.parts, Schema.array])

theorem Shows.mapOf (h : r.Shows ref origin) : r.Shows (.inline (.mapOf ref)) origin :=
  h.inside (by simp [Schema.parts, Schema.mapOf])

theorem Shows.withDescription (h : r.Shows (.inline schema) origin) (text : String) :
    r.Shows (.inline (schema.withDescription text)) origin := by
  obtain ⟨name, hname, hmention⟩ := h
  cases hmention with
  | inside hpart hmention => exact ⟨name, hname, .inside hpart hmention⟩

theorem Shows.entry (h : r.Shows ref origin) (hentry : (name, ref) ∈ schema.propertyMap.entries) :
    r.Shows (.inline schema) origin := by
  refine h.inside ?_
  have hpart : ref ∈ schema.propertyMap.entries.map Prod.snd := List.mem_map.mpr ⟨_, hentry, rfl⟩
  simp only [Schema.parts, List.mem_append]
  exact .inl (.inl (.inl (.inr hpart)))

theorem Shows.property (h : r.Shows ref origin) (hget : schema.propertyMap.get? name = some ref) :
    r.Shows (.inline schema) origin :=
  h.entry (SortedMap.mem_entries_of_get? hget)

def Exhibits (catalog : TypeCatalog) (r : Registry) (t : TypeDescriptor) (depth : Nat)
    (origin : Origin) : Prop :=
  ∃ ref, r.position? catalog t depth = some ref ∧ r.Shows ref origin

def ExhibitsName (catalog : TypeCatalog) (r : Registry) (name : String) (origin : Origin) :
    Prop :=
  ∃ ref, r.namedPosition? catalog name = some ref ∧ r.Shows ref origin

section Parts

variable {inside : TypeDescriptor → Option SchemaRef}

theorem optionalPosition?_of_part (hinner : inner ∈ t.optionalParts)
    (h : inside inner = some ref) : optionalPosition? inside t = some ref := by
  unfold TypeDescriptor.optionalParts at hinner
  unfold optionalPosition?
  split at hinner
  next only harguments => simpa [harguments, ← List.mem_singleton.mp hinner] using h
  next => cases hinner

theorem collectionPosition?_of_part (family : ContainerFamily) (hinner : inner ∈ t.collectionParts)
    (h : inside inner = some ref) :
    collectionPosition? inside family t = some (Resolver.collectionSchema family ref) := by
  unfold TypeDescriptor.collectionParts at hinner
  unfold collectionPosition?
  cases harguments : t.arguments with
  | nil => simp [harguments] at hinner
  | cons element rest =>
    have helement : inner = element := by simpa [harguments] using hinner
    simp [← helement, h]

theorem mapPosition?_of_part
    (htexts : ∀ key value, t.arguments = [key, value] → isText key = true)
    (hinner : inner ∈ t.mapParts) (h : inside inner = some ref) :
    r.mapPosition? inside t = some (.inline (.mapOf ref)) := by
  unfold TypeDescriptor.mapParts at hinner
  split at hinner
  next key value harguments =>
    have htext := htexts key value harguments
    have hvalue : inner = value := by simpa [htext] using hinner
    simp [mapPosition?, harguments, htext, ← hvalue, h]
  next => cases hinner

end Parts

/-- Unless it is a map with a component of its own, a type is written in place, around the
positions of its parts. -/
theorem Exhibits.part (hdepth : depth ≤ maxDepth) (hclass : classify t = .composite)
    (hplace : ∀ key value, ¬t.IsCompositeMap key value) (hinner : inner ∈ t.parts)
    (h : r.Exhibits catalog inner (depth + 1) origin) : r.Exhibits catalog t depth origin := by
  obtain ⟨ref, hposition, hshows⟩ := h
  unfold Exhibits
  rw [position?_of_shallow hdepth, hclass]
  unfold TypeDescriptor.parts at hinner
  unfold compositePosition?
  by_cases hany : isAnyObject t = true
  · simp [hany] at hinner
  by_cases hoptional : isOptional t = true
  · simp only [if_neg hany, if_pos hoptional] at hinner ⊢
    exact ⟨ref, optionalPosition?_of_part hinner hposition, hshows⟩
  simp only [if_neg hany, if_neg hoptional] at hinner ⊢
  cases hfamily : ContainerFamily.of? t with
  | none => simp [hfamily] at hinner
  | some family =>
    simp only [hfamily] at hinner ⊢
    cases family with
    | sequence => exact ⟨_, collectionPosition?_of_part _ hinner hposition, hshows.collection _⟩
    | set => exact ⟨_, collectionPosition?_of_part _ hinner hposition, hshows.collection _⟩
    | map =>
      refine ⟨_, mapPosition?_of_part (fun key value harguments => ?_) hinner hposition,
        hshows.mapOf⟩
      by_contra htext
      exact hplace key value ⟨by simpa using hany, by simpa using hoptional, hfamily, harguments,
        Bool.eq_false_iff.mpr htext⟩

def ExhibitsMember (catalog : TypeCatalog) (r : Registry) (d : TypeDefinition) (depth : Nat)
    (origin : Origin) : Prop :=
  ∃ m ∈ d.serializedMembers, r.Exhibits catalog m.type (depth + 1) origin

def ExhibitsSubtype (catalog : TypeCatalog) (r : Registry) (base : String) (origin : Origin) :
    Prop :=
  ∃ name ∈ catalog.subtypesOf base, r.ExhibitsName catalog name origin

theorem IsMemberObject.shows {d : TypeDefinition} (h : r.IsMemberObject catalog d depth schema)
    (hnames : (d.serializedMembers.map Member.name).Nodup)
    (hmember : r.ExhibitsMember catalog d depth origin) : r.Shows (.inline schema) origin := by
  obtain ⟨m, hm, ref, hposition, hshows⟩ := hmember
  obtain ⟨property, hproperty, hposition'⟩ := h.property hnames hm
  cases hposition.symm.trans hposition'
  exact hshows.property hproperty

theorem Alternatives.shows {d : TypeDefinition} {alternatives : List SchemaRef}
    (h : r.Alternatives catalog d.name alternatives)
    (hsubtype : r.ExhibitsSubtype catalog d.name origin) :
    r.Shows (.inline (Resolver.polymorphicSchema d alternatives)) origin := by
  obtain ⟨name, hname, ref, hposition, hshows⟩ := hsubtype
  obtain ⟨alternative, halternative, hposition'⟩ := exists_related_of_mem h.flip hname
  cases hposition.symm.trans hposition'
  exact hshows.inside (by simp [Schema.parts, Resolver.polymorphicSchema, halternative])

/-- Whatever the members of a base refer to is handed down, since there is a type below the
base to hand it to. -/
theorem HandsDown.shows {d : TypeDefinition} {attachments : List Attachment}
    (h : r.HandsDown catalog d depth attachments) (hcatalog : catalog.Tidy)
    (hd : d ∈ catalog.definitions) (hsub : catalog.subtypesOf d.name ≠ [])
    (hmember : r.ExhibitsMember catalog d depth origin) :
    ∃ a ∈ attachments, ∃ members, a.inherited = some members ∧
      r.Shows (.inline members) origin := by
  obtain ⟨inherited, below, hinherited, hobject, -, hbelow, rfl⟩ := h
  obtain ⟨name, hname⟩ := List.exists_mem_of_ne_nil _ hsub
  have hfirst : catalog.Below d.name name := .single hname
  have hother := hcatalog.ne_of_below hfirst
  refine ⟨_, List.mem_map_of_mem ((hbelow name).mpr ⟨hfirst, hother⟩), ?_⟩
  cases hsome : inherited with
  | none =>
    obtain ⟨m, hm, -⟩ := hmember
    rw [hinherited.mp hsome] at hm
    cases hm
  | some members =>
    exact ⟨members, rfl, (hobject members hsome).shows (hcatalog.distinct d hd) hmember⟩

theorem shows_compositeMap {key value : TypeDescriptor} {keys values : SchemaRef}
    (h : r.Shows keys origin ∨ r.Shows values origin) :
    r.Shows (.inline (Resolver.compositeMapSchema key value keys values)) origin := by
  have hfirst : (Resolver.compositeMapSchema key value keys values).propertyMap.get? "first" =
      some (.inline (.array keys)) := rfl
  have hlast : (Resolver.compositeMapSchema key value keys values).propertyMap.get? "last" =
      some (.inline (.array values)) := rfl
  rcases h with hkeys | hvalues
  · exact hkeys.array.property hfirst
  · exact hvalues.array.property hlast

end Registry

/-- The construction refers to the component of the origin, in its schema or in the members
that it hands down. -/
def Construction.Bears (r : Registry) (c : Construction) (origin : Origin) : Prop :=
  r.Shows (.inline c.schema) origin ∨
    ∃ a ∈ c.attachments, ∃ members, a.inherited = some members ∧ r.Shows (.inline members) origin

def ClosedUnder (r : Registry) (log : List Construction) (reached : Origin → Prop) : Prop :=
  ∀ c ∈ log, reached c.origin → ∀ origin, c.Bears r origin → reached origin

namespace Pass

/-- The pass grows into the other by constructions that are traced to the roots, whatever
names are added to the registry later. -/
def Traced (catalog : TypeCatalog) (rule : Registry → Construction → Prop)
    (roots : Registry → Origin → Prop) (p p' : Pass) : Prop :=
  ∃ log, Growth catalog rule p log p' ∧ ∀ r, p'.registry.Extends r → ∀ reached,
    ClosedUnder r log reached → (∀ origin, roots r origin → reached origin) →
      ∀ c ∈ log, reached c.origin

namespace Traced

variable {catalog : TypeCatalog} {rule rule' : Registry → Construction → Prop}
  {roots roots' : Registry → Origin → Prop} {p p' p'' : Pass}

theorem growsTo (h : p.Traced catalog rule roots p') : p.GrowsTo catalog rule p' := by
  obtain ⟨log, hgrowth, -⟩ := h
  exact ⟨log, hgrowth⟩

theorem of_quiet (h : p.Quiet catalog p') : p.Traced catalog rule roots p' :=
  ⟨[], .quiet h, by simp⟩

theorem refl (p : Pass) : p.Traced catalog rule roots p := .of_quiet (.refl catalog p)

theorem trans (h : p.Traced catalog rule roots p') (h' : p'.Traced catalog rule roots p'') :
    p.Traced catalog rule roots p'' := by
  have hkeeps := h'.growsTo.keeps
  obtain ⟨log, hgrowth, htraced⟩ := h
  obtain ⟨log', hgrowth', htraced'⟩ := h'
  refine ⟨log ++ log', hgrowth.append hgrowth', ?_⟩
  intro r hext reached hclosed hroots c hc
  rcases List.mem_append.mp hc with hfirst | hsecond
  · exact htraced r (hkeeps.trans hext) reached
      (fun c hc => hclosed c (List.mem_append_left _ hc)) hroots c hfirst
  · exact htraced' r hext reached
      (fun c hc => hclosed c (List.mem_append_right _ hc)) hroots c hsecond

theorem after_quiet (hp : p.Faithful catalog) (hquiet : p.Quiet catalog p')
    (h : p'.Faithful catalog → p'.Traced catalog rule roots p'') :
    p.Traced catalog rule roots p'' := by
  have hgrows : p.GrowsTo catalog rule p' := .of_quiet hquiet
  exact .trans (.of_quiet hquiet) (h (hgrows.faithful hp))

/-- Larger roots, in every registry that knows the names at the end. -/
theorem mono (h : p.Traced catalog rule roots p')
    (himp : ∀ r, p'.registry.Extends r → ∀ origin, roots r origin → roots' r origin) :
    p.Traced catalog rule roots' p' := by
  obtain ⟨log, hgrowth, htraced⟩ := h
  refine ⟨log, hgrowth, ?_⟩
  intro r hext reached hclosed hroots
  exact htraced r hext reached hclosed fun origin horigin => hroots origin (himp r hext _ horigin)

theorem mono_rule (h : p.Traced catalog rule roots p') (himp : ∀ r c, rule r c → rule' r c) :
    p.Traced catalog rule' roots p' := by
  obtain ⟨log, hgrowth, htraced⟩ := h
  exact ⟨log, hgrowth.mono himp, htraced⟩

/-- A construction whose origin is a root, and inside which all is traced to what it bears. -/
theorem construct {c : Construction} {registry : Registry}
    (hclaim : p.registry.claim c.preferred c.origin = .ok (.new c.name, registry))
    (hbody : Traced catalog rule (fun r => c.Bears r) { p with registry } p')
    (hrule : rule p'.registry c)
    (hroot : ∀ r, r.nameOf? c.origin = some c.name → roots r c.origin) :
    p.Traced catalog rule roots (p'.complete c) := by
  obtain ⟨log, hgrowth, htraced⟩ := hbody
  refine ⟨log ++ [c], .construct hclaim hgrowth hrule, ?_⟩
  intro r hext reached hclosed hroots c' hc'
  have hname : r.nameOf? c.origin = some c.name :=
    hext _ _ (nameOf?_complete.trans (Growth.pending hclaim hgrowth).1)
  have hself : reached c.origin := hroots _ (hroot r hname)
  have hborne : ∀ origin, c.Bears r origin → reached origin :=
    hclosed c (List.mem_append_right _ (List.mem_singleton.mpr rfl)) hself
  rcases List.mem_append.mp hc' with hinner | hlast
  · exact htraced r (fun _ _ h => hext _ _ (nameOf?_complete.trans h)) reached
      (fun c hc => hclosed c (List.mem_append_left _ hc)) hborne c' hinner
  · exact List.mem_singleton.mp hlast ▸ hself

end Traced

end Pass

namespace Resolving

variable {catalog : TypeCatalog} {rule : Registry → Construction → Prop}
  {roots : Registry → Origin → Prop} {p p' : Pass} {preferred : String} {origin : Origin}
  {build : Resolving Schema} {ref : SchemaRef}

theorem quiet_of_note {level : LogLevel} {message : String} {fields : List (String × LogValue)}
    {a : Unit} (h : note level message fields p = .ok a p') : p.Quiet catalog p' := by
  cases h
  exact Pass.quiet_record ..

def TracedAbove (catalog : TypeCatalog) (known : Registry) (roots : Registry → Origin → Prop)
    {α : Type} (x : Resolving α) : Prop :=
  ∀ p, p.Faithful catalog → known.Extends p.registry → ∀ a p', x p = .ok a p' →
    p.Traced catalog (Lawful catalog) roots p'

/-- Runs one after the other may share their roots. A component is not among the steps, since
what is constructed inside is traced to the component and not to the roots. -/
theorem TracedAbove.steps (catalog : TypeCatalog) (known : Registry)
    (roots : Registry → Origin → Prop) :
    Steps (fun _ => False) fun x _ => TracedAbove catalog known roots x where
  pure a p hp _ := by
    rintro _ _ ⟨⟩
    exact .refl p
  note _ _ _ _ _ _ _ _ hrun := .of_quiet (quiet_of_note hrun)
  bind hx hf p hp hext := by
    intro b p'' hrun
    obtain ⟨a, p', hfirst, hrest⟩ := bind_eq_ok hrun
    have htraced := hx p hp hext a p' hfirst
    have hp' := htraced.growsTo.faithful hp
    exact htraced.trans
      (hf a p' hp' (hext.trans htraced.growsTo.keeps) b p'' hrest)
  construct hnever := hnever.elim

/-- A component is traced to its origin if what its build constructs is traced to what the
component bears. -/
theorem traced_construct (hroot : ∀ r name, r.nameOf? origin = some name → roots r origin)
    (hbuild : ∀ name q, p.Enrolls name origin q → ∀ schema q', build q = .ok schema q' →
      ∃ q₁ attachments, q' = q₁.attachAll attachments ∧
        rule q₁.registry ⟨preferred, name, origin, schema, attachments⟩ ∧
        q.Traced catalog rule
          (fun r => Construction.Bears r ⟨preferred, name, origin, schema, attachments⟩) q₁)
    (hrun : construct preferred origin build p = .ok ref p') :
    p.Traced catalog rule roots p' := by
  cases hclaim : p.registry.claim preferred origin with
  | error e =>
    have hfail : construct preferred origin build p = .error e p :=
      bind_error (by simp [claim, hclaim])
    rw [hfail] at hrun
    cases hrun
  | ok outcome =>
    obtain ⟨claim, registry⟩ := outcome
    obtain ⟨name, rfl, hname, rfl⟩ | ⟨name, rfl, hnone, hfree, rfl⟩ :=
      Registry.claim_cases hclaim
    · rw [construct_existing hclaim] at hrun
      cases hrun
      exact .refl p
    · rw [construct_new hclaim] at hrun
      obtain ⟨schema, q', hschema, hlast⟩ := bind_eq_ok hrun
      cases hlast
      have hquiet := fun catalog => @quiet_claimed catalog p preferred name origin
        (p.registry.enroll name origin)
      have henrolls : p.Enrolls name origin
          (claimed p preferred name origin (p.registry.enroll name origin)) :=
        ⟨hnone, hfree, (hquiet catalog).registry, (hquiet _).faithful⟩
      obtain ⟨q₁, attachments, rfl, hrule, htraced⟩ := hbuild name _ henrolls schema q' hschema
      exact Pass.Traced.construct (c := ⟨preferred, name, origin, schema, attachments⟩) hclaim
        (.trans (.of_quiet (hquiet catalog)) htraced) hrule fun r => hroot r name

end Resolving

/-- With so many levels, whatever is constructed on the way to a type is traced to the
position of the type. -/
structure Resolver.Traces (catalog : TypeCatalog) (levels : Nat) (resolver : Resolver) :
    Prop where
  resolve : ∀ t depth p, p.Faithful catalog → catalog.room p.registry depth < levels →
    ∀ ref p', resolver.resolve t depth p = .ok ref p' →
      p.Traced catalog (Lawful catalog) (fun r => r.Exhibits catalog t depth) p'
  subtype : ∀ name depth p, p.Faithful catalog → catalog.room p.registry depth < levels →
    ∀ ref p', resolver.subtype name depth p = .ok ref p' →
      p.Traced catalog (Lawful catalog) (fun r => r.ExhibitsName catalog name) p'

namespace Resolver.Traces

open Resolving

variable {catalog : TypeCatalog} {resolver : Resolver} {levels depth : Nat} {known : Registry}
  {roots : Registry → Origin → Prop} {t : TypeDescriptor} {d : TypeDefinition}
  {name : String} {p p' q q' : Pass} {ref : SchemaRef}

section Below

variable (h : resolver.Traces catalog levels)

include h

theorem resolve_above (hroom : catalog.room known depth < levels)
    (himp : ∀ r origin, r.Exhibits catalog t depth origin → roots r origin) :
    TracedAbove catalog known roots (resolver.resolve t depth) := by
  intro p hp hext ref p' hrun
  have hbefore := Nat.lt_of_le_of_lt (TypeCatalog.room_mono hext) hroom
  exact (h.resolve t depth p hp hbefore ref p' hrun).mono fun r _ => himp r

theorem subtype_above (hroom : catalog.room known depth < levels)
    (himp : ∀ r origin, r.ExhibitsName catalog name origin → roots r origin) :
    TracedAbove catalog known roots (resolver.subtype name depth) := by
  intro p hp hext ref p' hrun
  have hbefore := Nat.lt_of_le_of_lt (TypeCatalog.room_mono hext) hroom
  exact (h.subtype name depth p hp hbefore ref p' hrun).mono fun r _ => himp r

theorem member_above (hroom : catalog.room known (depth + 1) < levels) {m : Member}
    (hm : m ∈ d.serializedMembers) :
    TracedAbove catalog known (fun r => r.ExhibitsMember catalog d depth)
      (resolver.resolve m.type (depth + 1)) :=
  h.resolve_above hroom fun _ _ horigin => ⟨m, hm, horigin⟩

theorem memberObject_above (hroom : catalog.room known (depth + 1) < levels) :
    TracedAbove catalog known (fun r => r.ExhibitsMember catalog d depth)
      (resolver.memberObject d depth) :=
  @related_addMembers _ _ resolver resolver depth (TracedAbove.steps catalog known _) _ _
    fun _ hm => h.member_above hroom hm

theorem inherited_above (hroom : catalog.room known (depth + 1) < levels) :
    TracedAbove catalog known (fun r => r.ExhibitsMember catalog d depth)
      (resolver.inherited d depth) :=
  @related_inherited _ _ resolver resolver d depth (TracedAbove.steps catalog known _)
    fun _ hm => h.member_above hroom hm

theorem subtypes_above (hroom : catalog.room known (depth + 1) < levels) :
    TracedAbove catalog known (fun r => r.ExhibitsSubtype catalog d.name)
      (resolver.subtypes depth (catalog.subtypesOf d.name)) :=
  @related_subtypes _ _ resolver resolver depth (TracedAbove.steps catalog known _) _
    fun name hname => h.subtype_above hroom fun _ _ horigin => ⟨name, hname, horigin⟩

end Below

section Level

variable (hcatalog : catalog.Tidy) (hr : resolver.Sound catalog levels)
  (h : resolver.Traces catalog levels)

include hr h

theorem handDown (hq : q.Roomy catalog (depth + 1) levels)
    (hrun : resolver.handDown catalog d (catalog.subtypesOf d.name) depth q = .ok () q') :
    ∃ q₁ attachments, q' = q₁.attachAll attachments ∧
      q₁.registry.HandsDown catalog d depth attachments ∧
      q.Traced catalog (Lawful catalog) (fun r => r.ExhibitsMember catalog d depth) q₁ := by
  obtain ⟨inherited, q₁, hinherited, hrest⟩ := bind_eq_ok hrun
  obtain ⟨below, q₂, hbelow, hattach⟩ := bind_eq_ok hrest
  have htraced := h.inherited_above hq.room q hq.faithful (.refl _) inherited q₁ hinherited
  obtain ⟨hgrows, hnone, hmembers⟩ := (grows_inherited (setting_roomy catalog (depth + 1) levels) hq
    fun m _ => hr.places m.type (depth + 1)).of_ok hinherited
  have hq₁ := hgrows.faithful hq.faithful
  obtain ⟨hgrows₂, hnodup, hfound⟩ :=
    (@grows_descendants catalog (Lawful catalog) q₁ hq₁ d.name).of_ok hbelow
  have hquiet : q₁.Quiet catalog q₂ := by
    cases hbelow
    exact (descendantsFrom_spec hq₁).2
  rw [attachAll_eq_modify] at hattach
  cases hattach
  refine ⟨q₂, _, rfl, ⟨inherited, below, hnone, ?_, hnodup, hfound, rfl⟩,
    htraced.trans (.of_quiet hquiet)⟩
  exact fun members hsome => (hmembers members hsome).mono hgrows₂.keeps

include hcatalog

/-- Whatever is constructed for the alternatives is traced to the schema, and whatever is
constructed for the members is traced to what is handed down. -/
theorem polymorphic (hd : d ∈ catalog.definitions) (henum : d.isEnum = false)
    (hsub : catalog.subtypesOf d.name ≠ []) (hq : q.Roomy catalog (depth + 1) levels)
    {schema : Schema}
    (hrun : resolver.polymorphic catalog d (catalog.subtypesOf d.name) depth q = .ok schema q') :
    ∃ q₁ attachments, q' = q₁.attachAll attachments ∧
      Lawful catalog q₁.registry ⟨d.simpleName, name, .type d.name, schema, attachments⟩ ∧
      q.Traced catalog (Lawful catalog) (fun r =>
        Construction.Bears r ⟨d.simpleName, name, .type d.name, schema, attachments⟩) q₁ := by
  have hsetting := setting_roomy catalog (depth + 1) levels
  obtain ⟨_, q₀, hnote, hrest⟩ := bind_eq_ok hrun
  have hquiet : q.Quiet catalog q₀ := quiet_of_note hnote
  have hq₀ := hsetting.grows q q₀ hq (.of_quiet hquiet)
  obtain ⟨alternatives, q₁, hsubtypes, hlast⟩ := bind_eq_ok hrest
  obtain ⟨hgrows, halternatives⟩ := (grows_subtypes hsetting hq₀ _
    fun name _ => hr.names name (depth + 1)).of_ok hsubtypes
  have hq₁ := hsetting.grows q₀ q₁ hq₀ hgrows
  have htraced : q.Traced catalog (Lawful catalog)
      (fun r => r.ExhibitsSubtype catalog d.name) q₁ :=
    .trans (.of_quiet hquiet)
      (h.subtypes_above hq₀.room q₀ hq₀.faithful (.refl _) alternatives q₁ hsubtypes)
  cases hinterface : d.isInterface with
  | true =>
    simp only [hinterface, Bool.not_true, Bool.false_eq_true, if_false] at hlast
    cases hlast
    refine ⟨q', [], rfl, @Lawful.polymorphic catalog _ name d depth alternatives [] hd henum hsub
      halternatives (fun _ => rfl) (by simp [hinterface]),
      htraced.mono fun r hext origin horigin => .inl ?_⟩
    exact Registry.Alternatives.shows (Registry.Alternatives.mono halternatives hext) horigin
  | false =>
    simp only [hinterface, Bool.not_false, if_true] at hlast
    obtain ⟨_, q₂, hhandDown, hpure⟩ := bind_eq_ok hlast
    cases hpure
    obtain ⟨q₃, attachments, rfl, hattachments, htraced₃⟩ := handDown hr h hq₁ hhandDown
    have halternatives₃ := Registry.Alternatives.mono halternatives
      htraced₃.growsTo.keeps
    let c : Construction :=
      ⟨d.simpleName, name, .type d.name, polymorphicSchema d alternatives, attachments⟩
    have hschema : q.Traced catalog (Lawful catalog) (fun r => c.Bears r) q₁ :=
      htraced.mono fun r hext origin horigin => .inl
        (Registry.Alternatives.shows (Registry.Alternatives.mono halternatives hext) horigin)
    have hhanded : q₁.Traced catalog (Lawful catalog) (fun r => c.Bears r) q₃ :=
      htraced₃.mono fun r hext origin horigin => .inr
        ((hattachments.mono hext).shows hcatalog hd hsub horigin)
    exact ⟨q₃, attachments, rfl, .polymorphic hd henum hsub halternatives₃ (by simp [hinterface])
      fun _ => hattachments, hschema.trans hhanded⟩

theorem component (hd : d ∈ catalog.definitions) (henum : d.isEnum = false)
    (hq : q.Roomy catalog (depth + 1) levels) {schema : Schema}
    (hrun : resolver.component catalog d depth q = .ok schema q') :
    ∃ q₁ attachments, q' = q₁.attachAll attachments ∧
      Lawful catalog q₁.registry ⟨d.simpleName, name, .type d.name, schema, attachments⟩ ∧
      q.Traced catalog (Lawful catalog) (fun r =>
        Construction.Bears r ⟨d.simpleName, name, .type d.name, schema, attachments⟩) q₁ := by
  have hsetting := setting_roomy catalog (depth + 1) levels
  obtain ⟨direct, q₀, hlookup, hrest⟩ := bind_eq_ok hrun
  have hquiet : q.Quiet catalog q₀ := by
    cases hlookup
    exact Pass.quiet_subtypesOf catalog q d.name
  have hdirect : direct = catalog.subtypesOf d.name := by
    cases hlookup
    exact hq.faithful.subtypesOf_eq d.name
  have hq₀ := hsetting.grows q q₀ hq (.of_quiet hquiet)
  subst hdirect
  cases hlist : catalog.subtypesOf d.name with
  | nil =>
    rw [hlist] at hrest
    obtain ⟨members, q₁, hmembers, hpure⟩ := bind_eq_ok hrest
    cases hpure
    obtain ⟨-, hobject⟩ := (grows_memberObject hsetting hq₀
      fun m _ => hr.places m.type (depth + 1)).of_ok hmembers
    have htraced := h.memberObject_above hq₀.room q₀ hq₀.faithful (.refl _) members _ hmembers
    refine ⟨_, [], rfl, .leaf hd henum hlist hobject,
      .trans (.of_quiet hquiet) (htraced.mono fun r hext origin horigin => .inl ?_)⟩
    exact ((hobject.mono hext).shows (hcatalog.distinct d hd) horigin).withDescription d.name
  | cons first rest =>
    have hsub : catalog.subtypesOf d.name ≠ [] := by simp [hlist]
    rw [hlist] at hrest
    obtain ⟨q₁, attachments, heq, hlawful, htraced⟩ :=
      polymorphic hcatalog hr h hd henum hsub hq₀ (by rw [hlist]; exact hrest)
    exact ⟨q₁, attachments, heq, hlawful, .trans (.of_quiet hquiet) htraced⟩

theorem declared (hd : d ∈ catalog.definitions) (hp : p.Roomy catalog depth (levels + 1))
    (hroot : d.isEnum = false → ∀ r name, r.nameOf? (.type d.name) = some name →
      roots r (.type d.name))
    (hrun : resolver.declared catalog d depth p = .ok ref p') :
    p.Traced catalog (Lawful catalog) roots p' := by
  unfold Resolver.declared at hrun
  cases henum : d.isEnum with
  | true =>
    rw [if_pos henum] at hrun
    cases hrun
    exact .refl p
  | false =>
    rw [if_neg (by simp [henum])] at hrun
    refine traced_construct (hroot henum) (fun name q henrolls schema q' hbuild => ?_) hrun
    have hq : q.Roomy catalog (depth + 1) levels :=
      ⟨henrolls.faithful hp.faithful, TypeCatalog.room_lt hp.room hd henrolls⟩
    exact component hcatalog hr h hd henum hq hbuild

theorem named (hp : p.Roomy catalog depth (levels + 1))
    (hrun : resolver.named catalog t depth p = .ok ref p') :
    p.Traced catalog (Lawful catalog) (fun r => r.ExhibitsName catalog t.name) p' := by
  unfold Resolver.named at hrun
  cases hlookup : catalog.lookup? t.name with
  | none =>
    simp only [hlookup] at hrun
    refine traced_construct (fun r name hname => ?_) (fun name q _ schema q' hbuild => ?_)
      hrun
    · refine ⟨.component name, ?_, Registry.shows_component hname⟩
      simp [Registry.namedPosition?, hlookup, Registry.reference?, hname]
    · cases hbuild
      exact ⟨_, [], rfl, .undeclared hlookup, .of_quiet (Pass.quiet_record ..)⟩
  | some d =>
    have hroot : d.isEnum = false → ∀ (r : Registry) name, r.nameOf? (.type d.name) = some name →
        r.ExhibitsName catalog t.name (.type d.name) := by
      intro henum r name hname
      refine ⟨.component name, ?_, Registry.shows_component hname⟩
      simp [Registry.namedPosition?, hlookup, henum, Registry.reference?, hname]
    have hd := TypeCatalog.mem_of_lookup? hlookup
    simp only [hlookup] at hrun
    cases hplain : t.arguments.isEmpty with
    | true =>
      simp only [hplain, Bool.not_true, Bool.false_eq_true, if_false] at hrun
      exact declared hcatalog hr h hd hp hroot hrun
    | false =>
      simp only [hplain, Bool.not_false, if_true] at hrun
      obtain ⟨_, q, hnote, hrest⟩ := bind_eq_ok hrun
      have hquiet : p.Quiet catalog q := quiet_of_note hnote
      have hq := (setting_roomy catalog depth (levels + 1)).grows p q hp (.of_quiet hquiet)
      exact .trans (.of_quiet hquiet) (declared hcatalog hr h hd hq hroot hrest)

end Level

/-- Both lists of a map are in its component. -/
theorem compositeMap (hr : resolver.Sound catalog levels) (h : resolver.Traces catalog levels)
    {key value : TypeDescriptor} (hmap : t.IsCompositeMap key value) (hdepth : depth ≤ maxDepth)
    (hclass : classify t = .composite) (hp : p.Roomy catalog (depth + 1) levels)
    (hrun : resolver.composite catalog t depth p = .ok ref p') :
    p.Traced catalog (Lawful catalog) (fun r => r.Exhibits catalog t depth) p' := by
  have hsetting := setting_roomy catalog (depth + 1) levels
  simp only [composite, hmap.notAny, hmap.notOptional, hmap.family, Resolver.map, hmap.arguments,
    hmap.keys, Bool.false_eq_true, if_false] at hrun
  refine traced_construct (fun r name hname => ?_)
    (fun name q henrolls schema q' hbuild => ?_) hrun
  · refine ⟨.component name, ?_, Registry.shows_component hname⟩
    rw [Registry.position?_of_shallow hdepth, hclass]
    simp only [Registry.compositePosition?, hmap.notAny, hmap.notOptional, hmap.family,
      Registry.mapPosition?, hmap.arguments, hmap.keys, Bool.false_eq_true, if_false,
      Registry.reference?, hname, Option.map_some]
  · have hq := hsetting.claims p q name _ hp henrolls
    obtain ⟨keys, q₁, hkeys, hrest⟩ := bind_eq_ok hbuild
    obtain ⟨hgrows, hkeyPosition⟩ := (hr.places key (depth + 1) q hq).of_ok hkeys
    have hq₁ := hsetting.grows q q₁ hq hgrows
    obtain ⟨values, q₂, hvalues, hpure⟩ := bind_eq_ok hrest
    obtain ⟨hgrows₂, hvaluePosition⟩ := (hr.places value (depth + 1) q₁ hq₁).of_ok hvalues
    cases hpure
    have hkeyPosition₂ := Registry.position?_mono hgrows₂.keeps hkeyPosition
    let c : Construction := ⟨compositeMapName depth, name, .synthetic s!"map {t.qualified}",
      compositeMapSchema key value keys values, []⟩
    have hfirst : q.Traced catalog (Lawful catalog) (fun r => c.Bears r) q₁ := by
      refine (h.resolve key _ q hq.faithful hq.room keys q₁ hkeys).mono ?_
      rintro r hext origin ⟨ref, href, hshows⟩
      cases href.symm.trans (Registry.position?_mono hext hkeyPosition)
      exact .inl (Registry.shows_compositeMap (.inl hshows))
    have hsecond : q₁.Traced catalog (Lawful catalog) (fun r => c.Bears r) q' := by
      refine (h.resolve value _ q₁ hq₁.faithful hq₁.room values q' hvalues).mono ?_
      rintro r hext origin ⟨ref, href, hshows⟩
      cases href.symm.trans (Registry.position?_mono hext hvaluePosition)
      exact .inl (Registry.shows_compositeMap (.inr hshows))
    exact ⟨q', [], rfl, .compositeMap hmap.arguments hmap.keys hkeyPosition₂ hvaluePosition,
      hfirst.trans hsecond⟩

theorem step (hcatalog : catalog.Tidy) (hr : resolver.Sound catalog levels)
    (h : resolver.Traces catalog levels) :
    (resolver.step catalog).Traces catalog (levels + 1) where
  subtype name depth p hp hroom ref p' hrun := named hcatalog hr h ⟨hp, hroom⟩ hrun
  resolve t depth p hp hroom ref p' hrun := by
    have hsteps := TracedAbove.steps catalog p.registry (fun r => r.Exhibits catalog t depth)
    refine @related_any catalog catalog _ _ resolver resolver t depth hsteps
      (fun hdepth hclass => ?_) p hp (.refl _) ref p' hrun
    have hinside : catalog.room p.registry (depth + 1) < levels := by
      unfold TypeCatalog.room at hroom ⊢
      omega
    by_cases hmap : ∃ key value, t.IsCompositeMap key value
    · obtain ⟨key, value, hmap⟩ := hmap
      intro q hq hext ref q' hcomposite
      have hroomy := Pass.Roomy.of_extends ⟨hp, hinside⟩ hq hext
      exact compositeMap hr h hmap hdepth hclass hroomy hcomposite
    · have hplace : ∀ key value, ¬t.IsCompositeMap key value :=
        fun key value hself => hmap ⟨key, value, hself⟩
      refine @related_composite catalog catalog _ _ resolver resolver t depth hsteps hplace
        (fun inner hinner => h.resolve_above hinside fun r origin horigin =>
          horigin.part hdepth hclass hplace hinner) fun hname q hq hext ref q' hnamed => ?_
      have hroomy := Pass.Roomy.of_extends ⟨hp, hroom⟩ hq hext
      refine (named hcatalog hr h hroomy hnamed).mono ?_
      rintro r - origin ⟨ref, href, hshows⟩
      refine ⟨ref, ?_, hshows⟩
      obtain ⟨hany, hoptional, hfamily⟩ := TypeDescriptor.isNamed_iff.mp hname
      rw [Registry.position?_of_shallow hdepth, hclass]
      simpa [Registry.compositePosition?, hany, hoptional, hfamily] using href

theorem ofLevels (hcatalog : catalog.Tidy) (levels : Nat) :
    (Resolver.ofLevels catalog levels).Traces catalog levels := by
  induction levels with
  | zero => exact ⟨fun _ _ _ _ h => absurd h (by omega), fun _ _ _ _ h => absurd h (by omega)⟩
  | succ levels ih => exact ih.step hcatalog (sound_ofLevels catalog levels)

end Resolver.Traces

/-- Whatever is constructed for a root is traced to the position that the root resolves to. -/
theorem traced_resolveRoot {catalog : TypeCatalog} {t : TypeDescriptor} {p p' : Pass}
    {ref : SchemaRef} (hcatalog : catalog.Tidy) (hp : p.Faithful catalog)
    (hrun : resolveRoot catalog t p = .ok ref p') :
    p.Traced catalog (Lawful catalog) (fun r => r.Shows ref) p' := by
  have htraced := (Resolver.Traces.ofLevels hcatalog _).resolve t 1 p hp
    (TypeCatalog.room_lt_full (Nat.le_refl 1)) ref p' hrun
  obtain ⟨-, hposition⟩ := (grows_resolveRoot hp t).of_ok hrun
  refine htraced.mono ?_
  rintro r hext origin ⟨other, hother, hshows⟩
  cases hother.symm.trans (Registry.position?_mono hext hposition)
  exact hshows

end RestContract
