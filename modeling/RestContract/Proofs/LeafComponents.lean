import Mathlib.Data.List.Nodup
import RestContract.Proofs.Passes

/-!
The components of types without subtypes. Each concrete type with subtypes that has a
component hands its discriminator and its members down to every type below it, in
whatever order the types are resolved, and nothing else is handed out. So the
component of a leaf is the object of its own members with one attachment for each such
base.
-/
namespace RestContract

open Attachment

variable {catalog : TypeCatalog} {interface : Interface} {r : Registry} {c : Construction}
  {b d : TypeDefinition} {a : Attachment}

/-- A concrete base of a type: declared, neither interface nor enumeration, with a direct
subtype, and with the type among its descendants. -/
structure ConcreteBase (catalog : TypeCatalog) (name : String) (b : TypeDefinition) : Prop where
  declared : b ∈ catalog.definitions
  concrete : b.isInterface = false ∧ b.isEnum = false
  subtypes : catalog.subtypesOf b.name ≠ []
  below : catalog.Below b.name name

theorem ConcreteBase.ne_of_leaf {name : String} (h : ConcreteBase catalog name b)
    (hleaf : catalog.subtypesOf name = []) : name ≠ b.name := by
  rintro rfl
  exact h.subtypes hleaf

/-- The attachment of a base: its discriminator property and, if it has serialized
members, the object of these. It is direct where its target is a direct subtype. -/
structure ComesFrom (catalog : TypeCatalog) (r : Registry) (a : Attachment)
    (b : TypeDefinition) : Prop where
  property : a.property = Naming.discriminatorProperty b.simpleName
  direct : ∀ name, a.target = .type name → a.direct = (catalog.subtypesOf b.name).contains name
  inherited : a.inherited = none ↔ b.serializedMembers = []
  members : ∀ members, a.inherited = some members →
    ∃ depth, r.IsMemberObject catalog b depth members

theorem aimedAt_map {below : List String} {name : String} {attachment : String → Attachment}
    (htarget : ∀ n, (attachment n).target = .type n) (hnodup : below.Nodup) :
    aimedAt (.type name) (below.map attachment) =
      if name ∈ below then [attachment name] else [] := by
  have hfilter : aimedAt (.type name) (below.map attachment) =
      (below.filter (· == name)).map attachment := by
    rw [aimedAt, List.filter_map]
    congr 2
    funext n
    simp [htarget, beq_eq_decide]
  rw [hfilter, List.filter_beq]
  split
  next hmem =>
    rw [List.count_eq_one_of_mem hnodup hmem]
    rfl
  next hmem =>
    rw [List.count_eq_zero.mpr hmem]
    rfl

/-- What one construction hands to a leaf: the one attachment of a base of the leaf, or
nothing. -/
theorem Made.aimedAt_cases (h : Made catalog interface r c)
    {name : String} (hleaf : catalog.subtypesOf name = []) :
    (aimedAt (.type name) c.attachments = [] ∧
      ∀ b, ConcreteBase catalog name b → c.origin ≠ .type b.name) ∨
    (∃ b a, ConcreteBase catalog name b ∧ c.origin = .type b.name ∧
      aimedAt (.type name) c.attachments = [a] ∧ ComesFrom catalog r a b) := by
  by_cases hnone : aimedAt (.type name) c.attachments = []
  · refine .inl ⟨hnone, fun b hb horigin => ?_⟩
    obtain ⟨-, ⟨hsub, -⟩ | ⟨-, alternatives, -, -, hconcrete⟩⟩ :=
      (h.lawful_of_type horigin).of_declared hb.declared horigin
    · exact hb.subtypes hsub
    · obtain ⟨depth, inherited, below, -, -, hnodup, hbelow, heq⟩ := hconcrete hb.concrete.1
      have hname := (hbelow name).mpr ⟨hb.below, hb.ne_of_leaf hleaf⟩
      rw [heq, aimedAt_map (fun _ => rfl) hnodup, if_pos hname] at hnone
      cases hnone
  · right
    obtain ⟨a, ha⟩ := List.exists_mem_of_ne_nil _ hnone
    have hmem := (mem_aimedAt.mp ha).1
    obtain ⟨b, hb, depth, horigin, henum, hinterface, hsub, inherited, below, hinherited,
      hmembers, hnodup, hbelow, heq⟩ :=
      (h.lawful_of_attachment hmem).handsDown (List.ne_nil_of_mem hmem)
    rw [heq, aimedAt_map (fun _ => rfl) hnodup] at hnone ⊢
    split at hnone
    next hname =>
      rw [if_pos hname]
      refine ⟨b, _, ⟨hb, ⟨hinterface, henum⟩, hsub, ((hbelow name).mp hname).1⟩, horigin, rfl, rfl,
        ?_, hinherited, fun members h => ⟨depth, hmembers members h⟩⟩
      rintro _ ⟨⟩
      rfl
    next => exact absurd rfl hnone

/-- What a log hands to a leaf: one attachment from each base of the leaf that was
constructed, in the order of the log. -/
theorem exists_bases {log : List Construction}
    (hmade : ∀ c ∈ log, Made catalog interface r c) {name : String}
    (hleaf : catalog.subtypesOf name = []) :
    ∃ bases : List TypeDefinition,
      (bases.map fun b => Origin.type b.name).Sublist (log.map Construction.origin) ∧
      (∀ b, b ∈ bases ↔ ConcreteBase catalog name b ∧ ∃ c ∈ log, c.origin = .type b.name) ∧
      List.Forall₂ (ComesFrom catalog r) (aimedAt (.type name) (handedOut log)) bases := by
  induction log with
  | nil => exact ⟨[], .slnil, by simp, .nil⟩
  | cons c rest ih =>
    obtain ⟨bases, hsublist, hmem, hfrom⟩ := ih fun c hc => hmade c (List.mem_cons_of_mem _ hc)
    have hcons : aimedAt (.type name) (handedOut (c :: rest)) =
        aimedAt (.type name) c.attachments ++ aimedAt (.type name) (handedOut rest) :=
      aimedAt_append
    rw [hcons]
    obtain ⟨hnone, hother⟩ | ⟨b, a, hb, horigin, hone, ha⟩ :=
      (hmade c (List.mem_cons_self ..)).aimedAt_cases hleaf
    · refine ⟨bases, hsublist.cons _, fun b => ?_, by rwa [hnone]⟩
      rw [hmem b]
      refine and_congr_right fun hb => ?_
      simp [hother b hb]
    · refine ⟨b :: bases, ?_, fun b' => ?_, ?_⟩
      · rw [List.map_cons, List.map_cons, horigin]
        exact hsublist.cons_cons _
      · rw [List.mem_cons, hmem b']
        constructor
        · rintro (rfl | ⟨hb', c', hc', horigin'⟩)
          · exact ⟨hb, c, List.mem_cons_self .., horigin⟩
          · exact ⟨hb', c', List.mem_cons_of_mem _ hc', horigin'⟩
        · rintro ⟨hb', c', hc', horigin'⟩
          -- In a catalog a name belongs to one type, so an equal origin is an equal base.
          rcases List.mem_cons.mp hc' with rfl | htail
          · rw [horigin] at horigin'
            injection horigin' with hsame
            exact .inl (TypeCatalog.eq_of_name_eq hb'.declared hb.declared hsame.symm)
          · exact .inr ⟨hb', c', htail, horigin'⟩
      · rw [hone]
        exact .cons ha hfrom

theorem exists_property_iff {attachments : List Attachment} {bases : List TypeDefinition}
    (h : List.Forall₂ (ComesFrom catalog r) attachments bases) (property : String) :
    (∃ a ∈ attachments, property = a.property) ↔
      ∃ b ∈ bases, property = Naming.discriminatorProperty b.simpleName := by
  induction h with
  | nil => simp
  | cons ha _ ih => simp [ha.property, ih]

/-- The inherited parts of attachments are the member objects of their bases. -/
theorem inherited_parts {attachments : List Attachment} {bases : List TypeDefinition}
    (h : List.Forall₂ (ComesFrom catalog r) attachments bases) :
    List.Forall₂ (fun members b => ∃ depth, r.IsMemberObject catalog b depth members)
      (attachments.filterMap Attachment.inherited)
      (bases.filter fun b => b.serializedMembers ≠ []) := by
  induction h with
  | nil => exact .nil
  | @cons a b attachments bases ha _ ih =>
    cases hinherited : a.inherited with
    | none =>
      have hempty := ha.inherited.mp hinherited
      simpa [hinherited, hempty] using ih
    | some members =>
      have hsome : b.serializedMembers ≠ [] := by
        intro hempty
        rw [ha.inherited.mpr hempty] at hinherited
        cases hinherited
      rw [List.filterMap_cons_some hinherited, List.filter_cons_of_pos (by simpa using hsome)]
      exact .cons (ha.members members hinherited) ih

def IsMembersPart (part : SchemaRef) (b : TypeDefinition) : Prop :=
  ∃ properties, part = .inline (.objectOf properties) ∧
    ∀ property, property ∈ properties.keys ↔ property ∈ b.serializedMembers.map Member.name

theorem Registry.IsMemberObject.isMembersPart {depth : Nat} {members : Schema}
    (h : r.IsMemberObject catalog b depth members) : IsMembersPart (.inline members) b := by
  have hkeys := h.mem_keys
  obtain ⟨placed, -, rfl⟩ := h
  exact ⟨_, rfl, hkeys⟩

/-- The attachments of bases add the members of those bases that have any. -/
theorem allOf_of_bases {s : Schema} {attachments : List Attachment}
    {bases : List TypeDefinition} (hplain : s.isPlainObject = true) (hs : s.allOf = none)
    (h : List.Forall₂ (ComesFrom catalog r) attachments bases) :
    List.Forall₂ IsMembersPart ((applyAll attachments s).allOf.getD [])
      (bases.filter fun b => b.serializedMembers ≠ []) ∧
    ((applyAll attachments s).allOf.isSome = true ↔ ∃ b ∈ bases, b.serializedMembers ≠ []) := by
  have hparts := inherited_parts h
  constructor
  · rw [allOf_applyAll hplain, hs, Option.getD_none, List.nil_append, List.forall₂_map_left_iff]
    exact hparts.imp fun _ _ ⟨_, hmembers⟩ => hmembers.isMembersPart
  · have hempty : attachments.filterMap Attachment.inherited = [] ↔
        (bases.filter fun b => b.serializedMembers ≠ []) = [] := by
      rw [← List.length_eq_zero_iff, ← List.length_eq_zero_iff, hparts.length_eq]
    rw [Option.isSome_iff_ne_none, ne_eq, allOf_applyAll_eq_none hplain, hempty,
      List.filter_eq_nil_iff]
    simp [hs]

/-- The constructions other than one of them, those after it first. -/
theorem split_perm (before : List Construction) (c : Construction) (after : List Construction) :
    (before ++ c :: after).Perm (c :: (after ++ before)) :=
  List.perm_middle.trans (List.perm_append_comm.cons c)

namespace Compilation

variable {options : CompilerOptions} {document : Document} {pass p : Pass}
  {served : List (Operation × Endpoint)} {log : List Construction} {name : String}

def Registered (pass : Pass) (d : TypeDefinition) : Prop :=
  ∃ name, pass.registry.nameOf? (.type d.name) = some name

theorem Run.registered_iff (run : Run catalog options interface document pass served log p) :
    Registered pass b ↔ ∃ c ∈ log, c.origin = .type b.name := by
  constructor
  · rintro ⟨name, hname⟩
    obtain ⟨c, hc, horigin, -⟩ := run.component hname
    exact ⟨c, hc, horigin⟩
  · rintro ⟨c, hc, horigin⟩
    exact ⟨c.name, horigin ▸ (run.made hc).1⟩

/-- The component of a leaf: the object of its members, with one attachment for each of
its registered bases. Those of the bases completed after the leaf came first; those of the
bases completed before it waited for the end of the pass. -/
theorem Run.leaf_arrivals (run : Run catalog options interface document pass served log p)
    (hd : d ∈ catalog.definitions)
    (hleaf : catalog.subtypesOf d.name = [])
    (hname : pass.registry.nameOf? (.type d.name) = some name) :
    ∃ before c after depth members bases, log = before ++ c :: after ∧ c.origin = .type d.name ∧
      pass.registry.IsMemberObject catalog d depth members ∧
      document.schema? name = some (applyAll (aimedAt (.type d.name) (handedOut (after ++ before)))
        (members.withDescription d.name)) ∧
      (bases.map fun b => Origin.type b.name).Sublist
        ((after ++ before).map Construction.origin) ∧
      (∀ b, b ∈ bases ↔ ConcreteBase catalog d.name b ∧ Registered pass b) ∧
      List.Forall₂ (ComesFrom catalog pass.registry)
        (aimedAt (.type d.name) (handedOut (after ++ before))) bases := by
  obtain ⟨before, c, after, rfl, horigin, -, hfinished⟩ :=
    run.growth.finished_schema (run.nameOf?.symm.trans hname)
  have hmade := (run.made (List.mem_append_right before (List.mem_cons_self ..))).2
  obtain ⟨-, ⟨-, depth, members, hmembers, hschema⟩ | ⟨hsub, -⟩⟩ :=
    (hmade.lawful_of_type horigin).of_declared hd horigin
  swap
  · exact absurd hleaf hsub
  have hown : ∀ b, ConcreteBase catalog d.name b → c.origin ≠ .type b.name := by
    intro b hb heq
    rw [horigin] at heq
    exact hb.ne_of_leaf hleaf (Origin.type.inj heq)
  have hnothing : aimedAt (.type d.name) c.attachments = [] := by
    obtain ⟨hnone, -⟩ | ⟨b, a, hb, heq, -⟩ := hmade.aimedAt_cases hleaf
    · exact hnone
    · exact absurd heq (hown b hb)
  have hmem : ∀ c', c' ∈ before ++ c :: after ↔ c' = c ∨ c' ∈ after ++ before := fun c' =>
    (split_perm before c after).mem_iff.trans List.mem_cons
  obtain ⟨bases, hsublist, hbases, hfrom⟩ := exists_bases
    (fun c' (hc' : c' ∈ after ++ before) => (run.made ((hmem c').mpr (.inr hc'))).2) hleaf
  refine ⟨before, c, after, depth, members, bases, rfl, horigin, hmembers, ?_, hsublist, ?_, hfrom⟩
  · refine run.schema?_of_get? ?_
    rw [← Registry.schemaOf?_of_nameOf? hname, run.registry, hfinished, hschema]
    simp [hnothing]
  · intro b
    rw [hbases b, run.registered_iff]
    refine and_congr_right fun hb => ?_
    simp [hmem, or_and_right, exists_or, hown b hb]

/-- No origin is constructed twice, so the others are constructed once each. -/
theorem Run.nodup_others (run : Run catalog options interface document pass served log p)
    {before after : List Construction} (hlog : log = before ++ c :: after) :
    ((after ++ before).map Construction.origin).Nodup := by
  have hnodup := run.growth.nodup
  rw [hlog, ((split_perm before c after).map _).nodup_iff] at hnodup
  exact (List.nodup_cons.mp hnodup).2

theorem Run.leaf_component (run : Run catalog options interface document pass served log p)
    (hd : d ∈ catalog.definitions)
    (hleaf : catalog.subtypesOf d.name = [])
    (hname : pass.registry.nameOf? (.type d.name) = some name) :
    ∃ depth members attachments bases,
      pass.registry.IsMemberObject catalog d depth members ∧
      document.schema? name = some (applyAll attachments (members.withDescription d.name)) ∧
      bases.Nodup ∧
      (∀ b, b ∈ bases ↔ ConcreteBase catalog d.name b ∧ Registered pass b) ∧
      List.Forall₂ (ComesFrom catalog pass.registry) attachments bases := by
  obtain ⟨before, c, after, depth, members, bases, hlog, -, hmembers, hschema, hsublist, hbases,
    hfrom⟩ := run.leaf_arrivals hd hleaf hname
  exact ⟨depth, members, _, bases, hmembers, hschema,
    ((run.nodup_others hlog).sublist hsublist).of_map, hbases, hfrom⟩

/-- The components of leaves are exact. The component of a type without subtypes has the
properties of its members and one discriminator property for each of its concrete bases
that have a component; these properties are the required ones, each listed once; the
bases with members appear as one inline object each, with nothing but their members; and
there is a discriminator if there is a base. -/
theorem leaf_component_exact (definitions : List TypeDefinition) (options : CompilerOptions)
    (interface : Interface) (document : Document) (pass : Pass)
    (h : interfacePass (.ofList definitions) options interface
      (.start options.collisionPolicy) = .ok document pass)
    (d : TypeDefinition) (hd : d ∈ (TypeCatalog.ofList definitions).definitions)
    (hleaf : (TypeCatalog.ofList definitions).subtypesOf d.name = [])
    (name : String) (hname : pass.registry.nameOf? (.type d.name) = some name) :
    ∃ schema bases, document.schema? name = some schema ∧ bases.Nodup ∧
      (∀ b, b ∈ bases ↔ ConcreteBase (.ofList definitions) d.name b ∧ Registered pass b) ∧
      (∀ property, property ∈ schema.propertyMap.keys ↔
        property ∈ d.serializedMembers.map Member.name ∨
          ∃ b ∈ bases, property = Naming.discriminatorProperty b.simpleName) ∧
      (schema.required.getD []).Nodup ∧
      (∀ property, property ∈ schema.required.getD [] ↔
        ∃ b ∈ bases, property = Naming.discriminatorProperty b.simpleName) ∧
      (schema.required.isSome = true ↔ bases ≠ []) ∧
      List.Forall₂ IsMembersPart (schema.allOf.getD [])
        (bases.filter fun b => b.serializedMembers ≠ []) ∧
      (schema.allOf.isSome = true ↔ ∃ b ∈ bases, b.serializedMembers ≠ []) ∧
      (schema.discriminator.isSome = true ↔ bases ≠ []) := by
  obtain ⟨served, log, p, run⟩ := exists_run h
  obtain ⟨depth, members, attachments, bases, hmembers, hschema, hnodup, hbases, hfrom⟩ :=
    run.leaf_component hd hleaf hname
  have hkeys := hmembers.mem_keys
  obtain ⟨placed, -, rfl⟩ := hmembers
  have hplain : ((Schema.objectOf (.ofList placed)).withDescription d.name).isPlainObject = true :=
    rfl
  have hempty : attachments ≠ [] ↔ bases ≠ [] := by
    rw [← List.length_pos_iff, ← List.length_pos_iff, hfrom.length_eq]
  obtain ⟨hparts, hallOf⟩ := allOf_of_bases hplain rfl hfrom
  refine ⟨_, bases, hschema, hnodup, hbases, ?_, ?_, ?_, ?_, hparts, hallOf, ?_⟩
  · intro property
    rw [mem_keys_applyAll hplain, exists_property_iff hfrom]
    exact or_congr_left (hkeys property)
  · exact nodup_required_applyAll hplain .nil
  · intro property
    rw [mem_required_applyAll hplain, exists_property_iff hfrom]
    simp [Schema.withDescription, Schema.objectOf]
  · rw [required_applyAll_isSome hplain, hempty]
    simp [Schema.withDescription, Schema.objectOf]
  · rw [discriminator_applyAll_isSome hplain, hempty]
    simp [Schema.withDescription, Schema.objectOf]

theorem cabrio_component_exact :
    ∃ document pass, interfacePass (.ofList Fleet.types) {} Fleet.service (.start .error) =
        .ok document pass ∧
      Fleet.cabrio ∈ (TypeCatalog.ofList Fleet.types).definitions ∧
      (TypeCatalog.ofList Fleet.types).subtypesOf Fleet.cabrio.name = [] ∧
      pass.registry.nameOf? (.type Fleet.cabrio.name) = some "Cabrio" ∧
      ∃ (schema : Schema) (bases : List TypeDefinition),
        document.schema? "Cabrio" = some schema ∧
        (∀ b, b ∈ bases ↔
          ConcreteBase (.ofList Fleet.types) Fleet.cabrio.name b ∧ Registered pass b) ∧
        (∀ property, property ∈ schema.required.getD [] ↔
          ∃ b ∈ bases, property = Naming.discriminatorProperty b.simpleName) ∧
        List.Forall₂ IsMembersPart (schema.allOf.getD [])
          (bases.filter fun b => b.serializedMembers ≠ []) := by
  have hd : Fleet.cabrio ∈ (TypeCatalog.ofList Fleet.types).definitions := by decide +kernel
  have hleaf : (TypeCatalog.ofList Fleet.types).subtypesOf Fleet.cabrio.name = [] := by
    decide +kernel
  obtain ⟨document, pass, h, -, hname⟩ := Fleet.exists_pass
  obtain ⟨schema, bases, hschema, -, hbases, -, -, hrequired, -, hparts, -⟩ :=
    leaf_component_exact Fleet.types {} Fleet.service document pass h Fleet.cabrio hd hleaf
      "Cabrio" hname
  exact ⟨document, pass, h, hd, hleaf, hname, schema, bases, hschema, hbases, hrequired, hparts⟩

end Compilation

end RestContract
