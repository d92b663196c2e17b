import Mathlib.Data.Fintype.EquivFin
import Mathlib.Data.Set.Finite.Basic
import Mathlib.Order.WellFounded
import RestContract.Proofs.CollisionPolicies
import RestContract.Proofs.PolymorphicComponents
import RestContract.Proofs.RequestWrappers
import RestContract.Proofs.TracedServing
import RestContract.Proofs.WrapperSignatures

/-!
No component is an orphan: following references from the operations of a document leads to
every component.

Every construction is traced to the endpoints that are served, over what constructions bear.
It remains to see that what is borne is found in the document. The schema of a construction
keeps its references whatever is attached to it. What a base hands down is found at the
leaves below it, and some leaf is below every base with subtypes, since no type is below
itself. And a wrapper that was made for an earlier operation refers to the same components
as the wrapper that the later one would have had, since a signature tells the types.
-/
namespace RestContract

open Attachment

/-- References lead from an operation of the document to the component of that name. -/
inductive Document.Reaches (d : Document) : String → Prop
  | operation {ref : SchemaRef} {name : String} : ref ∈ d.operationPositions →
      ref.Mentions (componentPath ++ name) → Reaches d name
  | component {name other : String} {schema : Schema} : Reaches d name →
      d.schema? name = some schema →
      (SchemaRef.inline schema).Mentions (componentPath ++ other) → Reaches d other

theorem SchemaRef.Mentions.eq_of_componentName? {ref : SchemaRef} {name other : String}
    (h : ref.Mentions (componentPath ++ other)) (hname : ref.componentName? = some name) :
    other = name := by
  cases h with
  | here =>
    have hother : textAfter? componentPath (componentPath ++ other) = some other := by
      simp [textAfter?, ← String.length_toList]
    exact Option.some.inj (hother.symm.trans hname)
  | inside => cases hname

def Document.closedUnder (d : Document) (names : List String) : Bool :=
  d.operationPositions.all (fun ref => ref.componentName?.any names.contains) &&
    names.all fun name => (d.schema? name).all fun schema =>
      schema.parts.all fun part => part.componentName?.any names.contains

theorem Document.Reaches.mem_of_closedUnder {d : Document} {names : List String} {name : String}
    (hclosed : d.closedUnder names = true) (h : d.Reaches name) : name ∈ names := by
  simp only [closedUnder, Bool.and_eq_true, List.all_eq_true, Option.all_eq_true,
    Option.any_eq_true, List.contains_iff_mem] at hclosed
  obtain ⟨hoperations, hcomponents⟩ := hclosed
  induction h with
  | operation href hmention =>
    obtain ⟨first, hfirst, hmem⟩ := hoperations _ href
    rwa [hmention.eq_of_componentName? hfirst]
  | component _ hschema hmention ih =>
    cases hmention with
    | inside hpart hinside =>
      obtain ⟨next, hnext, hmem⟩ := hcomponents _ ih _ hschema _ hpart
      rwa [hinside.eq_of_componentName? hnext]

namespace TypeCatalog

variable {catalog : TypeCatalog} {base name : String}

theorem Below.declared (h : catalog.Below base name) :
    name ∈ catalog.definitions.map TypeDefinition.name := by
  cases h with
  | single hstep => exact hstep.declared
  | tail _ hstep => exact hstep.declared

/-- A catalog that lists each supertype before its subtypes has no cycle. -/
theorem acyclic_of_listed (h : ∀ d ∈ catalog.definitions, ∀ supertype ∈ d.supertypes,
      (catalog.definitions.map TypeDefinition.name).idxOf supertype <
        (catalog.definitions.map TypeDefinition.name).idxOf d.name) :
    ¬catalog.Below name name := by
  have hstep : ∀ {base name}, catalog.IsSubtype base name →
      (catalog.definitions.map TypeDefinition.name).idxOf base <
        (catalog.definitions.map TypeDefinition.name).idxOf name := by
    intro base name hsub
    obtain ⟨d, hd, rfl⟩ := List.mem_map.mp hsub
    obtain ⟨hdeclared, hsuper⟩ := List.mem_filter.mp hd
    exact h d hdeclared base (List.contains_iff_mem.mp hsuper)
  have hpath : ∀ {base name}, catalog.Below base name →
      (catalog.definitions.map TypeDefinition.name).idxOf base <
        (catalog.definitions.map TypeDefinition.name).idxOf name := by
    intro base name hbelow
    induction hbelow with
    | single hsub => exact hstep hsub
    | tail _ hsub ih => exact ih.trans (hstep hsub)
  intro hbelow
  exact Nat.lt_irrefl _ (hpath hbelow)

/-- There are finitely many types, so going down from a base ends at a leaf. -/
theorem Tidy.exists_leaf_below (h : catalog.Tidy) (hsub : catalog.subtypesOf base ≠ []) :
    ∃ d ∈ catalog.definitions, catalog.Below base d.name ∧ catalog.subtypesOf d.name = [] := by
  let Declared := { name // name ∈ catalog.definitions.map TypeDefinition.name }
  let deeper : Declared → Declared → Prop := fun a b => catalog.Below b.val a.val
  have htrans : IsTrans Declared deeper := ⟨fun _ _ _ hab hbc => hbc.trans hab⟩
  have hirrefl : Std.Irrefl deeper := ⟨fun a => h.acyclic a.val⟩
  have hfinite : Finite Declared := (List.finite_toSet _).to_subtype
  have hwell : WellFounded deeper := Finite.wellFounded_of_trans_of_irrefl deeper
  obtain ⟨first, hfirst⟩ := List.exists_mem_of_ne_nil _ hsub
  have hbelow : catalog.Below base first := .single hfirst
  obtain ⟨⟨last, hlast⟩, hlastBelow, hdeepest⟩ :=
    hwell.has_min { name | catalog.Below base name.val } ⟨⟨first, hbelow.declared⟩, hbelow⟩
  obtain ⟨d, hd, rfl⟩ := List.mem_map.mp hlast
  refine ⟨d, hd, hlastBelow, ?_⟩
  by_contra hmore
  obtain ⟨next, hnext⟩ := List.exists_mem_of_ne_nil _ hmore
  have hstep : catalog.Below d.name next := .single hnext
  exact hdeepest ⟨next, hstep.declared⟩ (hlastBelow.trans hstep) hstep

end TypeCatalog

/-- A base hands the same members to each type below it. -/
theorem Registry.HandsDown.exists_aimed {catalog : TypeCatalog} {r : Registry}
    {d : TypeDefinition} {depth : Nat} {attachments : List Attachment} {a : Attachment}
    {name : String} (h : r.HandsDown catalog d depth attachments) (ha : a ∈ attachments)
    (hbelow : catalog.Below d.name name) (hother : name ≠ d.name) :
    ∃ b ∈ attachments, b.target = .type name ∧ b.inherited = a.inherited := by
  obtain ⟨inherited, below, -, -, -, hmem, rfl⟩ := h
  obtain ⟨_, -, rfl⟩ := List.mem_map.mp ha
  exact ⟨_, List.mem_map_of_mem ((hmem name).mpr ⟨hbelow, hother⟩), rfl, rfl⟩

/-- An object of members keeps its references as long as no attachment is named like a
member. -/
theorem Registry.IsMemberObject.shows_applyAll {catalog : TypeCatalog} {r : Registry}
    {d : TypeDefinition} {depth : Nat} {members : Schema} {origin : Origin}
    {attachments : List Attachment} (h : r.IsMemberObject catalog d depth members)
    (hnames : (d.serializedMembers.map Member.name).Nodup)
    (hapart : ∀ a ∈ attachments, a.property ∉ d.serializedMembers.map Member.name) (text : String)
    (hshows : r.Shows (.inline (members.withDescription text)) origin) :
    r.Shows (.inline (applyAll attachments (members.withDescription text))) origin := by
  have hkeys := h.mem_keys
  obtain ⟨placed, hplaced, rfl⟩ := h
  obtain ⟨name, hname, hmention⟩ := hshows
  cases hmention with
  | @inside _ part hpart hmention =>
    have hentry : ∃ key, (key, part) ∈ (SortedMap.ofList placed).entries := by
      simpa [Schema.parts, Schema.objectOf, Schema.withDescription] using hpart
    obtain ⟨key, hentry⟩ := hentry
    have hdistinct : (placed.map Prod.fst).Nodup := by rwa [hplaced.names]
    have hget := SortedMap.get?_of_mem_entries
      (((SortedMap.entries_ofList_perm hdistinct).map Prod.fst).nodup_iff.mpr hdistinct) hentry
    have hmember : key ∈ d.serializedMembers.map Member.name :=
      (hkeys key).mp (List.mem_map.mpr ⟨_, hentry, rfl⟩)
    refine Registry.Shows.property ⟨name, hname, hmention⟩
      ((get?_applyAll_of_ne rfl fun a ha => ?_).trans hget)
    rintro rfl
    exact hapart a ha hmember

/-- A wrapper refers to whatever its parameters refer to. -/
theorem Endpoint.shows_wrapperSchema {r : Registry} {body : List BodyParameter}
    {b : BodyParameter} {origin : Origin} (hnames : (body.map BodyParameter.name).Nodup)
    (hb : b ∈ body) (h : r.Shows b.schema origin) :
    r.Shows (.inline (wrapperSchema body)) origin := by
  obtain ⟨text, heq⟩ := wrapperSchema_eq body
  have hdistinct : ((fields body).map Prod.fst).Nodup := by
    rw [fields, List.map_map]
    exact hnames
  have hentry : (b.name, b.schema) ∈ (SortedMap.ofList (fields body)).entries :=
    (SortedMap.entries_ofList_perm hdistinct).mem_iff.mpr (List.mem_map_of_mem hb)
  rw [heq]
  exact h.entry hentry

theorem Document.mem_operationPositions {d : Document} {path : String} {method : HttpMethod}
    {o : RestOperation} {ref : SchemaRef} (ho : d.getOperation? path method = some o)
    (href : ref ∈ o.positions) : ref ∈ d.operationPositions := by
  obtain ⟨item, hitem, hmethod⟩ := Option.bind_eq_some_iff.mp ho
  have hoperation : o ∈ item.operations := by
    cases method with
    | get | post | put | delete =>
      have hfield := Option.mem_toList.mpr hmethod
      simp only [PathItem.operations, List.mem_append]
      tauto
  exact List.mem_flatMap.mpr ⟨_, SortedMap.mem_entries_of_get? hitem,
    List.mem_flatMap.mpr ⟨o, hoperation, href⟩⟩

/-- The response, the query and the request body of an endpoint stand at its operation. -/
theorem Endpoint.mem_positions {e : Endpoint} {ref : SchemaRef}
    (h : e.response = some ref ∨ ref ∈ e.query.map Prod.snd ∨ e.requestBody = some ref) :
    ref ∈ e.toOperation.positions := by
  simp only [RestOperation.positions, List.mem_append]
  rcases h with hresponse | hquery | hbody
  · right
    simp [toOperation, responses, hresponse, Response.ok, jsonContent, Response.positions,
      contentPositions, SortedMap.insert, SortedMap.insertEntry, SortedMap.empty]
  · left; left
    have hsome : e.query.isEmpty = false := by
      rw [List.isEmpty_eq_false_iff]
      exact List.ne_nil_of_mem (List.mem_map.mp hquery).choose_spec.1
    simpa [toOperation, queryParameters, hsome, RestParameter.query] using hquery
  · left; right
    simp [toOperation, hbody, RequestBody.json, jsonContent, contentPositions, SortedMap.insert,
      SortedMap.insertEntry, SortedMap.empty]

namespace Compilation

open Endpoint

variable {catalog : TypeCatalog} {options : CompilerOptions} {interface : Interface}
  {document : Document} {pass p : Pass} {served : List (Operation × Endpoint)}
  {log : List Construction} {origin : Origin} {name : String} {c : Construction}
  {d t : TypeDefinition} {ref : SchemaRef} {schema : Schema}

def Reached (document : Document) (pass : Pass) (origin : Origin) : Prop :=
  ∃ name, pass.registry.nameOf? origin = some name ∧ document.Reaches name

theorem reached_of_position (href : ref ∈ document.operationPositions)
    (h : pass.registry.Shows ref origin) : Reached document pass origin := by
  obtain ⟨name, hname, hmention⟩ := h
  exact ⟨name, hname, .operation href hmention⟩

theorem reached_of_component (hreaches : document.Reaches name)
    (hschema : document.schema? name = some schema)
    (h : pass.registry.Shows (.inline schema) origin) : Reached document pass origin := by
  obtain ⟨other, hother, hmention⟩ := h
  exact ⟨other, hother, hreaches.component hschema hmention⟩

namespace Run

variable (run : Run catalog options interface document pass served log p)

include run

/-- The component of a construction: its schema after what was handed out for it. -/
theorem finished (hc : c ∈ log) :
    ∃ attachments, attachments.Perm (aimedAt c.origin (handedOut log)) ∧
      document.schema? c.name = some (applyAll attachments c.schema) := by
  obtain ⟨c', hc', horigin, attachments, hperm, hget⟩ := run.component (run.made hc).1
  cases List.inj_on_of_nodup_map (run.growth.nodup) hc' hc horigin
  exact ⟨attachments, hperm, run.schema?_of_get? hget⟩

/-- Whatever is handed out carries the discriminator property of a declared type. -/
theorem property_of_handedOut {a : Attachment} (ha : a ∈ handedOut log) :
    ∃ b ∈ catalog.definitions, a.property = Naming.discriminatorProperty b.simpleName := by
  obtain ⟨c, hc, hac⟩ := List.mem_flatMap.mp ha
  obtain ⟨b, hb, depth, -, -, -, -, inherited, below, -, -, -, -, heq⟩ :=
    ((run.made hc).2.lawful_of_attachment hac).handsDown (List.ne_nil_of_mem hac)
  rw [heq] at hac
  obtain ⟨name, -, rfl⟩ := List.mem_map.mp hac
  exact ⟨b, hb, rfl⟩

/-- The component of a construction refers to whatever its schema refers to. -/
theorem shows_finished (hcatalog : catalog.Tidy) (hc : c ∈ log)
    (h : pass.registry.Shows (.inline c.schema) origin) :
    ∃ schema, document.schema? c.name = some schema ∧
      pass.registry.Shows (.inline schema) origin := by
  obtain ⟨attachments, hperm, hschema⟩ := run.finished hc
  refine ⟨_, hschema, ?_⟩
  have hmade := (run.made hc).2
  have hnothing : ∀ signature, c.origin = .synthetic signature → attachments = [] := by
    intro signature horigin
    rw [horigin, aimedAt_handedOut_synthetic fun c hc => (run.made hc).2] at hperm
    exact hperm.eq_nil
  cases hmade with
  | wrapped =>
    rw [hnothing _ rfl]
    exact h
  | resolved hlawful =>
    cases hlawful with
    | undeclared =>
      obtain ⟨name, -, hmention⟩ := h
      cases hmention with
      | inside hpart _ => cases hpart
    | compositeMap =>
      rw [hnothing _ rfl]
      exact h
    | polymorphic =>
      rw [applyAll_of_not_plain rfl]
      exact h
    | @leaf name d depth members hd henum hleaf hmembers =>
      refine hmembers.shows_applyAll (hcatalog.distinct d hd) (fun a ha hmember => ?_) d.name h
      obtain ⟨b, hb, hproperty⟩ :=
        run.property_of_handedOut (mem_aimedAt.mp (hperm.mem_iff.mp ha)).1
      rw [hproperty] at hmember
      exact hcatalog.apart d hd b hb hmember

/-- From a base that is reached, every direct subtype is reached. -/
theorem reached_of_subtype (hcatalog : catalog.Tidy) (hd : d ∈ catalog.definitions)
    (h : Reached document pass (.type d.name)) (hsub : catalog.IsSubtype d.name name) :
    Reached document pass (.type name) := by
  obtain ⟨base, hbase, hreaches⟩ := h
  obtain ⟨alternatives, hschema, halternatives⟩ :=
    run.polymorphic_component hd (List.ne_nil_of_mem hsub) hbase
  obtain ⟨t, ht, rfl⟩ := List.mem_map.mp hsub
  obtain ⟨ref, href, halternative⟩ := exists_related_of_mem halternatives.flip ht
  have hnot : ¬t.isEnum = true := by
    intro henum
    have hsuper := (List.mem_filter.mp ht).2
    rw [hcatalog.enums t (List.mem_filter.mp ht).1 henum] at hsuper
    cases hsuper
  rw [if_neg hnot] at halternative
  obtain ⟨other, hother, rfl⟩ := halternative
  refine reached_of_component hreaches hschema ((Registry.shows_component hother).inside ?_)
  simp only [Schema.parts, Resolver.polymorphicSchema, List.mem_append]
  exact .inr href

theorem reached_of_below (hcatalog : catalog.Tidy) (hd : d ∈ catalog.definitions)
    (h : Reached document pass (.type d.name)) (hbelow : catalog.Below d.name name) :
    Reached document pass (.type name) := by
  induction hbelow with
  | single hsub => exact run.reached_of_subtype hcatalog hd h hsub
  | tail hpath hsub ih =>
    obtain ⟨t, ht, rfl⟩ := List.mem_map.mp (TypeCatalog.Below.declared hpath)
    exact run.reached_of_subtype hcatalog ht ih hsub

/-- What a reached base hands down is reached at a leaf below it. -/
theorem reached_inherited (hcatalog : catalog.Tidy) (hc : c ∈ log)
    (h : Reached document pass c.origin) {a : Attachment} (ha : a ∈ c.attachments)
    {members : Schema} (hmembers : a.inherited = some members)
    (hshows : pass.registry.Shows (.inline members) origin) : Reached document pass origin := by
  obtain ⟨d, hd, depth, horigin, -, -, hsub, hattachments⟩ :=
    ((run.made hc).2.lawful_of_attachment ha).handsDown (List.ne_nil_of_mem ha)
  obtain ⟨leaf, hleaf, hleafBelow, hchildless⟩ := hcatalog.exists_leaf_below hsub
  rw [horigin] at h
  obtain ⟨name, hname, hreaches⟩ := run.reached_of_below hcatalog hd h hleafBelow
  obtain ⟨c', hc', horigin', attachments, hperm, hget⟩ := run.component hname
  obtain ⟨-, ⟨-, depth', own, ⟨placed, -, rfl⟩, hschema⟩ | ⟨hmore, -⟩⟩ :=
    ((run.made hc').2.lawful_of_type horigin').of_declared hleaf horigin'
  swap
  · exact absurd hchildless hmore
  obtain ⟨b, hb, htarget, hinherited⟩ :=
    hattachments.exists_aimed ha hleafBelow (hcatalog.ne_of_below hleafBelow)
  have hgiven : b ∈ attachments :=
    hperm.mem_iff.mpr (mem_aimedAt.mpr ⟨List.mem_flatMap.mpr ⟨c, hc, hb⟩, htarget⟩)
  refine reached_of_component hreaches (run.schema?_of_get? hget) (hshows.inside ?_)
  have hpart : SchemaRef.inline members ∈ (applyAll attachments c'.schema).allOf.getD [] := by
    rw [hschema, allOf_applyAll rfl]
    exact List.mem_append_right _
      (List.mem_map_of_mem (List.mem_filterMap.mpr ⟨b, hgiven, hinherited.trans hmembers⟩))
  simp only [Schema.parts, List.mem_append]
  exact .inl (.inr hpart)

theorem closed_reached (hcatalog : catalog.Tidy) :
    ClosedUnder pass.registry log (Reached document pass) := by
  intro c hc hreached origin hbears
  rcases hbears with hshows | ⟨a, ha, members, hmembers, hshows⟩
  · obtain ⟨schema, hschema, hshows⟩ := run.shows_finished hcatalog hc hshows
    obtain ⟨name, hname, hreaches⟩ := hreached
    cases hname.symm.trans (run.made hc).1
    exact reached_of_component hreaches hschema hshows
  · exact run.reached_inherited hcatalog hc hreached ha hmembers hshows

/-- What an endpoint refers to stands at an operation of the document. -/
theorem mem_operationPositions {s : Operation × Endpoint} (hs : s ∈ served)
    (href : s.2.response = some ref ∨ ref ∈ s.2.query.map Prod.snd ∨
      s.2.requestBody = some ref) : ref ∈ document.operationPositions := by
  have hoperation : document.getOperation? s.2.route.path s.2.route.method =
      some s.2.toOperation := by
    rw [run.document, getOperation?_withSchemas]
    exact run.fresh.getOperation? hs
  exact Document.mem_operationPositions hoperation (mem_positions href)

/-- Each body parameter has the type of a parameter of the operation, and the position of that
type as its schema. -/
theorem body_parameter {s : Operation × Endpoint} (hs : s ∈ served) {b : BodyParameter}
    (hb : b ∈ s.2.body) : (∃ q ∈ s.1.parameters, q.type = b.origin) ∧
      pass.registry.position? catalog b.origin 1 = some b.schema := by
  rcases ((run.accounts s hs).2.positioned.mono run.keeps).placesBody with hnone | hplaces
  · simp [hnone] at hb
  · obtain ⟨q, hq, -, horigin, hposition⟩ := exists_related_of_mem hplaces hb
    rw [horigin]
    exact ⟨⟨q, (List.mem_filter.mp hq).1, rfl⟩, hposition⟩

theorem reached_of_single {s : Operation × Endpoint} (hs : s ∈ served) {b : BodyParameter}
    (hb : b ∈ s.2.body) (hsingle : s.2.body.length < 2)
    (h : pass.registry.Shows b.schema origin) : Reached document pass origin := by
  have hlength : s.2.body.length = 1 := by
    have hpos := List.length_pos_of_mem hb
    omega
  obtain ⟨single, hbody⟩ := List.length_eq_one_iff.mp hlength
  rw [hbody] at hb
  cases List.mem_singleton.mp hb
  have hbundles := (run.accounts s hs).2.bundles
  rw [hbody] at hbundles
  exact reached_of_position (run.mem_operationPositions hs (.inr (.inr hbundles))) h

/-- The parameters inside a wrapper are reached. If the wrapper was made for another operation,
that operation has parameters of the same types. -/
theorem reached_of_wrapped
    (hnames : ∀ o ∈ interface.operations, (o.parameters.map Parameter.name).Nodup)
    (hread : ∀ o ∈ interface.operations, ∀ q ∈ o.parameters,
      ∃ text, TypeDescriptor.parse text = .ok q.type)
    {s : Operation × Endpoint} (hs : s ∈ served) {b : BodyParameter} (hb : b ∈ s.2.body)
    (hseveral : 2 ≤ s.2.body.length) (h : pass.registry.Shows b.schema origin) :
    Reached document pass origin := by
  have hwell : ∀ s ∈ served, ∀ b ∈ s.2.body, b.origin.WellNamed := by
    intro s hs b hb
    obtain ⟨⟨q, hq, horigin⟩, -⟩ := run.body_parameter hs hb
    obtain ⟨text, htext⟩ := hread s.1 (run.accounts s hs).1 q hq
    rw [← horigin]
    exact TypeDescriptor.wellNamed_of_parse htext
  obtain ⟨first, hfirst, name, hfind, hrequest, hschema⟩ := run.wrapper hs hseveral
  have hwraps : 2 ≤ first.2.body.length ∧ wrapperSignature interface first.1 first.2.body =
      wrapperSignature interface s.1 s.2.body := by
    simpa [wraps] using List.find?_some hfind
  have hfirstBody : first.2.body ≠ [] := by
    rw [← List.length_pos_iff]
    omega
  have horigins := origins_of_wrapperSignature (hwell first hfirst) (hwell s hs) hfirstBody
    (List.ne_nil_of_mem hb) hwraps.2
  obtain ⟨b', hb', horigin⟩ : ∃ b' ∈ first.2.body, b'.origin = b.origin := by
    rw [← List.mem_map, horigins]
    exact List.mem_map_of_mem hb
  have hsame : b'.schema = b.schema := by
    have hposition := (run.body_parameter hfirst hb').2
    rw [horigin, (run.body_parameter hs hb).2] at hposition
    exact (Option.some.inj hposition).symm
  obtain ⟨hoperation, haccounts⟩ := run.accounts first hfirst
  have hdistinct := haccounts.positioned.nodup_body (hnames first.1 hoperation)
  have hwrapper : document.Reaches name :=
    .operation (run.mem_operationPositions hs (.inr (.inr hrequest))) .here
  rw [← hsame] at h
  exact reached_of_component hwrapper hschema (shows_wrapperSchema hdistinct hb' h)

/-- Whatever the endpoints keep is reached. -/
theorem reached_of_servedShow
    (hnames : ∀ o ∈ interface.operations, (o.parameters.map Parameter.name).Nodup)
    (hread : ∀ o ∈ interface.operations, ∀ q ∈ o.parameters,
      ∃ text, TypeDescriptor.parse text = .ok q.type)
    (h : ServedShow served pass.registry origin) : Reached document pass origin := by
  obtain ⟨s, hs, ref, href, hshows⟩ := h
  simp only [kept, resolved, List.mem_append, Option.mem_toList] at href
  rcases href with (hresponse | hquery | hbody) | hrequest
  · exact reached_of_position (run.mem_operationPositions hs (.inl hresponse)) hshows
  · exact reached_of_position (run.mem_operationPositions hs (.inr (.inl hquery))) hshows
  · obtain ⟨b, hb, rfl⟩ := List.mem_map.mp hbody
    by_cases hseveral : 2 ≤ s.2.body.length
    · exact run.reached_of_wrapped hnames hread hs hb hseveral hshows
    · exact run.reached_of_single hs hb (by omega) hshows
  · exact reached_of_position (run.mem_operationPositions hs (.inr (.inr hrequest))) hshows

end Run

/-- No component is an orphan. In every catalog whose types have distinct serialized members,
none named like a discriminator property, whose supertypes are acyclic and whose enums have no
supertype, and for every interface whose operations have distinct parameter names, each
component of the document is reached from the operations by following references. The types
of the parameters are readings of texts: a type whose name itself holds a comma could share the
signature of a wrapper with other types. -/
theorem components_reachable (definitions : List TypeDefinition) (options : CompilerOptions)
    (interface : Interface) (document : Document)
    (hcatalog : (TypeCatalog.ofList definitions).Tidy)
    (hnames : ∀ o ∈ interface.operations, (o.parameters.map Parameter.name).Nodup)
    (hread : ∀ o ∈ interface.operations, ∀ q ∈ o.parameters,
      ∃ text, TypeDescriptor.parse text = .ok q.type)
    (h : (compile (.ofList definitions) options interface).result = .ok document) :
    ∀ key ∈ document.schemas.keys, document.Reaches key := by
  obtain ⟨pass, hpass⟩ := compile_eq_ok_iff.mp h
  obtain ⟨served, log, p, run, htraced⟩ := exists_traced_run hcatalog hpass
  have hreached := htraced (Reached document pass) (run.closed_reached hcatalog)
    fun origin => run.reached_of_servedShow hnames hread
  intro key hkey
  obtain ⟨origin, hname⟩ := (run.mem_keys_iff key).mp hkey
  obtain ⟨c, hc, rfl, -⟩ := run.component hname
  obtain ⟨name, hname', hreaches⟩ := hreached c hc
  cases hname'.symm.trans hname
  exact hreaches

end Compilation

-- A base whose member leads to a type that nothing else mentions, and two overloads that share
-- a wrapper.
namespace Depot

def vehicle : TypeDefinition where
  name := "org.acme.Vehicle"
  members := [⟨"keeper", .ofName "org.acme.Keeper", false, false⟩]

def types : List TypeDefinition :=
  [vehicle,
    { name := "org.acme.Car", supertypes := ["org.acme.Vehicle"],
      members := [⟨"seats", .ofName "int", false, false⟩] },
    { name := "org.acme.Keeper" }]

def swap (path : String) (parameters : List Parameter) : Operation where
  name := "swap"
  parameters := parameters
  route := some { path := some path }

def service (ours theirs given taken : String) : Interface where
  name := "org.acme.IDepot"
  operations := [swap "/swap" [⟨"ours", .ofName ours⟩, ⟨"theirs", .ofName theirs⟩],
    swap "/exchange" [⟨"given", .ofName given⟩, ⟨"taken", .ofName taken⟩]]

def swaps : Interface :=
  service "org.acme.Vehicle" "org.acme.Car" "org.acme.Vehicle" "org.acme.Car"

/-- The names of some types hold commas themselves. -/
def muddled : Interface := service "Bus, Van" "Tram" "Bus" "Van, Tram"

theorem tidy_types : (TypeCatalog.ofList types).Tidy where
  distinct := by decide +kernel
  apart := by decide +kernel
  acyclic _ := TypeCatalog.acyclic_of_listed (by decide +kernel)
  enums := by decide +kernel

end Depot

namespace Compilation

open Depot

theorem depot_components_reachable :
    ∃ document, (compile (.ofList types) {} swaps).result = .ok document ∧
      (TypeCatalog.ofList types).Tidy ∧
      (∀ o ∈ swaps.operations, (o.parameters.map Parameter.name).Nodup) ∧
      (∀ o ∈ swaps.operations, ∀ q ∈ o.parameters,
        ∃ text, TypeDescriptor.parse text = .ok q.type) ∧
      document.schemas.keys = ["Car", "Keeper", "SwapRequest", "Vehicle"] ∧
      ∀ key ∈ document.schemas.keys, document.Reaches key := by
  have hkeys : (pass? (.ofList types) {} swaps).map (·.1.schemas.keys) =
      some ["Car", "Keeper", "SwapRequest", "Vehicle"] := by decide +kernel
  obtain ⟨⟨document, pass⟩, hsome, hlist⟩ := Option.map_eq_some_iff.mp hkeys
  have h : (compile (.ofList types) {} swaps).result = .ok document :=
    compile_eq_ok_iff.mpr ⟨pass, pass?_eq_some.mp hsome⟩
  have hnames : ∀ o ∈ swaps.operations, (o.parameters.map Parameter.name).Nodup := by decide
  have hread : ∀ o ∈ swaps.operations, ∀ q ∈ o.parameters,
      TypeDescriptor.parse q.type.qualified = .ok q.type := by decide +kernel
  have htexts : ∀ o ∈ swaps.operations, ∀ q ∈ o.parameters,
      ∃ text, TypeDescriptor.parse text = .ok q.type := fun o ho q hq => ⟨_, hread o ho q hq⟩
  exact ⟨document, h, tidy_types, hnames, htexts, hlist,
    components_reachable types {} swaps document tidy_types hnames htexts h⟩

/-- Two lists of types that no text gives can share a signature. The wrapper of the second
overload is then that of the first, and no reference leads to the types of the second. -/
theorem muddled_overload_orphaned :
    ∃ document, (compile (.ofList types) {} muddled).result = .ok document ∧
      (TypeCatalog.ofList types).Tidy ∧
      (∀ o ∈ muddled.operations, (o.parameters.map Parameter.name).Nodup) ∧
      ∀ key ∈ ["Bus", "Van, Tram"], key ∈ document.schemas.keys ∧ ¬document.Reaches key := by
  have hrun : (pass? (.ofList types) {} muddled).map (fun result => (result.1.schemas.keys,
      result.1.closedUnder ["SwapRequest", "Bus, Van", "Tram"])) =
        some (["Bus", "Bus, Van", "SwapRequest", "Tram", "Van, Tram"], true) := by decide +kernel
  obtain ⟨⟨document, pass⟩, hsome, hfound⟩ := Option.map_eq_some_iff.mp hrun
  injection hfound with hkeys hclosed
  have h : (compile (.ofList types) {} muddled).result = .ok document :=
    compile_eq_ok_iff.mpr ⟨pass, pass?_eq_some.mp hsome⟩
  refine ⟨document, h, tidy_types, by decide, fun key hkey => ⟨?_, fun hreaches => ?_⟩⟩
  · have hlisted : ["Bus", "Van, Tram"] ⊆ document.schemas.keys := by
      rw [hkeys]
      decide
    exact hlisted hkey
  · have hreached := hreaches.mem_of_closedUnder hclosed
    have hdisjoint : ∀ key ∈ ["Bus", "Van, Tram"], key ∉ ["SwapRequest", "Bus, Van", "Tram"] := by
      decide
    exact hdisjoint key hkey hreached

end Compilation

end RestContract
