import RestContract.Proofs.Passes

/-!
Documents are closed. Every reference in a compiled document leads to one of its
components, and every component is the schema that was built for its name: no name
is claimed without being defined before the end of the pass.
-/
namespace RestContract

namespace Compilation

open Attachment

variable {catalog : TypeCatalog} {options : CompilerOptions} {interface : Interface}
  {document : Document} {pass p : Pass} {served : List (Operation × Endpoint)}
  {log : List Construction} {origin : Origin} {name : String}

namespace Run

variable (run : Run catalog options interface document pass served log p)

include run

/-- Every name of the registry has its schema. -/
theorem built {entry : Entry} (hentry : pass.registry.entries.get? name = some entry) :
    ∃ schema, entry.schema = some schema ∧ document.schema? name = some schema := by
  have hname := (pass.registry.owned entry.origin name).mpr ⟨entry, hentry, rfl⟩
  obtain ⟨c, -, -, attachments, -, hget⟩ := run.component hname
  refine ⟨_, ?_, run.schema?_of_get? hget⟩
  rwa [Registry.get?_eq_bind, hentry, Option.bind_some] at hget

theorem covers_inherited {a : Attachment} (ha : a ∈ handedOut log) {members : Schema}
    (hmembers : a.inherited = some members) : pass.registry.Covers (.inline members) := by
  obtain ⟨c, hc, hac⟩ := List.mem_flatMap.mp ha
  exact ((run.made hc).2.lawful_of_attachment hac).covers_inherited hac hmembers

/-- A component refers to known names only, with what was attached to it. -/
theorem covers_schema {schema : Schema} (h : (name, schema) ∈ document.schemas.entries) :
    pass.registry.Covers (.inline schema) := by
  rw [run.schemas] at h
  obtain ⟨⟨key, entry⟩, hmem, heq⟩ := List.mem_map.mp h
  cases heq
  have hentry := SortedMap.get?_of_mem_entries pass.registry.distinct hmem
  have hname := (pass.registry.owned entry.origin name).mpr ⟨entry, hentry, rfl⟩
  obtain ⟨c, hc, -, attachments, hperm, hget⟩ := run.component hname
  rw [Registry.get?_eq_bind, hentry, Option.bind_some] at hget
  simp only [hget, Option.getD_some]
  refine covers_applyAll (run.made hc).2.covers fun a ha members => ?_
  exact run.covers_inherited (mem_aimedAt.mp (hperm.mem_iff.mp ha)).1

theorem covers_position {ref : SchemaRef} (h : ref ∈ document.positions) :
    pass.registry.Covers ref := by
  rcases List.mem_append.mp h with hoperation | hschema
  · have hserved : ref ∈ (addServed (blank interface options) served).operationPositions := by
      rw [run.document, withSchemas] at hoperation
      split at hoperation <;> exact hoperation
    rcases mem_operationPositions_addServed hserved with hblank | ⟨s, hs, href⟩
    · simp [Document.operationPositions, blank, Document.ofInfo, SortedMap.empty] at hblank
    · exact ((run.accounts s hs).2.covers href).mono run.keeps
  · obtain ⟨⟨name, schema⟩, hentry, rfl⟩ := List.mem_map.mp hschema
    exact run.covers_schema hentry

theorem leads_to_component {ref : SchemaRef} (h : ref ∈ document.positions) {path : String}
    (hpath : ref.Mentions path) :
    ∃ name ∈ document.schemas.keys, path = componentPath ++ name := by
  obtain ⟨origin, name, hname, heq⟩ := run.covers_position h path hpath
  refine ⟨name, ?_, heq⟩
  obtain ⟨c, -, -, attachments, -, hget⟩ := run.component hname
  have hschema := run.schema?_of_get? hget
  rw [← SortedMap.contains_iff_mem_keys]
  exact Option.isSome_iff_exists.mpr ⟨_, hschema⟩

end Run

/-- Documents are closed and hold no placeholder: a reference anywhere in a document leads
to one of its components, and each name claimed in the pass of a document was given the
schema that the document shows under it. -/
theorem references_lead_to_built_components (source : ContractSource) (options : CompilerOptions)
    (documents : List Document) (h : (compileSource source options).result = .ok documents) :
    (∀ document ∈ documents, ∀ ref ∈ document.positions, ∀ path, ref.Mentions path →
      ∃ name ∈ document.schemas.keys, path = componentPath ++ name) ∧
    List.Forall₂ (fun interface document => ∃ pass,
        interfacePass source.types options interface (.start options.collisionPolicy) =
          .ok document pass ∧
        (∀ name entry, pass.registry.entries.get? name = some entry →
          ∃ schema, entry.schema = some schema ∧ document.schema? name = some schema))
      (selected options source.interfaces) documents := by
  have hpasses := passes_of_compileAll h
  constructor
  · intro document hdocument ref href path hpath
    obtain ⟨interface, -, pass, hpass⟩ := exists_related_of_mem hpasses hdocument
    obtain ⟨served, log, p, run⟩ := exists_run hpass
    exact run.leads_to_component href hpath
  · refine hpasses.imp ?_
    rintro interface document ⟨pass, hpass⟩
    obtain ⟨served, log, p, run⟩ := exists_run hpass
    exact ⟨pass, hpass, fun name entry => run.built⟩

theorem fleet_references_lead_to_built_components :
    ∃ documents, (compileSource ⟨[Fleet.service], .ofList Fleet.types⟩ {}).result = .ok documents ∧
      documents.length = 1 ∧
      ∀ document ∈ documents, ∀ ref ∈ document.positions, ∀ path, ref.Mentions path →
        ∃ name ∈ document.schemas.keys, path = componentPath ++ name := by
  have hrun : ((compileSource ⟨[Fleet.service], .ofList Fleet.types⟩ {}).result.toOption.map
      List.length) = some 1 := by decide +kernel
  cases h : (compileSource ⟨[Fleet.service], .ofList Fleet.types⟩ {}).result with
  | error e =>
    rw [h] at hrun
    cases hrun
  | ok documents =>
    rw [h] at hrun
    exact ⟨documents, rfl, Option.some.inj hrun,
      (references_lead_to_built_components _ _ documents h).1⟩

end Compilation

end RestContract
