import RestContract.Proofs.Ledger
import RestContract.Proofs.Serving

/-!
A whole pass. From a pass that ended in a document one gets back the endpoints that
were served, the log of all constructions, and the pass just before its end. The
components of the document are the schemas of these constructions after all
attachments handed out for them.
-/
namespace RestContract

namespace Compilation

open Resolving Attachment

variable {catalog : TypeCatalog} {options : CompilerOptions} {interface : Interface}
  {document : Document} {pass p : Pass} {served : List (Operation × Endpoint)}
  {log : List Construction} {origin : Origin} {name : String}

/-- How a document came about. -/
structure Run (catalog : TypeCatalog) (options : CompilerOptions) (interface : Interface)
    (document : Document) (pass : Pass) (served : List (Operation × Endpoint))
    (log : List Construction) (p : Pass) : Prop where
  serves : serve catalog options interface interface.operations (blank interface options)
    (.start options.collisionPolicy) = .ok served p
  growth : Pass.Growth catalog (Made catalog interface) (.start options.collisionPolicy) log p
  fresh : FreshRoutes (blank interface options) served
  accounts : ∀ s ∈ served, s.1 ∈ interface.operations ∧ Accounts catalog interface p.registry s
  registry : pass.registry = p.finish.registry
  document : document =
    withSchemas (addServed (blank interface options) served) pass.registry.schemas

/-- A document comes about by constructions under any rule that implies how they are made,
if operations can be served in a setting for that rule. -/
theorem exists_run_within {rule : Registry → Construction → Prop} {within : Pass → Prop}
    (hwithin : Wrapping catalog interface rule within)
    (hstart : within (.start options.collisionPolicy))
    (hmade : ∀ r c, rule r c → Made catalog interface r c)
    (h : interfacePass catalog options interface
      (.start options.collisionPolicy) = .ok document pass) :
    ∃ served log p, Run catalog options interface document pass served log p ∧
      Pass.Growth catalog rule (.start options.collisionPolicy) log p := by
  obtain ⟨assembled, p, hadd, hclose⟩ := bind_eq_ok h
  rw [addOperations_eq, map_eq_pure_bind] at hadd
  obtain ⟨served, p', hserve, hassembled⟩ := bind_eq_ok hadd
  cases hassembled
  cases hclose
  obtain ⟨⟨log, hgrowth⟩, hfresh, haccounts⟩ :=
    (grows_serve hwithin hstart interface.operations).of_ok hserve
  exact ⟨served, log, p, ⟨hserve, hgrowth.mono hmade, hfresh, haccounts, rfl, rfl⟩, hgrowth⟩

theorem exists_run (h : interfacePass catalog options interface
      (.start options.collisionPolicy) = .ok document pass) :
    ∃ served log p, Run catalog options interface document pass served log p := by
  obtain ⟨served, log, p, run, -⟩ := exists_run_within (wrapping_made catalog interface)
    (.start catalog options.collisionPolicy) (fun _ _ hmade => hmade) h
  exact ⟨served, log, p, run⟩

theorem components_addServed (document : Document) (served : List (Operation × Endpoint)) :
    (addServed document served).components = document.components := by
  induction served generalizing document with
  | nil => rfl
  | cons s rest ih => exact ih (addEndpoint document s.2)

theorem schemas_withSchemas {schemas : SortedMap Schema} (h : document.components = none) :
    (withSchemas document schemas).schemas = schemas := by
  unfold withSchemas
  split
  next hempty =>
    have hnil : schemas.entries = [] := by simpa [SortedMap.isEmpty] using hempty
    cases schemas
    cases hnil
    simp [Document.schemas, h, SortedMap.empty]
  next => rfl

namespace Run

variable (run : Run catalog options interface document pass served log p)

include run

theorem schemas : document.schemas = pass.registry.schemas := by
  rw [run.document]
  exact schemas_withSchemas ((components_addServed _ served).trans rfl)

theorem nameOf? : pass.registry.nameOf? origin = p.registry.nameOf? origin := by
  rw [run.registry, Pass.finish_registry, Registry.nameOf?_takeAll]

theorem keeps : p.registry.Extends pass.registry := fun _ _ h => run.nameOf?.trans h

/-- Every construction has its name, and was made from positions that stand. -/
theorem made {c : Construction} (hc : c ∈ log) :
    pass.registry.nameOf? c.origin = some c.name ∧ Made catalog interface pass.registry c := by
  refine ⟨run.nameOf?.trans (run.growth.constructed hc).2.1, ?_⟩
  refine Made.mono ?_ run.keeps
  exact run.growth.rule_of_mem (fun _ _ _ hext h => h.mono hext) hc

/-- The component of an origin: the schema of its construction after all attachments
handed out for it, in some order. -/
theorem component (hname : pass.registry.nameOf? origin = some name) :
    ∃ c ∈ log, c.origin = origin ∧ ∃ attachments,
      attachments.Perm (aimedAt origin (handedOut log)) ∧
      pass.registry.get? name = some (applyAll attachments c.schema) := by
  have hname' := run.nameOf?.symm.trans hname
  obtain ⟨before, c, after, rfl, horigin, -, hschema⟩ := run.growth.finished_schema hname'
  refine ⟨c, by simp, horigin,
    aimedAt origin (handedOut after ++ handedOut (before ++ [c])), ?_, ?_⟩
  · -- Those that waited come last, although they were handed out first.
    rw [List.append_cons before c after, handedOut_append (before ++ [c]), aimedAt_append,
      aimedAt_append]
    exact List.perm_append_comm
  · rw [← Registry.schemaOf?_of_nameOf? hname, run.registry, hschema]

/-- The document shows what is built in the registry. -/
theorem schema?_of_get? {schema : Schema} (h : pass.registry.get? name = some schema) :
    document.schema? name = some schema := by
  rw [Registry.get?_eq_bind, Option.bind_eq_some_iff] at h
  obtain ⟨entry, hentry, hbuilt⟩ := h
  rw [Document.schema?, run.schemas, Registry.schemas, SortedMap.get?_mapValues, hentry]
  simp [hbuilt]

end Run

def pass? (catalog : TypeCatalog) (options : CompilerOptions) (interface : Interface) :
    Option (Document × Pass) :=
  match interfacePass catalog options interface (.start options.collisionPolicy) with
  | .ok document pass => some (document, pass)
  | .error _ _ => none

theorem pass?_eq_some : pass? catalog options interface = some (document, pass) ↔
    interfacePass catalog options interface (.start options.collisionPolicy) =
      .ok document pass := by
  unfold pass?
  cases interfacePass catalog options interface (.start options.collisionPolicy) with
  | ok document' pass' => simp
  | error e pass' => simp

/-- A compilation succeeds exactly if its pass does. -/
theorem compile_eq_ok_iff : (compile catalog options interface).result = .ok document ↔
    ∃ pass, interfacePass catalog options interface (.start options.collisionPolicy) =
      .ok document pass := by
  unfold compile
  cases interfacePass catalog options interface (.start options.collisionPolicy) with
  | ok document' pass' => simp
  | error e pass' => simp

/-- A successful compilation of several interfaces is one pass for each. -/
theorem passes_of_compileAll {interfaces : List Interface} {documents : List Document}
    (h : (compileAll catalog options interfaces).result = .ok documents) :
    List.Forall₂ (fun interface document => ∃ pass, interfacePass catalog options interface
      (.start options.collisionPolicy) = .ok document pass) interfaces documents := by
  induction interfaces generalizing documents with
  | nil =>
    cases h
    exact .nil
  | cons interface rest ih =>
    simp only [compileAll, compile] at h
    cases hfirst : interfacePass catalog options interface (.start options.collisionPolicy) with
    | error e pass =>
      rw [hfirst] at h
      cases h
    | ok document pass =>
      rw [hfirst] at h
      cases hrest : (compileAll catalog options rest).result with
      | error e =>
        simp only [hrest] at h
        cases h
      | ok others =>
        simp only [hrest] at h
        cases h
        exact .cons ⟨pass, hfirst⟩ (ih hrest)

end Compilation

-- A small contract: its leaf is met before its bases, and a member of the outermost base
-- refers back to the leaf.
namespace Fleet

def vehicle : TypeDefinition where
  name := "org.acme.Vehicle"
  members := [⟨"wheels", .ofName "int", false, false⟩,
    ⟨"spare", .ofName "org.acme.Cabrio", false, false⟩]

def cabrio : TypeDefinition where
  name := "org.acme.Cabrio"
  supertypes := ["org.acme.Car"]
  members := [⟨"roof", .ofName "java.lang.String", false, false⟩]

def types : List TypeDefinition :=
  [vehicle,
    { name := "org.acme.Car", kind := .abstractClass, supertypes := ["org.acme.Vehicle"] },
    { name := "org.acme.Color", kind := .enum, supertypes := ["org.acme.Vehicle"],
      constants := ["RED", "GREEN"] },
    cabrio]

def service : Interface where
  name := "org.acme.IFleetService"
  operations :=
    [{ name := "find", returns := .ofName "org.acme.Cabrio" },
      { name := "all", returns := ⟨"java.util.List", [.ofName "org.acme.Vehicle"]⟩ }]

open Compilation in
/-- The fleet compiles, and its base and its leaf keep their simple names. -/
theorem exists_pass : ∃ document pass,
    interfacePass (.ofList types) {} service (.start .error) = .ok document pass ∧
    pass.registry.nameOf? (.type vehicle.name) = some "Vehicle" ∧
    pass.registry.nameOf? (.type cabrio.name) = some "Cabrio" := by
  have hnames : (pass? (.ofList types) {} service).map (fun result =>
      [vehicle, cabrio].map fun d => result.2.registry.nameOf? (.type d.name)) =
        some [some "Vehicle", some "Cabrio"] := by decide +kernel
  obtain ⟨⟨document, pass⟩, hsome, hlist⟩ := Option.map_eq_some_iff.mp hnames
  injection hlist with hvehicle hrest
  injection hrest with hcabrio
  exact ⟨document, pass, pass?_eq_some.mp hsome, hvehicle, hcabrio⟩

end Fleet

end RestContract
