import Mathlib.Data.List.Nodup
import RestContract.Proofs.DocumentRoutes

/-!
The identifiers of operations. An operation is identified in the document by its name in
kebab case, while it is told apart by its path and method. So an identifier stands for one
operation of the document if and only if, among the operations that come first on their
routes, no two names agree in kebab case.
-/
namespace RestContract

def Document.IdentifiesOperations (document : Document) : Prop :=
  ∀ path method entry path' method' entry', document.getOperation? path method = some entry →
    document.getOperation? path' method' = some entry' →
    entry.operationId = entry'.operationId → path = path' ∧ method = method'

namespace Interface

variable {i : Interface} {o : Operation} {earlier operations : List Operation}
  {path path' : String} {method method' : HttpMethod}

def retained (i : Interface) : List Operation := i.firstOnRoutes [] i.operations

theorem Routes.unique (h : i.Routes o path method) (h' : i.Routes o path' method') :
    path = path' ∧ method = method' := by
  obtain ⟨route, hroute, rfl, rfl⟩ := h
  obtain ⟨hpath, hmethod⟩ := (routes_iff hroute).mp h'
  exact ⟨hpath.symm, hmethod.symm⟩

/-- A split at an element is at the head or within the tail. -/
theorem exists_split_cons {property : List Operation → Prop} {first : Operation} :
    (∃ before after, first :: operations = before ++ o :: after ∧ property before) ↔
      o = first ∧ property [] ∨
        ∃ before after, operations = before ++ o :: after ∧ property (first :: before) := by
  constructor
  · rintro ⟨before, after, hsplit, hbefore⟩
    rcases List.cons_eq_append_iff.mp hsplit with ⟨rfl, hhead⟩ | ⟨rest, rfl, htail⟩
    · cases hhead
      exact .inl ⟨rfl, hbefore⟩
    · exact .inr ⟨rest, after, htail, hbefore⟩
  · rintro (⟨rfl, hnil⟩ | ⟨before, after, rfl, hbefore⟩)
    · exact ⟨[], operations, rfl, hnil⟩
    · exact ⟨first :: before, after, rfl, hbefore⟩

theorem mem_firstOnRoutes_iff :
    o ∈ i.firstOnRoutes earlier operations ↔ ∃ before after, operations = before ++ o :: after ∧
      (earlier.any (i.sameRoute o) || before.any (i.sameRoute o)) = false := by
  induction operations generalizing earlier with
  | nil => simp [firstOnRoutes]
  | cons first rest ih =>
    rw [exists_split_cons, firstOnRoutes]
    simp only [← any_cons_or_any, ← ih, List.any_nil, Bool.or_false]
    split
    next hlate =>
      constructor
      · exact .inr
      · rintro (⟨rfl, hfree⟩ | hrest)
        · cases hlate.symm.trans hfree
        · exact hrest
    next hfirst =>
      rw [List.mem_cons]
      refine or_congr_left ⟨fun hown => ?_, And.left⟩
      subst hown
      exact ⟨rfl, Bool.eq_false_iff.mpr hfirst⟩

/-- No operation among them has the route of one before it. -/
theorem pairwise_firstOnRoutes (earlier operations : List Operation) :
    (i.firstOnRoutes earlier operations).Pairwise fun o later => i.sameRoute later o = false := by
  induction operations generalizing earlier with
  | nil => exact .nil
  | cons first rest ih =>
    rw [firstOnRoutes]
    split
    · exact ih (first :: earlier)
    · refine List.pairwise_cons.mpr ⟨fun later hlater => ?_, ih (first :: earlier)⟩
      obtain ⟨before, after, -, hfree⟩ := mem_firstOnRoutes_iff.mp hlater
      rw [List.any_cons, Bool.or_assoc] at hfree
      exact (Bool.or_eq_false_iff.mp hfree).1

end Interface

namespace Compilation

open Resolving

variable {catalog : TypeCatalog} {options : CompilerOptions} {interface : Interface}
  {document : Document} {o : Operation} {path : String} {method : HttpMethod}
  {entry : RestOperation} {p : Pass}

/-- An operation that comes first on its route stands there, identified by its name. -/
theorem stands_of_retained (hadd : addOperations catalog options interface interface.operations
      (blank interface options) (.start options.collisionPolicy) = .ok document p)
    (ho : o ∈ interface.retained) :
    ∃ path method entry, interface.Routes o path method ∧
      document.getOperation? path method = some entry ∧
      entry.operationId = some (Naming.kebabCase o.name) := by
  obtain ⟨before, after, hsplit, hfree⟩ := Interface.mem_firstOnRoutes_iff.mp ho
  rw [hsplit] at hadd
  have hroute : ∃ route, EndpointRoute.of? interface o = .ok route := by
    rw [addOperations_append] at hadd
    obtain ⟨earlier, p₁, -, hrest⟩ := bind_eq_ok hadd
    obtain ⟨middle, p₂, hoperation, -⟩ := bind_eq_ok hrest
    obtain ⟨route, hroute, -⟩ := addOperation_cases hoperation
    exact ⟨route, hroute⟩
  obtain ⟨route, hroute⟩ := hroute
  have hroutes : interface.Routes o route.path route.method := ⟨route, hroute, rfl, rfl⟩
  have hfirst : ∀ b ∈ before, ¬interface.Routes b route.path route.method := by
    intro b hb hother
    have hlate := (Interface.any_sameRoute_iff hroute).mpr ⟨b, hb, hother⟩
    rw [List.any_nil, Bool.false_or, hlate] at hfree
    cases hfree
  obtain ⟨e, ⟨_, _, _, _, _, hdecide, _⟩, hentry⟩ := getOperation?_of_first hadd hroutes hfirst
  obtain ⟨hid, -⟩ := EndpointRoute.of?_eq_ok (EndpointRoute.of?_of_decide hdecide)
  exact ⟨route.path, route.method, e.toOperation, hroutes, hentry, congrArg some hid⟩

/-- What stands on a route is identified by the name of the operation that comes first there. -/
theorem exists_retained (hadd : addOperations catalog options interface interface.operations
      (blank interface options) (.start options.collisionPolicy) = .ok document p)
    (hentry : document.getOperation? path method = some entry) :
    ∃ o ∈ interface.retained, interface.Routes o path method ∧
      entry.operationId = some (Naming.kebabCase o.name) := by
  have hreflects : Reflects interface interface.operations document :=
    reflects_blank.addOperations hadd
  obtain ⟨before, o, after, hsplit, hfirst, hroutes⟩ :=
    exists_first ((hreflects.routed path method).mp (Option.isSome_of_eq_some hentry))
  have hretained : o ∈ interface.retained := by
    refine Interface.mem_firstOnRoutes_iff.mpr ⟨before, after, hsplit, ?_⟩
    obtain ⟨route, hroute, rfl, rfl⟩ := hroutes
    rw [List.any_nil, Bool.false_or, Bool.eq_false_iff, ne_eq, Interface.any_sameRoute_iff hroute]
    rintro ⟨b, hb, hother⟩
    exact hfirst b hb hother
  obtain ⟨path', method', entry', hroutes', hentry', hid⟩ := stands_of_retained hadd hretained
  obtain ⟨rfl, rfl⟩ := hroutes.unique hroutes'
  rw [hentry] at hentry'
  cases hentry'
  exact ⟨o, hretained, hroutes, hid⟩

/-- In a compiled document, the operation on a route is identified by the name, in kebab
case, of the operation of the interface that comes first there. So the identifiers tell the
operations of the document apart if and only if the names of the operations that come first
on their routes differ in kebab case. -/
theorem operation_ids_distinct_iff (catalog : TypeCatalog) (options : CompilerOptions)
    (interface : Interface) (document : Document)
    (h : (compile catalog options interface).result = .ok document) :
    (∀ path method entry, document.getOperation? path method = some entry →
      ∃ o ∈ interface.retained, interface.Routes o path method ∧
        entry.operationId = some (Naming.kebabCase o.name)) ∧
    (document.IdentifiesOperations ↔
      (interface.retained.map fun o => Naming.kebabCase o.name).Nodup) := by
  obtain ⟨added, p, hadd, hpaths, -⟩ := added_of_compile h
  have hget := Document.getOperation?_of_paths_eq hpaths
  have hstands : ∀ path method entry, document.getOperation? path method = some entry →
      ∃ o ∈ interface.retained, interface.Routes o path method ∧
        entry.operationId = some (Naming.kebabCase o.name) := by
    intro path method entry hentry
    exact exists_retained hadd ((hget path method).symm.trans hentry)
  refine ⟨hstands, fun hdistinct => ?_, fun hnodup => ?_⟩
  · refine List.pairwise_map.mpr ((Interface.pairwise_firstOnRoutes _ _).imp_of_mem ?_)
    intro o later ho hlater hother hid
    obtain ⟨path, method, entry, hroutes, hentry, hname⟩ := stands_of_retained hadd ho
    obtain ⟨path', method', entry', hroutes', hentry', hname'⟩ := stands_of_retained hadd hlater
    obtain ⟨rfl, rfl⟩ := hdistinct path method entry path' method' entry'
      ((hget _ _).trans hentry) ((hget _ _).trans hentry') (by rw [hname, hname', hid])
    -- The two would share a route, which the later one then had not come first on.
    obtain ⟨route, hroute, hagree⟩ := hroutes
    obtain ⟨route', hroute', rfl, rfl⟩ := hroutes'
    have hsame := (Interface.sameRoute_of_ok hroute' hroute).mpr hagree
    cases hsame.symm.trans hother
  · intro path method entry path' method' entry' hentry hentry' hid
    obtain ⟨o, ho, hroutes, hname⟩ := hstands path method entry hentry
    obtain ⟨o', ho', hroutes', hname'⟩ := hstands path' method' entry' hentry'
    rw [hname, hname', Option.some.injEq] at hid
    have hsame : o = o' := List.inj_on_of_nodup_map hnodup ho ho' hid
    subst hsame
    exact hroutes.unique hroutes'

end Compilation

-- Two overloads on two paths, and the same operations under names of their own.
namespace Registers

open Compilation

def register (byCode byName : String) : Interface where
  name := "org.acme.IRegister"
  operations :=
    [{ name := byCode, parameters := [⟨"code", .ofName "int"⟩]
       route := some { path := some "/by-code" } },
      { name := byName, parameters := [⟨"name", .ofName "java.lang.String"⟩]
        route := some { path := some "/by-name" } }]

/-- Names that differ in kebab case identify the operations. -/
theorem register_ids_distinct : ∃ document,
    (compile (.ofList []) {} (register "findByCode" "findByName")).result = .ok document ∧
    document.IdentifiesOperations := by
  have hpass : (pass? (.ofList []) {} (register "findByCode" "findByName")).isSome = true := by
    decide +kernel
  obtain ⟨document, hcompile⟩ := exists_document hpass
  obtain ⟨-, hdistinct⟩ := operation_ids_distinct_iff _ _ _ _ hcompile
  exact ⟨document, hcompile, hdistinct.mpr (by decide +kernel)⟩

/-- Two overloads stand on two paths under one identifier. -/
theorem overloads_share_operation_id : ∃ document,
    (compile (.ofList []) {} (register "find" "find")).result = .ok document ∧
    (document.getOperation? "/by-code" .post).map RestOperation.operationId =
      some (some "find") ∧
    (document.getOperation? "/by-name" .post).map RestOperation.operationId =
      some (some "find") ∧
    ¬document.IdentifiesOperations := by
  have hrun : (pass? (.ofList []) {} (register "find" "find")).map (fun result =>
      ((result.1.getOperation? "/by-code" .post).map RestOperation.operationId,
        (result.1.getOperation? "/by-name" .post).map RestOperation.operationId)) =
      some (some (some "find"), some (some "find")) := by decide +kernel
  obtain ⟨⟨document, pass⟩, hsome, hids⟩ := Option.map_eq_some_iff.mp hrun
  injection hids with hcode hname
  refine ⟨document, compile_eq_ok_iff.mpr ⟨pass, pass?_eq_some.mp hsome⟩, hcode, hname, ?_⟩
  intro hidentifies
  obtain ⟨entry, hentry, hid⟩ := Option.map_eq_some_iff.mp hcode
  obtain ⟨entry', hentry', hid'⟩ := Option.map_eq_some_iff.mp hname
  obtain ⟨hpath, -⟩ := hidentifies _ _ _ _ _ _ hentry hentry' (hid.trans hid'.symm)
  exact absurd hpath (by decide)

end Registers

end RestContract
