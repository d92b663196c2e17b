import RestContract.Proofs.CompileErrors
import RestContract.Proofs.RequestWrappers

/-!
The routes and the tags of a document. Operations are added in the order of the interface,
and after each of them the document tells the operations added so far: exactly their routes
are taken, no path stands without an operation, and the tags are those of the operations
that came first on their routes. What stands on a route is what the first operation there
was assembled to, and it stays there.
-/
namespace RestContract

namespace Interface

def Routes (i : Interface) (o : Operation) (path : String) (method : HttpMethod) : Prop :=
  ∃ route, EndpointRoute.of? i o = .ok route ∧ path = route.path ∧ method = route.method

instance (i : Interface) (o : Operation) (path : String) (method : HttpMethod) :
    Decidable (i.Routes o path method) :=
  match h : EndpointRoute.of? i o with
  | .ok route =>
      decidable_of_iff (path = route.path ∧ method = route.method) (by simp [Routes, h])
  | .error _ => isFalse (by simp [Routes, h])

def tagOf (i : Interface) (o : Operation) : String := (o.route.getD {}).tag.getD i.simpleName

/-- The tags of the operations that come first on their routes, each where it is met first. -/
def firstTags (i : Interface) (operations : List Operation) : List String :=
  ((i.firstOnRoutes [] operations).map i.tagOf).eraseDups

variable {i : Interface} {o : Operation} {route : EndpointRoute} {operations : List Operation}
  {path : String} {method : HttpMethod}

theorem routes_iff (h : EndpointRoute.of? i o = .ok route) :
    i.Routes o path method ↔ path = route.path ∧ method = route.method := by
  simp [Routes, h]

theorem exists_routes_concat (h : EndpointRoute.of? i o = .ok route) :
    (∃ other ∈ operations ++ [o], i.Routes other path method) ↔
      (∃ other ∈ operations, i.Routes other path method) ∨
        path = route.path ∧ method = route.method := by
  rw [← routes_iff h]
  simp only [List.mem_append, List.mem_singleton, or_and_right, exists_or, exists_eq_left]

theorem any_sameRoute_iff (h : EndpointRoute.of? i o = .ok route) :
    operations.any (i.sameRoute o) = true ↔
      ∃ other ∈ operations, i.Routes other route.path route.method := by
  rw [List.any_eq_true]
  constructor
  · rintro ⟨other, hother, hsame⟩
    cases hroute : EndpointRoute.of? i other with
    | error e => simp [sameRoute, h, hroute] at hsame
    | ok route' =>
      exact ⟨other, hother, (routes_iff hroute).mpr ((sameRoute_of_ok h hroute).mp hsame)⟩
  · rintro ⟨other, hother, route', hroute, hagree⟩
    exact ⟨other, hother, (sameRoute_of_ok h hroute).mpr hagree⟩

theorem any_cons_or_any (test : Operation → Bool) (first : Operation)
    (earlier rest : List Operation) :
    ((first :: earlier).any test || rest.any test) =
      (earlier.any test || (first :: rest).any test) := by
  rw [List.any_cons, List.any_cons]
  ac_rfl

theorem firstOnRoutes_concat (earlier operations : List Operation) (o : Operation) :
    i.firstOnRoutes earlier (operations ++ [o]) =
      i.firstOnRoutes earlier operations ++
        if earlier.any (i.sameRoute o) || operations.any (i.sameRoute o) then [] else [o] := by
  induction operations generalizing earlier with
  | nil => cases hlate : earlier.any (i.sameRoute o) <;> simp [firstOnRoutes, hlate]
  | cons first rest ih =>
    rw [List.cons_append, firstOnRoutes, firstOnRoutes, ih, any_cons_or_any]
    split
    · rfl
    · rw [List.cons_append]

/-- An operation that comes late on its route brings no tag, any other its own, if it is new. -/
theorem firstTags_concat (operations : List Operation) (o : Operation) :
    i.firstTags (operations ++ [o]) =
      if operations.any (i.sameRoute o) then i.firstTags operations
      else if i.tagOf o ∈ i.firstTags operations then i.firstTags operations
      else i.firstTags operations ++ [i.tagOf o] := by
  unfold firstTags
  rw [firstOnRoutes_concat, List.any_nil, Bool.false_or]
  split
  · rw [List.append_nil]
  · rw [List.map_append, List.map_singleton, eraseDups_concat]
    simp only [List.mem_eraseDups]

end Interface

/-- The identifier and the tag of a route. -/
theorem EndpointRoute.of?_eq_ok {interface : Interface} {operation : Operation}
    {route : EndpointRoute} (h : of? interface operation = .ok route) :
    route.operationId = Naming.kebabCase operation.name ∧
      route.tag = interface.tagOf operation := by
  unfold of? at h
  dsimp only at h
  split at h
  · cases h
  · cases h
    exact ⟨rfl, rfl⟩

/-- Adding a tag where only names are listed. -/
theorem Document.tags_addTag {document : Document} {names : List String}
    (h : document.tags.getD [] = names.map (⟨·, none⟩)) (name : String) :
    (document.addTag name).tags =
      some ((if name ∈ names then names else names ++ [name]).map (⟨·, none⟩)) := by
  have hknown : document.hasTag name = true ↔ name ∈ names := by
    simp [Document.hasTag, h]
  unfold addTag
  dsimp only
  rw [h]
  by_cases hmem : name ∈ names
  · rw [if_pos (hknown.mpr hmem), if_pos hmem]
  · rw [if_neg (mt hknown.mp hmem), if_neg hmem, List.map_append]
    rfl

theorem Document.getOperation?_of_paths_eq {document document' : Document}
    (h : document.paths = document'.paths) (path : String) (method : HttpMethod) :
    document.getOperation? path method = document'.getOperation? path method := by
  rw [getOperation?, h, getOperation?]

theorem PathItem.getOperation?_setOperation_self (item : PathItem) (method : HttpMethod)
    (operation : RestOperation) :
    (item.setOperation method operation).getOperation? method = some operation := by
  cases method <;> rfl

namespace Compilation

open Resolving

variable {catalog : TypeCatalog} {options : CompilerOptions} {interface : Interface}
  {document document' : Document} {operation : Operation} {added operations : List Operation}
  {path : String} {method : HttpMethod} {p p' : Pass}

/-- The document tells the operations that were added. -/
structure Reflects (interface : Interface) (added : List Operation) (document : Document) :
    Prop where
  routed : ∀ path method, (document.getOperation? path method).isSome = true ↔
    ∃ o ∈ added, interface.Routes o path method
  inhabited : ∀ entry ∈ document.paths.entries, ∃ method,
    (entry.2.getOperation? method).isSome = true
  listed : document.tags.getD [] = (interface.firstTags added).map (⟨·, none⟩)
  untagged : document.tags = none ↔ added = []

theorem reflects_blank : Reflects interface [] (blank interface options) where
  routed path method := by simp [blank, Document.ofInfo, Document.getOperation?]
  inhabited entry hentry := by cases hentry
  listed := rfl
  untagged := by simp [blank, Document.ofInfo]

namespace Reflects

theorem isTaken_eq {route : EndpointRoute} (h : Reflects interface added document)
    (hroute : EndpointRoute.of? interface operation = .ok route) :
    isTaken document route = added.any (interface.sameRoute operation) := by
  rw [Bool.eq_iff_iff, Interface.any_sameRoute_iff hroute]
  exact h.routed route.path route.method

/-- A late operation changes nothing that a document tells. -/
theorem drop {route : EndpointRoute} (h : Reflects interface added document)
    (hroute : EndpointRoute.of? interface operation = .ok route)
    (htaken : isTaken document route = true) :
    Reflects interface (added ++ [operation]) document where
  routed path method := by
    rw [Interface.exists_routes_concat hroute, h.routed path method]
    refine ⟨.inl, fun hsome => hsome.elim id ?_⟩
    rintro ⟨rfl, rfl⟩
    exact (h.routed _ _).mp htaken
  inhabited := h.inhabited
  listed := by rw [Interface.firstTags_concat, ← h.isTaken_eq hroute, if_pos htaken, h.listed]
  untagged := by
    have hsome : added ≠ [] := by
      rintro rfl
      rw [h.isTaken_eq hroute] at htaken
      cases htaken
    simp [h.untagged, hsome]

/-- The endpoint of an operation on a free route. -/
theorem addEndpoint {e : Endpoint} (h : Reflects interface added document)
    (hroute : EndpointRoute.of? interface operation = .ok e.route)
    (hfree : isTaken document e.route = false) :
    Reflects interface (added ++ [operation]) (addEndpoint document e) where
  routed path method := by
    rw [getOperation?_addEndpoint, Interface.exists_routes_concat hroute, ← h.routed path method]
    by_cases hown : path = e.route.path ∧ method = e.route.method
    · simp [hown]
    · simp [hown]
  inhabited entry hentry := by
    rcases SortedMap.mem_entries_insert hentry with rfl | hold
    · refine ⟨e.route.method, ?_⟩
      rw [PathItem.getOperation?_setOperation_self]
      rfl
    · exact h.inhabited entry hold
  listed := by
    have hlate : ¬added.any (interface.sameRoute operation) = true := by
      rw [← h.isTaken_eq hroute, hfree]
      exact Bool.false_ne_true
    have hlisted : (document.setOperation e.route.path e.route.method e.toOperation).tags.getD [] =
        (interface.firstTags added).map (⟨·, none⟩) := h.listed
    obtain ⟨-, htag⟩ := EndpointRoute.of?_eq_ok hroute
    rw [Compilation.addEndpoint, Document.tags_addTag hlisted, htag, Interface.firstTags_concat,
      if_neg hlate]
    rfl
  untagged := by simp [Compilation.addEndpoint, Document.addTag]

/-- One operation more. -/
theorem addOperation (h : Reflects interface added document)
    (hadd : addOperation catalog options interface document operation p = .ok document' p') :
    Reflects interface (added ++ [operation]) document' := by
  obtain ⟨route, hroute, ⟨-, htaken, rfl⟩ | ⟨hfree, e, q, -, hassemble, rfl⟩⟩ :=
    addOperation_cases hadd
  · exact h.drop hroute htaken
  · have hown := Endpoint.route_of_assemble hassemble
    subst hown
    exact h.addEndpoint hroute hfree

theorem addOperations (h : Reflects interface added document)
    (hadd : addOperations catalog options interface operations document p = .ok document' p') :
    Reflects interface (added ++ operations) document' := by
  induction operations generalizing added document p with
  | nil =>
    cases hadd
    rw [List.append_nil]
    exact h
  | cons operation rest ih =>
    obtain ⟨middle, p₁, hfirst, hrest⟩ := bind_eq_ok hadd
    have hlater := ih (h.addOperation hfirst) hrest
    rw [List.append_assoc] at hlater
    exact hlater

end Reflects

/-- What stands on a route stays there. -/
theorem getOperation?_of_addOperations {entry : RestOperation}
    (hadd : addOperations catalog options interface operations document p = .ok document' p')
    (hentry : document.getOperation? path method = some entry) :
    document'.getOperation? path method = some entry := by
  induction operations generalizing document p with
  | nil =>
    cases hadd
    exact hentry
  | cons operation rest ih =>
    obtain ⟨middle, p₁, hfirst, hrest⟩ := bind_eq_ok hadd
    refine ih hrest ?_
    obtain ⟨route, -, ⟨-, -, rfl⟩ | ⟨hfree, e, q, -, hassemble, rfl⟩⟩ := addOperation_cases hfirst
    · exact hentry
    · have hother : ¬(path = e.route.path ∧ method = e.route.method) := by
        rintro ⟨rfl, rfl⟩
        rw [isTaken, ← Endpoint.route_of_assemble hassemble, hentry] at hfree
        cases hfree
      rw [getOperation?_addEndpoint, if_neg hother, hentry]

def AssembledAfter (catalog : TypeCatalog) (options : CompilerOptions) (interface : Interface)
    (before : List Operation) (operation : Operation) (e : Endpoint) : Prop :=
  ∃ document p p₁ p₂,
    addOperations catalog options interface before (blank interface options)
      (.start options.collisionPolicy) = .ok document p ∧
    EndpointRoute.decide interface operation p = .ok e.route p₁ ∧
    Endpoint.assemble catalog interface operation options.strict e.route p₁ = .ok e p₂

theorem getOperation?_of_first {before after : List Operation}
    (hadd : addOperations catalog options interface (before ++ operation :: after)
      (blank interface options) (.start options.collisionPolicy) = .ok document p)
    (hroutes : interface.Routes operation path method)
    (hfirst : ∀ o ∈ before, ¬interface.Routes o path method) :
    ∃ e, AssembledAfter catalog options interface before operation e ∧
      document.getOperation? path method = some e.toOperation := by
  rw [addOperations_append] at hadd
  obtain ⟨earlier, p₁, hbefore, hrest⟩ := bind_eq_ok hadd
  obtain ⟨middle, p₂, hoperation, hafter⟩ := bind_eq_ok hrest
  have hreflects := reflects_blank.addOperations hbefore
  obtain ⟨route, hroute, ⟨-, htaken, -⟩ | ⟨-, e, q, hdecide, hassemble, rfl⟩⟩ :=
    addOperation_cases hoperation
  · obtain ⟨rfl, rfl⟩ := (Interface.routes_iff hroute).mp hroutes
    obtain ⟨o, ho, hother⟩ := (hreflects.routed _ _).mp htaken
    exact absurd hother (hfirst o ho)
  · have hown := Endpoint.route_of_assemble hassemble
    subst hown
    obtain ⟨rfl, rfl⟩ := (Interface.routes_iff hroute).mp hroutes
    refine ⟨e, ⟨earlier, p₁, q, p₂, hbefore, hdecide, hassemble⟩, ?_⟩
    refine getOperation?_of_addOperations hafter ?_
    rw [getOperation?_addEndpoint, if_pos ⟨rfl, rfl⟩]

/-- A compiled document has the paths and the tags that its operations were added to. -/
theorem added_of_compile (h : (compile catalog options interface).result = .ok document) :
    ∃ added p, addOperations catalog options interface interface.operations
      (blank interface options) (.start options.collisionPolicy) = .ok added p ∧
      document.paths = added.paths ∧ document.tags = added.tags := by
  obtain ⟨pass, hpass⟩ := compile_eq_ok_iff.mp h
  obtain ⟨added, p, hadd, hclose⟩ := bind_eq_ok hpass
  refine ⟨added, p, hadd, ?_⟩
  cases hclose
  exact ⟨paths_withSchemas _ _, by unfold withSchemas; split <;> rfl⟩

/-- A compiled document has an operation on exactly the routes of the operations of the
interface, and what stands on a route is what the first operation there was assembled to
when its turn came. No path stands without an operation. The tags are those of the
operations that come first on their routes, without repetitions and in the order in which
they are first met, and they are missing only if there are no operations at all. -/
theorem routes_and_tags_of_first_operations (catalog : TypeCatalog) (options : CompilerOptions)
    (interface : Interface) (document : Document)
    (h : (compile catalog options interface).result = .ok document) :
    (∀ path method, (document.getOperation? path method).isSome = true ↔
      ∃ o ∈ interface.operations, interface.Routes o path method) ∧
    (∀ before o after path method, interface.operations = before ++ o :: after →
      interface.Routes o path method → (∀ b ∈ before, ¬interface.Routes b path method) →
      ∃ e, AssembledAfter catalog options interface before o e ∧
        document.getOperation? path method = some e.toOperation) ∧
    (∀ entry ∈ document.paths.entries, ∃ method,
      (entry.2.getOperation? method).isSome = true) ∧
    document.tags.getD [] = (interface.firstTags interface.operations).map (⟨·, none⟩) ∧
    (document.tags = none ↔ interface.operations = []) := by
  obtain ⟨added, p, hadd, hpaths, htags⟩ := added_of_compile h
  have hreflects : Reflects interface interface.operations added :=
    reflects_blank.addOperations hadd
  have hget := Document.getOperation?_of_paths_eq hpaths
  refine ⟨fun path method => ?_, ?_, ?_, ?_, ?_⟩
  · rw [hget]
    exact hreflects.routed path method
  · intro before o after path method hsplit hroutes hfirst
    rw [hget]
    rw [hsplit] at hadd
    exact getOperation?_of_first hadd hroutes hfirst
  · rw [hpaths]
    exact hreflects.inhabited
  · rw [htags]
    exact hreflects.listed
  · rw [htags]
    exact hreflects.untagged

theorem exists_document (h : (pass? catalog options interface).isSome = true) :
    ∃ document, (compile catalog options interface).result = .ok document := by
  obtain ⟨⟨document, pass⟩, hsome⟩ := Option.isSome_iff_exists.mp h
  exact ⟨document, compile_eq_ok_iff.mpr ⟨pass, pass?_eq_some.mp hsome⟩⟩

def boarding : Operation where
  name := "board"
  route := some { path := some "/deck", method := some "get", tag := some "Deck" }

/-- The second operation is late on the route of the first, and the last has its path with
another method. -/
def ferry : Interface where
  name := "org.acme.IFerry"
  operations :=
    [boarding,
      { name := "leave", returns := .ofName "java.lang.String"
        route := some { path := some "/deck", method := some "GET", tag := some "Shore" } },
      { name := "sail" },
      { name := "wash", route := some { path := some "/deck", tag := some "Deck" } }]

/-- The first operation keeps its route, and the tag of the second is not listed. -/
theorem ferry_routes_and_tags : ∃ document,
    (compile (.ofList []) { strict := false } ferry).result = .ok document ∧
    (document.getOperation? "/deck" .post).isSome = true ∧
    (document.getOperation? "/deck" .put).isSome = false ∧
    (∃ e, AssembledAfter (.ofList []) { strict := false } ferry [] boarding e ∧
      document.getOperation? "/deck" .get = some e.toOperation) ∧
    document.tags.getD [] = [⟨"Deck", none⟩, ⟨"IFerry", none⟩] ∧ document.tags ≠ none := by
  have hpass : (pass? (.ofList []) { strict := false } ferry).isSome = true := by decide +kernel
  obtain ⟨document, hcompile⟩ := exists_document hpass
  obtain ⟨hrouted, hfirst, -, hlisted, huntagged⟩ :=
    routes_and_tags_of_first_operations _ _ _ _ hcompile
  have hput : ¬∃ o ∈ ferry.operations, ferry.Routes o "/deck" .put := by decide +kernel
  refine ⟨document, hcompile, (hrouted _ _).mpr (by decide +kernel), ?_, ?_, ?_, ?_⟩
  · exact Bool.eq_false_iff.mpr (mt (hrouted _ _).mp hput)
  · refine hfirst [] boarding _ "/deck" .get rfl (by decide +kernel) ?_
    intro b hb
    cases hb
  · rw [hlisted]
    decide +kernel
  · intro hnone
    cases huntagged.mp hnone

end Compilation

end RestContract
