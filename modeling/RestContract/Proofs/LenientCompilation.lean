import RestContract.Proofs.LogIndependence
import RestContract.Proofs.Serving

/-!
A lenient compilation is a strict one of a cleaner interface: the interface without its
map parameters and without the operations that come late on their routes. What is left
out is left out before anything is resolved for it, so it leaves no trace in the document.
A strict compilation refuses an interface that is not clean.
-/
namespace RestContract

namespace Operation

def withoutMaps (o : Operation) : Operation :=
  { o with parameters := o.parameters.filter fun p => !Endpoint.isMapParameter p }

end Operation

namespace Interface

def sameRoute (i : Interface) (o o' : Operation) : Bool :=
  match EndpointRoute.of? i o, EndpointRoute.of? i o' with
  | .ok route, .ok route' => route.path == route'.path && route.method == route'.method
  | _, _ => false

def firstOnRoutes (i : Interface) : (earlier operations : List Operation) → List Operation
  | _, [] => []
  | earlier, o :: rest =>
      if earlier.any (i.sameRoute o) then i.firstOnRoutes (o :: earlier) rest
      else o :: i.firstOnRoutes (o :: earlier) rest

/-- The interface without map parameters, and then without operations whose route an
earlier one has. -/
def cleaned (i : Interface) : Interface :=
  { i with operations := i.firstOnRoutes [] (i.operations.map Operation.withoutMaps) }

variable {i : Interface} {o o' : Operation} {route route' : EndpointRoute}

theorem sameRoute_of_ok (h : EndpointRoute.of? i o = .ok route)
    (h' : EndpointRoute.of? i o' = .ok route') :
    i.sameRoute o o' = true ↔ route.path = route'.path ∧ route.method = route'.method := by
  simp [sameRoute, h, h']

theorem exists_route_of_any {earlier : List Operation} (h : earlier.any (i.sameRoute o) = true) :
    ∃ route, EndpointRoute.of? i o = .ok route := by
  obtain ⟨o', -, hsame⟩ := List.any_eq_true.mp h
  cases hroute : EndpointRoute.of? i o with
  | ok route => exact ⟨route, rfl⟩
  | error e => simp [sameRoute, hroute] at hsame

end Interface

namespace EndpointRoute

open Resolving

variable {interface : Interface} {operation : Operation} {route : EndpointRoute}

theorem idle_decide (h : of? interface operation = .ok route) :
    Idle (EndpointRoute.decide interface operation) route := by
  intro p
  unfold EndpointRoute.decide
  rw [h]
  dsimp only
  split
  · exact ⟨_, rfl, .record p _⟩
  · exact ⟨_, rfl, .refl p⟩

theorem decide_eq_error {e : CompileError} (h : of? interface operation = .error e) (p : Pass) :
    ∃ p', EndpointRoute.decide interface operation p = .error e p' := by
  unfold EndpointRoute.decide
  rw [h]
  dsimp only
  split
  · exact ⟨_, rfl⟩
  · exact ⟨_, rfl⟩

theorem of?_of_decide {p p' : Pass}
    (h : EndpointRoute.decide interface operation p = .ok route p') :
    of? interface operation = .ok route := by
  cases hroute : of? interface operation with
  | error e =>
    obtain ⟨q, hq⟩ := decide_eq_error hroute p
    rw [hq] at h
    cases h
  | ok route' =>
    obtain ⟨q, hq, -⟩ := idle_decide hroute p
    rw [hq] at h
    cases h
    rfl

theorem alike_decide (interface : Interface) (operation : Operation) :
    Alike (EndpointRoute.decide interface operation)
      (EndpointRoute.decide interface operation) := by
  cases hroute : of? interface operation with
  | ok route => exact .of_idle (idle_decide hroute)
  | error e =>
    intro p q _
    obtain ⟨p', hp⟩ := decide_eq_error hroute p
    obtain ⟨q', hq⟩ := decide_eq_error hroute q
    rw [hp, hq]
    exact .error

end EndpointRoute

namespace Endpoint

open Resolving

variable {catalog : TypeCatalog} {interface : Interface} {operation : Operation}
  {route : EndpointRoute} {p p' : Pass}

theorem alike_resolveResponse (catalog : TypeCatalog) (operation : Operation) :
    Alike (resolveResponse catalog operation) (resolveResponse catalog operation) := by
  have hresolve : ∀ shape : ResponseShape, Alike
      (do
        let schema ← resolveRoot catalog operation.returns
        return (some schema, shape))
      (do
        let schema ← resolveRoot catalog operation.returns
        return (some schema, shape)) :=
    fun shape => (Alike.resolveRoot catalog operation.returns).bind fun _ => .pure _
  unfold resolveResponse
  split
  · exact .pure _
  · dsimp only
    split
    · exact (Alike.of_idle (idle_note _ _ _)).bind fun _ => hresolve _
    · exact hresolve _

/-- Leaving a map parameter out of the list and skipping it come to the same. -/
theorem alike_place (catalog : TypeCatalog) (operation operation' : Operation)
    (parameters : List Parameter) :
    Alike (place catalog operation false parameters)
      (place catalog operation' true (parameters.filter fun p => !isMapParameter p)) := by
  induction parameters with
  | nil => exact .pure _
  | cons first rest ih =>
    cases hmap : isMapParameter first with
    | true =>
      simp only [place, hmap, if_true, List.filter_cons, Bool.not_true, Bool.false_eq_true,
        if_false]
      exact .idle_bind (idle_note _ _ _) ih
    | false =>
      simp only [place, hmap, Bool.false_eq_true, if_false, List.filter_cons, Bool.not_false,
        if_true]
      exact (Alike.resolveRoot catalog first.type).bind fun _ => ih.bind fun _ => .pure _

theorem alike_bundle (interface : Interface) (operation : Operation)
    (body : List BodyParameter) :
    Alike (bundle interface operation body) (bundle interface operation body) := by
  match body with
  | [] | [single] => exact .pure _
  | first :: second :: rest =>
    show Alike (some <$> wrapper interface operation _) (some <$> wrapper interface operation _)
    rw [map_eq_pure_bind]
    exact (Alike.actions.steps.construct trivial (.pure _)).bind fun _ => .pure _

theorem alike_assemble (catalog : TypeCatalog) (interface : Interface) (operation : Operation)
    (route : EndpointRoute) :
    Alike (assemble catalog interface operation false route)
      (assemble catalog interface operation.withoutMaps true route) := by
  refine (alike_resolveResponse catalog operation).bind ?_
  rintro ⟨response, shape⟩
  exact (alike_place catalog operation operation.withoutMaps operation.parameters).bind
    fun placed => (alike_bundle interface operation _).bind fun _ => .pure _

theorem route_of_assemble {strict : Bool} {e : Endpoint}
    (h : assemble catalog interface operation strict route p = .ok e p') : e.route = route := by
  obtain ⟨⟨response, shape⟩, p₁, -, hrest⟩ := bind_eq_ok h
  obtain ⟨placed, p₂, -, hlast⟩ := bind_eq_ok hrest
  obtain ⟨requestBody, p₃, -, hreturn⟩ := bind_eq_ok hlast
  cases hreturn
  rfl

/-- Strictly placed parameters are no maps. -/
theorem filter_of_place {parameters : List Parameter} {placed : List Placed}
    (h : place catalog operation true parameters p = .ok placed p') :
    (parameters.filter fun p => !isMapParameter p) = parameters := by
  induction parameters generalizing p p' placed with
  | nil => rfl
  | cons first rest ih =>
    cases hmap : isMapParameter first with
    | true =>
      simp only [place, hmap, if_true] at h
      cases h
    | false =>
      simp only [place, hmap, Bool.false_eq_true, if_false] at h
      obtain ⟨schema, p₁, -, hrest⟩ := bind_eq_ok h
      obtain ⟨others, p₂, hothers, -⟩ := bind_eq_ok hrest
      rw [List.filter_cons, hmap, ih hothers]
      rfl

theorem withoutMaps_of_assemble {e : Endpoint}
    (h : assemble catalog interface operation true route p = .ok e p') :
    operation.withoutMaps = operation := by
  obtain ⟨⟨response, shape⟩, p₁, -, hrest⟩ := bind_eq_ok h
  obtain ⟨placed, p₂, hplace, -⟩ := bind_eq_ok hrest
  rw [Operation.withoutMaps, filter_of_place hplace]

end Endpoint

namespace Compilation

open Resolving

variable {catalog : TypeCatalog} {options : CompilerOptions} {interface interface' : Interface}
  {document document' : Document} {operation : Operation} {earlier operations : List Operation}
  {route : EndpointRoute} {p p' : Pass}

def Occupied (interface : Interface) (earlier : List Operation) (document : Document) : Prop :=
  ∀ o route, EndpointRoute.of? interface o = .ok route →
    isTaken document route = earlier.any (interface.sameRoute o)

theorem occupied_blank : Occupied interface [] (blank interface options) := fun _ _ _ => rfl

/-- What adding an operation can come to. -/
theorem addOperation_cases
    (h : addOperation catalog options interface document operation p = .ok document' p') :
    ∃ route, EndpointRoute.of? interface operation = .ok route ∧
      (options.strict = false ∧ isTaken document route = true ∧ document' = document ∨
        isTaken document route = false ∧ ∃ e q,
          EndpointRoute.decide interface operation p = .ok route q ∧
          Endpoint.assemble catalog interface operation options.strict route q = .ok e p' ∧
          document' = addEndpoint document e) := by
  obtain ⟨route, p₁, hdecide, hrest⟩ := bind_eq_ok h
  refine ⟨route, EndpointRoute.of?_of_decide hdecide, ?_⟩
  cases htaken : isTaken document route with
  | true =>
    simp only [htaken, if_true] at hrest
    cases hstrict : options.strict with
    | true =>
      simp only [hstrict, if_true] at hrest
      cases hrest
    | false =>
      simp only [hstrict, Bool.false_eq_true, if_false] at hrest
      cases hrest
      exact .inl ⟨rfl, rfl, rfl⟩
  | false =>
    simp only [htaken, Bool.false_eq_true, if_false] at hrest
    obtain ⟨e, p₂, hassemble, hreturn⟩ := bind_eq_ok hrest
    cases hreturn
    exact .inr ⟨rfl, e, p₁, hdecide, hassemble, rfl⟩

/-- The routes taken after an operation are those taken before and its own. -/
theorem Occupied.addOperation (h : Occupied interface earlier document)
    (hadd : addOperation catalog options interface document operation p = .ok document' p') :
    Occupied interface (operation :: earlier) document' := by
  obtain ⟨route, hroute, hcases⟩ := addOperation_cases hadd
  intro o route' hroute'
  have hsame := Interface.sameRoute_of_ok hroute' hroute
  rw [List.any_cons, ← h o route' hroute']
  rcases hcases with ⟨-, htaken, rfl⟩ | ⟨-, e, q, -, hassemble, rfl⟩
  · cases hlate : interface.sameRoute o operation with
    | false => rfl
    | true =>
      obtain ⟨hpath, hmethod⟩ := hsame.mp hlate
      rw [isTaken, hpath, hmethod]
      exact htaken
  · rw [isTaken, getOperation?_addEndpoint, Endpoint.route_of_assemble hassemble]
    by_cases hagree : route'.path = route.path ∧ route'.method = route.method
    · rw [if_pos hagree, hsame.mpr hagree]
      rfl
    · rw [if_neg hagree, Bool.eq_false_iff.mpr fun htrue => hagree (hsame.mp htrue)]
      rfl

theorem Occupied.withoutMaps (h : Occupied interface (operation :: earlier) document) :
    Occupied interface (operation.withoutMaps :: earlier) document := h

theorem idle_addOperation (hlenient : options.strict = false)
    (hroute : EndpointRoute.of? interface operation = .ok route)
    (htaken : isTaken document route = true) :
    Idle (addOperation catalog options interface document operation) document := by
  intro p
  obtain ⟨p₁, hdecide, hwork⟩ := EndpointRoute.idle_decide hroute p
  unfold addOperation
  rw [bind_ok hdecide]
  simp only [htaken, if_true, hlenient, Bool.false_eq_true, if_false]
  exact ⟨_, rfl, hwork.trans (.record p₁ _)⟩

/-- On a free route, adding an operation leniently and adding it strictly without its map
parameters come to the same. -/
theorem alike_addOperation (hfree : ∀ route, EndpointRoute.of? interface operation = .ok route →
      isTaken document route = false) :
    Alike (addOperation catalog { options with strict := false } interface document operation)
      (addOperation catalog { options with strict := true } interface document
        operation.withoutMaps) := by
  refine (EndpointRoute.alike_decide interface operation).bind_of_ok fun route hdecided => ?_
  obtain ⟨p, p', hdecide⟩ := hdecided
  simp only [hfree route (EndpointRoute.of?_of_decide hdecide), Bool.false_eq_true, if_false]
  exact (Endpoint.alike_assemble catalog interface operation route).bind fun _ => .pure _

/-- Of the interface, adding operations reads the name only. -/
theorem addOperations_of_name_eq (h : interface.name = interface'.name)
    (operations : List Operation) (document : Document) :
    addOperations catalog options interface operations document =
      addOperations catalog options interface' operations document := by
  obtain ⟨name, its⟩ := interface
  obtain ⟨name', its'⟩ := interface'
  cases h
  induction operations generalizing document with
  | nil => rfl
  | cons operation rest ih =>
    unfold addOperations
    congr 1
    funext document'
    exact ih document'

theorem alike_addOperations (h : Occupied interface earlier document)
    (operations : List Operation) :
    Alike (addOperations catalog { options with strict := false } interface operations document)
      (addOperations catalog { options with strict := true } interface
        (interface.firstOnRoutes earlier (operations.map Operation.withoutMaps)) document) := by
  induction operations generalizing earlier document with
  | nil => exact .pure _
  | cons operation rest ih =>
    rw [List.map_cons, Interface.firstOnRoutes]
    split
    next hlate =>
      -- The operation is dropped: only the left side meets it, and only logs.
      obtain ⟨route, hroute⟩ := Interface.exists_route_of_any hlate
      have htaken := (h operation route hroute).trans hlate
      have hidle : Idle (addOperation catalog { options with strict := false } interface document
          operation) document := idle_addOperation rfl hroute htaken
      obtain ⟨p', hdropped, -⟩ := hidle (.start .error)
      exact .idle_bind hidle (ih (h.addOperation hdropped).withoutMaps)
    next hfirst =>
      have hfree : ∀ route, EndpointRoute.of? interface operation = .ok route →
          isTaken document route = false := fun route hroute =>
        (h operation route hroute).trans (Bool.eq_false_iff.mpr hfirst)
      refine (alike_addOperation hfree).bind_of_ok fun document' hadded => ?_
      obtain ⟨p, p', hadd⟩ := hadded
      exact ih (h.addOperation hadd).withoutMaps

/-- Operations that were added strictly were clean. -/
theorem firstOnRoutes_of_addOperations (h : Occupied interface earlier document)
    (hstrict : options.strict = true)
    (hadd : addOperations catalog options interface operations document p = .ok document' p') :
    interface.firstOnRoutes earlier (operations.map Operation.withoutMaps) = operations := by
  induction operations generalizing earlier document p with
  | nil => rfl
  | cons operation rest ih =>
    obtain ⟨middle, p₁, hfirst, hrest⟩ := bind_eq_ok hadd
    have hlater := ih (h.addOperation hfirst) hrest
    obtain ⟨route, hroute, ⟨hlenient, -⟩ | ⟨hfree, e, q, -, hassemble, -⟩⟩ :=
      addOperation_cases hfirst
    · cases hstrict.symm.trans hlenient
    · rw [hstrict] at hassemble
      rw [List.map_cons, Endpoint.withoutMaps_of_assemble hassemble, Interface.firstOnRoutes,
        ← h operation route hroute, hfree, hlater]
      rfl

theorem alike_close (document : Document) :
    Alike (close interface document) (close interface' document) := by
  intro p q hpq
  have hfinish := hpq.finish
  show SameOutcome (.ok (withSchemas document p.finish.registry.schemas) (p.finish.record _))
    (.ok (withSchemas document q.finish.registry.schemas) (q.finish.record _))
  rw [hfinish.registry_eq]
  exact .ok (((Pass.SameWork.record _ _).symm.trans hfinish).trans (.record _ _))

theorem alike_interfacePass (catalog : TypeCatalog) (options : CompilerOptions)
    (interface : Interface) :
    Alike (interfacePass catalog { options with strict := false } interface)
      (interfacePass catalog { options with strict := true } interface.cleaned) := by
  have hname : interface.cleaned.name = interface.name := rfl
  unfold interfacePass
  rw [addOperations_of_name_eq hname]
  exact (alike_addOperations occupied_blank interface.operations).bind alike_close

theorem cleaned_of_interfacePass
    (h : interfacePass catalog { options with strict := true } interface p = .ok document p') :
    interface.cleaned = interface := by
  obtain ⟨assembled, p₁, hadd, -⟩ := bind_eq_ok h
  rw [Interface.cleaned, firstOnRoutes_of_addOperations occupied_blank rfl hadd]

/-- A lenient compilation comes to what a strict one of the cleaned interface comes to,
and a strict one of an interface that is not clean fails. -/
theorem lenient_eq_strict_cleaned (catalog : TypeCatalog) (options : CompilerOptions)
    (interface : Interface) :
    (compile catalog { options with strict := false } interface).result =
      (compile catalog { options with strict := true } interface.cleaned).result ∧
    (interface.cleaned ≠ interface →
      ∃ e, (compile catalog { options with strict := true } interface).result = .error e) := by
  constructor
  · have houtcome := alike_interfacePass catalog options interface (.start options.collisionPolicy)
      (.start options.collisionPolicy) (.refl _)
    unfold compile
    revert houtcome
    generalize interfacePass catalog { options with strict := false } interface _ = lenient
    generalize interfacePass catalog { options with strict := true } interface.cleaned _ = strict
    rintro (_ | _)
    · rfl
    · rfl
  · intro hunclean
    unfold compile
    cases hpass : interfacePass catalog { options with strict := true } interface
      (.start options.collisionPolicy) with
    | error e pass => exact ⟨e, by simp⟩
    | ok document pass => exact absurd (cleaned_of_interfacePass hpass) hunclean

/-- Two overloads of one operation on one route. The first has a map parameter, and the
second refers to another type. -/
def depot : Interface where
  name := "org.acme.IDepot"
  operations :=
    [{ name := "find", returns := .ofName "org.acme.Item"
       parameters := [⟨"code", .ofName "java.lang.String"⟩,
         ⟨"hints", ⟨"java.util.Map", [.ofName "java.lang.String", .ofName "int"]⟩⟩] },
      { name := "find", returns := .ofName "org.acme.Shelf" }]

/-- The depot is not clean: leniently, its first operation is served without the map, and
strictly it is refused. -/
theorem depot_lenient_eq_strict_cleaned :
    depot.cleaned.operations = [{ name := "find", returns := .ofName "org.acme.Item"
                                  parameters := [⟨"code", .ofName "java.lang.String"⟩] }] ∧
    depot.cleaned ≠ depot ∧
    (compile (.ofList []) { strict := false } depot).result =
      (compile (.ofList []) { strict := true } depot.cleaned).result ∧
    ∃ e, (compile (.ofList []) { strict := true } depot).result = .error e := by
  have hunclean : depot.cleaned ≠ depot := by decide +kernel
  obtain ⟨hsame, hrefused⟩ := lenient_eq_strict_cleaned (.ofList []) {} depot
  exact ⟨by decide +kernel, hunclean, hsame, hrefused hunclean⟩

end Compilation

end RestContract
