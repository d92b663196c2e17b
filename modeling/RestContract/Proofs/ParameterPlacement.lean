import RestContract.Endpoint
import RestContract.Proofs.LogIndependence
import RestContract.Proofs.ResolvedShapes

/-!
Where the parameters of an operation go. Those that are no maps are resolved one after the
other, and all of them go into the query or all into the body. One that needs a body takes
the others with it, so the query is left with what can be written in a query: schemas with
neither a reference nor an array in them.
-/
namespace RestContract

/-- The types resolve to the schemas one after the other, each in the pass that the one
before has left. In between, the pass is logged to at most. -/
inductive ResolvesInTurn (catalog : TypeCatalog) :
    Pass → List TypeDescriptor → List SchemaRef → Pass → Prop
  | nil {p q : Pass} : p.SameWork q → ResolvesInTurn catalog p [] [] q
  | cons {p q p' p'' : Pass} {t : TypeDescriptor} {ts : List TypeDescriptor}
      {schema : SchemaRef} {schemas : List SchemaRef} :
      p.SameWork q → resolveRoot catalog t q = .ok schema p' →
      ResolvesInTurn catalog p' ts schemas p'' →
      ResolvesInTurn catalog p (t :: ts) (schema :: schemas) p''

variable {catalog : TypeCatalog} {p p' q : Pass}

/-- What is logged before the first type is resolved does not count. -/
theorem ResolvesInTurn.after_log {ts : List TypeDescriptor} {schemas : List SchemaRef}
    (hlog : p.SameWork q) (h : ResolvesInTurn catalog q ts schemas p') :
    ResolvesInTurn catalog p ts schemas p' := by
  cases h with
  | nil hrest => exact .nil (hlog.trans hrest)
  | cons hrest hresolve hlater => exact .cons (hlog.trans hrest) hresolve hlater

namespace Endpoint

open Resolving

variable {interface : Interface} {operation : Operation} {strict : Bool} {route : EndpointRoute}
  {e : Endpoint} {placed : List Placed}

theorem resolves_of_place {parameters : List Parameter}
    (h : place catalog operation strict parameters p = .ok placed p') :
    placed.map Placed.parameter = parameters.filter (fun parameter => !isMapParameter parameter) ∧
      ResolvesInTurn catalog p (placed.map fun s => s.parameter.type)
        (placed.map Placed.schema) p' := by
  induction parameters generalizing p placed with
  | nil =>
    cases h
    exact ⟨rfl, .nil (.refl _)⟩
  | cons first rest ih =>
    cases hmap : isMapParameter first with
    | true =>
      simp only [place, hmap, if_true] at h
      cases strict with
      | true => cases h
      | false =>
        obtain ⟨u, q, hnote, hrest⟩ := bind_eq_ok h
        cases hnote
        obtain ⟨hparameters, hresolves⟩ := ih hrest
        rw [List.filter_cons, hmap]
        exact ⟨hparameters, hresolves.after_log (.record p _)⟩
    | false =>
      simp only [place, hmap, Bool.false_eq_true, if_false] at h
      obtain ⟨schema, q, hresolve, hrest⟩ := bind_eq_ok h
      obtain ⟨others, q', hothers, hreturn⟩ := bind_eq_ok hrest
      cases hreturn
      obtain ⟨hparameters, hresolves⟩ := ih hothers
      rw [List.filter_cons, hmap]
      exact ⟨congrArg (first :: ·) hparameters, .cons (.refl p) hresolve hresolves⟩

/-- Each parameter has the schema that its type resolved to. -/
theorem resolves_of_mem (h : ResolvesInTurn catalog p (placed.map fun s => s.parameter.type)
      (placed.map Placed.schema) p') {s : Placed} (hs : s ∈ placed) :
    ∃ q q', resolveRoot catalog s.parameter.type q = .ok s.schema q' := by
  induction placed generalizing p with
  | nil => cases hs
  | cons first rest ih =>
    cases h with
    | cons _ hresolve hlater =>
      rcases List.mem_cons.mp hs with rfl | hrest
      · exact ⟨_, _, hresolve⟩
      · exact ih hlater hrest

/-- A parameter needs a body for its schema or for its container. -/
theorem needsBody_iff (s : Placed) :
    s.needsBody = true ↔ s.schema.isReference = true ∨
      ContainerFamily.of? (stripOptional s.parameter.type) = some .sequence ∨
      ContainerFamily.of? (stripOptional s.parameter.type) = some .set := by
  unfold Placed.needsBody isCollectionParameter
  rw [Bool.or_eq_true]
  refine or_congr_right ?_
  cases ContainerFamily.of? (stripOptional s.parameter.type) with
  | none => simp
  | some family => cases family <;> simp [ContainerFamily.isCollection]

/-- What needs no body is flat. -/
theorem flat_of_not_needsBody {s : Placed} (hmap : isMapParameter s.parameter = false)
    (hresolve : resolveRoot catalog s.parameter.type q = .ok s.schema p')
    (h : s.needsBody = false) : s.schema.Flat := by
  have hneeds := mt (needsBody_iff s).mpr (by simp [h])
  rw [not_or, not_or] at hneeds
  obtain ⟨hreference, hsequence, hset⟩ := hneeds
  have hfamily : ContainerFamily.of? (stripOptional s.parameter.type) = none := by
    cases hcontainer : ContainerFamily.of? (stripOptional s.parameter.type) with
    | none => rfl
    | some family =>
      cases family with
      | sequence => exact absurd hcontainer hsequence
      | set => exact absurd hcontainer hset
      | map => simp [isMapParameter, hcontainer] at hmap
  exact ((Resolver.shape_of_resolve hresolve).isReference_or_flat hfamily).resolve_left hreference

theorem bundle_cases {body : List BodyParameter} {requestBody : Option SchemaRef}
    (h : bundle interface operation body p = .ok requestBody p') :
    (requestBody = none ↔ body = []) ∧
    (∀ single, body = [single] → requestBody = some single.schema) ∧
    (2 ≤ body.length → ∃ name, requestBody = some (.component name)) := by
  rcases body with _ | ⟨first, _ | ⟨second, rest⟩⟩
  · cases h
    simp
  · cases h
    simp
  · have hwrapper : bundle interface operation (first :: second :: rest) =
        some <$> wrapper interface operation (first :: second :: rest) := rfl
    rw [hwrapper, map_eq_pure_bind] at h
    obtain ⟨ref, q, hconstruct, hreturn⟩ := bind_eq_ok h
    cases hreturn
    obtain ⟨name, rfl⟩ := component_of_construct hconstruct
    simp

/-- The parameters that are no maps stand in their order, each under its name and with what
its type resolved to, all in the query or all in the body. The body is chosen exactly if one
of them is referred to or is a sequence or set. The request body is absent without body
parameters, the schema of a single one, and a component for several. In the query, no
reference and no array stands at any level. -/
theorem parameters_placed_together (catalog : TypeCatalog) (interface : Interface)
    (operation : Operation) (strict : Bool) (route : EndpointRoute) (p p' : Pass) (e : Endpoint)
    (h : assemble catalog interface operation strict route p = .ok e p') :
    ∃ (placed : List Placed) (q q' : Pass),
      placed.map Placed.parameter = operation.parameters.filter (fun parameter =>
        ContainerFamily.of? (stripOptional parameter.type) != some .map) ∧
      resolveResponse catalog operation p = .ok (e.response, e.responseShape) q ∧
      ResolvesInTurn catalog q (placed.map fun s => s.parameter.type)
        (placed.map Placed.schema) q' ∧
      (e.query = placed.map (fun s => (s.parameter.name, s.schema)) ∧ e.body = [] ∨
        e.query = [] ∧
          e.body = placed.map (fun s => ⟨s.parameter.name, s.schema, s.parameter.type⟩)) ∧
      (e.body ≠ [] ↔ ∃ s ∈ placed, s.schema.isReference = true ∨
        ContainerFamily.of? (stripOptional s.parameter.type) = some .sequence ∨
        ContainerFamily.of? (stripOptional s.parameter.type) = some .set) ∧
      (e.requestBody = none ↔ e.body = []) ∧
      (∀ single, e.body = [single] → e.requestBody = some single.schema) ∧
      (2 ≤ e.body.length → ∃ name, e.requestBody = some (.component name)) ∧
      ∀ entry ∈ e.query, (∀ path, ¬entry.2.Mentions path) ∧ ¬entry.2.HoldsArray := by
  obtain ⟨⟨response, shape⟩, q, hresponse, hrest⟩ := bind_eq_ok h
  obtain ⟨placed, q', hplace, hlast⟩ := bind_eq_ok hrest
  obtain ⟨requestBody, q'', hbundle, hreturn⟩ := bind_eq_ok hlast
  cases hreturn
  obtain ⟨hparameters, hresolves⟩ := resolves_of_place hplace
  obtain ⟨habsent, hsingle, hseveral⟩ := bundle_cases hbundle
  refine ⟨placed, q, q', hparameters, hresponse, hresolves, ?_, ?_, habsent, hsingle, hseveral, ?_⟩
  · cases placed.any Placed.needsBody with
    | true => exact .inr ⟨rfl, rfl⟩
    | false => exact .inl ⟨rfl, rfl⟩
  · simp only [← needsBody_iff]
    rw [← List.any_eq_true]
    cases hneeds : placed.any Placed.needsBody with
    | false => simp
    | true =>
      obtain ⟨s, hs, -⟩ := List.any_eq_true.mp hneeds
      simpa [bodyOf] using List.ne_nil_of_mem hs
  · intro entry hentry
    dsimp only at hentry
    split at hentry
    · cases hentry
    next hquery =>
      obtain ⟨s, hs, rfl⟩ := List.mem_map.mp hentry
      have hneeds : s.needsBody = false := by
        simpa using fun htrue => hquery (List.any_eq_true.mpr ⟨s, hs, htrue⟩)
      have hkept : s.parameter ∈ operation.parameters.filter fun o => !isMapParameter o :=
        hparameters ▸ List.mem_map_of_mem hs
      obtain ⟨before, after, hresolve⟩ := resolves_of_mem hresolves hs
      have hflat := flat_of_not_needsBody (by simpa using (List.mem_filter.mp hkept).2) hresolve
        hneeds
      exact ⟨hflat.mentions, hflat.arrays⟩

end Endpoint

-- Two operations with an optional enumeration and a map among their parameters, the second
-- with an optional list besides.
namespace Paints

open Endpoint

def shade : TypeDefinition where
  name := "org.acme.Shade"
  kind := .enum
  constants := ["WARM", "COLD"]

def pick : Operation where
  name := "pick"
  parameters := [⟨"code", .ofName "int"⟩,
    ⟨"hints", ⟨"java.util.Map", [.ofName "java.lang.String", .ofName "int"]⟩⟩,
    ⟨"shade", ⟨"Optional", [.ofName "org.acme.Shade"]⟩⟩]

def mix : Operation where
  name := "mix"
  parameters := pick.parameters ++
    [⟨"names", ⟨"Optional", [⟨"java.util.List", [.ofName "java.lang.String"]⟩]⟩⟩]

def service : Interface where
  name := "org.acme.IPaints"
  operations := [pick, mix]

def assembled? (o : Operation) : Option (Endpoint × Pass) :=
  match assemble (.ofList [shade]) service o false ⟨"/paints", .post, o.name, "paints", o.name⟩
      (.start .error) with
  | .ok e p => some (e, p)
  | .error _ _ => none

theorem assembled?_eq_some {o : Operation} {e : Endpoint} {p : Pass}
    (h : assembled? o = some (e, p)) :
    assemble (.ofList [shade]) service o false ⟨"/paints", .post, o.name, "paints", o.name⟩
      (.start .error) = .ok e p := by
  unfold assembled? at h
  split at h
  next hrun =>
    cases h
    exact hrun
  next => cases h

/-- Without the list both parameters are written in the query, with it all three go into the
body, and in either case the map is left out. -/
theorem paints_placed_together :
    (∃ e p, assembled? pick = some (e, p) ∧ e.query.map Prod.fst = ["code", "shade"] ∧
      e.body = [] ∧ e.requestBody = none ∧
      ∀ entry ∈ e.query, (∀ path, ¬entry.2.Mentions path) ∧ ¬entry.2.HoldsArray) ∧
    ∃ e p, assembled? mix = some (e, p) ∧ e.query = [] ∧
      e.body.map BodyParameter.name = ["code", "shade", "names"] ∧
      ∃ name, e.requestBody = some (.component name) := by
  have hpick : (assembled? pick).map (fun result =>
      (result.1.query.map Prod.fst, result.1.body.map BodyParameter.name)) =
        some (["code", "shade"], []) := by decide +kernel
  have hmix : (assembled? mix).map (fun result =>
      (result.1.query.map Prod.fst, result.1.body.map BodyParameter.name)) =
        some ([], ["code", "shade", "names"]) := by decide +kernel
  obtain ⟨⟨e, p⟩, hsome, hnames⟩ := Option.map_eq_some_iff.mp hpick
  obtain ⟨⟨e', p'⟩, hsome', hnames'⟩ := Option.map_eq_some_iff.mp hmix
  injection hnames with hquery hbody
  injection hnames' with hquery' hbody'
  obtain ⟨-, -, -, -, -, -, -, -, hnone, -, -, hflat⟩ := parameters_placed_together _ _ _ _ _ _ _ _
    (assembled?_eq_some hsome)
  obtain ⟨-, -, -, -, -, -, -, -, -, -, hseveral, -⟩ := parameters_placed_together _ _ _ _ _ _ _ _
    (assembled?_eq_some hsome')
  have hempty : e.body = [] := List.map_eq_nil_iff.mp hbody
  have hthree : e'.body.length = 3 := by simpa using congrArg List.length hbody'
  refine ⟨⟨e, p, hsome, hquery, hempty, hnone.mpr hempty, hflat⟩,
    e', p', hsome', List.map_eq_nil_iff.mp hquery', hbody', hseveral ?_⟩
  omega

end Paints

end RestContract
