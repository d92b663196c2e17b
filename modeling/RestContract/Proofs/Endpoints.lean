import RestContract.Endpoint
import RestContract.Proofs.Resolvers

/-!
How endpoints grow a pass. The return type and the parameters are resolved first, by
lawful constructions; then the body parameters are bundled, which constructs at most
one wrapper. So what an endpoint holds are the positions of the types of its
operation, and its request body refers to the component of its wrapper signature.
-/
namespace RestContract

namespace Registry

variable {catalog : TypeCatalog} {r r' : Registry}

def PlacesParameters (catalog : TypeCatalog) (r : Registry) (parameters : List Parameter)
    (placed : List Endpoint.Placed) : Prop :=
  List.Forall₂ (fun p q => q.parameter = p ∧ r.position? catalog p.type 1 = some q.schema)
    (parameters.filter fun p => !Endpoint.isMapParameter p) placed

theorem PlacesParameters.mono {parameters : List Parameter} {placed : List Endpoint.Placed}
    (h : r.PlacesParameters catalog parameters placed) (hext : r.Extends r') :
    r'.PlacesParameters catalog parameters placed := by
  refine h.imp ?_
  rintro p q ⟨hparameter, hposition⟩
  exact ⟨hparameter, position?_mono hext hposition⟩

theorem PlacesParameters.covers {parameters : List Parameter} {placed : List Endpoint.Placed}
    (h : r.PlacesParameters catalog parameters placed) {q : Endpoint.Placed} (hq : q ∈ placed) :
    r.Covers q.schema := by
  obtain ⟨p, -, -, hposition⟩ := exists_related_of_mem h hq
  exact covers_of_position? hposition

def PlacesBody (catalog : TypeCatalog) (r : Registry) (parameters : List Parameter)
    (body : List BodyParameter) : Prop :=
  List.Forall₂ (fun p b => b.name = p.name ∧ b.origin = p.type ∧
      r.position? catalog p.type 1 = some b.schema)
    (parameters.filter fun p => !Endpoint.isMapParameter p) body

theorem PlacesParameters.placesBody {parameters : List Parameter}
    {placed : List Endpoint.Placed} (h : r.PlacesParameters catalog parameters placed) :
    r.PlacesBody catalog parameters (Endpoint.bodyOf placed) := by
  refine List.forall₂_map_right_iff.mpr (h.imp ?_)
  rintro p q ⟨rfl, hposition⟩
  exact ⟨rfl, rfl, hposition⟩

theorem PlacesBody.covers {parameters : List Parameter} {body : List BodyParameter}
    (h : r.PlacesBody catalog parameters body) {b : BodyParameter} (hb : b ∈ body) :
    r.Covers b.schema := by
  obtain ⟨p, -, -, -, hposition⟩ := exists_related_of_mem h hb
  exact covers_of_position? hposition

theorem PlacesBody.names {parameters : List Parameter} {body : List BodyParameter}
    (h : r.PlacesBody catalog parameters body) :
    body.map BodyParameter.name =
      (parameters.filter fun p => !Endpoint.isMapParameter p).map Parameter.name := by
  unfold PlacesBody at h
  generalize parameters.filter _ = kept at h
  induction h with
  | nil => rfl
  | cons hfirst _ ih => rw [List.map_cons, List.map_cons, hfirst.1, ih]

end Registry

/-- A setting in which every root resolves to its position. -/
structure Rooted (catalog : TypeCatalog) (rule : Registry → Construction → Prop)
    (within : Pass → Prop) : Prop extends Resolver.Setting catalog rule within where
  root : ∀ (t : TypeDescriptor) (p : Pass), within p →
    Resolving.Grows catalog rule (resolveRoot catalog t) p fun ref r =>
      r.position? catalog t 1 = some ref

/-- Resolution, by lawful constructions. -/
theorem rooted_lawful (catalog : TypeCatalog) :
    Rooted catalog (Lawful catalog) (Pass.Faithful catalog) where
  faithful _ hp := hp
  grows _ _ hp hgrows := hgrows.faithful hp
  claims _ _ _ _ hp henrolls := henrolls.faithful hp
  synthetic _ _ _ _ hlawful := hlawful
  root t _ hp := grows_resolveRoot hp t

namespace Endpoint

open Resolving

variable {catalog : TypeCatalog} {rule : Registry → Construction → Prop} {within : Pass → Prop}
  {interface : Interface} {operation : Operation} {strict : Bool} {route : EndpointRoute}
  {r r' : Registry} {e : Endpoint} {p : Pass}

def unbundled (catalog : TypeCatalog) (operation : Operation) (strict : Bool)
    (route : EndpointRoute) : Resolving Endpoint := do
  let (response, shape) ← resolveResponse catalog operation
  let placed ← place catalog operation strict operation.parameters
  let inBody := placed.any Placed.needsBody
  return ⟨route, if inBody then [] else queryOf placed, if inBody then bodyOf placed else [],
    none, response, shape⟩

theorem assemble_eq (catalog : TypeCatalog) (interface : Interface) (operation : Operation)
    (strict : Bool) (route : EndpointRoute) :
    assemble catalog interface operation strict route = do
      let e ← unbundled catalog operation strict route
      let requestBody ← bundle interface operation e.body
      return { e with requestBody } := by
  unfold assemble unbundled
  simp only [bind_assoc, pure_bind]

structure Positioned (catalog : TypeCatalog) (operation : Operation) (r : Registry)
    (e : Endpoint) : Prop where
  response : ∀ ref, e.response = some ref → r.position? catalog operation.returns 1 = some ref
  parameters : ∃ placed, r.PlacesParameters catalog operation.parameters placed ∧
    (e.query = [] ∨ e.query = queryOf placed) ∧ (e.body = [] ∨ e.body = bodyOf placed)

theorem Positioned.mono (h : e.Positioned catalog operation r) (hext : r.Extends r') :
    e.Positioned catalog operation r' := by
  obtain ⟨placed, hplaced, hrest⟩ := h.parameters
  exact ⟨fun ref href => Registry.position?_mono hext (h.response ref href),
    placed, hplaced.mono hext, hrest⟩

theorem Positioned.covers_query (h : e.Positioned catalog operation r)
    {entry : String × SchemaRef} (hentry : entry ∈ e.query) : r.Covers entry.2 := by
  obtain ⟨placed, hplaced, hnone | hquery, -⟩ := h.parameters
  · simp [hnone] at hentry
  · rw [hquery] at hentry
    obtain ⟨q, hq, rfl⟩ := List.mem_map.mp hentry
    exact hplaced.covers hq

theorem Positioned.placesBody (h : e.Positioned catalog operation r) :
    e.body = [] ∨ r.PlacesBody catalog operation.parameters e.body := by
  obtain ⟨placed, hplaced, -, hnone | hbody⟩ := h.parameters
  · exact .inl hnone
  · exact .inr (hbody ▸ hplaced.placesBody)

theorem Positioned.covers_body (h : e.Positioned catalog operation r) {b : BodyParameter}
    (hb : b ∈ e.body) : r.Covers b.schema := by
  rcases h.placesBody with hnone | hbody
  · simp [hnone] at hb
  · exact hbody.covers hb

/-- The body parameters carry distinct names if the parameters of the operation do. -/
theorem Positioned.nodup_body (h : e.Positioned catalog operation r)
    (hnames : (operation.parameters.map Parameter.name).Nodup) :
    (e.body.map BodyParameter.name).Nodup := by
  rcases h.placesBody with hnone | hbody
  · simp [hnone]
  · rw [hbody.names]
    exact hnames.sublist (List.filter_sublist.map _)

theorem grows_resolveResponse (h : Rooted catalog rule within) (hp : within p) :
    Grows catalog rule (resolveResponse catalog operation) p fun result r =>
      ∀ ref, result.1 = some ref → r.position? catalog operation.returns 1 = some ref := by
  unfold resolveResponse
  generalize shapeOf operation.returns = shape
  have hresolve : ∀ p', within p' → Grows catalog rule
      (do
        let schema ← resolveRoot catalog operation.returns
        return (some schema, shape)) p' fun result r =>
      ∀ ref, result.1 = some ref → r.position? catalog operation.returns 1 = some ref := by
    intro p' hp'
    refine (h.root operation.returns p' hp').bind fun schema p'' _ hschema => .pure ?_
    rintro ref ⟨⟩
    exact hschema
  split
  · exact .pure (by simp)
  · dsimp only
    split
    · exact Grows.note.bind fun _ p' hgrows _ => hresolve p' (h.grows p p' hp hgrows)
    · exact hresolve p hp

theorem grows_place (h : Rooted catalog rule within) (hp : within p)
    (parameters : List Parameter) :
    Grows catalog rule (place catalog operation strict parameters) p
      fun placed r => r.PlacesParameters catalog parameters placed := by
  induction parameters generalizing p with
  | nil => exact .pure .nil
  | cons first rest ih =>
    unfold place Registry.PlacesParameters
    cases hmap : isMapParameter first with
    | true =>
      simp only [if_true, List.filter_cons, hmap, Bool.not_true, Bool.false_eq_true, if_false]
      cases strict with
      | true => exact .throw_bind
      | false => exact Grows.note.bind fun _ p' hgrows _ => ih (h.grows p p' hp hgrows)
    | false =>
      simp only [Bool.false_eq_true, if_false, List.filter_cons, hmap, Bool.not_false, if_true]
      refine (h.root first.type p hp).bind fun schema p₁ hgrows hschema => ?_
      have hp₁ := h.grows p p₁ hp hgrows
      refine (ih hp₁).bind fun others p₂ hgrows₂ hothers => .pure ?_
      have hschema₂ := Registry.position?_mono hgrows₂.keeps hschema
      exact .cons ⟨rfl, hschema₂⟩ hothers

theorem grows_unbundled (h : Rooted catalog rule within) (hp : within p) :
    Grows catalog rule (unbundled catalog operation strict route) p fun e r =>
      e.Positioned catalog operation r ∧ e.route = route := by
  refine (grows_resolveResponse h hp).bind fun result p₁ hgrows hresponse => ?_
  have hp₁ := h.grows p p₁ hp hgrows
  refine (grows_place h hp₁ operation.parameters).bind fun placed p₂ hgrows₂ hplaced => .pure ?_
  have hkeeps := hgrows₂.keeps
  refine ⟨⟨?_, placed, hplaced, ?_, ?_⟩, rfl⟩
  · exact fun ref href => Registry.position?_mono hkeeps (hresponse ref href)
  · split
    · exact .inl rfl
    · exact .inr rfl
  · split
    · exact .inr rfl
    · exact .inl rfl

def fields (body : List BodyParameter) : List (String × SchemaRef) :=
  body.map fun b => (b.name, b.schema)

theorem wrapperSchema_eq (body : List BodyParameter) :
    ∃ text, wrapperSchema body =
      (Schema.objectOf (.ofList (fields body))).withDescription text := by
  refine ⟨"Wrapper for [" ++ ", ".intercalate (body.map fun b => b.origin.display) ++ "]", ?_⟩
  have hfold := Schema.foldl_insertProperty (Schema.object.withDescription
    ("Wrapper for [" ++ ", ".intercalate (body.map fun b => b.origin.display) ++ "]"))
    .empty (fields body) rfl
  rw [fields, List.foldl_map] at hfold
  exact hfold

theorem covers_wrapperSchema {body : List BodyParameter} (h : ∀ b ∈ body, r.Covers b.schema) :
    r.Covers (.inline (wrapperSchema body)) := by
  obtain ⟨text, heq⟩ := wrapperSchema_eq body
  rw [heq]
  refine Registry.covers_withDescription (Registry.covers_objectOf ?_)
  intro entry hentry
  obtain ⟨b, hb, rfl⟩ := List.mem_map.mp hentry
  exact h b hb

end Endpoint

open Endpoint in
/-- The constructions made while an interface is compiled: those of resolution, and the
wrappers of body parameters. -/
inductive Made (catalog : TypeCatalog) (interface : Interface) (r : Registry) :
    Construction → Prop
  | resolved {c : Construction} : Lawful catalog r c → Made catalog interface r c
  | wrapped {name : String} {operation : Operation} {body : List BodyParameter} :
      (∀ b ∈ body, r.Covers b.schema) →
      Made catalog interface r
        ⟨wrapperName operation, name, .synthetic (wrapperSignature interface operation body),
          wrapperSchema body, []⟩

namespace Made

variable {catalog : TypeCatalog} {interface : Interface} {r r' : Registry} {c : Construction}

theorem mono (h : Made catalog interface r c) (hext : r.Extends r') :
    Made catalog interface r' c := by
  cases h with
  | resolved hlawful => exact .resolved (hlawful.mono hext)
  | wrapped hbody => exact .wrapped fun b hb => (hbody b hb).mono hext

theorem covers (h : Made catalog interface r c) : r.Covers (.inline c.schema) := by
  cases h with
  | resolved hlawful => exact hlawful.covers
  | wrapped hbody => exact Endpoint.covers_wrapperSchema hbody

theorem lawful_of_attachment (h : Made catalog interface r c) {a : Attachment}
    (ha : a ∈ c.attachments) : Lawful catalog r c := by
  cases h with
  | resolved hlawful => exact hlawful
  | wrapped => cases ha

theorem lawful_of_type (h : Made catalog interface r c) {name : String}
    (horigin : c.origin = .type name) : Lawful catalog r c := by
  cases h with
  | resolved hlawful => exact hlawful
  | wrapped => cases horigin

end Made

structure Wrapping (catalog : TypeCatalog) (interface : Interface)
    (rule : Registry → Construction → Prop) (within : Pass → Prop) : Prop
    extends Rooted catalog rule within where
  wrapper : ∀ r c signature, c.origin = .synthetic signature → Made catalog interface r c →
    rule r c

/-- Compilation, by the constructions of resolution and wrappers. -/
theorem wrapping_made (catalog : TypeCatalog) (interface : Interface) :
    Wrapping catalog interface (Made catalog interface) (Pass.Faithful catalog) where
  faithful _ hp := hp
  grows _ _ hp hgrows := hgrows.faithful hp
  claims _ _ _ _ hp henrolls := henrolls.faithful hp
  synthetic _ _ _ _ hlawful := .resolved hlawful
  root t _ hp := (grows_resolveRoot hp t).mono fun _ _ => .resolved
  wrapper _ _ _ _ hmade := hmade

namespace Endpoint

open Resolving

variable {catalog : TypeCatalog} {rule : Registry → Construction → Prop} {within : Pass → Prop}
  {interface : Interface} {operation : Operation} {strict : Bool} {route : EndpointRoute}
  {r : Registry} {p : Pass}

theorem grows_wrapper {body : List BodyParameter}
    (h : Wrapping catalog interface rule within) (hbody : ∀ b ∈ body, p.registry.Covers b.schema) :
    Grows catalog rule (wrapper interface operation body) p fun ref r =>
      r.reference? (.synthetic (wrapperSignature interface operation body)) = some ref := by
  refine Grows.construct fun name p' henrolls => ?_
  have hcovers : ∀ b ∈ body, p'.registry.Covers b.schema :=
    fun b hb => (hbody b hb).mono henrolls.keeps
  exact Builds.of_grows (.pure (h.wrapper _ _ _ rfl (.wrapped hcovers))) fun _ _ hrule => hrule

def Bundles (interface : Interface) (operation : Operation) (r : Registry) :
    List BodyParameter → Option SchemaRef → Prop
  | [], requestBody => requestBody = none
  | [single], requestBody => requestBody = some single.schema
  | body, requestBody =>
      (r.reference? (.synthetic (wrapperSignature interface operation body))).isSome = true ∧
        requestBody = r.reference? (.synthetic (wrapperSignature interface operation body))

theorem Bundles.mono {r' : Registry} {body : List BodyParameter} {requestBody : Option SchemaRef}
    (h : Bundles interface operation r body requestBody) (hext : r.Extends r') :
    Bundles interface operation r' body requestBody := by
  match body with
  | [] | [single] => exact h
  | first :: second :: rest =>
    obtain ⟨ref, href⟩ := Option.isSome_iff_exists.mp h.1
    have href' := Registry.reference?_mono hext href
    exact ⟨by simp [href'], by rw [h.2, href, href']⟩

theorem Bundles.covers {body : List BodyParameter} {requestBody : Option SchemaRef}
    {ref : SchemaRef} (h : Bundles interface operation r body requestBody)
    (hbody : ∀ b ∈ body, r.Covers b.schema) (href : requestBody = some ref) : r.Covers ref := by
  match body with
  | [] =>
    cases href
    cases h
  | [single] =>
    have heq : single.schema = ref := Option.some.inj (h.symm.trans href)
    exact heq ▸ hbody single (List.mem_singleton.mpr rfl)
  | first :: second :: rest => exact Registry.covers_of_reference? (h.2.symm.trans href)

theorem grows_bundle {body : List BodyParameter}
    (h : Wrapping catalog interface rule within) (hbody : ∀ b ∈ body, p.registry.Covers b.schema) :
    Grows catalog rule (bundle interface operation body) p
      fun requestBody r => Bundles interface operation r body requestBody := by
  match body with
  | [] | [single] => exact .pure rfl
  | first :: second :: rest =>
    refine (grows_wrapper h hbody).map fun ref r href => ⟨?_, href.symm⟩
    rw [href]
    rfl

theorem grows_assemble (h : Wrapping catalog interface rule within) (hp : within p) :
    Grows catalog rule (assemble catalog interface operation strict route) p
      fun e r => e.route = route ∧ e.Positioned catalog operation r ∧
        Bundles interface operation r e.body e.requestBody := by
  rw [assemble_eq]
  refine (grows_unbundled h.toRooted hp).bind fun e p₁ hgrows ⟨hpositioned, hroute⟩ => ?_
  have hp₁ := h.grows p p₁ hp hgrows
  refine (grows_bundle h fun b => hpositioned.covers_body).bind
    fun requestBody p₂ hgrows₂ hbundles => .pure ⟨hroute, ?_, hbundles⟩
  have hpositioned₂ := hpositioned.mono hgrows₂.keeps
  exact ⟨hpositioned₂.response, hpositioned₂.parameters⟩

end Endpoint

end RestContract
