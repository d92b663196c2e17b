import RestContract.Proofs.Serving

/-!
Requests to one pass, one after the other. A caller resolves types and assembles
operations in any order, and goes on after a request that failed. Each request takes the
pass along a growth, to its end or not, and so does a row of requests. The discriminators
of declared types are all that is attached on the way.
-/
namespace RestContract

/-- Constructions that attach discriminators of declared types only. -/
def Labels (catalog : TypeCatalog) (_ : Registry) (c : Construction) : Prop :=
  ∀ a ∈ c.attachments, catalog.Discriminates a.property

theorem Lawful.labels {catalog : TypeCatalog} {r : Registry} {c : Construction}
    (h : Lawful catalog r c) : Labels catalog r c := by
  intro a ha
  obtain ⟨d, hd, depth, -, -, -, -, inherited, below, -, -, -, -, heq⟩ :=
    h.handsDown (List.ne_nil_of_mem ha)
  rw [heq] at ha
  obtain ⟨name, -, rfl⟩ := List.mem_map.mp ha
  exact ⟨d, hd, rfl⟩

theorem Made.labels {catalog : TypeCatalog} {interface : Interface} {r : Registry}
    {c : Construction} (h : Made catalog interface r c) : Labels catalog r c := by
  intro a ha
  exact (h.lawful_of_attachment ha).labels a ha

inductive Request where
  /-- Resolve a type where a resolution starts. -/
  | resolve (t : TypeDescriptor)
  /-- Assemble an operation on the route that it asks for. -/
  | assemble (interface : Interface) (operation : Operation) (strict : Bool)
  /-- Assemble an operation on a route decided before. -/
  | assembleOn (route : EndpointRoute) (interface : Interface) (operation : Operation)
      (strict : Bool)

def Resolving.leaves {α : Type} (x : Resolving α) (p : Pass) : Pass :=
  match x p with
  | .ok _ p' => p'
  | .error _ p' => p'

namespace Pass

def after (catalog : TypeCatalog) (p : Pass) : Request → Pass
  | .resolve t => (resolveRoot catalog t).leaves p
  | .assemble interface operation strict =>
      (Endpoint.ofOperation catalog interface operation strict).leaves p
  | .assembleOn route interface operation strict =>
      (Endpoint.assemble catalog interface operation strict route).leaves p

def afterAll (catalog : TypeCatalog) (p : Pass) (requests : List Request) : Pass :=
  requests.foldl (after catalog) p

end Pass

namespace Resolving

variable {α : Type} {catalog : TypeCatalog} {rule : Registry → Construction → Prop}
  {p p' : Pass} {x : Resolving α}

theorem leaves_of_ok {a : α} (h : x p = .ok a p') : x.leaves p = p' := by
  simp [leaves, h]

theorem leaves_of_error {e : CompileError} (h : x p = .error e p') : x.leaves p = p' := by
  simp [leaves, h]

theorem Grows.leaves {post : α → Registry → Prop} (h : Grows catalog rule x p post) :
    p.Interrupted catalog rule (x.leaves p) := by
  unfold Grows Ensures at h
  cases hx : x p with
  | ok a p' =>
    rw [hx] at h
    rw [leaves_of_ok hx]
    exact .of_growsTo h.1
  | error e p' =>
    rw [hx] at h
    rw [leaves_of_error hx]
    exact h

end Resolving

open Resolving in
theorem Endpoint.grows_ofOperation {catalog : TypeCatalog} {interface : Interface}
    {operation : Operation} {strict : Bool} {p : Pass} (hp : p.Faithful catalog) :
    Grows catalog (Made catalog interface) (ofOperation catalog interface operation strict) p
      fun e r => e.Positioned catalog operation r := by
  refine Compilation.grows_decide.bind fun route p' hgrows _ => ?_
  refine (grows_assemble (wrapping_made catalog interface) (hgrows.faithful hp)).imp ?_
  intro e _ _ he
  exact he.2.1

namespace Pass

variable {catalog : TypeCatalog} {p : Pass}

/-- One request. -/
theorem interrupted_after (hp : p.Faithful catalog) (request : Request) :
    p.Interrupted catalog (Labels catalog) (p.after catalog request) := by
  cases request with
  | resolve t => exact (grows_resolveRoot hp t).leaves.mono fun _ _ => Lawful.labels
  | assemble interface operation strict =>
    exact (Endpoint.grows_ofOperation hp).leaves.mono fun _ _ => Made.labels
  | assembleOn route interface operation strict =>
    exact (Endpoint.grows_assemble (wrapping_made catalog interface) hp).leaves.mono
      fun _ _ => Made.labels

/-- Requests in a row. -/
theorem interrupted_afterAll (hp : p.Faithful catalog) (requests : List Request) :
    p.Interrupted catalog (Labels catalog) (p.afterAll catalog requests) := by
  induction requests generalizing p with
  | nil => exact .here p
  | cons request rest ih =>
    have hrequest := interrupted_after hp request
    exact hrequest.trans (ih (hrequest.faithful hp))

theorem faithful_afterAll (hp : p.Faithful catalog) (requests : List Request) :
    (p.afterAll catalog requests).Faithful catalog :=
  (interrupted_afterAll hp requests).faithful hp

/-- What is reached from a fresh pass is sound. -/
theorem faithful_reached (catalog : TypeCatalog) (policy : CollisionPolicy)
    (requests : List Request) : ((start policy).afterAll catalog requests).Faithful catalog :=
  faithful_afterAll (.start catalog policy) requests

end Pass

end RestContract
