import RestContract.Compilation
import RestContract.Proofs.Congruences

/-!
Relations that the work on an interface respects. Around resolution, an operation is
turned down or its schemas are put together; the catalog is read by resolution alone. So a
relation that resolution respects is respected by the operations of an interface, as soon
as it relates the roots that they mention and the errors that turn them down.
-/
namespace RestContract

namespace Operation

def types (o : Operation) : List TypeDescriptor := o.returns :: o.parameters.map Parameter.type

/-- The errors that turn an operation down: its method is none of a contract, or the
compilation is strict and its route is taken or a parameter is a map. -/
inductive Refused (i : Interface) (strict : Bool) (o : Operation) : CompileError → Prop
  | method {e : CompileError} : EndpointRoute.of? i o = .error e → Refused i strict o e
  | route (route : EndpointRoute) : strict = true →
      Refused i strict o (.duplicateRoute o.name route.method route.path)
  | parameter (p : Parameter) : strict = true →
      Refused i strict o (.unsupportedMapParameter o.name p.name p.type.display)

structure Related (catalog catalog' : TypeCatalog)
    (related : ∀ {α : Type}, Resolving α → Resolving α → Prop) (i : Interface) (strict : Bool)
    (o : Operation) : Prop where
  root : ∀ t ∈ o.types, related (resolveRoot catalog t) (resolveRoot catalog' t)
  refused : ∀ {α : Type} (e : CompileError), Refused i strict o e →
    related (throw e : Resolving α) (throw e)

end Operation

open Resolving

variable {catalog catalog' : TypeCatalog} {allowed : Origin → Prop}
  {possible : String → List String → Prop}
  {related : ∀ {α : Type}, Resolving α → Resolving α → Prop}
  {interface : Interface} {strict : Bool} {operation : Operation}

namespace Endpoint

section Parts

variable (h : Congruence catalog catalog' allowed possible related)
  (ho : operation.Related catalog catalog' related interface strict)

include h ho

theorem related_decide : related (EndpointRoute.decide interface operation)
    (EndpointRoute.decide interface operation) := by
  unfold EndpointRoute.decide
  cases hroute : EndpointRoute.of? interface operation with
  | ok route =>
    dsimp only
    split
    · exact h.bind (h.note ..) fun _ => h.pure route
    · exact h.pure route
  | error e =>
    dsimp only
    split
    · exact h.bind (h.note ..) fun _ => ho.refused e (.method hroute)
    · exact ho.refused e (.method hroute)

theorem related_resolveResponse : related (resolveResponse catalog operation)
    (resolveResponse catalog' operation) := by
  have hroot := ho.root operation.returns (List.mem_cons_self ..)
  unfold resolveResponse
  dsimp only
  split
  · exact h.pure _
  · split
    · exact h.bind (h.note ..) fun _ => h.bind hroot fun _ => h.pure _
    · exact h.bind hroot fun _ => h.pure _

theorem related_place (parameters : List Parameter) (hsub : parameters ⊆ operation.parameters) :
    related (place catalog operation strict parameters)
      (place catalog' operation strict parameters) := by
  induction parameters with
  | nil => exact h.pure _
  | cons p rest ih =>
    obtain ⟨hp, hrest⟩ := List.cons_subset.mp hsub
    cases hmap : isMapParameter p with
    | false =>
      have hroot := ho.root p.type (List.mem_cons_of_mem _ (List.mem_map_of_mem hp))
      simp only [place, hmap, Bool.false_eq_true, if_false]
      exact h.bind hroot fun _ => h.bind (ih hrest) fun _ => h.pure _
    | true =>
      simp only [place, hmap, if_true]
      cases hstrict : strict with
      | true =>
        -- What follows the refusal is never reached.
        exact ho.refused _ (.parameter p hstrict)
      | false =>
        rw [hstrict] at ih
        exact h.bind (h.note ..) fun _ => ih hrest

omit ho in
theorem related_bundle (hsynthetic : ∀ signature, allowed (.synthetic signature))
    (body : List BodyParameter) :
    related (bundle interface operation body) (bundle interface operation body) := by
  match body with
  | [] | [single] => exact h.pure _
  | first :: second :: rest =>
    have hbundle : bundle interface operation (first :: second :: rest) =
        some <$> wrapper interface operation (first :: second :: rest) := rfl
    rw [hbundle, map_eq_pure_bind]
    exact h.bind (h.construct (hsynthetic _) (h.pure _)) fun _ => h.pure _

theorem related_assemble (hsynthetic : ∀ signature, allowed (.synthetic signature))
    (route : EndpointRoute) :
    related (assemble catalog interface operation strict route)
      (assemble catalog' interface operation strict route) := by
  refine h.bind (related_resolveResponse h ho) fun response => ?_
  refine h.bind (related_place h ho operation.parameters (List.Subset.refl _)) fun placed => ?_
  exact h.bind (related_bundle h hsynthetic _) fun _ => h.pure _

end Parts

end Endpoint

namespace Compilation

variable {options options' : CompilerOptions} (document : Document)

/-- Adding an operation respects the relation. Of the options, it reads whether the
compilation is strict. -/
theorem related_addOperation (h : Congruence catalog catalog' (fun _ => True) possible related)
    (hstrict : options'.strict = options.strict)
    (ho : operation.Related catalog catalog' related interface options.strict) :
    related (addOperation catalog options interface document operation)
      (addOperation catalog' options' interface document operation) := by
  refine h.bind (Endpoint.related_decide h ho) fun route => ?_
  rw [hstrict]
  cases htaken : isTaken document route with
  | false =>
    simp only [Bool.false_eq_true, if_false]
    exact h.bind (Endpoint.related_assemble h ho (fun _ => trivial) route) fun _ => h.pure _
  | true =>
    simp only [if_true]
    cases hrefuse : options.strict with
    | true => exact ho.refused _ (.route route hrefuse)
    | false => exact h.bind (h.note ..) fun _ => h.pure _

theorem related_addOperations (h : Congruence catalog catalog' (fun _ => True) possible related)
    (hstrict : options'.strict = options.strict) (operations : List Operation)
    (ho : ∀ o ∈ operations, o.Related catalog catalog' related interface options.strict) :
    related (addOperations catalog options interface operations document)
      (addOperations catalog' options' interface operations document) := by
  induction operations generalizing document with
  | nil => exact h.pure _
  | cons operation rest ih =>
    obtain ⟨hfirst, hrest⟩ := List.forall_mem_cons.mp ho
    exact h.bind (related_addOperation document h hstrict hfirst) fun document' =>
      ih document' hrest

end Compilation

end RestContract
