import RestContract.Compilation
import RestContract.Proofs.Endpoints

/-!
The endpoints of an interface. Compiling the operations of an interface serves some
of them: those whose route is not taken by an operation served before. The document
is what the served endpoints add up to, each on a route of its own, together with the
schemas of the finished pass.
-/
namespace RestContract

namespace Compilation

open Resolving

variable {catalog : TypeCatalog} {options : CompilerOptions} {interface : Interface}
  {document : Document} {operation : Operation} {p p' : Pass}

def serveOperation (catalog : TypeCatalog) (options : CompilerOptions) (interface : Interface)
    (document : Document) (operation : Operation) : Resolving (Option Endpoint) := do
  let route ← EndpointRoute.decide interface operation
  if isTaken document route then
    let e := CompileError.duplicateRoute operation.name route.method route.path
    if options.strict then throw e
    note .warn "keeping the first operation on this route" [("error", .text e.message)]
    return none
  else
    let endpoint ← Endpoint.assemble catalog interface operation options.strict route
    return some endpoint

def serve (catalog : TypeCatalog) (options : CompilerOptions) (interface : Interface) :
    List Operation → Document → Resolving (List (Operation × Endpoint))
  | [], _ => return []
  | operation :: rest, document => do
      match ← serveOperation catalog options interface document operation with
      | none => serve catalog options interface rest document
      | some e =>
          let others ← serve catalog options interface rest (addEndpoint document e)
          return (operation, e) :: others

def addServed (document : Document) (served : List (Operation × Endpoint)) : Document :=
  served.foldl (fun document s => addEndpoint document s.2) document

@[simp] theorem addServed_nil : addServed document [] = document := rfl

@[simp] theorem addServed_cons {s : Operation × Endpoint} {rest : List (Operation × Endpoint)} :
    addServed document (s :: rest) = addServed (addEndpoint document s.2) rest := rfl

theorem addOperation_eq (catalog : TypeCatalog) (options : CompilerOptions)
    (interface : Interface) (document : Document) (operation : Operation) :
    addOperation catalog options interface document operation = do
      match ← serveOperation catalog options interface document operation with
      | none => return document
      | some e => return addEndpoint document e := by
  unfold addOperation serveOperation
  simp only [bind_assoc]
  congr 1
  funext route
  split
  · cases options.strict
    · simp
    · rfl
  · simp

theorem addOperations_eq (operations : List Operation) (document : Document) :
    addOperations catalog options interface operations document =
      addServed document <$> serve catalog options interface operations document := by
  induction operations generalizing document with
  | nil => simp [addOperations, serve]
  | cons operation rest ih =>
    rw [addOperations, serve, addOperation_eq, map_eq_pure_bind, bind_assoc, bind_assoc]
    congr 1
    funext outcome
    cases outcome with
    | none => simp [ih]
    | some e => simp [ih]

def FreshRoutes : Document → List (Operation × Endpoint) → Prop
  | _, [] => True
  | document, s :: rest =>
      isTaken document s.2.route = false ∧ FreshRoutes (addEndpoint document s.2) rest

structure Accounts (catalog : TypeCatalog) (interface : Interface) (r : Registry)
    (s : Operation × Endpoint) : Prop where
  positioned : s.2.Positioned catalog s.1 r
  bundles : Endpoint.Bundles interface s.1 r s.2.body s.2.requestBody

theorem Accounts.mono {r r' : Registry} {s : Operation × Endpoint}
    (h : Accounts catalog interface r s) (hext : r.Extends r') :
    Accounts catalog interface r' s :=
  ⟨h.positioned.mono hext, h.bundles.mono hext⟩

variable {rule : Registry → Construction → Prop} {within : Pass → Prop}

theorem grows_decide :
    Grows catalog rule (EndpointRoute.decide interface operation) p fun _ _ => True := by
  unfold EndpointRoute.decide
  dsimp only
  cases EndpointRoute.of? interface operation with
  | ok route =>
    split
    · exact Grows.note.bind fun _ _ _ _ => .pure trivial
    · exact .pure trivial
  | error e =>
    split
    · exact Grows.note.bind fun _ _ _ _ => .throw
    · exact .throw

theorem grows_serveOperation (h : Wrapping catalog interface rule within) (hp : within p) :
    Grows catalog rule
      (serveOperation catalog options interface document operation) p fun outcome r =>
        ∀ e, outcome = some e →
          isTaken document e.route = false ∧ Accounts catalog interface r (operation, e) := by
  refine grows_decide.bind fun route p₁ hgrows _ => ?_
  have hp₁ := h.grows p p₁ hp hgrows
  split
  · dsimp only
    split
    · exact .throw_bind
    · exact Grows.note.bind fun _ _ _ _ => .pure (by simp)
  next hfree =>
    refine (Endpoint.grows_assemble h hp₁).bind fun e p₂ _ he => .pure ?_
    obtain ⟨rfl, hpositioned, hbundles⟩ := he
    rintro _ ⟨⟩
    exact ⟨by simpa using hfree, hpositioned, hbundles⟩

theorem grows_serve (h : Wrapping catalog interface rule within) (hp : within p)
    (operations : List Operation) :
    Grows catalog rule (serve catalog options interface operations document) p fun served r =>
        FreshRoutes document served ∧
          ∀ s ∈ served, s.1 ∈ operations ∧ Accounts catalog interface r s := by
  induction operations generalizing p document with
  | nil => exact .pure ⟨trivial, by simp⟩
  | cons operation rest ih =>
    refine (grows_serveOperation h hp).bind fun outcome p₁ hgrows houtcome => ?_
    have hp₁ := h.grows p p₁ hp hgrows
    cases outcome with
    | none =>
      refine (ih hp₁).imp fun served p₂ _ ⟨hfresh, hserved⟩ => ⟨hfresh, fun s hs => ?_⟩
      exact ⟨List.mem_cons_of_mem _ (hserved s hs).1, (hserved s hs).2⟩
    | some e =>
      refine (ih hp₁).bind fun others p₂ hgrows₂ ⟨hfresh, hothers⟩ => .pure ?_
      obtain ⟨hfree, hfirst⟩ := houtcome e rfl
      refine ⟨⟨hfree, hfresh⟩, List.forall_mem_cons.mpr ⟨?_, fun s hs => ?_⟩⟩
      · exact ⟨List.mem_cons_self .., hfirst.mono hgrows₂.keeps⟩
      · exact ⟨List.mem_cons_of_mem _ (hothers s hs).1, (hothers s hs).2⟩

theorem getOperation?_addEndpoint (document : Document) (e : Endpoint) (path : String)
    (method : HttpMethod) :
    (addEndpoint document e).getOperation? path method =
      if path = e.route.path ∧ method = e.route.method then some e.toOperation
      else document.getOperation? path method := by
  change ((document.paths.insert e.route.path _).get? path).bind _ = _
  rw [SortedMap.get?_insert]
  by_cases hpath : path = e.route.path
  · subst hpath
    rw [if_pos rfl, Option.bind_some]
    have hitem : ∀ item : PathItem, (item.setOperation e.route.method e.toOperation).getOperation?
        method = if method = e.route.method then some e.toOperation
          else item.getOperation? method := by
      intro item
      cases method <;> cases e.route.method <;> rfl
    rw [hitem]
    by_cases hmethod : method = e.route.method
    · simp [hmethod]
    · simp only [hmethod, if_false, and_false]
      unfold Document.getOperation?
      cases document.paths.get? e.route.path with
      | some item => rfl
      | none => cases method <;> rfl
  · simp only [hpath, false_and, if_false]
    rfl

theorem FreshRoutes.keeps {served : List (Operation × Endpoint)} {path : String}
    {method : HttpMethod} {o : RestOperation} (h : FreshRoutes document served)
    (ho : document.getOperation? path method = some o) :
    (addServed document served).getOperation? path method = some o := by
  induction served generalizing document with
  | nil => exact ho
  | cons s rest ih =>
    refine ih h.2 ?_
    have hother : ¬(path = s.2.route.path ∧ method = s.2.route.method) := by
      rintro ⟨rfl, rfl⟩
      have hfree := h.1
      simp [isTaken, ho] at hfree
    rw [getOperation?_addEndpoint, if_neg hother, ho]

theorem FreshRoutes.getOperation? {served : List (Operation × Endpoint)}
    {s : Operation × Endpoint} (h : FreshRoutes document served) (hs : s ∈ served) :
    (addServed document served).getOperation? s.2.route.path s.2.route.method =
      some s.2.toOperation := by
  induction served generalizing document with
  | nil => cases hs
  | cons first rest ih =>
    rcases List.mem_cons.mp hs with rfl | hrest
    · rw [addServed_cons]
      refine FreshRoutes.keeps h.2 ?_
      rw [getOperation?_addEndpoint, if_pos ⟨rfl, rfl⟩]
    · exact ih h.2 hrest

theorem mem_operations_setOperation {item : PathItem} {method : HttpMethod}
    {o o' : RestOperation} (h : o' ∈ (item.setOperation method o).operations) :
    o' = o ∨ o' ∈ item.operations := by
  cases method <;>
    simp only [PathItem.setOperation, PathItem.operations, List.mem_append, Option.toList_some,
      List.mem_singleton] at h ⊢ <;>
    grind

theorem mem_operationPositions_addEndpoint {e : Endpoint} {ref : SchemaRef}
    (h : ref ∈ (addEndpoint document e).operationPositions) :
    ref ∈ document.operationPositions ∨ ref ∈ e.toOperation.positions := by
  obtain ⟨entry, hentry, hitem⟩ := List.mem_flatMap.mp h
  obtain ⟨o, ho, href⟩ := List.mem_flatMap.mp hitem
  rcases SortedMap.mem_entries_insert hentry with rfl | hold
  · rcases mem_operations_setOperation ho with rfl | hknown
    · exact .inr href
    · cases hpath : document.paths.get? e.route.path with
      | none => simp [hpath, PathItem.operations] at hknown
      | some item =>
        rw [hpath] at hknown
        refine .inl (List.mem_flatMap.mpr ⟨_, SortedMap.mem_entries_of_get? hpath, ?_⟩)
        exact List.mem_flatMap.mpr ⟨o, hknown, href⟩
  · exact .inl (List.mem_flatMap.mpr ⟨entry, hold, hitem⟩)

theorem mem_operationPositions_addServed {served : List (Operation × Endpoint)}
    {ref : SchemaRef} (h : ref ∈ (addServed document served).operationPositions) :
    ref ∈ document.operationPositions ∨ ∃ s ∈ served, ref ∈ s.2.toOperation.positions := by
  induction served generalizing document with
  | nil => exact .inl h
  | cons first rest ih =>
    rcases ih h with hfirst | ⟨s, hs, href⟩
    · rcases mem_operationPositions_addEndpoint hfirst with hdocument | href
      · exact .inl hdocument
      · exact .inr ⟨first, List.mem_cons_self .., href⟩
    · exact .inr ⟨s, List.mem_cons_of_mem _ hs, href⟩

/-- The positions of an endpoint are those of its query, its request body and its
response. -/
theorem mem_positions_toOperation {e : Endpoint} {ref : SchemaRef}
    (h : ref ∈ e.toOperation.positions) :
    (∃ entry ∈ e.query, entry.2 = ref) ∨ e.requestBody = some ref ∨ e.response = some ref := by
  rcases List.mem_append.mp h with hrequest | hresponse
  · rcases List.mem_append.mp hrequest with hquery | hbody
    · left
      simp only [Endpoint.toOperation, Endpoint.queryParameters] at hquery
      split at hquery
      · simp at hquery
      · simpa [RestParameter.query] using hquery
    · right; left
      cases hrequestBody : e.requestBody with
      | none => simp [Endpoint.toOperation, hrequestBody] at hbody
      | some schema =>
        simp [Endpoint.toOperation, hrequestBody, RequestBody.json, jsonContent, contentPositions,
          SortedMap.insert, SortedMap.insertEntry, SortedMap.empty] at hbody
        rw [hbody]
  · right; right
    cases hresponseBody : e.response with
    | none =>
      simp [Endpoint.toOperation, Endpoint.responses, hresponseBody, Response.noContent,
        Response.positions, SortedMap.insert, SortedMap.insertEntry, SortedMap.empty] at hresponse
    | some schema =>
      simp [Endpoint.toOperation, Endpoint.responses, hresponseBody, Response.ok, jsonContent,
        Response.positions, contentPositions, SortedMap.insert, SortedMap.insertEntry,
        SortedMap.empty] at hresponse
      rw [hresponse]

theorem Accounts.covers {r : Registry} {s : Operation × Endpoint} {ref : SchemaRef}
    (h : Accounts catalog interface r s) (href : ref ∈ s.2.toOperation.positions) :
    r.Covers ref := by
  rcases mem_positions_toOperation href with ⟨entry, hentry, rfl⟩ | hrequest | hresponse
  · exact h.positioned.covers_query hentry
  · exact h.bundles.covers (fun b => h.positioned.covers_body) hrequest
  · exact Registry.covers_of_position? (h.positioned.response ref hresponse)

end Compilation

end RestContract
