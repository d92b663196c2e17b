import RestContract.Proofs.Passes

/-!
The wrappers of request bodies. A wrapper is kept under a signature that names the
interface, the operation and the types of the body parameters, but not the names of
these parameters. So the wrapper of a signature is that of the first operation served
with it, and every later operation of the same signature refers to that one.
-/
namespace RestContract

open Endpoint Attachment

variable {catalog : TypeCatalog} {interface : Interface} {r : Registry} {c : Construction}
  {operation : Operation} {body : List BodyParameter} {signature : String} {p p' : Pass}

theorem wrapperSignature_ne_map (interface : Interface) (operation : Operation)
    (body : List BodyParameter) (t : TypeDescriptor) :
    s!"map {t.qualified}" ≠ wrapperSignature interface operation body := by
  intro h
  have hmap : (s!"map {t.qualified}").toList.head? = some 'm' := by
    rw [String.toList_append]
    rfl
  have hrequest : (wrapperSignature interface operation body).toList.head? = some 'r' := by
    unfold wrapperSignature
    repeat rw [String.toList_append]
    rfl
  rw [h, hrequest] at hmap
  cases hmap

theorem Lawful.aimedAt_synthetic (h : Lawful catalog r c) :
    aimedAt (.synthetic signature) c.attachments = [] := by
  rw [aimedAt, List.filter_eq_nil_iff]
  intro a ha
  obtain ⟨d, -, depth, -, -, -, -, inherited, below, -, -, -, -, heq⟩ :=
    h.handsDown (List.ne_nil_of_mem ha)
  rw [heq] at ha
  obtain ⟨name, -, rfl⟩ := List.mem_map.mp ha
  simp

theorem Made.aimedAt_synthetic (h : Made catalog interface r c) :
    aimedAt (.synthetic signature) c.attachments = [] := by
  cases h with
  | resolved hlawful => exact hlawful.aimedAt_synthetic
  | wrapped => rfl

theorem aimedAt_handedOut_synthetic {log : List Construction}
    (hmade : ∀ c ∈ log, Made catalog interface r c) :
    aimedAt (.synthetic signature) (handedOut log) = [] := by
  rw [aimedAt, List.filter_eq_nil_iff]
  intro a ha
  obtain ⟨c, hc, hac⟩ := List.mem_flatMap.mp ha
  exact List.filter_eq_nil_iff.mp (hmade c hc).aimedAt_synthetic a hac

/-- Resolution makes no wrapper. -/
theorem Lawful.ne_wrapper (h : Lawful catalog r c) :
    c.origin ≠ .synthetic (wrapperSignature interface operation body) := by
  cases h with
  | undeclared | leaf | polymorphic => simp
  | @compositeMap name t =>
    intro horigin
    injection horigin with hsignature
    exact wrapperSignature_ne_map interface operation body t hsignature

/-- No construction is under way: every name is built. -/
def Pass.Settled (p : Pass) : Prop :=
  ∀ origin name, p.registry.nameOf? origin = some name →
    (p.registry.schemaOf? origin).isSome = true

theorem Pass.GrowsTo.settled {rule : Registry → Construction → Prop}
    (h : p.GrowsTo catalog rule p') (hsettled : p.Settled) : p'.Settled := by
  obtain ⟨log, hgrowth⟩ := h
  intro origin name hname
  rcases hgrowth.known_or_constructed hname with hknown | ⟨c, hc, rfl, -⟩
  · rw [hgrowth.built_iff hknown]
    exact hsettled origin name hknown
  · exact (hgrowth.constructed hc).2.2

/-- Resolution leaves the wrappers as they are. -/
theorem Pass.GrowsTo.wrapper_eq (h : p.GrowsTo catalog (Lawful catalog) p')
    (interface : Interface) (operation : Operation) (body : List BodyParameter) :
    p'.registry.schemaOf? (.synthetic (wrapperSignature interface operation body)) =
      p.registry.schemaOf? (.synthetic (wrapperSignature interface operation body)) := by
  obtain ⟨log, hgrowth⟩ := h
  exact (hgrowth.untouched (fun _ _ hlawful =>
    ⟨hlawful.ne_wrapper, hlawful.aimedAt_synthetic⟩)).2

namespace Resolving

/-- Constructing a schema at once builds it for its origin, unless it was built before. -/
theorem construct_pure_schemaOf? {preferred : String} {origin : Origin} {schema : Schema}
    {ref : SchemaRef} (hsettled : p.Settled)
    (h : construct preferred origin (pure schema) p = .ok ref p') (other : Origin) :
    p'.registry.schemaOf? other =
      (p.registry.schemaOf? other).or (if other = origin then some schema else none) := by
  cases hclaim : p.registry.claim preferred origin with
  | error e =>
    have hrun : construct preferred origin (pure schema) p = .error e p :=
      bind_error (by simp [claim, hclaim])
    rw [hrun] at h
    cases h
  | ok outcome =>
    obtain ⟨claim, registry⟩ := outcome
    obtain ⟨name, rfl, hname, rfl⟩ | ⟨name, rfl, hnone, hfree, rfl⟩ :=
      Registry.claim_cases hclaim
    · rw [construct_existing hclaim] at h
      cases h
      split
      next heq =>
        -- A name still pending would stay without a schema; in a settled pass there is none.
        obtain ⟨known, hknown⟩ := Option.isSome_iff_exists.mp (hsettled origin name hname)
        simp [heq, hknown]
      next => simp
    · rw [construct_new hclaim] at h
      cases h
      have hquiet := @quiet_claimed .empty p preferred name origin (p.registry.enroll name origin)
      change ((claimed p preferred name origin _).registry.define name schema).schemaOf? other = _
      rw [hquiet.registry, Registry.schemaOf?_define (Registry.nameOf?_enroll_self hfree hnone),
        Registry.schemaOf?_enroll hfree hnone]
      split
      next heq => simp [heq, Registry.schemaOf?_of_unknown hnone]
      next => simp

end Resolving

namespace Endpoint

open Resolving

/-- Bundling several parameters builds their wrapper, unless one of the same signature was
built before; bundling fewer builds nothing. -/
theorem bundle_schemaOf? {requestBody : Option SchemaRef} (hsettled : p.Settled)
    (h : bundle interface operation body p = .ok requestBody p') :
    p'.registry.schemaOf? (.synthetic signature) =
      (p.registry.schemaOf? (.synthetic signature)).or
        (if 2 ≤ body.length ∧ wrapperSignature interface operation body = signature then
          some (wrapperSchema body) else none) := by
  match body with
  | [] | [single] =>
    cases h
    simp
  | first :: second :: rest =>
    have hsome : bundle interface operation (first :: second :: rest) =
        some <$> wrapper interface operation (first :: second :: rest) := rfl
    rw [hsome, map_eq_pure_bind] at h
    obtain ⟨ref, q, hwrapper, hpure⟩ := bind_eq_ok h
    cases hpure
    rw [construct_pure_schemaOf? hsettled hwrapper]
    simp [eq_comm]

end Endpoint

namespace Compilation

open Resolving

variable {options : CompilerOptions} {document : Document}
  {served : List (Operation × Endpoint)}

def wraps (interface : Interface) (signature : String) (s : Operation × Endpoint) : Bool :=
  decide (2 ≤ s.2.body.length ∧ wrapperSignature interface s.1 s.2.body = signature)

/-- Serving an operation resolves its types and then bundles its parameters. -/
theorem serveOperation_ok {outcome : Option Endpoint} (hp : p.Faithful catalog)
    (h : serveOperation catalog options interface document operation p = .ok outcome p') :
    (outcome = none ∧ p.GrowsTo catalog (Lawful catalog) p') ∨
    ∃ e q, outcome = some e ∧ p.GrowsTo catalog (Lawful catalog) q ∧
      bundle interface operation e.body q = .ok e.requestBody p' := by
  obtain ⟨route, q, hdecide, hrest⟩ := bind_eq_ok h
  have hq : p.GrowsTo catalog (Lawful catalog) q := (grows_decide.of_ok hdecide).1
  split at hrest
  · dsimp only at hrest
    split at hrest
    · cases hrest
    · cases hrest
      exact .inl ⟨rfl, hq.trans (.of_quiet (Pass.quiet_record ..))⟩
  · rw [assemble_eq, bind_assoc] at hrest
    obtain ⟨e, q', hunbundled, hbundled⟩ := bind_eq_ok hrest
    rw [bind_assoc] at hbundled
    obtain ⟨requestBody, q'', hbundle, hpure⟩ := bind_eq_ok hbundled
    cases hpure
    have hq' := ((grows_unbundled (rooted_lawful catalog) (hq.faithful hp)).of_ok hunbundled).1
    exact .inr ⟨{ e with requestBody }, q', rfl, hq.trans hq', hbundle⟩

theorem serveOperation_wrapper {outcome : Option Endpoint} (hp : p.Faithful catalog)
    (hsettled : p.Settled)
    (h : serveOperation catalog options interface document operation p = .ok outcome p')
    (o : Operation) (body : List BodyParameter) :
    p'.registry.schemaOf? (.synthetic (wrapperSignature interface o body)) =
      (p.registry.schemaOf? (.synthetic (wrapperSignature interface o body))).or
        ((outcome.filter fun e =>
          wraps interface (wrapperSignature interface o body) (operation, e)).map
            fun e => wrapperSchema e.body) := by
  obtain ⟨rfl, hgrows⟩ | ⟨e, q, rfl, hgrows, hbundle⟩ := serveOperation_ok hp h
  · rw [hgrows.wrapper_eq]
    simp
  · rw [bundle_schemaOf? (hgrows.settled hsettled) hbundle, hgrows.wrapper_eq]
    congr 1
    by_cases hwraps : 2 ≤ e.body.length ∧
        wrapperSignature interface operation e.body = wrapperSignature interface o body
    · simp [wraps, hwraps, Option.filter_some]
    · simp [wraps, hwraps, Option.filter_some]

/-- After a run, the wrapper of a signature is the one built before, or else that of the
first operation served with the signature. -/
theorem serve_wrapper {operations : List Operation} (hp : p.Faithful catalog) (hsettled : p.Settled)
    (h : serve catalog options interface operations document p = .ok served p')
    (o : Operation) (body : List BodyParameter) :
    p'.registry.schemaOf? (.synthetic (wrapperSignature interface o body)) =
      (p.registry.schemaOf? (.synthetic (wrapperSignature interface o body))).or
        ((served.find? (wraps interface (wrapperSignature interface o body))).map
          fun s => wrapperSchema s.2.body) := by
  induction operations generalizing p document served with
  | nil =>
    cases h
    simp
  | cons operation rest ih =>
    obtain ⟨outcome, q, hoperation, hrest⟩ := bind_eq_ok h
    have hq := ((grows_serveOperation (wrapping_made catalog interface) hp).of_ok hoperation).1
    have hfirst := serveOperation_wrapper hp hsettled hoperation o body
    cases outcome with
    | none =>
      rw [ih (hq.faithful hp) (hq.settled hsettled) hrest, hfirst]
      simp
    | some e =>
      obtain ⟨others, q', hothers, hpure⟩ := bind_eq_ok hrest
      cases hpure
      -- The first operation settles the signature, or leaves it to the others.
      rw [ih (hq.faithful hp) (hq.settled hsettled) hothers, hfirst, Option.or_assoc]
      congr 1
      cases hwraps : wraps interface (wrapperSignature interface o body) (operation, e) with
      | true => simp [hwraps, Option.filter_some]
      | false => simp [hwraps, Option.filter_some]

/-- The end of the pass leaves the synthesized components as they are. -/
theorem Run.synthetic_eq {pass : Pass} {log : List Construction}
    (run : Run catalog options interface document pass served log p) :
    pass.registry.schemaOf? (.synthetic signature) =
      p.registry.schemaOf? (.synthetic signature) := by
  rw [run.registry, Pass.schemaOf?_finish]
  cases hschema : p.registry.schemaOf? (.synthetic signature) with
  | none => rfl
  | some schema =>
    obtain ⟨before, c, after, rfl, -, hwaiting, -⟩ :=
      run.growth.ledger_from_start.built _ schema hschema
    have hmade : ∀ c' ∈ before ++ [c], Made catalog interface pass.registry c' := by
      intro c' hc'
      refine (run.made ?_).2
      rw [List.append_cons]
      exact List.mem_append_left _ hc'
    rw [hwaiting, aimedAt_handedOut_synthetic hmade]
    rfl

/-- The wrapper of an operation is that of the first operation served with its signature. -/
theorem Run.wrapper {pass : Pass} {log : List Construction}
    (run : Run catalog options interface document pass served log p)
    {s : Operation × Endpoint} (hs : s ∈ served) (hbody : 2 ≤ s.2.body.length) :
    ∃ first ∈ served, ∃ name,
      served.find? (wraps interface (wrapperSignature interface s.1 s.2.body)) = some first ∧
      s.2.requestBody = some (.component name) ∧
      document.schema? name = some (wrapperSchema first.2.body) := by
  have hstart : (Pass.start options.collisionPolicy).Settled := by
    intro origin name hname
    simp [Pass.start, Registry.empty, Registry.nameOf?] at hname
  have hfind : (served.find? (wraps interface
      (wrapperSignature interface s.1 s.2.body))).isSome = true := by
    rw [List.find?_isSome]
    exact ⟨s, hs, by simp [wraps, hbody]⟩
  obtain ⟨first, hfirst⟩ := Option.isSome_iff_exists.mp hfind
  have hnone : (Pass.start options.collisionPolicy).registry.schemaOf?
      (.synthetic (wrapperSignature interface s.1 s.2.body)) = none := rfl
  have hbuilt := serve_wrapper (.start catalog _) hstart run.serves s.1 s.2.body
  rw [hnone, hfirst, Option.none_or, Option.map_some, ← run.synthetic_eq] at hbuilt
  obtain ⟨name, hname, hget⟩ := Registry.nameOf?_of_schemaOf? hbuilt
  refine ⟨first, List.mem_of_find?_eq_some hfirst, name, hfirst, ?_, run.schema?_of_get? hget⟩
  have hbundles := (run.accounts s hs).2.bundles
  rcases hparameters : s.2.body with _ | ⟨one, _ | ⟨two, rest⟩⟩
  · simp [hparameters] at hbody
  · simp [hparameters] at hbody
  · rw [hparameters] at hbundles hname
    rw [hbundles.2]
    exact Registry.reference?_eq_some.mpr ⟨name, run.nameOf?.symm.trans hname, rfl⟩

theorem paths_withSchemas (document : Document) (schemas : SortedMap Schema) :
    (withSchemas document schemas).paths = document.paths := by
  unfold withSchemas
  split <;> rfl

theorem getOperation?_withSchemas (document : Document) (schemas : SortedMap Schema)
    (path : String) (method : HttpMethod) :
    (withSchemas document schemas).getOperation? path method =
      document.getOperation? path method := by
  rw [Document.getOperation?, paths_withSchemas, Document.getOperation?]

/-- Request wrappers are shared by signature. Where the parameters of each operation have
distinct names, the wrapper of an operation with several body parameters has exactly one
property for each body parameter of the first operation served with the same signature,
where the body parameters of an operation are its parameters that are no maps, with the
schemas of their types. So it is the wrapper of the operation itself if and only if the
two operations agree on the names and schemas of their body parameters. -/
theorem request_wrapper_of_first_served (catalog : TypeCatalog) (options : CompilerOptions)
    (interface : Interface) (document : Document) (pass : Pass)
    (h : interfacePass catalog options interface (.start options.collisionPolicy) =
      .ok document pass)
    (hnames : ∀ operation ∈ interface.operations,
      (operation.parameters.map Parameter.name).Nodup) :
    ∃ served p, serve catalog options interface interface.operations (blank interface options)
        (.start options.collisionPolicy) = .ok served p ∧
      document.paths = (addServed (blank interface options) served).paths ∧
      ∀ s ∈ served, 2 ≤ s.2.body.length → s.1 ∈ interface.operations ∧
        pass.registry.PlacesBody catalog s.1.parameters s.2.body ∧ ∃ first name component,
        served.find? (wraps interface (wrapperSignature interface s.1 s.2.body)) = some first ∧
        document.getOperation? s.2.route.path s.2.route.method = some s.2.toOperation ∧
        s.2.toOperation.requestBody = some (.json (.component name)) ∧
        document.schema? name = some component ∧
        component.propertyMap.entries.Perm (fields first.2.body) ∧
        (component.propertyMap.entries.Perm (fields s.2.body) ↔
          (fields first.2.body).Perm (fields s.2.body)) := by
  obtain ⟨served, log, p, run⟩ := exists_run h
  refine ⟨served, p, run.serves, ?_, fun s hs hbody => ?_⟩
  · rw [run.document, paths_withSchemas]
  obtain ⟨first, hmem, name, hfirst, hrequest, hschema⟩ := run.wrapper hs hbody
  have hdistinct : ((fields first.2.body).map Prod.fst).Nodup := by
    obtain ⟨hoperation, haccounts⟩ := run.accounts first hmem
    rw [fields, List.map_map]
    exact haccounts.positioned.nodup_body (hnames first.1 hoperation)
  have hperm : (wrapperSchema first.2.body).propertyMap.entries.Perm (fields first.2.body) := by
    obtain ⟨text, heq⟩ := wrapperSchema_eq first.2.body
    rw [heq]
    exact SortedMap.entries_ofList_perm hdistinct
  have hplaces : pass.registry.PlacesBody catalog s.1.parameters s.2.body := by
    rcases ((run.accounts s hs).2.positioned.mono run.keeps).placesBody with hnone | hplaces
    · simp [hnone] at hbody
    · exact hplaces
  refine ⟨(run.accounts s hs).1, hplaces, first, name, _, hfirst, ?_, ?_, hschema, hperm, ?_⟩
  · rw [run.document, getOperation?_withSchemas]
    exact run.fresh.getOperation? hs
  · simp [toOperation, hrequest]
  · exact ⟨hperm.symm.trans, hperm.trans⟩

end Compilation

-- Two overloads on two routes whose body parameters agree in their types alone.
namespace Store

def shelf : TypeDefinition where
  name := "org.acme.Shelf"
  members := [⟨"label", .ofName "java.lang.String", false, false⟩]

def types : TypeCatalog := .ofList [shelf]

def move (first second path : String) : Operation where
  name := "move"
  parameters := [⟨first, .ofName "org.acme.Shelf"⟩, ⟨second, .ofName "org.acme.Shelf"⟩]
  route := some { path := some path }

def service : Interface where
  name := "org.acme.IStore"
  operations := [move "from" "to" "/move", move "source" "target" "/transfer"]

end Store

namespace Compilation

theorem store_request_wrapper_of_first_served :
    ∃ document pass, interfacePass Store.types { collisionPolicy := .qualify } Store.service
        (.start .qualify) = .ok document pass ∧
      (∀ operation ∈ Store.service.operations,
        (operation.parameters.map Parameter.name).Nodup) ∧
      ∃ served p, serve Store.types { collisionPolicy := .qualify } Store.service
          Store.service.operations (blank Store.service { collisionPolicy := .qualify })
          (.start .qualify) = .ok served p ∧
        ∀ s ∈ served, 2 ≤ s.2.body.length → ∃ first name component,
          served.find? (wraps Store.service
            (wrapperSignature Store.service s.1 s.2.body)) = some first ∧
          s.2.toOperation.requestBody = some (.json (.component name)) ∧
          document.schema? name = some component ∧
          component.propertyMap.entries.Perm (fields first.2.body) := by
  have hrun : (pass? Store.types { collisionPolicy := .qualify } Store.service).isSome = true := by
    decide +kernel
  have hnames : ∀ operation ∈ Store.service.operations,
      (operation.parameters.map Parameter.name).Nodup := by decide
  obtain ⟨⟨document, pass⟩, hsome⟩ := Option.isSome_iff_exists.mp hrun
  have h := pass?_eq_some.mp hsome
  obtain ⟨served, p, hserve, -, hwrappers⟩ := request_wrapper_of_first_served Store.types
    { collisionPolicy := .qualify } Store.service document pass h hnames
  refine ⟨document, pass, h, hnames, served, p, hserve, fun s hs hbody => ?_⟩
  obtain ⟨-, -, first, name, component, hfirst, -, hrequest, hschema, hperm, -⟩ :=
    hwrappers s hs hbody
  exact ⟨first, name, component, hfirst, hrequest, hschema, hperm⟩

/-- The second overload, which takes a source and a target, refers to a wrapper with the
properties of the first. -/
theorem overload_refers_to_foreign_wrapper :
    (do
      let document ← (compile Store.types { collisionPolicy := .qualify }
        Store.service).result.toOption
      let operation ← document.getOperation? "/transfer" .post
      let body ← operation.requestBody
      let ref ← body.jsonSchema?
      let name ← ref.componentName?
      let component ← document.schema? name
      return component.propertyMap.keys) = some ["from", "to"] ∧
    Store.service.operations.map (fun o => o.parameters.map Parameter.name) =
      [["from", "to"], ["source", "target"]] := by
  decide +kernel

end Compilation

end RestContract
