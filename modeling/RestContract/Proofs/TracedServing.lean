import RestContract.Proofs.Passes
import RestContract.Proofs.TracedGrowth

/-!
Where the constructions of an interface come from. An operation is resolved only once it is
certain to be served, and then every position that was resolved for it is kept by its
endpoint: the response, and the parameters either in the query or in the body. So whatever
is constructed while an interface is compiled is traced to the endpoints that are served.
-/
namespace RestContract

namespace Endpoint

open Resolving

variable {catalog : TypeCatalog} {interface : Interface} {operation : Operation}
  {strict : Bool} {route : EndpointRoute} {p p' : Pass}

def resolved (e : Endpoint) : List SchemaRef :=
  e.response.toList ++ (e.query.map Prod.snd ++ e.body.map BodyParameter.schema)

def kept (e : Endpoint) : List SchemaRef := e.resolved ++ e.requestBody.toList

theorem traced_resolveResponse {result : Option SchemaRef × ResponseShape}
    (hcatalog : catalog.Tidy) (hp : p.Faithful catalog)
    (hrun : resolveResponse catalog operation p = .ok result p') :
    p.Traced catalog (Lawful catalog)
      (fun r origin => ∃ ref ∈ result.1.toList, r.Shows ref origin) p' := by
  have hresolve : ∀ q shape, q.Faithful catalog → (do
      let schema ← resolveRoot catalog operation.returns
      return (some schema, shape)) q = .ok result p' →
      q.Traced catalog (Lawful catalog)
        (fun r origin => ∃ ref ∈ result.1.toList, r.Shows ref origin) p' := by
    intro q shape hq hrest
    obtain ⟨schema, q', hroot, hpure⟩ := bind_eq_ok hrest
    cases hpure
    exact (traced_resolveRoot hcatalog hq hroot).mono
      fun _ _ _ horigin => ⟨schema, by simp, horigin⟩
  unfold resolveResponse at hrun
  dsimp only at hrun
  split at hrun
  · cases hrun
    exact .refl p
  · split at hrun
    · obtain ⟨_, q, hnote, hrest⟩ := bind_eq_ok hrun
      exact .after_quiet hp (quiet_of_note hnote) fun hq => hresolve q _ hq hrest
    · exact hresolve p _ hp hrun

theorem traced_place {parameters : List Parameter} {placed : List Placed}
    (hcatalog : catalog.Tidy) (hp : p.Faithful catalog)
    (hrun : place catalog operation strict parameters p = .ok placed p') :
    p.Traced catalog (Lawful catalog)
      (fun r origin => ∃ q ∈ placed, r.Shows q.schema origin) p' := by
  induction parameters generalizing p placed with
  | nil =>
    cases hrun
    exact .refl _
  | cons first rest ih =>
    unfold place at hrun
    cases hmap : isMapParameter first with
    | true =>
      simp only [hmap, if_true] at hrun
      cases strict with
      | true => cases hrun
      | false =>
        obtain ⟨_, q, hnote, hrest⟩ := bind_eq_ok hrun
        exact .after_quiet hp (quiet_of_note hnote) fun hq => ih hq hrest
    | false =>
      simp only [hmap, Bool.false_eq_true, if_false] at hrun
      obtain ⟨schema, q, hroot, hrest⟩ := bind_eq_ok hrun
      obtain ⟨others, q', hothers, hpure⟩ := bind_eq_ok hrest
      cases hpure
      have hfirst := traced_resolveRoot hcatalog hp hroot
      have hsecond := ih (hfirst.growsTo.faithful hp) hothers
      refine .trans (hfirst.mono fun _ _ _ horigin => ⟨_, List.mem_cons_self .., horigin⟩)
        (hsecond.mono ?_)
      rintro r - origin ⟨other, hother, hshows⟩
      exact ⟨other, List.mem_cons_of_mem _ hother, hshows⟩

/-- The parameters go all into the query or all into the body, so none is lost. -/
theorem traced_unbundled {e : Endpoint} (hcatalog : catalog.Tidy) (hp : p.Faithful catalog)
    (hrun : unbundled catalog operation strict route p = .ok e p') :
    p.Traced catalog (Lawful catalog)
      (fun r origin => ∃ ref ∈ e.resolved, r.Shows ref origin) p' := by
  obtain ⟨result, q, hresponse, hrest⟩ := bind_eq_ok hrun
  obtain ⟨placed, q', hplaced, hpure⟩ := bind_eq_ok hrest
  cases hpure
  have hfirst := traced_resolveResponse hcatalog hp hresponse
  have hsecond := traced_place hcatalog (hfirst.growsTo.faithful hp) hplaced
  refine .trans (hfirst.mono ?_) (hsecond.mono ?_)
  · rintro r - origin ⟨ref, href, hshows⟩
    exact ⟨ref, List.mem_append_left _ href, hshows⟩
  · rintro r - origin ⟨parameter, hparameter, hshows⟩
    refine ⟨parameter.schema, List.mem_append_right _ (List.mem_append.mpr ?_), hshows⟩
    dsimp only
    split
    · exact .inr (List.mem_map.mpr ⟨_, List.mem_map_of_mem hparameter, rfl⟩)
    · exact .inl (List.mem_map.mpr ⟨_, List.mem_map_of_mem hparameter, rfl⟩)

/-- Bundling constructs at most the wrapper that the request body refers to. -/
theorem traced_bundle {body : List BodyParameter} {requestBody : Option SchemaRef}
    (hbody : ∀ b ∈ body, p.registry.Covers b.schema)
    (hrun : bundle interface operation body p = .ok requestBody p') :
    p.Traced catalog (Made catalog interface)
      (fun r origin => ∃ ref ∈ requestBody.toList, r.Shows ref origin) p' := by
  match body with
  | [] | [single] =>
    cases hrun
    exact .refl _
  | first :: second :: rest =>
    have hsome : bundle interface operation (first :: second :: rest) =
        some <$> wrapper interface operation (first :: second :: rest) := rfl
    rw [hsome, map_eq_pure_bind] at hrun
    obtain ⟨ref, q, hwrapper, hpure⟩ := bind_eq_ok hrun
    cases hpure
    obtain ⟨-, href⟩ := (grows_wrapper (wrapping_made catalog interface) hbody).of_ok hwrapper
    have htraced : p.Traced catalog (Made catalog interface)
        (fun _ origin => origin =
          .synthetic (wrapperSignature interface operation (first :: second :: rest))) p' := by
      refine traced_construct (fun _ _ _ => rfl) (fun name q henrolls schema q' hbuild => ?_)
        hwrapper
      cases hbuild
      exact ⟨_, [], rfl, .wrapped fun b hb => (hbody b hb).mono henrolls.keeps, .refl _⟩
    refine htraced.mono ?_
    rintro r hext _ rfl
    obtain ⟨name, hname, rfl⟩ := Registry.reference?_eq_some.mp href
    exact ⟨_, by simp, Registry.shows_component (hext _ _ hname)⟩

theorem traced_assemble {e : Endpoint} (hcatalog : catalog.Tidy) (hp : p.Faithful catalog)
    (hrun : assemble catalog interface operation strict route p = .ok e p') :
    p.Traced catalog (Made catalog interface)
      (fun r origin => ∃ ref ∈ e.kept, r.Shows ref origin) p' := by
  rw [assemble_eq] at hrun
  obtain ⟨unbundled, q, hunbundled, hrest⟩ := bind_eq_ok hrun
  obtain ⟨requestBody, q', hbundle, hpure⟩ := bind_eq_ok hrest
  cases hpure
  obtain ⟨hgrows, hpositioned, -⟩ :=
    (grows_unbundled (rooted_lawful catalog) hp).of_ok hunbundled
  have hfirst : p.Traced catalog (Made catalog interface) _ q :=
    (traced_unbundled hcatalog hp hunbundled).mono_rule fun _ _ => .resolved
  have hsecond : q.Traced catalog (Made catalog interface) _ p' :=
    traced_bundle (fun b => hpositioned.covers_body) hbundle
  refine .trans (hfirst.mono ?_) (hsecond.mono ?_)
  · rintro r - origin ⟨ref, href, hshows⟩
    exact ⟨ref, List.mem_append_left _ href, hshows⟩
  · rintro r - origin ⟨ref, href, hshows⟩
    exact ⟨ref, List.mem_append_right _ href, hshows⟩

end Endpoint

namespace Compilation

open Resolving

variable {catalog : TypeCatalog} {options : CompilerOptions} {interface : Interface}
  {operation : Operation} {document : Document} {served : List (Operation × Endpoint)}
  {p p' pass : Pass}

def ServedShow (served : List (Operation × Endpoint)) (r : Registry) (origin : Origin) : Prop :=
  ∃ s ∈ served, ∃ ref ∈ s.2.kept, r.Shows ref origin

theorem quiet_of_decide {route : EndpointRoute}
    (hrun : EndpointRoute.decide interface operation p = .ok route p') : p.Quiet catalog p' := by
  unfold EndpointRoute.decide at hrun
  cases hroute : EndpointRoute.of? interface operation with
  | ok decided =>
    simp only [hroute] at hrun
    split at hrun
    · obtain ⟨_, q, hnote, hrest⟩ := bind_eq_ok hrun
      cases hrest
      exact quiet_of_note hnote
    · cases hrun
      exact .refl catalog p
  | error e =>
    simp only [hroute] at hrun
    split at hrun
    · obtain ⟨_, q, -, hrest⟩ := bind_eq_ok hrun
      cases hrest
    · cases hrun

/-- An operation whose route is taken is dropped before anything is resolved for it. -/
theorem traced_serveOperation {outcome : Option Endpoint} (hcatalog : catalog.Tidy)
    (hp : p.Faithful catalog)
    (hrun : serveOperation catalog options interface document operation p = .ok outcome p') :
    p.Traced catalog (Made catalog interface)
      (fun r origin => ∃ e ∈ outcome, ∃ ref ∈ e.kept, r.Shows ref origin) p' := by
  obtain ⟨route, q, hdecide, hrest⟩ := bind_eq_ok hrun
  refine .after_quiet hp (quiet_of_decide hdecide) fun hq => ?_
  split at hrest
  · dsimp only at hrest
    split at hrest
    · cases hrest
    · obtain ⟨_, q', hnote, hpure⟩ := bind_eq_ok hrest
      cases hpure
      exact .of_quiet (quiet_of_note hnote)
  · obtain ⟨e, q', hassemble, hpure⟩ := bind_eq_ok hrest
    cases hpure
    exact (Endpoint.traced_assemble hcatalog hq hassemble).mono
      fun _ _ _ horigin => ⟨e, rfl, horigin⟩

theorem traced_serve {operations : List Operation} (hcatalog : catalog.Tidy)
    (hp : p.Faithful catalog)
    (hrun : serve catalog options interface operations document p = .ok served p') :
    p.Traced catalog (Made catalog interface) (ServedShow served) p' := by
  induction operations generalizing p document served with
  | nil =>
    cases hrun
    exact .refl _
  | cons operation rest ih =>
    obtain ⟨outcome, q, hoperation, hrest⟩ := bind_eq_ok hrun
    have hfirst := traced_serveOperation hcatalog hp hoperation
    have hq := hfirst.growsTo.faithful hp
    cases outcome with
    | none => exact .trans (hfirst.mono (by simp)) (ih hq hrest)
    | some e =>
      obtain ⟨others, q', hothers, hpure⟩ := bind_eq_ok hrest
      cases hpure
      refine .trans (hfirst.mono ?_) ((ih hq hothers).mono ?_)
      · rintro r - origin ⟨_, ⟨⟩, horigin⟩
        exact ⟨(operation, e), List.mem_cons_self .., horigin⟩
      · rintro r - origin ⟨s, hs, horigin⟩
        exact ⟨s, List.mem_cons_of_mem _ hs, horigin⟩

/-- A document comes about by constructions that are all traced to the endpoints. -/
theorem exists_traced_run (hcatalog : catalog.Tidy) (h : interfacePass catalog options interface
      (.start options.collisionPolicy) = .ok document pass) :
    ∃ served log p, Run catalog options interface document pass served log p ∧
      ∀ reached, ClosedUnder pass.registry log reached →
        (∀ origin, ServedShow served pass.registry origin → reached origin) →
        ∀ c ∈ log, reached c.origin := by
  obtain ⟨served, _, p, run⟩ := exists_run h
  obtain ⟨log, hgrowth, htraced⟩ := traced_serve hcatalog (.start catalog _) run.serves
  exact ⟨served, log, p, ⟨run.serves, hgrowth, run.fresh, run.accounts, run.registry, run.document⟩,
    htraced pass.registry run.keeps⟩

end Compilation

end RestContract
