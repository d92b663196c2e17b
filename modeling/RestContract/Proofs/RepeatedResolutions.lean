import RestContract.Proofs.FailedResolutions
import RestContract.Proofs.LogIndependence
import RestContract.Proofs.ResolutionPaths

/-!
Resolution is done once. Where the names that a type needs are known, its position can be
read off the registry, and resolving the type comes to that position with nothing done but
logging. A type that was resolved has its position from then on, whatever is asked of the
pass later and whether that succeeds or not; so it resolves to the same again, and leaves
the registry, the lookups and the deferred attachments alone.
-/
namespace RestContract

namespace Resolving

variable {α β : Type} {x : Resolving α} {a : α} {p : Pass}

def IdleAt (x : Resolving α) (p : Pass) (a : α) : Prop :=
  ∃ p', x p = .ok a p' ∧ p.SameWork p'

namespace IdleAt

theorem pure (a : α) (p : Pass) : IdleAt (pure a) p a := ⟨p, rfl, .refl p⟩

theorem bind_pure (g : α → β) (h : IdleAt x p a) :
    IdleAt (x >>= fun a => Pure.pure (g a)) p (g a) := by
  obtain ⟨p', hx, hwork⟩ := h
  exact ⟨p', bind_ok hx, hwork⟩

theorem note_bind {level : LogLevel} {message : String} {fields : List (String × LogValue)}
    (h : ∀ p', p.SameWork p' → IdleAt x p' a) :
    IdleAt (note level message fields >>= fun _ => x) p a := by
  obtain ⟨p₁, hnote, hwork₁⟩ := idle_note level message fields p
  obtain ⟨p₂, hx, hwork₂⟩ := h p₁ hwork₁
  exact ⟨p₂, (bind_ok hnote).trans hx, hwork₁.trans hwork₂⟩

theorem note_pure {level : LogLevel} {message : String} {fields : List (String × LogValue)} :
    IdleAt (note level message fields >>= fun _ => Pure.pure a) p a :=
  note_bind fun p' _ => .pure a p'

/-- A component that is known is not built again. -/
theorem construct {preferred : String} {origin : Origin} {build : Resolving Schema}
    {ref : SchemaRef} (h : p.registry.reference? origin = some ref) :
    IdleAt (construct preferred origin build) p ref := by
  obtain ⟨name, hname, rfl⟩ := Registry.reference?_eq_some.mp h
  exact ⟨p, construct_of_known hname, .refl p⟩

end IdleAt

end Resolving

namespace Resolver

open Resolving

section Composite

variable {r : Resolver} {catalog : TypeCatalog} {t : TypeDescriptor} {depth : Nat} {p : Pass}
  {ref : SchemaRef} {inside : TypeDescriptor → Option SchemaRef}

theorem idleAt_named (h : p.registry.namedPosition? catalog t.name = some ref) :
    IdleAt (r.named catalog t depth) p ref := by
  unfold Registry.namedPosition? at h
  unfold named
  cases hlookup : catalog.lookup? t.name with
  | none =>
    simp only [hlookup] at h
    exact .construct h
  | some d =>
    simp only [hlookup] at h
    have hdeclared : ∀ p', p.SameWork p' → IdleAt (r.declared catalog d depth) p' ref := by
      intro p' hwork
      unfold declared
      by_cases henum : d.isEnum = true
      · rw [if_pos henum] at h ⊢
        cases h
        exact .pure _ p'
      · rw [if_neg henum] at h ⊢
        apply IdleAt.construct
        rwa [← hwork.registry_eq]
    dsimp only
    split
    · exact .note_bind hdeclared
    · exact hdeclared p (.refl p)

theorem idleAt_optional
    (hinside : ∀ t ref, inside t = some ref → IdleAt (r.resolve t (depth + 1)) p ref)
    (h : Registry.optionalPosition? inside t = some ref) : IdleAt (r.optional t depth) p ref := by
  unfold Registry.optionalPosition? at h
  unfold optional
  rcases harguments : t.arguments with _ | ⟨inner, _ | ⟨second, rest⟩⟩ <;>
    simp only [harguments] at h ⊢
  · cases h
    exact .note_pure
  · exact hinside inner ref h
  · cases h
    exact .note_pure

theorem idleAt_collection {family : ContainerFamily}
    (hinside : ∀ t ref, inside t = some ref → IdleAt (r.resolve t (depth + 1)) p ref)
    (h : Registry.collectionPosition? inside family t = some ref) :
    IdleAt (r.collection t family depth) p ref := by
  unfold Registry.collectionPosition? at h
  unfold collection
  rcases harguments : t.arguments with _ | ⟨element, rest⟩ <;> simp only [harguments] at h ⊢
  · cases h
    exact .note_pure
  · obtain ⟨items, hitems, rfl⟩ := Option.map_eq_some_iff.mp h
    exact (hinside element items hitems).bind_pure (collectionSchema family)

theorem idleAt_map
    (hinside : ∀ t ref, inside t = some ref → IdleAt (r.resolve t (depth + 1)) p ref)
    (h : p.registry.mapPosition? inside t = some ref) : IdleAt (r.map t depth) p ref := by
  unfold Registry.mapPosition? at h
  unfold map
  rcases harguments : t.arguments with _ | ⟨key, _ | ⟨value, _ | ⟨third, rest⟩⟩⟩ <;>
    simp only [harguments] at h ⊢
  · cases h
    exact .note_pure
  · cases h
    exact .note_pure
  · by_cases htext : isText key = true
    · rw [if_pos htext] at h ⊢
      obtain ⟨values, hvalues, rfl⟩ := Option.map_eq_some_iff.mp h
      exact (hinside value values hvalues).bind_pure fun values => SchemaRef.inline (.mapOf values)
    · rw [if_neg htext] at h ⊢
      exact .construct h
  · cases h
    exact .note_pure

theorem idleAt_composite
    (hinside : ∀ t ref, inside t = some ref → IdleAt (r.resolve t (depth + 1)) p ref)
    (h : p.registry.compositePosition? catalog inside t = some ref) :
    IdleAt (r.composite catalog t depth) p ref := by
  unfold Registry.compositePosition? at h
  unfold composite
  by_cases hany : isAnyObject t = true
  · rw [if_pos hany] at h ⊢
    cases h
    exact .pure _ p
  · rw [if_neg hany] at h ⊢
    by_cases hoptional : isOptional t = true
    · rw [if_pos hoptional] at h ⊢
      exact idleAt_optional hinside h
    · rw [if_neg hoptional] at h ⊢
      cases hfamily : ContainerFamily.of? t with
      | none =>
        simp only [hfamily] at h ⊢
        exact idleAt_named h
      | some family =>
        cases family with
        | map =>
          simp only [hfamily] at h ⊢
          exact idleAt_map hinside h
        | sequence | set =>
          simp only [hfamily] at h ⊢
          exact idleAt_collection hinside h

end Composite

variable {catalog : TypeCatalog} {t : TypeDescriptor} {depth : Nat} {p : Pass} {ref : SchemaRef}

/-- A type whose position is known resolves to it. -/
theorem idleAt_of_position (h : p.registry.position? catalog t depth = some ref) :
    IdleAt ((complete catalog).resolve t depth) p ref := by
  -- The levels left before the limit carry the induction: a type inside stands one deeper.
  generalize hleft : maxDepth + 1 - depth = left
  induction left generalizing t depth ref with
  | zero =>
    have hdeep : maxDepth < depth := by omega
    rw [Registry.position?_of_deep hdeep] at h
    cases h
    rw [complete_resolve, any, if_pos hdeep]
    exact .note_pure
  | succ left ih =>
    have hshallow : depth ≤ maxDepth := by omega
    rw [Registry.position?_of_shallow hshallow] at h
    rw [complete_resolve, any, if_neg (by omega)]
    cases hclass : classify t with
    | scalar schema =>
      simp only [hclass] at h
      cases h
      exact .pure _ p
    | void =>
      simp only [hclass] at h
      cases h
      exact .note_pure
    | composite =>
      simp only [hclass] at h
      refine idleAt_composite (fun inner ref hinner => ?_) h
      exact ih hinner (by omega)

end Resolver

open Resolving in
theorem idleAt_resolveRoot {catalog : TypeCatalog} {t : TypeDescriptor} {p : Pass}
    {ref : SchemaRef} (h : p.registry.position? catalog t 1 = some ref) :
    IdleAt (resolveRoot catalog t) p ref := by
  rw [resolveRoot, Resolver.full_resolve_eq_complete catalog t (Nat.le_refl 1)]
  exact Resolver.idleAt_of_position h

open Pass in
/-- Whatever was asked of a pass before and whatever is asked of it later, a type that was
resolved resolves to the same again. The second time changes no name, no schema, no lookup
and no deferred attachment. -/
theorem resolveRoot_stable (catalog : TypeCatalog) (policy : CollisionPolicy)
    (earlier later : List Request) (t : TypeDescriptor) (ref : SchemaRef) (p : Pass)
    (h : resolveRoot catalog t ((start policy).afterAll catalog earlier) = .ok ref p) :
    ∃ q, resolveRoot catalog t (p.afterAll catalog later) = .ok ref q ∧
      q.registry = (p.afterAll catalog later).registry ∧
      q.lookups = (p.afterAll catalog later).lookups ∧
      q.deferred = (p.afterAll catalog later).deferred := by
  have hreached := faithful_reached catalog policy earlier
  obtain ⟨hgrows, hposition⟩ := (grows_resolveRoot hreached t).of_ok h
  have hp := hgrows.faithful hreached
  have hkept := Registry.position?_mono (interrupted_afterAll hp later).keeps hposition
  obtain ⟨q, hagain, hwork⟩ := idleAt_resolveRoot hkept
  refine ⟨q, hagain, ?_⟩
  generalize p.afterAll catalog later = between at hwork
  cases hwork
  exact ⟨rfl, rfl, rfl⟩

namespace Holders

def cats : TypeDescriptor := ⟨"java.util.List", [.ofName "org.acme.Cat"]⟩

def otherCat : TypeDescriptor := .ofName "org.other.Cat"

/-- What the list of cats contains when it is resolved after the holder has failed, if the
other cat fails in its turn. -/
def itemName? : Option String :=
  match resolveRoot catalog cats ((Pass.start .error).afterAll catalog
      [.resolve (.ofName holder.name)]) with
  | .error _ _ => none
  | .ok ref p =>
      match resolveRoot catalog otherCat p with
      | .ok _ _ => none
      | .error _ _ => (ref.asInline?.bind Schema.items).bind SchemaRef.componentName?

/-- A list resolved between two failures is resolved to the same again after them. -/
theorem cats_stable_among_failures : ∃ ref p e p' q,
    resolveRoot catalog cats ((Pass.start .error).afterAll catalog
      [.resolve (.ofName holder.name)]) = .ok ref p ∧
    (ref.asInline?.bind Schema.items).bind SchemaRef.componentName? = some "Cat" ∧
    resolveRoot catalog otherCat p = .error e p' ∧
    resolveRoot catalog cats (p.afterAll catalog [.resolve otherCat]) = .ok ref q ∧
    q.registry = (p.afterAll catalog [.resolve otherCat]).registry := by
  have hitem : itemName? = some "Cat" := by decide +kernel
  unfold itemName? at hitem
  split at hitem
  · cases hitem
  next ref p hcats =>
    split at hitem
    · cases hitem
    next e p' hother =>
      obtain ⟨q, hagain, hregistry, -⟩ :=
        resolveRoot_stable catalog .error _ [.resolve otherCat] cats ref p hcats
      exact ⟨ref, p, e, p', q, hcats, hitem, hother, hagain, hregistry⟩

end Holders

end RestContract
