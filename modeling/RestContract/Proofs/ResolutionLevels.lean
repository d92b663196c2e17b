import Mathlib.Logic.Function.Iterate
import RestContract.Proofs.CompileErrors
import RestContract.Proofs.Congruences
import RestContract.Proofs.Resolvers

/-!
Resolution ends. Its recursion is measured by the room: every resolution that another one
asks for has less of it, because it stands one level deeper or because a declared type was
claimed before. So at any depth and in any pass, a number of levels known from the catalog
is enough, and what stands below these levels is never asked: the equations of the
recursion have exactly one solution, which is what root resolution computes.

The walk over the descendants of a type ends as well, after one round for each declared
type at most.
-/
namespace RestContract

namespace Resolving

variable {α β : Type} {x y : Resolving α} {f g : α → Resolving β} {p : Pass} {r : Registry}

/-- What a claim that succeeds does to the pass. -/
theorem claim_ok_cases {preferred : String} {origin : Origin} {claim : Claim} {p p' : Pass}
    (h : Resolving.claim preferred origin p = .ok claim p') :
    (∃ name, claim = .existing name ∧ p' = p) ∨
    (∃ name, claim = .new name ∧ p.Enrolls name origin p') := by
  unfold Resolving.claim at h
  split at h
  · cases h
  next claim' registry hclaim =>
    cases h
    obtain ⟨name, rfl, -, rfl⟩ | ⟨name, rfl, hnone, hfree, rfl⟩ := Registry.claim_cases hclaim
    · exact .inl ⟨name, rfl, rfl⟩
    · have hquiet := fun catalog => @quiet_claimed catalog p preferred name origin
        (p.registry.enroll name origin)
      exact .inr ⟨name, rfl, hnone, hfree, (hquiet .empty).registry, (hquiet _).faithful⟩

/-- The computations do the same in the pass, and give up no name. -/
structure Agree (x y : Resolving α) (p : Pass) : Prop where
  same : x p = y p
  keeps : ∀ a p', x p = .ok a p' → p.registry.Extends p'.registry

def AgreeAbove (r : Registry) (x y : Resolving α) : Prop :=
  ∀ p, r.Extends p.registry → Agree x y p

namespace Agree

theorem pure (a : α) : Agree (pure a) (pure a) p where
  same := rfl
  keeps _ _ h := by
    cases h
    exact .refl _

theorem symm (h : Agree x y p) : Agree y x p where
  same := h.same.symm
  keeps a p' hy := h.keeps a p' (h.same.trans hy)

theorem trans {z : Resolving α} (h : Agree x y p) (h' : Agree y z p) : Agree x z p where
  same := h.same.trans h'.same
  keeps := h.keeps

theorem modifyGet {change : Pass → α × Pass} (h : p.registry.Extends (change p).2.registry) :
    Agree (modifyGet change) (modifyGet change) p where
  same := rfl
  keeps _ _ hrun := by
    cases hrun
    exact h

theorem bind_of_ok (h : Agree x y p)
    (hf : ∀ a p', x p = .ok a p' → Agree (f a) (g a) p') : Agree (x >>= f) (y >>= g) p := by
  cases hx : x p with
  | error e p' =>
    refine ⟨by rw [bind_error hx, bind_error (h.same ▸ hx)], fun b p'' hrun => ?_⟩
    rw [bind_error hx] at hrun
    cases hrun
  | ok a p' =>
    have hrest := hf a p' hx
    refine ⟨by rw [bind_ok hx, bind_ok (h.same ▸ hx), hrest.same], fun b p'' hrun => ?_⟩
    rw [bind_ok hx] at hrun
    exact (h.keeps a p' hx).trans (hrest.keeps b p'' hrun)

/-- A component is built where its origin already has its name. -/
theorem construct {preferred : String} {origin : Origin} {build build' : Resolving Schema}
    (h : ∀ name p', p.Enrolls name origin p' → AgreeAbove p'.registry build build') :
    Agree (construct preferred origin build) (construct preferred origin build') p := by
  refine bind_of_ok ⟨rfl, fun claim p' hclaim => ?_⟩ fun claim p' hclaim => ?_
  · obtain ⟨name, -, rfl⟩ | ⟨name, -, henrolls⟩ := claim_ok_cases hclaim
    · exact .refl _
    · exact henrolls.keeps
  · obtain ⟨name, rfl, rfl⟩ | ⟨name, rfl, henrolls⟩ := claim_ok_cases hclaim
    · exact pure _
    · refine bind_of_ok (h name p' henrolls p' (.refl _)) fun schema p'' _ => ?_
      exact bind_of_ok (modifyGet (.refl _)) fun _ _ _ => pure _

end Agree

namespace AgreeAbove

theorem of_extends {r' : Registry} (h : AgreeAbove r x y) (hext : r.Extends r') :
    AgreeAbove r' x y := fun p hp => h p (hext.trans hp)

theorem bind (h : AgreeAbove r x y) (hf : ∀ a, AgreeAbove r (f a) (g a)) :
    AgreeAbove r (x >>= f) (y >>= g) := fun p hp =>
  (h p hp).bind_of_ok fun a p' hx => hf a p' (hp.trans ((h p hp).keeps a p' hx))

/-- Agreeing is respected by resolution. -/
theorem congruence (catalog : TypeCatalog) (r : Registry) :
    Congruence catalog catalog (fun _ => True) (fun _ _ => True) (AgreeAbove r) where
  pure a _ _ := .pure a
  bind := bind
  note _ _ _ _ _ := .modifyGet (.refl _)
  construct _ hbuild _ hp := .construct fun _ _ henrolls =>
    hbuild.of_extends (hp.trans henrolls.keeps)
  lookup h := bind (fun p _ => .modifyGet ((Pass.quiet_subtypesOf catalog p _).registry ▸ .refl _))
    fun direct => h direct trivial
  descendants _ p _ := .modifyGet (registry_descendantsFrom ▸ .refl _)
  attach a _ p _ := .modifyGet fun origin name hname => by
    rw [Pass.attach_registry, Registry.nameOf?_take]
    exact hname

end AgreeAbove

end Resolving

namespace TypeCatalog

/-- As many levels as a resolution at the depth can need, whatever the pass. -/
def levelsAt (catalog : TypeCatalog) (depth : Nat) : Nat :=
  catalog.size + (maxDepth + 1 - depth) + 1

theorem room_lt_levelsAt {catalog : TypeCatalog} {r : Registry} {depth : Nat} :
    catalog.room r depth < catalog.levelsAt depth :=
  Nat.lt_succ_of_le (Nat.add_le_add_right unclaimed_le_size _)

end TypeCatalog

namespace Resolver

open Resolving

structure AgreeWithin (catalog : TypeCatalog) (room : Nat) (r r' : Resolver) : Prop where
  resolve : ∀ t depth p, catalog.room p.registry depth < room →
    Agree (r.resolve t depth) (r'.resolve t depth) p
  subtype : ∀ name depth p, catalog.room p.registry depth < room →
    Agree (r.subtype name depth) (r'.subtype name depth) p

variable {catalog : TypeCatalog} {registry : Registry} {r r' : Resolver} {t : TypeDescriptor}
  {d : TypeDefinition} {name : String} {room levels levels' depth : Nat} {p : Pass}

namespace AgreeWithin

theorem symm (h : AgreeWithin catalog room r r') : AgreeWithin catalog room r' r where
  resolve t depth p hroom := (h.resolve t depth p hroom).symm
  subtype name depth p hroom := (h.subtype name depth p hroom).symm

theorem trans {r'' : Resolver} (h : AgreeWithin catalog room r r')
    (h' : AgreeWithin catalog room r' r'') : AgreeWithin catalog room r r'' where
  resolve t depth p hroom := (h.resolve t depth p hroom).trans (h'.resolve t depth p hroom)
  subtype name depth p hroom := (h.subtype name depth p hroom).trans (h'.subtype name depth p hroom)

theorem resolve_above (h : AgreeWithin catalog room r r')
    (hroom : catalog.room registry depth < room) (t : TypeDescriptor) :
    AgreeAbove registry (r.resolve t depth) (r'.resolve t depth) := fun p hp =>
  h.resolve t depth p (Nat.lt_of_le_of_lt (TypeCatalog.room_mono hp) hroom)

theorem subtype_above (h : AgreeWithin catalog room r r')
    (hroom : catalog.room registry depth < room) (name : String) :
    AgreeAbove registry (r.subtype name depth) (r'.subtype name depth) := fun p hp =>
  h.subtype name depth p (Nat.lt_of_le_of_lt (TypeCatalog.room_mono hp) hroom)

theorem declared (h : AgreeWithin catalog room r r')
    (hroom : catalog.room registry depth < room + 1) (hd : d ∈ catalog.definitions) :
    AgreeAbove registry (r.declared catalog d depth) (r'.declared catalog d depth) := by
  intro p hp
  unfold Resolver.declared
  split
  · exact .pure _
  · refine .construct fun name q henrolls => ?_
    have hbefore := Nat.lt_of_le_of_lt (TypeCatalog.room_mono hp) hroom
    have hinside := TypeCatalog.room_lt hbefore hd henrolls
    exact related_component (AgreeAbove.congruence catalog _) hd
      (fun _ m _ => h.resolve_above hinside m.type) fun _ _ name _ => h.subtype_above hinside name

theorem named (h : AgreeWithin catalog room r r')
    (hroom : catalog.room registry depth < room + 1) (t : TypeDescriptor) :
    AgreeAbove registry (r.named catalog t depth) (r'.named catalog t depth) :=
  related_named (AgreeAbove.congruence catalog registry).toSteps rfl (fun _ => trivial)
    fun _ hlookup => h.declared hroom (TypeCatalog.mem_of_lookup? hlookup)

/-- A resolution asks only for resolutions with less room than it has itself. -/
theorem step (h : AgreeWithin catalog room r r') :
    AgreeWithin catalog (room + 1) (r.step catalog) (r'.step catalog) where
  subtype name depth p hroom := h.named hroom (.ofName name) p (.refl _)
  resolve t depth p hroom := by
    have hsteps := (AgreeAbove.congruence catalog p.registry).toSteps
    refine related_any hsteps (fun hdepth _ => ?_) p (.refl _)
    have hinside : catalog.room p.registry (depth + 1) < room := by
      unfold TypeCatalog.room at hroom ⊢
      omega
    exact related_composite hsteps (fun _ _ _ => trivial)
      (fun inner _ => h.resolve_above hinside inner) fun _ => h.named hroom t

/-- Whatever two resolvers do, so many levels above them agree. -/
theorem iterate (catalog : TypeCatalog) (bottom bottom' : Resolver) (levels : Nat) :
    AgreeWithin catalog levels ((Resolver.step catalog)^[levels] bottom)
      ((Resolver.step catalog)^[levels] bottom') := by
  induction levels with
  | zero => exact ⟨fun _ _ _ h => absurd h (by omega), fun _ _ _ h => absurd h (by omega)⟩
  | succ levels ih =>
    rw [Function.iterate_succ_apply', Function.iterate_succ_apply']
    exact ih.step

theorem of_le {bottom bottom' : Resolver} (h : room ≤ levels) (h' : room ≤ levels') :
    AgreeWithin catalog room ((Resolver.step catalog)^[levels] bottom)
      ((Resolver.step catalog)^[levels'] bottom') := by
  obtain ⟨more, rfl⟩ := Nat.exists_eq_add_of_le h
  obtain ⟨more', rfl⟩ := Nat.exists_eq_add_of_le h'
  rw [Function.iterate_add_apply, Function.iterate_add_apply]
  exact iterate catalog _ _ room

end AgreeWithin

theorem ofLevels_eq_iterate (catalog : TypeCatalog) (levels : Nat) :
    ofLevels catalog levels = (step catalog)^[levels] exhausted := by
  induction levels with
  | zero => rfl
  | succ levels ih => rw [Function.iterate_succ_apply', ← ih, ofLevels]

def complete (catalog : TypeCatalog) : Resolver where
  resolve t depth := (ofLevels catalog (catalog.levelsAt depth)).resolve t depth
  subtype name depth := (ofLevels catalog (catalog.levelsAt depth)).subtype name depth

theorem agreeWithin_complete (catalog : TypeCatalog) (bottom : Resolver) (levels : Nat) :
    AgreeWithin catalog levels (complete catalog) ((step catalog)^[levels] bottom) where
  resolve t depth p hroom := by
    simp only [complete, ofLevels_eq_iterate]
    exact (AgreeWithin.of_le TypeCatalog.room_lt_levelsAt hroom).resolve t depth p
      (Nat.lt_succ_self _)
  subtype name depth p hroom := by
    simp only [complete, ofLevels_eq_iterate]
    exact (AgreeWithin.of_le TypeCatalog.room_lt_levelsAt hroom).subtype name depth p
      (Nat.lt_succ_self _)

theorem eq_of_agreeWithin (catalog : TypeCatalog)
    (h : ∀ room, AgreeWithin catalog (room + 1) r r') : r = r' := by
  have hresolve : r.resolve = r'.resolve := by
    funext t depth p
    exact ((h (catalog.room p.registry depth)).resolve t depth p (Nat.lt_succ_self _)).same
  have hsubtype : r.subtype = r'.subtype := by
    funext name depth p
    exact ((h (catalog.room p.registry depth)).subtype name depth p (Nat.lt_succ_self _)).same
  cases r
  cases r'
  cases hresolve
  cases hsubtype
  rfl

theorem complete_step (catalog : TypeCatalog) :
    (complete catalog).step catalog = complete catalog := by
  refine eq_of_agreeWithin catalog fun room => ?_
  have habove := (agreeWithin_complete catalog exhausted room).step
  rw [← Function.iterate_succ_apply' (step catalog)] at habove
  exact habove.trans (agreeWithin_complete catalog exhausted (room + 1)).symm

theorem eq_complete_of_step (h : r.step catalog = r) : r = complete catalog := by
  refine eq_of_agreeWithin catalog fun room => ?_
  have hcomplete := agreeWithin_complete catalog r (room + 1)
  rw [Function.iterate_fixed h] at hcomplete
  exact hcomplete.symm

theorem full_resolve_eq_complete (catalog : TypeCatalog) (t : TypeDescriptor) {depth : Nat}
    (h : 1 ≤ depth) : (full catalog).resolve t depth = (complete catalog).resolve t depth := by
  funext p
  have hagree := agreeWithin_complete catalog exhausted (maxDepth + 1 + catalog.size)
  rw [full, ofLevels_eq_iterate]
  exact (hagree.resolve t depth p (TypeCatalog.room_lt_full h)).same.symm

open Compilation in
/-- The recursion of resolution has exactly one solution. At every depth and in every pass
it is reached with a number of levels known from the catalog, whatever stands below them,
and root resolution has that many. The walk over the descendants of a base makes one round
for each declared type at most, and it is the loop over a queue that keeps the names seen. So
a compilation comes to a document or to an error that the interface gives a reason for. -/
theorem levels_never_exhausted (catalog : TypeCatalog) :
    ((complete catalog).step catalog = complete catalog ∧
      ∀ r : Resolver, r.step catalog = r → r = complete catalog) ∧
    (∀ (bottom : Resolver) (levels depth : Nat) (p : Pass), catalog.levelsAt depth ≤ levels →
      (∀ t, ((step catalog)^[levels] bottom).resolve t depth p =
        (complete catalog).resolve t depth p) ∧
      ∀ name, ((step catalog)^[levels] bottom).subtype name depth p =
        (complete catalog).subtype name depth p) ∧
    (∀ t, resolveRoot catalog t = (complete catalog).resolve t 1) ∧
    (∀ (base : String) (p : Pass), ∃ found p',
      descendants catalog base (catalog.subtypesOf base) p = .ok found p' ∧ found.Nodup ∧
        found.length ≤ catalog.size ∧ (p.Faithful catalog →
          Visits catalog base [] (catalog.subtypesOf base) p found p')) ∧
    ∀ (options : CompilerOptions) (interface : Interface),
      (∃ document, (compile catalog options interface).result = .ok document) ∨
        ∃ e, (compile catalog options interface).result = .error e ∧
          e.Warranted options interface := by
  refine ⟨⟨complete_step catalog, fun r => eq_complete_of_step⟩, ?_,
    fun t => full_resolve_eq_complete catalog t (Nat.le_refl 1), ?_, ?_⟩
  · intro bottom levels depth p hlevels
    have hroom : catalog.room p.registry depth < levels :=
      Nat.lt_of_lt_of_le TypeCatalog.room_lt_levelsAt hlevels
    have hagree := agreeWithin_complete catalog bottom levels
    exact ⟨fun t => (hagree.resolve t depth p hroom).same.symm,
      fun name => (hagree.subtype name depth p hroom).same.symm⟩
  · intro base p
    obtain ⟨-, hsubset, hnodup⟩ := @descendantsFrom_bounded catalog
      (without base (catalog.definitions.map TypeDefinition.name)) (catalog.subtypesOf base) p
    refine ⟨_, _, rfl, hnodup, Nat.le_trans (hnodup.length_le_of_subset hsubset) ?_,
      visits_descendantsFrom_base base⟩
    exact Nat.le_trans (List.length_filter_le ..) (Nat.le_of_eq (List.length_map ..))
  · intro options interface
    cases hresult : (compile catalog options interface).result with
    | ok document => exact .inl ⟨document, rfl⟩
    | error e => exact .inr ⟨e, rfl, warranted_of_error hresult⟩

end Resolver

end RestContract
