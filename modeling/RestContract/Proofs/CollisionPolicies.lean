import RestContract.Proofs.InterfaceCongruences
import RestContract.Proofs.Passes
import RestContract.Proofs.RegistryClaims

/-!
The two collision policies. A claim that succeeds where collisions are errors never met a
collision, so it succeeds in the same way where collisions are settled by another name. The
policy is read by claims alone. Hence a compilation that succeeds under the strict policy
does the same work, step by step, under the generous one, and no name in it was settled:
every type has the component of its simple name.
-/
namespace RestContract

namespace Registry

variable {r r' : Registry} {preferred : String} {origin : Origin} {claim : Claim}

def qualified (r : Registry) : Registry := { r with policy := .qualify }

theorem enroll_qualified (r : Registry) (name : String) (origin : Origin) :
    r.qualified.enroll name origin = (r.enroll name origin).qualified := by
  have hsame : (r.qualified.contains name = false ∧ r.qualified.nameOf? origin = none) =
      (r.contains name = false ∧ r.nameOf? origin = none) := rfl
  by_cases h : r.contains name = false ∧ r.nameOf? origin = none
  · rw [enroll, dif_pos (hsame ▸ h), enroll, dif_pos h]
    rfl
  · rw [enroll, dif_neg (hsame ▸ h), enroll, dif_neg h]

theorem claim_qualified (h : r.claim preferred origin = .ok (claim, r')) :
    r.qualified.claim preferred origin = .ok (claim, r'.qualified) := by
  cases claim with
  | existing name =>
    obtain ⟨hname, rfl⟩ := claim_existing_iff.mp h
    exact claim_existing_iff.mpr ⟨hname, rfl⟩
  | new name =>
    obtain ⟨hnone, hallowed, htakes, rfl⟩ := claim_new_iff.mp h
    rcases hallowed with hfree | hpolicy
    · rw [htakes.eq_preferred hfree]
      rw [← enroll_qualified]
      exact claim_of_free hnone hfree
    · have hsame : r.qualified = r := by rw [qualified, ← hpolicy]
      rw [← enroll_qualified, hsame]
      exact h

end Registry

namespace Pass

def qualified (p : Pass) : Pass := { p with registry := p.registry.qualified }

theorem recordAll_qualified (p : Pass) (events : List LogEvent) :
    p.qualified.recordAll events = (p.recordAll events).qualified := by
  induction events generalizing p with
  | nil => rfl
  | cons event rest ih => exact ih (p.record event)

theorem subtypesOf_qualified (p : Pass) (catalog : TypeCatalog) (base : String) :
    p.qualified.subtypesOf catalog base =
      ((p.subtypesOf catalog base).1, (p.subtypesOf catalog base).2.qualified) := by
  have hlookups : p.qualified.lookups = p.lookups := rfl
  unfold subtypesOf
  rw [hlookups]
  cases p.lookups.lookup base with
  | some known => rfl
  | none => rfl

theorem descendantsFrom_qualified (p : Pass) (catalog : TypeCatalog) (unmet queue : List String) :
    descendantsFrom catalog unmet queue p.qualified =
      ((descendantsFrom catalog unmet queue p).1,
        (descendantsFrom catalog unmet queue p).2.qualified) := by
  have hlookup : ∀ (p q : Pass) (base : String), q = p.qualified →
      (p.subtypesOf catalog base).1 = (q.subtypesOf catalog base).1 ∧
        (q.subtypesOf catalog base).2 = (p.subtypesOf catalog base).2.qualified := by
    intro p q base hq
    rw [hq, subtypesOf_qualified]
    exact ⟨rfl, rfl⟩
  obtain ⟨hfound, hrest⟩ := descendantsFrom_related hlookup (rfl : p.qualified = _) unmet queue
  exact Prod.ext hfound.symm hrest

theorem applyOr_qualified (p : Pass) (a : Attachment) (other : Pass) :
    p.qualified.applyOr a other.qualified = (p.applyOr a other).qualified := by
  have hbuilt : a.builtTarget? p.qualified.registry = a.builtTarget? p.registry := rfl
  unfold applyOr Attachment.applyTo?
  rw [hbuilt]
  cases a.builtTarget? p.registry with
  | some name => rfl
  | none => rfl

theorem attach_qualified (p : Pass) (a : Attachment) :
    p.qualified.attach a = (p.attach a).qualified :=
  p.applyOr_qualified a { p with deferred := p.deferred ++ [a] }

theorem settle_qualified (p : Pass) (a : Attachment) :
    p.qualified.settle a = (p.settle a).qualified :=
  p.applyOr_qualified a (p.record _)

theorem finish_qualified (p : Pass) : p.qualified.finish = p.finish.qualified := by
  have hfold : ∀ (attachments : List Attachment) (p : Pass),
      attachments.foldl settle p.qualified = (attachments.foldl settle p).qualified := by
    intro attachments
    induction attachments with
    | nil => intro p; rfl
    | cons a rest ih =>
      intro p
      rw [List.foldl_cons, List.foldl_cons, settle_qualified]
      exact ih (p.settle a)
  exact hfold p.deferred { p with deferred := [] }

end Pass

namespace Resolving

variable {α β : Type} {x y : Resolving α} {f g : α → Resolving β}

/-- Where the first computation succeeds, the second one does the same under the policy
that settles collisions. -/
def Carries (x y : Resolving α) : Prop :=
  ∀ p a p', x p = .ok a p' → y p.qualified = .ok a p'.qualified

namespace Carries

theorem pure (a : α) : Carries (pure a) (pure a) := by
  intro p b p' h
  cases h
  rfl

theorem throw (e : CompileError) : Carries (throw e : Resolving α) (throw e) := by
  intro p a p' h
  cases h

theorem bind (h : Carries x y) (hf : ∀ a, Carries (f a) (g a)) :
    Carries (x >>= f) (y >>= g) := by
  intro p b p' hrun
  obtain ⟨a, q, hx, hrest⟩ := bind_eq_ok hrun
  rw [bind_ok (h p a q hx)]
  exact hf a q b p' hrest

theorem modifyGet {change : Pass → α × Pass}
    (h : ∀ p, change p.qualified = ((change p).1, (change p).2.qualified)) :
    Carries (modifyGet change) (modifyGet change) := by
  intro p a p' hrun
  have hqualified : (MonadStateOf.modifyGet change : Resolving α) p.qualified =
      .ok (change p.qualified).1 (change p.qualified).2 := rfl
  cases hrun
  exact hqualified.trans (by rw [h p])

theorem claim (preferred : String) (origin : Origin) :
    Carries (claim preferred origin) (claim preferred origin) := by
  intro p claimed p' hrun
  unfold Resolving.claim at hrun ⊢
  cases hclaim : p.registry.claim preferred origin with
  | error e =>
    rw [hclaim] at hrun
    cases hrun
  | ok outcome =>
    obtain ⟨claim, registry⟩ := outcome
    have hcarried : p.qualified.registry.claim preferred origin =
        .ok (claim, registry.qualified) := Registry.claim_qualified hclaim
    rw [hclaim] at hrun
    rw [hcarried]
    cases hrun
    rw [← Pass.recordAll_qualified]
    rfl

theorem actions : Actions @Carries where
  pure := pure
  bind := bind
  note _ _ _ := modifyGet fun _ => rfl
  claim := claim
  define _ _ := modifyGet fun _ => rfl

/-- Resolution carries over. -/
theorem congruence (catalog : TypeCatalog) :
    Congruence catalog catalog (fun _ => True) (fun _ _ => True) @Carries where
  toSteps := actions.steps
  lookup h := bind (modifyGet fun p => p.subtypesOf_qualified catalog _) fun a => h a trivial
  descendants _ := modifyGet fun p => p.descendantsFrom_qualified catalog _ _
  attach a _ := modifyGet fun p => Prod.ext rfl (p.attach_qualified a)

end Carries

end Resolving

namespace Compilation

open Resolving

variable {catalog : TypeCatalog} {options options' : CompilerOptions} {interface : Interface}
  {document : Document} {pass : Pass}

theorem carries_close (interface : Interface) (document : Document) :
    Carries (close interface document) (close interface document) := by
  intro p closed p' hrun
  have hqualified : close interface document p.qualified =
      .ok (withSchemas document p.qualified.finish.registry.schemas)
        (p.qualified.finish.record _) := rfl
  rw [hqualified, p.finish_qualified]
  cases hrun
  rfl

/-- The work on an interface carries over, whatever the policies of the options. -/
theorem carries_interfacePass (hstrict : options'.strict = options.strict)
    (hversion : options'.version = options.version) :
    Carries (interfacePass catalog options interface)
      (interfacePass catalog options' interface) := by
  have hcongruence := Carries.congruence catalog
  have hblank : blank interface options' = blank interface options := by
    rw [blank, blank, hversion]
  have hrelated : ∀ o ∈ interface.operations,
      o.Related catalog catalog @Carries interface options.strict := by
    intro o _
    exact ⟨fun t _ => (Resolver.related_ofLevels hcongruence _).1 t 1, fun e _ => .throw e⟩
  unfold interfacePass
  rw [hblank]
  exact (related_addOperations _ hcongruence hstrict interface.operations hrelated).bind
    fun document => carries_close interface document

end Compilation

namespace Pass.Growth

variable {catalog : TypeCatalog} {rule : Registry → Construction → Prop} {p p' : Pass}
  {log : List Construction} {c : Construction}

/-- Growth keeps the policy, and under the strict one every construction has the name that it
asked for. -/
theorem policy_names (h : Growth catalog rule p log p') :
    p'.registry.policy = p.registry.policy ∧
      (p.registry.policy = .error → ∀ c ∈ log, c.name = c.preferred) := by
  induction h with
  | quiet hquiet =>
    rw [hquiet.registry]
    exact ⟨rfl, fun _ c hc => by cases hc⟩
  | append _ _ ih ih' =>
    refine ⟨ih'.1.trans ih.1, fun hpolicy c hc => ?_⟩
    rcases List.mem_append.mp hc with hfirst | hsecond
    · exact ih.2 hpolicy c hfirst
    · exact ih'.2 (ih.1.trans hpolicy) c hsecond
  | @construct p p' registry log c hclaim _ _ ih =>
    have hclaimed : registry.policy = p.registry.policy := Registry.policy_claim hclaim
    refine ⟨?_, fun hpolicy other hother => ?_⟩
    · rw [complete_registry]
      exact (Registry.policy_takeAll _ c.attachments).trans (ih.1.trans hclaimed)
    · rcases List.mem_append.mp hother with hinner | hself
      · exact ih.2 (hclaimed.trans hpolicy) other hinner
      · rw [List.mem_singleton.mp hself]
        obtain ⟨-, hallowed, htakes, -⟩ := Registry.claim_new_iff.mp hclaim
        have hfree : p.registry.contains c.preferred = false := by
          refine hallowed.resolve_right fun hqualify => ?_
          rw [hpolicy] at hqualify
          cases hqualify
        exact htakes.eq_preferred hfree

end Pass.Growth

theorem Made.preferred_of_type {catalog : TypeCatalog} {interface : Interface} {r : Registry}
    {c : Construction} {qualified : String} (h : Made catalog interface r c)
    (horigin : c.origin = .type qualified) : c.preferred = Naming.simpleName qualified := by
  cases h.lawful_of_type horigin with
  | undeclared => exact congrArg Naming.simpleName (Origin.type.inj horigin)
  | leaf => exact congrArg Naming.simpleName (Origin.type.inj horigin)
  | polymorphic => exact congrArg Naming.simpleName (Origin.type.inj horigin)
  | compositeMap => cases horigin

namespace Compilation

open Resolving

variable {catalog : TypeCatalog} {options : CompilerOptions} {interface : Interface}
  {document : Document} {pass p : Pass} {served : List (Operation × Endpoint)}
  {log : List Construction}

namespace Run

variable (run : Run catalog options interface document pass served log p)

include run

/-- The components of a document are the names of the origins that its pass met. -/
theorem mem_keys_iff (key : String) :
    key ∈ document.schemas.keys ↔ ∃ origin, pass.registry.nameOf? origin = some key := by
  rw [run.schemas, ← SortedMap.contains_iff_mem_keys, SortedMap.contains, Registry.schemas,
    SortedMap.get?_mapValues, Option.isSome_map]
  constructor
  · intro hsome
    obtain ⟨entry, hentry⟩ := Option.isSome_iff_exists.mp hsome
    exact ⟨entry.origin, (pass.registry.owned _ _).mpr ⟨entry, hentry, rfl⟩⟩
  · rintro ⟨origin, hname⟩
    obtain ⟨entry, hentry, -⟩ := (pass.registry.owned _ _).mp hname
    rw [hentry]
    rfl

/-- Where collisions are errors, the component of a type has its simple name. -/
theorem name_of_type (hpolicy : options.collisionPolicy = .error) {qualified key : String}
    (hname : pass.registry.nameOf? (.type qualified) = some key) :
    key = Naming.simpleName qualified := by
  obtain ⟨c, hc, horigin, -⟩ := run.component hname
  obtain ⟨hown, hmade⟩ := run.made hc
  have hkey : c.name = key := by
    rw [horigin, hname] at hown
    exact (Option.some.inj hown).symm
  have hpreferred : c.name = c.preferred := run.growth.policy_names.2 hpolicy c hc
  rw [← hkey, hpreferred, hmade.preferred_of_type horigin]

end Run

/-- An interface that compiles where collisions are errors compiles to the same document,
with the same log, where collisions are settled. The components of the document are the
names of the origins that were met, and each type among these, declared or unknown, is met
under its simple name. -/
theorem qualify_extends_error (catalog : TypeCatalog) (options : CompilerOptions)
    (interface : Interface) (document : Document)
    (h : (compile catalog { options with collisionPolicy := .error } interface).result =
      .ok document) :
    compile catalog { options with collisionPolicy := .qualify } interface =
      compile catalog { options with collisionPolicy := .error } interface ∧
    ∃ pass, interfacePass catalog { options with collisionPolicy := .error } interface
        (.start .error) = .ok document pass ∧
      (∀ key, key ∈ document.schemas.keys ↔
        ∃ origin, pass.registry.nameOf? origin = some key) ∧
      ∀ qualified key, pass.registry.nameOf? (.type qualified) = some key →
        key = Naming.simpleName qualified := by
  obtain ⟨pass, hpass⟩ := compile_eq_ok_iff.mp h
  have hcarries : Carries
      (interfacePass catalog { options with collisionPolicy := .error } interface)
      (interfacePass catalog { options with collisionPolicy := .qualify } interface) :=
    carries_interfacePass rfl rfl
  have hcarried : interfacePass catalog { options with collisionPolicy := .qualify } interface
      (.start .qualify) = .ok document pass.qualified :=
    hcarries (.start .error) document pass hpass
  obtain ⟨served, log, p, run⟩ := exists_run hpass
  refine ⟨?_, pass, hpass, run.mem_keys_iff, fun qualified key => run.name_of_type rfl⟩
  unfold compile
  rw [hcarried, hpass]
  rfl

/-- The fleet compiles alike under both policies, and its leaf is met under its simple
name. -/
theorem fleet_qualify_extends_error : ∃ document pass,
    interfacePass (.ofList Fleet.types) { collisionPolicy := .error } Fleet.service
      (.start .error) = .ok document pass ∧
    compile (.ofList Fleet.types) { collisionPolicy := .qualify } Fleet.service =
      compile (.ofList Fleet.types) { collisionPolicy := .error } Fleet.service ∧
    pass.registry.nameOf? (.type Fleet.cabrio.name) = some (Naming.simpleName Fleet.cabrio.name) ∧
    Naming.simpleName Fleet.cabrio.name ∈ document.schemas.keys := by
  obtain ⟨document, pass, hpass, -, hcabrio⟩ := Fleet.exists_pass
  have hok : (compile (.ofList Fleet.types) { collisionPolicy := .error } Fleet.service).result =
      .ok document := compile_eq_ok_iff.mpr ⟨pass, hpass⟩
  obtain ⟨hsame, pass', hpass', hkeys, hsimple⟩ :=
    qualify_extends_error (.ofList Fleet.types) {} Fleet.service document hok
  cases hpass.symm.trans hpass'
  rw [hsimple _ _ hcabrio] at hcabrio
  exact ⟨document, pass, hpass, hsame, hcabrio, (hkeys _).mpr ⟨_, hcabrio⟩⟩

end Compilation

end RestContract
