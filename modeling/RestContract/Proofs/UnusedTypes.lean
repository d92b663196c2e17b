import RestContract.Proofs.InterfaceCongruences
import RestContract.Proofs.Passes
import RestContract.Proofs.ResolutionLevels

/-!
Declared types that nothing refers to. A definition without supertypes is no subtype of
anything, so it is found by its name or its simple name only. If no type of a source has
one of these names, the definition may be left out of the catalog: every lookup, every list
of subtypes and every walk over descendants stays what it was, and the one level of
resolution that it adds is never needed.
-/
namespace RestContract

namespace TypeCatalog

structure Extension (c c' : TypeCatalog) (extra : TypeDefinition) : Prop where
  fresh : extra.name ∉ c.definitions.map TypeDefinition.name
  rootless : extra.supertypes = []
  split : ∃ before after, c.definitions = before ++ after ∧
    c'.definitions = before ++ extra :: after

namespace Extension

variable {c c' : TypeCatalog} {extra d : TypeDefinition} {name base : String}

/-- Both catalogs take another definition in the same way. -/
theorem insert (h : Extension c c' extra) (hd : d.name ≠ extra.name) :
    Extension (c.insert d) (c'.insert d) extra := by
  obtain ⟨before, after, hc, hc'⟩ := h.split
  have hmem : d.name ∈ c'.definitions.map TypeDefinition.name ↔
      d.name ∈ c.definitions.map TypeDefinition.name := by
    rw [hc, hc']
    simp [hd]
  have hdefinitions := c.definitions_insert d
  have hdefinitions' := c'.definitions_insert d
  by_cases hknown : d.name ∈ c.definitions.map TypeDefinition.name
  · rw [if_pos hknown] at hdefinitions
    rw [if_pos (hmem.mpr hknown)] at hdefinitions'
    refine ⟨?_, h.rootless, ?_⟩
    · rw [hdefinitions]
      intro hfresh
      obtain ⟨e, he, hname⟩ := List.mem_map.mp hfresh
      obtain ⟨old, hold, rfl⟩ := List.mem_map.mp he
      split at hname
      · exact hd hname
      · exact h.fresh (List.mem_map.mpr ⟨old, hold, hname⟩)
    · rw [hc, List.map_append] at hdefinitions
      rw [hc', List.map_append, List.map_cons, if_neg hd.symm] at hdefinitions'
      exact ⟨_, _, hdefinitions, hdefinitions'⟩
  · rw [if_neg hknown] at hdefinitions
    rw [if_neg fun h => hknown (hmem.mp h)] at hdefinitions'
    refine ⟨?_, h.rootless, before, after ++ [d], ?_, ?_⟩
    · rw [hdefinitions, List.map_append]
      simp [h.fresh, hd.symm]
    · rw [hdefinitions, hc, List.append_assoc]
    · rw [hdefinitions', hc', List.append_assoc, List.cons_append]

/-- The catalog of a list with one more definition somewhere. -/
theorem ofList {before after : List TypeDefinition}
    (hnew : ∀ d ∈ before ++ after, d.name ≠ extra.name) (hrootless : extra.supertypes = []) :
    Extension (.ofList (before ++ after)) (.ofList (before ++ extra :: after)) extra := by
  have hfold : ∀ (rest : List TypeDefinition) (c c' : TypeCatalog), Extension c c' extra →
      (∀ d ∈ rest, d.name ≠ extra.name) →
      Extension (rest.foldl TypeCatalog.insert c) (rest.foldl TypeCatalog.insert c') extra := by
    intro rest
    induction rest with
    | nil => exact fun _ _ h _ => h
    | cons d rest ih =>
      intro c c' h hrest
      obtain ⟨hd, hothers⟩ := List.forall_mem_cons.mp hrest
      exact ih _ _ (h.insert hd) hothers
  have hfresh : extra.name ∉ (TypeCatalog.ofList before).definitions.map TypeDefinition.name := by
    intro hmem
    obtain ⟨d, hd, hname⟩ := List.mem_map.mp hmem
    exact hnew d (List.mem_append_left _ (mem_of_mem_ofList hd)) hname
  have hlast : Extension (.ofList before) ((TypeCatalog.ofList before).insert extra) extra := by
    refine ⟨hfresh, hrootless,
      _, [], (List.append_nil _).symm, ?_⟩
    rw [definitions_insert, if_neg hfresh]
  have hresult := hfold after _ _ hlast fun d hd => hnew d (List.mem_append_right _ hd)
  unfold TypeCatalog.ofList at hresult ⊢
  rw [List.foldl_append, List.foldl_append, List.foldl_cons]
  exact hresult

theorem subtypesOf_eq (h : Extension c c' extra) (base : String) :
    c'.subtypesOf base = c.subtypesOf base := by
  obtain ⟨before, after, hc, hc'⟩ := h.split
  unfold subtypesOf
  rw [hc, hc', List.filter_append, List.filter_append, List.filter_cons]
  simp [h.rootless]

/-- The lookup of a name that is declared already, or that is not the simple name of the
definition either. -/
theorem lookup?_eq (h : Extension c c' extra) (hname : name ≠ extra.name)
    (hsimple : name ∈ c.definitions.map TypeDefinition.name ∨ name ≠ extra.simpleName) :
    c'.lookup? name = c.lookup? name := by
  obtain ⟨before, after, hc, hc'⟩ := h.split
  have hfind : (c'.definitions.find? fun d => d.name == name) =
      c.definitions.find? fun d => d.name == name := by
    have hother : (extra.name == name) = false := by simpa using hname.symm
    rw [hc, hc', List.find?_append, List.find?_append, List.find?_cons, hother]
  rw [c.lookup?_eq, c'.lookup?_eq, hfind]
  rcases hsimple with hdeclared | hother
  · obtain ⟨d, hd, hdname⟩ := List.mem_map.mp hdeclared
    have hsome : (c.definitions.find? fun d => d.name == name).isSome = true :=
      List.find?_isSome.mpr ⟨d, hd, by simpa using hdname⟩
    obtain ⟨found, hfound⟩ := Option.isSome_iff_exists.mp hsome
    rw [hfound]
    rfl
  · have hfilter : c'.lookupSimple? name = c.lookupSimple? name := by
      have hextra : (extra.simpleName == name) = false := by simpa using hother.symm
      unfold lookupSimple?
      rw [hc, hc', List.filter_append, List.filter_append, List.filter_cons, hextra]
      rfl
    rw [hfilter]

theorem fresh_subtypes (h : Extension c c' extra) (base : String) :
    extra.name ∉ c.subtypesOf base :=
  fun hmem => h.fresh (IsSubtype.declared hmem)

theorem passSubtypesOf_eq (h : Extension c c' extra) (p : Pass) (base : String) :
    p.subtypesOf c' base = p.subtypesOf c base := by
  unfold Pass.subtypesOf
  rw [h.subtypesOf_eq]

/-- The walk never meets the definition, so it does not matter that it is unmet. -/
theorem descendantsFrom_eq (h : Extension c c' extra) {unmet unmet' queue : List String} {p : Pass}
    (hp : p.Faithful c) (hunmet : ∀ name, name ≠ extra.name → (name ∈ unmet' ↔ name ∈ unmet))
    (hqueue : extra.name ∉ queue) :
    descendantsFrom c' unmet' queue p = descendantsFrom c unmet queue p := by
  have hskip : skipMet unmet' queue = skipMet unmet queue := by
    unfold skipMet
    induction queue with
    | nil => rfl
    | cons name rest ih =>
      obtain ⟨hname, hrest⟩ := not_or.mp (fun hmem => hqueue (List.mem_cons.mpr hmem))
      have hcontains : unmet'.contains name = unmet.contains name := by
        simp [hunmet name (Ne.symm hname)]
      rw [List.dropWhile_cons, List.dropWhile_cons, hcontains, ih hrest]
  cases hcase : skipMet unmet queue with
  | nil => rw [descendantsFrom_of_nil hcase, descendantsFrom_of_nil (hskip.trans hcase)]
  | cons name rest =>
    have hwithout : ∀ other, other ≠ extra.name →
        (other ∈ without name unmet' ↔ other ∈ without name unmet) := by
      intro other hother
      rw [mem_without, mem_without, hunmet other hother]
    have hrest : extra.name ∉ rest ++ (p.subtypesOf c name).1 := by
      intro hmem
      rcases List.mem_append.mp hmem with hold | hnew
      · exact hqueue (mem_of_mem_skipMet (hcase ▸ List.mem_cons_of_mem _ hold))
      · rw [hp.subtypesOf_eq name] at hnew
        exact h.fresh_subtypes name hnew
    have hfaithful := (Pass.quiet_subtypesOf c p name).faithful hp
    rw [descendantsFrom_of_cons hcase, descendantsFrom_of_cons (hskip.trans hcase),
      h.passSubtypesOf_eq, h.descendantsFrom_eq hfaithful hwithout hrest]
termination_by unmet.length
decreasing_by exact length_without_lt (mem_of_skipMet_eq_cons hcase)

end Extension

end TypeCatalog

namespace Resolving

variable {α β : Type} {catalog : TypeCatalog} {x y : Resolving α} {f g : α → Resolving β}

/-- In a pass with faithful lookups the computations do the same, and the lookups stay
faithful. -/
def Matched (catalog : TypeCatalog) (x y : Resolving α) : Prop :=
  ∀ p, p.Faithful catalog → x p = y p ∧ ∀ a p', x p = .ok a p' → p'.Faithful catalog

namespace Matched

theorem pure (a : α) : Matched catalog (pure a) (pure a) := by
  intro p hp
  refine ⟨rfl, fun b p' h => ?_⟩
  cases h
  exact hp

theorem throw (e : CompileError) : Matched catalog (throw e : Resolving α) (throw e) := by
  intro p _
  exact ⟨rfl, fun a p' h => by cases h⟩

/-- The continuations need to match at the results that arise. -/
theorem bind_of_ok (h : Matched catalog x y)
    (hf : ∀ a, (∃ p p', p.Faithful catalog ∧ x p = .ok a p') → Matched catalog (f a) (g a)) :
    Matched catalog (x >>= f) (y >>= g) := by
  intro p hp
  obtain ⟨hsame, hkeeps⟩ := h p hp
  cases hx : x p with
  | error e p' =>
    rw [bind_error hx, bind_error (hsame ▸ hx)]
    exact ⟨rfl, fun b p'' hrun => by cases hrun⟩
  | ok a p' =>
    rw [bind_ok hx, bind_ok (hsame ▸ hx)]
    exact hf a ⟨p, p', hp, hx⟩ p' (hkeeps a p' hx)

theorem bind (h : Matched catalog x y) (hf : ∀ a, Matched catalog (f a) (g a)) :
    Matched catalog (x >>= f) (y >>= g) := h.bind_of_ok fun a _ => hf a

theorem modifyGet {change change' : Pass → α × Pass}
    (h : ∀ p, p.Faithful catalog → change p = change' p ∧ (change p).2.Faithful catalog) :
    Matched catalog (modifyGet change) (modifyGet change') := by
  intro p hp
  obtain ⟨hsame, hkeeps⟩ := h p hp
  refine ⟨?_, fun a p' hrun => ?_⟩
  · show EStateM.Result.ok (change p).1 (change p).2 = .ok (change' p).1 (change' p).2
    rw [hsame]
  · cases hrun
    exact hkeeps

theorem claim (preferred : String) (origin : Origin) :
    Matched catalog (claim preferred origin) (claim preferred origin) := by
  intro p hp
  refine ⟨rfl, fun claim p' hclaim => ?_⟩
  obtain ⟨name, rfl, rfl⟩ | ⟨name, rfl, henrolls⟩ := claim_ok_cases hclaim
  · exact hp
  · exact henrolls.faithful hp

theorem actions (catalog : TypeCatalog) : Actions (Matched catalog) where
  pure := pure
  bind := bind
  note _ _ _ := modifyGet fun _ hp => ⟨rfl, hp⟩
  claim := claim
  define _ _ := modifyGet fun _ hp => ⟨rfl, hp⟩

/-- Resolution under the extended catalog matches resolution under the other. -/
theorem congruence {catalog' : TypeCatalog} {extra : TypeDefinition}
    (h : catalog.Extension catalog' extra) :
    Congruence catalog catalog' (fun _ => True)
      (fun base direct => direct = catalog.subtypesOf base) (Matched catalog) where
  toSteps := (actions catalog).steps
  lookup := by
    intro β base f g hf
    refine bind_of_ok (modifyGet fun p hp => ?_) fun direct harises => ?_
    · exact ⟨(h.passSubtypesOf_eq p base).symm, (Pass.quiet_subtypesOf catalog p base).faithful hp⟩
    · obtain ⟨p, p', hp, hrun⟩ := harises
      cases hrun
      exact hf _ (hp.subtypesOf_eq base)
  descendants := by
    intro base direct hdirect
    refine modifyGet fun p hp => ⟨(h.descendantsFrom_eq hp ?_ ?_).symm, ?_⟩
    · intro name hname
      obtain ⟨before, after, hc, hc'⟩ := h.split
      rw [mem_without, mem_without, hc, hc']
      simp [hname]
    · rw [hdirect]
      exact h.fresh_subtypes base
    · exact (descendantsFrom_spec hp).2.faithful hp
  attach a _ := modifyGet fun p hp => by
    refine ⟨rfl, fun base known hknown => hp base known ?_⟩
    have hlookups : (p.attach a).lookups = p.lookups := Pass.attach_lookups
    exact hlookups ▸ hknown

end Matched

end Resolving

namespace TypeDescriptor

inductive Mentions : TypeDescriptor → String → Prop
  | self (t : TypeDescriptor) : Mentions t t.name
  | argument {t inner : TypeDescriptor} {name : String} :
      inner ∈ t.arguments → Mentions inner name → Mentions t name

def Avoids (t : TypeDescriptor) (d : TypeDefinition) : Prop :=
  ∀ name, t.Mentions name → name ≠ d.name ∧ name ≠ d.simpleName

theorem mem_arguments_of_mem_parts {t inner : TypeDescriptor} (h : inner ∈ t.parts) :
    inner ∈ t.arguments := by
  have hoptional : t.optionalParts ⊆ t.arguments := by
    unfold optionalParts
    split
    next heq => rw [heq]; exact List.Subset.refl _
    next => exact List.nil_subset _
  have hmap : t.mapParts ⊆ t.arguments := by
    unfold mapParts
    split
    next key value heq =>
      rw [heq]
      split
      · exact List.subset_cons_self ..
      · exact List.Subset.refl _
    next => exact List.nil_subset _
  unfold parts at h
  split at h
  · cases h
  · split at h
    · exact hoptional h
    · split at h
      · exact hmap h
      · exact List.mem_of_mem_take h
      · cases h

/-- A type avoids a definition exactly if its own name and its arguments do. -/
theorem avoids_iff {t : TypeDescriptor} {d : TypeDefinition} :
    t.Avoids d ↔ (t.name ≠ d.name ∧ t.name ≠ d.simpleName) ∧
      ∀ inner ∈ t.arguments, inner.Avoids d := by
  constructor
  · intro h
    exact ⟨h t.name (.self t), fun inner hinner name hname => h name (.argument hinner hname)⟩
  · rintro ⟨hself, harguments⟩ name hname
    cases hname with
    | self => exact hself
    | argument hinner hmentions => exact harguments _ hinner name hmentions

end TypeDescriptor

namespace Resolver

open Resolving TypeDescriptor

variable {catalog catalog' : TypeCatalog} {extra : TypeDefinition}

section Levels

variable (h : catalog.Extension catalog' extra)
  (hmembers : ∀ d ∈ catalog.definitions, ∀ m ∈ d.members, m.type.Avoids extra)

include h hmembers

/-- One level up, names that both catalogs look up alike are resolved alike. -/
theorem matched_named {r r' : Resolver} {t : TypeDescriptor} {depth : Nat}
    (hresolve : ∀ t depth, t.Avoids extra →
      Matched catalog (r.resolve t depth) (r'.resolve t depth))
    (hsubtype : ∀ name depth, name ∈ catalog.definitions.map TypeDefinition.name →
      Matched catalog (r.subtype name depth) (r'.subtype name depth))
    (hlookup : catalog'.lookup? t.name = catalog.lookup? t.name) :
    Matched catalog (r.named catalog t depth) (r'.named catalog' t depth) := by
  have hcongruence := Matched.congruence h
  refine related_named hcongruence.toSteps hlookup (fun _ => trivial) fun d hd => ?_
  have hdeclared := TypeCatalog.mem_of_lookup? hd
  unfold declared
  split
  · exact .pure _
  · refine hcongruence.construct trivial (related_component hcongruence hdeclared ?_ ?_)
    · intro _ m hm
      exact hresolve m.type _ (hmembers d hdeclared m (List.mem_filter.mp hm).1)
    · intro direct hdirect name hname
      rw [hdirect] at hname
      exact hsubtype name _ (TypeCatalog.IsSubtype.declared hname)

theorem matched_ofLevels (levels : Nat) :
    (∀ t depth, t.Avoids extra → Matched catalog ((ofLevels catalog levels).resolve t depth)
      ((ofLevels catalog' levels).resolve t depth)) ∧
    ∀ name depth, name ∈ catalog.definitions.map TypeDefinition.name →
      Matched catalog ((ofLevels catalog levels).subtype name depth)
        ((ofLevels catalog' levels).subtype name depth) := by
  induction levels with
  | zero => exact ⟨fun _ _ _ => .pure _, fun _ _ _ => .pure _⟩
  | succ levels ih =>
    obtain ⟨hresolve, hsubtype⟩ := ih
    have hsteps := (Matched.congruence h).toSteps
    refine ⟨fun t depth ht => ?_, fun name depth hname => ?_⟩
    · refine related_any hsteps fun _ _ => ?_
      refine related_composite hsteps (fun _ _ _ => trivial) (fun inner hinner => ?_) fun _ => ?_
      · exact hresolve inner _ ((avoids_iff.mp ht).2 inner (mem_arguments_of_mem_parts hinner))
      · obtain ⟨hname, hsimple⟩ := (avoids_iff.mp ht).1
        exact matched_named h hmembers hresolve hsubtype (h.lookup?_eq hname (.inr hsimple))
    · have hother : name ≠ extra.name := by
        intro heq
        exact h.fresh (heq ▸ hname)
      exact matched_named h hmembers hresolve hsubtype (h.lookup?_eq hother (.inl hname))

end Levels

/-- More levels than a root needs make no difference to it. -/
theorem ofLevels_resolve_root (catalog : TypeCatalog) (t : TypeDescriptor) {levels : Nat}
    (h : maxDepth + 1 + catalog.size ≤ levels) :
    (ofLevels catalog levels).resolve t 1 = resolveRoot catalog t := by
  have hfull : resolveRoot catalog t = (complete catalog).resolve t 1 :=
    full_resolve_eq_complete catalog t (Nat.le_refl 1)
  rw [hfull, ofLevels_eq_iterate]
  funext p
  have hroom : catalog.room p.registry 1 < levels :=
    Nat.lt_of_lt_of_le (TypeCatalog.room_lt_full (Nat.le_refl 1)) h
  exact ((agreeWithin_complete catalog exhausted levels).resolve t 1 p hroom).same.symm

theorem matched_resolveRoot (h : catalog.Extension catalog' extra)
    (hmembers : ∀ d ∈ catalog.definitions, ∀ m ∈ d.members, m.type.Avoids extra)
    {t : TypeDescriptor} (ht : t.Avoids extra) :
    Matched catalog (resolveRoot catalog t) (resolveRoot catalog' t) := by
  have hsize : catalog.size ≤ catalog'.size := by
    obtain ⟨before, after, hc, hc'⟩ := h.split
    unfold TypeCatalog.size
    rw [hc, hc']
    simp only [List.length_append, List.length_cons]
    omega
  rw [← ofLevels_resolve_root catalog t (Nat.add_le_add_left hsize _)]
  exact (matched_ofLevels h hmembers _).1 t 1 ht

end Resolver

def ContractSource.mentioned (source : ContractSource) : List TypeDescriptor :=
  (source.interfaces.flatMap fun i => i.operations.flatMap Operation.types) ++
    source.types.definitions.flatMap fun d => d.members.map Member.type

namespace Compilation

open Resolving

variable {catalog catalog' : TypeCatalog} {extra : TypeDefinition} {options : CompilerOptions}

theorem compile_eq_of_extension (h : catalog.Extension catalog' extra)
    (hmembers : ∀ d ∈ catalog.definitions, ∀ m ∈ d.members, m.type.Avoids extra)
    {interface : Interface}
    (hinterface : ∀ o ∈ interface.operations, ∀ t ∈ o.types, t.Avoids extra) :
    compile catalog' options interface = compile catalog options interface := by
  have hrelated : ∀ o ∈ interface.operations,
      o.Related catalog catalog' (Matched catalog) interface options.strict := by
    intro o ho
    refine ⟨fun t ht => ?_, fun e _ => .throw e⟩
    exact Resolver.matched_resolveRoot h hmembers (hinterface o ho t ht)
  have hadd := related_addOperations (blank interface options) (Matched.congruence h) rfl
    interface.operations hrelated
  have hsame := (hadd _ (.start catalog options.collisionPolicy)).1
  have hpass : interfacePass catalog' options interface (.start options.collisionPolicy) =
      interfacePass catalog options interface (.start options.collisionPolicy) := by
    simp only [interfacePass, bind, EStateM.bind, hsame]
  unfold compile
  rw [hpass]

/-- A declared type without supertypes whose name and simple name no type of the source has
may be left out of the catalog, wherever it stands: all documents, or the error, and the log
stay the same. -/
theorem unused_type_changes_nothing (interfaces : List Interface)
    (before after : List TypeDefinition) (extra : TypeDefinition) (options : CompilerOptions)
    (hnew : ∀ d ∈ before ++ after, d.name ≠ extra.name) (hrootless : extra.supertypes = [])
    (hunused : ∀ t ∈ ContractSource.mentioned ⟨interfaces, .ofList (before ++ after)⟩,
      t.Avoids extra) :
    compileSource ⟨interfaces, .ofList (before ++ extra :: after)⟩ options =
      compileSource ⟨interfaces, .ofList (before ++ after)⟩ options := by
  have hextension := TypeCatalog.Extension.ofList hnew hrootless
  have hmembers : ∀ d ∈ (TypeCatalog.ofList (before ++ after)).definitions, ∀ m ∈ d.members,
      m.type.Avoids extra := by
    intro d hd m hm
    exact hunused _ (List.mem_append_right _
      (List.mem_flatMap.mpr ⟨d, hd, List.mem_map_of_mem hm⟩))
  have hinterfaces : ∀ i ∈ interfaces, ∀ o ∈ i.operations, ∀ t ∈ o.types, t.Avoids extra := by
    intro i hi o ho t ht
    exact hunused _ (List.mem_append_left _
      (List.mem_flatMap.mpr ⟨i, hi, List.mem_flatMap.mpr ⟨o, ho, ht⟩⟩))
  have hall : ∀ rest ⊆ interfaces,
      compileAll (.ofList (before ++ extra :: after)) options rest =
        compileAll (.ofList (before ++ after)) options rest := by
    intro rest hrest
    induction rest with
    | nil => rfl
    | cons first others ih =>
      obtain ⟨hfirst, hothers⟩ := List.cons_subset.mp hrest
      rw [compileAll, compileAll, ih hothers,
        compile_eq_of_extension hextension hmembers (hinterfaces first hfirst)]
  refine hall _ ?_
  unfold selected
  split
  · exact fun i hi => (List.mem_filter.mp hi).1
  · exact List.Subset.refl _

end Compilation

namespace Fleet

/-- Named as a supertype of a declared type, but mentioned nowhere. -/
def toy : TypeDefinition where
  name := "org.acme.Toy"
  members := [⟨"model", .ofName "org.acme.Car", false, false⟩]

def toyCar : TypeDefinition where
  name := "org.acme.Car"
  kind := .abstractClass
  supertypes := ["org.acme.Vehicle", "org.acme.Toy"]

open Compilation in
/-- Declaring the toy between the other types leaves the contract as it is. -/
theorem toy_changes_nothing :
    (∀ t ∈ ContractSource.mentioned ⟨[service], .ofList ([vehicle] ++ [toyCar, cabrio])⟩,
      t.Avoids toy) ∧
    compileSource ⟨[service], .ofList ([vehicle] ++ toy :: [toyCar, cabrio])⟩ {} =
      compileSource ⟨[service], .ofList ([vehicle] ++ [toyCar, cabrio])⟩ {} := by
  have hmentioned : ContractSource.mentioned
      ⟨[service], .ofList ([vehicle] ++ [toyCar, cabrio])⟩ =
        [.ofName "org.acme.Cabrio", ⟨"java.util.List", [.ofName "org.acme.Vehicle"]⟩,
          .ofName "int", .ofName "org.acme.Cabrio", .ofName "java.lang.String"] := by
    decide +kernel
  have hplain : ∀ name ∈ ["org.acme.Cabrio", "org.acme.Vehicle", "int", "java.lang.String"],
      (TypeDescriptor.ofName name).Avoids toy := by
    intro name hname
    have hother : name ≠ toy.name ∧ name ≠ toy.simpleName := by
      revert name
      decide +kernel
    exact TypeDescriptor.avoids_iff.mpr ⟨hother, fun inner hinner => by cases hinner⟩
  have hlist : TypeDescriptor.Avoids ⟨"java.util.List", [.ofName "org.acme.Vehicle"]⟩ toy := by
    refine TypeDescriptor.avoids_iff.mpr ⟨by decide +kernel, fun inner hinner => ?_⟩
    rw [List.mem_singleton.mp hinner]
    exact hplain _ (by decide)
  have hunused : ∀ t ∈ ContractSource.mentioned
      ⟨[service], .ofList ([vehicle] ++ [toyCar, cabrio])⟩, t.Avoids toy := by
    rw [hmentioned]
    simp [hplain, hlist]
  exact ⟨hunused, unused_type_changes_nothing [service] [vehicle] [toyCar, cabrio] toy {}
    (by decide +kernel) rfl hunused⟩

end Fleet

end RestContract
