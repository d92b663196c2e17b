import Mathlib.Logic.Relation
import RestContract.Proofs.SortedMaps
import RestContract.Resolution.Descendants

/-!
The walk over the descendants of a base. Its result has no duplicates and holds
exactly the types other than the base that some number of subtype steps lead to.
Along the way only lookups and log events are added to the pass, and the lookups
stay those of the catalog.
-/
namespace RestContract

def TypeCatalog.IsSubtype (catalog : TypeCatalog) (base name : String) : Prop :=
  name ∈ catalog.subtypesOf base

def TypeCatalog.Below (catalog : TypeCatalog) (base name : String) : Prop :=
  Relation.TransGen catalog.IsSubtype base name

theorem TypeCatalog.IsSubtype.declared {catalog : TypeCatalog} {base name : String}
    (h : catalog.IsSubtype base name) : name ∈ catalog.definitions.map TypeDefinition.name := by
  obtain ⟨d, hd, rfl⟩ := List.mem_map.mp h
  exact List.mem_map_of_mem (List.mem_filter.mp hd).1

namespace Pass

variable {catalog : TypeCatalog} {p p' p'' : Pass}

/-- The lookups kept are those that the catalog would answer. -/
def Faithful (catalog : TypeCatalog) (p : Pass) : Prop :=
  ∀ base known, p.lookups.lookup base = some known → known = catalog.subtypesOf base

/-- A change of lookups and log events only. -/
structure Quiet (catalog : TypeCatalog) (p p' : Pass) : Prop where
  registry : p'.registry = p.registry
  deferred : p'.deferred = p.deferred
  faithful : p.Faithful catalog → p'.Faithful catalog

theorem Quiet.refl (catalog : TypeCatalog) (p : Pass) : Quiet catalog p p := ⟨rfl, rfl, id⟩

theorem Quiet.trans (h : Quiet catalog p p') (h' : Quiet catalog p' p'') :
    Quiet catalog p p'' :=
  ⟨h'.registry.trans h.registry, h'.deferred.trans h.deferred,
    fun hp => h'.faithful (h.faithful hp)⟩

theorem quiet_record (catalog : TypeCatalog) (p : Pass) (event : LogEvent) :
    Quiet catalog p (p.record event) := ⟨rfl, rfl, id⟩

theorem quiet_recordAll (catalog : TypeCatalog) (p : Pass) (events : List LogEvent) :
    Quiet catalog p (p.recordAll events) := by
  induction events generalizing p with
  | nil => exact .refl catalog p
  | cons event rest ih => exact (quiet_record catalog p event).trans (ih _)

theorem quiet_subtypesOf (catalog : TypeCatalog) (p : Pass) (base : String) :
    Quiet catalog p (p.subtypesOf catalog base).2 := by
  unfold subtypesOf
  split
  · exact .refl catalog p
  · refine ⟨rfl, rfl, ?_⟩
    intro hp other known hknown
    change ((base, _) :: p.lookups).lookup other = some known at hknown
    rw [lookup_cons_ite] at hknown
    split at hknown
    next heq => rw [← Option.some.inj hknown, heq]
    next => exact hp other known hknown

theorem Faithful.subtypesOf_eq (hp : p.Faithful catalog) (base : String) :
    (p.subtypesOf catalog base).1 = catalog.subtypesOf base := by
  unfold subtypesOf
  split
  next known hknown => exact hp base known hknown
  next => rfl

end Pass

variable {catalog : TypeCatalog} {unmet queue rest found : List String} {name : String}
  {p p' : Pass}

theorem mem_skipMet_of_mem (hqueue : name ∈ queue) (hunmet : name ∈ unmet) :
    name ∈ skipMet unmet queue := by
  induction queue with
  | nil => cases hqueue
  | cons first others ih =>
    by_cases hfirst : first ∈ unmet
    · simpa [skipMet, hfirst] using hqueue
    · rcases List.mem_cons.mp hqueue with rfl | hothers
      · exact absurd hunmet hfirst
      · simpa [skipMet, hfirst] using ih hothers

theorem mem_of_mem_skipMet (h : name ∈ skipMet unmet queue) : name ∈ queue :=
  (List.dropWhile_sublist _).subset h

theorem mem_without {other : String} {names : List String} :
    other ∈ without name names ↔ other ∈ names ∧ other ≠ name := by
  simp [without]

structure Walked (catalog : TypeCatalog) (unmet queue found : List String) : Prop where
  nodup : found.Nodup
  wasUnmet : ∀ name ∈ found, name ∈ unmet
  reached : ∀ name ∈ found, ∃ start ∈ queue, Relation.ReflTransGen catalog.IsSubtype start name
  queued : ∀ name ∈ queue, name ∈ unmet → name ∈ found
  closed : ∀ base ∈ found, ∀ name, catalog.IsSubtype base name → name ∈ unmet → name ∈ found

theorem Walked.empty (h : skipMet unmet queue = []) : Walked catalog unmet queue [] where
  nodup := .nil
  wasUnmet := by simp
  reached := by simp
  queued name hqueue hunmet := by
    have hmem := mem_skipMet_of_mem hqueue hunmet
    simp [h] at hmem
  closed := by simp

/-- One round: the first unmet name is found, and its subtypes join the queue. -/
theorem Walked.round (h : skipMet unmet queue = name :: rest)
    (hwalk : Walked catalog (without name unmet) (rest ++ catalog.subtypesOf name) found) :
    Walked catalog unmet queue (name :: found) where
  nodup := by
    refine List.nodup_cons.mpr ⟨?_, hwalk.nodup⟩
    intro hmem
    exact (mem_without.mp (hwalk.wasUnmet name hmem)).2 rfl
  wasUnmet other hother := by
    rcases List.mem_cons.mp hother with rfl | hfound
    · exact mem_of_skipMet_eq_cons h
    · exact (mem_without.mp (hwalk.wasUnmet other hfound)).1
  reached other hother := by
    have hname : name ∈ queue := mem_of_mem_skipMet (h ▸ List.mem_cons_self ..)
    rcases List.mem_cons.mp hother with rfl | hfound
    · exact ⟨other, hname, .refl⟩
    · obtain ⟨start, hstart, hpath⟩ := hwalk.reached other hfound
      rcases List.mem_append.mp hstart with hrest | hsub
      · exact ⟨start, mem_of_mem_skipMet (h ▸ List.mem_cons_of_mem _ hrest), hpath⟩
      · exact ⟨name, hname, .head hsub hpath⟩
  queued other hqueue hunmet := by
    have hmem := mem_skipMet_of_mem hqueue hunmet
    rw [h] at hmem
    by_cases heq : other = name
    · exact heq ▸ List.mem_cons_self ..
    · have hrest : other ∈ rest := (List.mem_cons.mp hmem).resolve_left heq
      exact List.mem_cons_of_mem _
        (hwalk.queued other (List.mem_append_left _ hrest) (mem_without.mpr ⟨hunmet, heq⟩))
  closed base hbase other hsub hunmet := by
    by_cases heq : other = name
    · exact heq ▸ List.mem_cons_self ..
    · have hstill : other ∈ without name unmet := mem_without.mpr ⟨hunmet, heq⟩
      refine List.mem_cons_of_mem _ ?_
      rcases List.mem_cons.mp hbase with rfl | hfound
      · exact hwalk.queued other (List.mem_append_right _ hsub) hstill
      · exact hwalk.closed base hfound other hsub hstill

theorem descendantsFrom_of_nil (h : skipMet unmet queue = []) :
    descendantsFrom catalog unmet queue p = ([], p) := by
  rw [descendantsFrom]
  split
  · rfl
  next heq => simp [h] at heq

theorem descendantsFrom_of_cons (h : skipMet unmet queue = name :: rest) :
    descendantsFrom catalog unmet queue p =
      (name :: (descendantsFrom catalog (without name unmet)
          (rest ++ (p.subtypesOf catalog name).1) (p.subtypesOf catalog name).2).1,
        (descendantsFrom catalog (without name unmet)
          (rest ++ (p.subtypesOf catalog name).1) (p.subtypesOf catalog name).2).2) := by
  rw [descendantsFrom]
  split
  next heq => simp [h] at heq
  next heq =>
    rw [h] at heq
    cases heq
    rfl

/-- A relation between passes that lookups respect is respected by the walk. -/
theorem descendantsFrom_related {related : Pass → Pass → Prop}
    (hlookup : ∀ p q base, related p q →
      (p.subtypesOf catalog base).1 = (q.subtypesOf catalog base).1 ∧
        related (p.subtypesOf catalog base).2 (q.subtypesOf catalog base).2)
    {p q : Pass} (h : related p q) (unmet queue : List String) :
    (descendantsFrom catalog unmet queue p).1 = (descendantsFrom catalog unmet queue q).1 ∧
      related (descendantsFrom catalog unmet queue p).2
        (descendantsFrom catalog unmet queue q).2 := by
  cases hskip : skipMet unmet queue with
  | nil =>
    rw [descendantsFrom_of_nil hskip, descendantsFrom_of_nil hskip]
    exact ⟨rfl, h⟩
  | cons name rest =>
    obtain ⟨heq, hwork⟩ := hlookup p q name h
    rw [descendantsFrom_of_cons hskip, descendantsFrom_of_cons hskip, heq]
    obtain ⟨hfound, hrest⟩ := descendantsFrom_related hlookup hwork (without name unmet)
      (rest ++ (q.subtypesOf catalog name).1)
    exact ⟨congrArg (name :: ·) hfound, hrest⟩
termination_by unmet.length
decreasing_by exact length_without_lt (mem_of_skipMet_eq_cons hskip)

/-- Every round shortens the list of unmet names, so the walk is an induction on its
length. -/
theorem descendantsFrom_spec (hp : p.Faithful catalog) :
    Walked catalog unmet queue (descendantsFrom catalog unmet queue p).1 ∧
      p.Quiet catalog (descendantsFrom catalog unmet queue p).2 := by
  generalize hlength : unmet.length = size
  induction size using Nat.strongRecOn generalizing unmet queue p with
  | ind size ih =>
    cases h : skipMet unmet queue with
    | nil =>
      rw [descendantsFrom_of_nil h]
      exact ⟨.empty h, .refl catalog p⟩
    | cons name rest =>
      have hquiet := Pass.quiet_subtypesOf catalog p name
      have hshorter : (without name unmet).length < size :=
        hlength ▸ length_without_lt (mem_of_skipMet_eq_cons h)
      obtain ⟨hwalk, hrest⟩ := @ih _ hshorter (without name unmet)
        (rest ++ (p.subtypesOf catalog name).1) _ (hquiet.faithful hp) rfl
      rw [descendantsFrom_of_cons h]
      refine ⟨.round h ?_, hquiet.trans hrest⟩
      rw [hp.subtypesOf_eq name] at hwalk ⊢
      exact hwalk

/-- In any pass, the walk leaves the registry as it is and finds unmet names only, each
once. -/
theorem descendantsFrom_bounded :
    (descendantsFrom catalog unmet queue p).2.registry = p.registry ∧
    (descendantsFrom catalog unmet queue p).1 ⊆ unmet ∧
    (descendantsFrom catalog unmet queue p).1.Nodup := by
  fun_induction descendantsFrom catalog unmet queue p with
  | case1 => exact ⟨rfl, List.nil_subset _, .nil⟩
  | case2 unmet queue p name rest hskip direct p₁ hlookup found p₂ hwalk ih =>
    have hregistry := (Pass.quiet_subtypesOf catalog p name).registry
    rw [hlookup] at hregistry
    rw [hwalk] at ih
    obtain ⟨hkept, hsubset, hnodup⟩ := ih
    refine ⟨hkept.trans hregistry, ?_, ?_⟩
    · exact List.cons_subset.mpr ⟨mem_of_skipMet_eq_cons hskip,
        fun other hother => (mem_without.mp (hsubset hother)).1⟩
    · exact List.nodup_cons.mpr ⟨fun hself => (mem_without.mp (hsubset hself)).2 rfl, hnodup⟩

theorem registry_descendantsFrom :
    (descendantsFrom catalog unmet queue p).2.registry = p.registry :=
  descendantsFrom_bounded.1

/-- The walk as a loop that keeps the names seen: from the names seen and the queue, it comes
to what is found and to another pass. -/
inductive Visits (catalog : TypeCatalog) (base : String) :
    List String → List String → Pass → List String → Pass → Prop
  | done {seen : List String} {p : Pass} : Visits catalog base seen [] p [] p
  | skip {seen rest found : List String} {name : String} {p p' : Pass} :
      name = base ∨ name ∈ seen → Visits catalog base seen rest p found p' →
      Visits catalog base seen (name :: rest) p found p'
  | visit {seen rest found : List String} {name : String} {p p' : Pass} :
      name ≠ base → name ∉ seen →
      Visits catalog base (name :: seen) (rest ++ (p.subtypesOf catalog name).1)
        (p.subtypesOf catalog name).2 found p' →
      Visits catalog base seen (name :: rest) p (name :: found) p'

/-- The loop passes over the met names at the front of its queue. -/
theorem Visits.of_skipMet {base : String} {seen : List String}
    (hunmet : ∀ name ∈ queue, name ∈ unmet ↔ name ≠ base ∧ name ∉ seen)
    (h : Visits catalog base seen (skipMet unmet queue) p found p') :
    Visits catalog base seen queue p found p' := by
  induction queue with
  | nil => exact h
  | cons first rest ih =>
    obtain ⟨hiff, hrest⟩ := List.forall_mem_cons.mp hunmet
    by_cases hfirst : first ∈ unmet
    · simpa [skipMet, hfirst] using h
    · have hmet : first = base ∨ first ∈ seen := by
        rw [Decidable.or_iff_not_imp_left]
        simpa using mt hiff.mpr hfirst
      exact .skip hmet (ih hrest (by simpa [skipMet, hfirst] using h))

/-- As long as the unmet names are the declared ones that were not seen, the walk is that
loop. -/
theorem visits_descendantsFrom {base : String} {seen : List String} (hp : p.Faithful catalog)
    (hqueue : queue ⊆ catalog.definitions.map TypeDefinition.name)
    (hunmet : ∀ name ∈ catalog.definitions.map TypeDefinition.name,
      name ∈ unmet ↔ name ≠ base ∧ name ∉ seen) :
    Visits catalog base seen queue p (descendantsFrom catalog unmet queue p).1
      (descendantsFrom catalog unmet queue p).2 := by
  fun_induction descendantsFrom catalog unmet queue p generalizing seen with
  | case1 unmet queue p hskip =>
    refine .of_skipMet (fun name hname => hunmet name (hqueue hname)) ?_
    rw [hskip]
    exact .done
  | case2 unmet queue p name rest hskip direct p₁ hlookup found p₂ hwalk ih =>
    have hdirect : direct = catalog.subtypesOf name := by
      rw [← hp.subtypesOf_eq name, hlookup]
    have hp₁ : p₁.Faithful catalog := by
      have hfaithful := (Pass.quiet_subtypesOf catalog p name).faithful hp
      rwa [hlookup] at hfaithful
    obtain ⟨hname, hrest⟩ := List.forall_mem_cons.mp fun other hother =>
      hqueue (mem_of_mem_skipMet (hskip ▸ hother : other ∈ skipMet unmet queue))
    obtain ⟨hbase, hseen⟩ := (hunmet name hname).mp (mem_of_skipMet_eq_cons hskip)
    refine .of_skipMet (fun name hname => hunmet name (hqueue hname)) ?_
    rw [hskip]
    refine .visit hbase hseen ?_
    rw [hlookup]
    rw [hwalk] at ih
    refine ih hp₁ ?_ fun other hother => ?_
    · refine List.append_subset.mpr ⟨hrest, ?_⟩
      rw [hdirect]
      exact fun other => TypeCatalog.IsSubtype.declared
    · rw [mem_without, hunmet other hother, List.mem_cons, not_or, and_assoc,
        @and_comm (other ∉ seen)]

theorem visits_descendantsFrom_base (base : String) (hp : p.Faithful catalog) :
    Visits catalog base [] (catalog.subtypesOf base) p
      (descendantsFrom catalog (without base (catalog.definitions.map TypeDefinition.name))
        (catalog.subtypesOf base) p).1
      (descendantsFrom catalog (without base (catalog.definitions.map TypeDefinition.name))
        (catalog.subtypesOf base) p).2 := by
  refine visits_descendantsFrom hp (fun name => TypeCatalog.IsSubtype.declared) ?_
  intro name hname
  simp [mem_without, hname]

/-- Any path down from the base meets only the base and what the walk found. -/
theorem Walked.complete {base : String}
    (hwalk : Walked catalog (without base (catalog.definitions.map TypeDefinition.name))
      (catalog.subtypesOf base) found)
    (hpath : Relation.ReflTransGen catalog.IsSubtype base name) : name = base ∨ name ∈ found := by
  induction hpath with
  | refl => exact .inl rfl
  | @tail middle name hbefore hstep ih =>
    -- The base counts as met from the start, so a cycle through it adds nothing.
    by_cases heq : name = base
    · exact .inl heq
    · have hunmet := mem_without.mpr ⟨hstep.declared, heq⟩
      rcases ih with rfl | hfound
      · exact .inr (hwalk.queued name hstep hunmet)
      · exact .inr (hwalk.closed middle hfound name hstep hunmet)

/-- The walk from a base finds the types below it, the base itself apart. -/
theorem Walked.mem_iff {base : String}
    (hwalk : Walked catalog (without base (catalog.definitions.map TypeDefinition.name))
      (catalog.subtypesOf base) found) :
    name ∈ found ↔ catalog.Below base name ∧ name ≠ base := by
  constructor
  · intro h
    obtain ⟨start, hstart, hpath⟩ := hwalk.reached name h
    exact ⟨Relation.TransGen.head' hstart hpath, (mem_without.mp (hwalk.wasUnmet name h)).2⟩
  · rintro ⟨hbelow, hne⟩
    exact (hwalk.complete hbelow.to_reflTransGen).resolve_left hne

end RestContract
