import Mathlib.Data.List.TakeWhile
import Mathlib.Order.Lattice.Nat
import RestContract.Proofs.DescendantWalk
import RestContract.Proofs.Sessions

/-!
The walk over the descendants of a base is a breadth-first search. The types are the nodes of
a graph with a step from each type to its subtypes, in which there may be cycles and several
ways to one type. The queue of the walk always consists of names that are some number of
steps away from the base and, behind them, names one step farther, while every name nearer
than these was met before. So names are found in the order of their distance. Each of them is
looked up when it is found, and what the pass remembers of lookups is what the catalog says.
-/
namespace RestContract

namespace TypeCatalog

variable {catalog : TypeCatalog} {base name other : String} {path : List String} {n m : Nat}

/-- Subtype steps lead from the base to the name, through the names of the path. -/
inductive Path (catalog : TypeCatalog) (base : String) : List String → String → Prop
  | here : Path catalog base [] base
  | down {path : List String} {middle name : String} : Path catalog base path middle →
      catalog.IsSubtype middle name → Path catalog base (path ++ [name]) name

noncomputable def distance (catalog : TypeCatalog) (base name : String) : Nat :=
  sInf { n | ∃ path, catalog.Path base path name ∧ path.length = n }

/-- The names are those on paths that leave the base for good, each once, nearest first. -/
structure BreadthFirst (catalog : TypeCatalog) (base : String) (found : List String) : Prop where
  nodup : found.Nodup
  mem_iff : ∀ name, name ∈ found ↔
    name ≠ base ∧ ∃ path, catalog.Path base path name ∧ path ≠ [] ∧ base ∉ path
  ordered : found.Pairwise fun a b => catalog.distance base a ≤ catalog.distance base b

theorem Path.reaches (h : catalog.Path base path name) :
    Relation.ReflTransGen catalog.IsSubtype base name := by
  induction h with
  | here => exact .refl
  | down _ hstep ih => exact .tail ih hstep

/-- A way to another type may start where it leaves the base for the last time. -/
theorem exists_path_of_reaches (h : Relation.ReflTransGen catalog.IsSubtype base name) :
    name = base ∨ ∃ path, catalog.Path base path name ∧ path ≠ [] ∧ base ∉ path := by
  induction h with
  | refl => exact .inl rfl
  | @tail middle name _ hstep ih =>
    by_cases heq : name = base
    · exact .inl heq
    · have hlast : base ∉ [name] := by simpa [eq_comm] using heq
      rcases ih with rfl | ⟨path, hpath, -, havoids⟩
      · exact .inr ⟨[name], .down .here hstep, by simp, hlast⟩
      · exact .inr ⟨path ++ [name], .down hpath hstep, by simp, by simp [havoids, hlast]⟩

def Within (catalog : TypeCatalog) (base : String) (n : Nat) (name : String) : Prop :=
  ∃ path, catalog.Path base path name ∧ path.length ≤ n

namespace Within

theorem refl (catalog : TypeCatalog) (base : String) (n : Nat) : catalog.Within base n base :=
  ⟨[], .here, Nat.zero_le n⟩

theorem mono (h : catalog.Within base n name) (hle : n ≤ m) : catalog.Within base m name := by
  obtain ⟨path, hpath, hlength⟩ := h
  exact ⟨path, hpath, Nat.le_trans hlength hle⟩

theorem step (h : catalog.Within base n name) (hstep : catalog.IsSubtype name other) :
    catalog.Within base (n + 1) other := by
  obtain ⟨path, hpath, hlength⟩ := h
  refine ⟨path ++ [other], .down hpath hstep, ?_⟩
  simpa using hlength

/-- The name before the last is one step nearer. -/
theorem cases (h : catalog.Within base n name) : name = base ∨
    ∃ before middle, n = before + 1 ∧ catalog.Within base before middle ∧
      catalog.IsSubtype middle name := by
  obtain ⟨path, hpath, hlength⟩ := h
  cases hpath with
  | here => exact .inl rfl
  | @down path middle _ hfront hstep =>
    rw [List.length_append, List.length_singleton] at hlength
    obtain ⟨before, rfl⟩ : ∃ before, n = before + 1 := ⟨n - 1, by omega⟩
    exact .inr ⟨before, middle, rfl, ⟨path, hfront, by omega⟩, hstep⟩

theorem eq_base (h : catalog.Within base 0 name) : name = base := by
  rcases h.cases with rfl | ⟨before, _, hzero, -⟩
  · rfl
  · cases hzero

/-- A name that is not the base comes from a name one step nearer. -/
theorem exists_before (h : catalog.Within base (n + 1) name) (hne : name ≠ base) :
    ∃ middle, catalog.Within base n middle ∧ catalog.IsSubtype middle name := by
  rcases h.cases with rfl | ⟨before, middle, heq, hmiddle, hstep⟩
  · exact absurd rfl hne
  · cases heq
    exact ⟨middle, hmiddle, hstep⟩

theorem declared (h : catalog.Within base n name) (hne : name ≠ base) :
    name ∈ catalog.definitions.map TypeDefinition.name := by
  rcases h.cases with rfl | ⟨_, _, -, -, hstep⟩
  · exact absurd rfl hne
  · exact hstep.declared

end Within

/-- If whatever is enough for the second name is enough for the first, the first is not
farther away. -/
theorem distance_le_of_within (h : ∀ n, catalog.Within base n other → catalog.Within base n name)
    (hother : catalog.Path base path other) :
    catalog.distance base name ≤ catalog.distance base other := by
  have hnonempty : { n | ∃ path, catalog.Path base path other ∧ path.length = n }.Nonempty :=
    ⟨path.length, path, hother, rfl⟩
  obtain ⟨shortest, hshortest, hlength⟩ := Nat.sInf_mem hnonempty
  obtain ⟨way, hway, hle⟩ := h _ ⟨shortest, hshortest, Nat.le_of_eq hlength⟩
  exact Nat.le_trans (Nat.sInf_le ⟨way, hway, rfl⟩) hle

variable {level : Nat} {unmet front back : List String}

/-- The queue is cut where names begin that are one step farther. Names up to the level were
all met, the unmet ones of the next level all stand in the front, and whatever follows a name
that was met is queued. -/
structure Frontier (catalog : TypeCatalog) (base : String) (level : Nat)
    (unmet front back : List String) : Prop where
  front_within : ∀ name ∈ front, catalog.Within base (level + 1) name
  back_within : ∀ name ∈ back, catalog.Within base (level + 2) name
  farther : ∀ name ∈ unmet, ¬catalog.Within base level name
  queued : ∀ name ∈ unmet, catalog.Within base (level + 1) name → name ∈ front
  closed : ∀ n above, catalog.Within base n above → above ∉ unmet →
    ∀ name ∈ unmet, catalog.IsSubtype above name → name ∈ front ++ back

namespace Frontier

/-- The walk starts with the direct subtypes, and with the base alone met. -/
theorem start (catalog : TypeCatalog) (base : String) :
    catalog.Frontier base 0 (without base (catalog.definitions.map TypeDefinition.name))
      (catalog.subtypesOf base) [] where
  front_within name hname := (Within.refl catalog base 0).step hname
  back_within := by simp
  farther name hname h := (mem_without.mp hname).2 h.eq_base
  queued name hname h := by
    obtain ⟨middle, hmiddle, hstep⟩ := h.exists_before (mem_without.mp hname).2
    exact hmiddle.eq_base ▸ hstep
  closed n above habove hmet name _ hstep := by
    have heq : above = base := by
      by_contra hne
      exact hmet (mem_without.mpr ⟨habove.declared hne, hne⟩)
    rw [List.append_nil]
    exact heq ▸ hstep

theorem mem_back {above : String} (h : catalog.Frontier base level unmet front back)
    (hmet : ∀ name ∈ front, name ∉ unmet) (habove : catalog.Within base n above)
    (habovemet : above ∉ unmet) (hname : name ∈ unmet) (hstep : catalog.IsSubtype above name) :
    name ∈ back := by
  have hqueue := h.closed n above habove habovemet name hname hstep
  have hnot : name ∉ front := fun hfront => hmet name hfront hname
  simpa [hnot] using hqueue

/-- When the front is used up, the back takes its place. -/
theorem advance (h : catalog.Frontier base level unmet front back)
    (hmet : ∀ name ∈ front, name ∉ unmet) :
    catalog.Frontier base (level + 1) unmet back [] where
  front_within := h.back_within
  back_within := by simp
  farther name hname hwithin := hmet name (h.queued name hname hwithin) hname
  queued name hname hwithin := by
    have hne : name ≠ base := by
      rintro rfl
      exact h.farther name hname (Within.refl catalog name level)
    obtain ⟨middle, hmiddle, hstep⟩ := hwithin.exists_before hne
    -- A nearer name that is still unmet would stand in the front.
    have hmiddleMet : middle ∉ unmet := fun hunmet =>
      hmet middle (h.queued middle hunmet hmiddle) hunmet
    exact h.mem_back hmet hmiddle hmiddleMet hname hstep
  closed n above habove habovemet name hname hstep := by
    rw [List.append_nil]
    exact h.mem_back hmet habove habovemet hname hstep

/-- The first unmet name of the front is met, and its subtypes join the back. -/
theorem meet {skipped : List String}
    (h : catalog.Frontier base level unmet (skipped ++ name :: front) back)
    (hskipped : ∀ other ∈ skipped, other ∉ unmet) :
    catalog.Frontier base level (without name unmet) front
      (back ++ catalog.subtypesOf name) where
  front_within other hother := h.front_within other (by simp [hother])
  back_within other hother := by
    rcases List.mem_append.mp hother with hback | hstep
    · exact h.back_within other hback
    · exact (h.front_within name (by simp)).step hstep
  farther other hother := h.farther other (mem_without.mp hother).1
  queued other hother hwithin := by
    obtain ⟨hunmet, hne⟩ := mem_without.mp hother
    have hmem := h.queued other hunmet hwithin
    have hnot : other ∉ skipped := fun hskip => hskipped other hskip hunmet
    simpa [hnot, hne] using hmem
  closed n above habove hmet other hother hstep := by
    obtain ⟨hunmet, hne⟩ := mem_without.mp hother
    by_cases heq : above = name
    · subst above
      exact List.mem_append_right _ (List.mem_append_right _ hstep)
    · have habovemet : above ∉ unmet := fun hstill => hmet (mem_without.mpr ⟨hstill, heq⟩)
      have hmem := h.closed n above habove habovemet other hunmet hstep
      have hnot : other ∉ skipped := fun hskip => hskipped other hskip hunmet
      have hqueue : other ∈ front ∨ other ∈ back := by simpa [hnot, hne] using hmem
      rcases hqueue with hfront | hback
      · exact List.mem_append_left _ hfront
      · exact List.mem_append_right _ (List.mem_append_left _ hback)

/-- No unmet name is nearer than one in the front. -/
theorem nearest (h : catalog.Frontier base level unmet front back) (hname : name ∈ front)
    (hother : other ∈ unmet) (hwithin : catalog.Within base n other) :
    catalog.Within base n name := by
  refine (h.front_within name hname).mono ?_
  by_contra hlt
  exact h.farther other hother (hwithin.mono (by omega))

end Frontier

end TypeCatalog

section Rounds

variable {catalog : TypeCatalog} {base name : String} {level : Nat}
  {unmet front back rest : List String} {p : Pass}

theorem skipMet_eq_cons (h : skipMet unmet front = name :: rest) :
    ∃ skipped, front = skipped ++ name :: rest ∧ ∀ other ∈ skipped, other ∉ unmet := by
  refine ⟨front.takeWhile (!unmet.contains ·), ?_, ?_⟩
  · rw [← h, skipMet, List.takeWhile_append_dropWhile]
  · intro other hother
    simpa using List.mem_takeWhile_imp hother

theorem skipMet_eq_nil : skipMet unmet front = [] ↔ ∀ name ∈ front, name ∉ unmet := by
  simp [skipMet, List.dropWhile_eq_nil_iff]

theorem skipMet_append (unmet front back : List String) :
    skipMet unmet (front ++ back) =
      if (skipMet unmet front).isEmpty then skipMet unmet back else skipMet unmet front ++ back :=
  List.dropWhile_append

namespace TypeCatalog.Frontier

/-- A round that takes its name from the front. -/
theorem round_front (h : catalog.Frontier base level unmet front back)
    (hskip : skipMet unmet front = name :: rest) :
    (∀ other ∈ unmet, ∀ n, catalog.Within base n other → catalog.Within base n name) ∧
      catalog.Frontier base level (without name unmet) rest
        (back ++ catalog.subtypesOf name) := by
  obtain ⟨skipped, rfl, hskipped⟩ := skipMet_eq_cons hskip
  exact ⟨fun other hother n => h.nearest (by simp) hother, h.meet hskipped⟩

/-- A round finds a nearest one of the unmet names, and leaves a queue of the same kind. -/
theorem round (h : catalog.Frontier base level unmet front back)
    (hskip : skipMet unmet (front ++ back) = name :: rest) :
    (∀ other ∈ unmet, ∀ n, catalog.Within base n other → catalog.Within base n name) ∧
      ∃ level' front' back', rest ++ catalog.subtypesOf name = front' ++ back' ∧
        catalog.Frontier base level' (without name unmet) front' back' := by
  rw [skipMet_append] at hskip
  cases hfront : skipMet unmet front with
  | nil =>
    -- Nothing in the front is left to be met, so the round is one of the next level.
    rw [hfront] at hskip
    obtain ⟨hnearest, hnext⟩ := (h.advance (skipMet_eq_nil.mp hfront)).round_front hskip
    exact ⟨hnearest, level + 1, rest, catalog.subtypesOf name, rfl, hnext⟩
  | cons first others =>
    rw [hfront] at hskip
    cases hskip
    obtain ⟨hnearest, hnext⟩ := h.round_front hfront
    exact ⟨hnearest, level, others, back ++ catalog.subtypesOf name, List.append_assoc ..,
      hnext⟩

end TypeCatalog.Frontier

/-- Names are found nearest first: the number of steps to a name is enough for those before. -/
theorem descendantsFrom_nearest_first (hp : p.Faithful catalog)
    (h : catalog.Frontier base level unmet front back) :
    (descendantsFrom catalog unmet (front ++ back) p).1.Pairwise fun a b =>
      ∀ n, catalog.Within base n b → catalog.Within base n a := by
  generalize hqueue : front ++ back = queue
  fun_induction descendantsFrom catalog unmet queue p generalizing level front back with
  | case1 => exact .nil
  | case2 unmet queue p name rest hskip direct p₁ hlookup found p₂ hwalk ih =>
    have hdirect : direct = catalog.subtypesOf name := by
      rw [← hp.subtypesOf_eq name, hlookup]
    have hp₁ : p₁.Faithful catalog := by
      have hfaithful := (Pass.quiet_subtypesOf catalog p name).faithful hp
      rwa [hlookup] at hfaithful
    subst queue
    obtain ⟨hnearest, level', front', back', hrest, hnext⟩ := h.round hskip
    have hunmet :=
      (@descendantsFrom_spec catalog (without name unmet) (rest ++ direct) p₁ hp₁).1.wasUnmet
    rw [hwalk] at ih hunmet
    refine List.pairwise_cons.mpr ⟨fun other hother => ?_, ih hp₁ hnext (by rw [hdirect, hrest])⟩
    exact hnearest other (mem_without.mp (hunmet other hother)).1

theorem Walked.mem_iff_path {found : List String}
    (hwalk : Walked catalog (without base (catalog.definitions.map TypeDefinition.name))
      (catalog.subtypesOf base) found) :
    name ∈ found ↔
      name ≠ base ∧ ∃ path, catalog.Path base path name ∧ path ≠ [] ∧ base ∉ path := by
  constructor
  · intro h
    obtain ⟨hbelow, hne⟩ := hwalk.mem_iff.mp h
    have hpath := TypeCatalog.exists_path_of_reaches hbelow.to_reflTransGen
    exact ⟨hne, hpath.resolve_left hne⟩
  · rintro ⟨hne, path, hpath, -⟩
    exact (hwalk.complete hpath.reaches).resolve_left hne

theorem Walked.breadthFirst {found : List String}
    (hwalk : Walked catalog (without base (catalog.definitions.map TypeDefinition.name))
      (catalog.subtypesOf base) found)
    (hnearest : found.Pairwise fun a b => ∀ n, catalog.Within base n b → catalog.Within base n a) :
    catalog.BreadthFirst base found where
  nodup := hwalk.nodup
  mem_iff _ := hwalk.mem_iff_path
  ordered := by
    refine hnearest.imp_of_mem fun {a b} _ hb hwithin => ?_
    obtain ⟨-, path, hpath, -⟩ := hwalk.mem_iff_path.mp hb
    exact TypeCatalog.distance_le_of_within hwithin hpath

end Rounds

namespace Pass

variable {catalog : TypeCatalog} {p p' p'' : Pass}

def Remembers (p p' : Pass) : Prop :=
  ∀ base known, p.lookups.lookup base = some known → p'.lookups.lookup base = some known

theorem Remembers.trans (h : p.Remembers p') (h' : p'.Remembers p'') : p.Remembers p'' :=
  fun base known hknown => h' base known (h base known hknown)

/-- A lookup is remembered, with all that were made before. -/
theorem remembers_subtypesOf (catalog : TypeCatalog) (p : Pass) (base : String) :
    p.Remembers (p.subtypesOf catalog base).2 ∧
      (p.subtypesOf catalog base).2.lookups.lookup base = some (p.subtypesOf catalog base).1 := by
  unfold subtypesOf
  cases hknown : p.lookups.lookup base with
  | some known => exact ⟨fun _ _ h => h, hknown⟩
  | none =>
    refine ⟨fun other known hother => ?_, List.lookup_cons_self⟩
    have hne : other ≠ base := by
      rintro rfl
      rw [hknown] at hother
      cases hother
    change ((base, _) :: p.lookups).lookup other = some known
    rw [lookup_cons_ite, if_neg hne]
    exact hother

end Pass

theorem descendantsFrom_remembered {catalog : TypeCatalog} {unmet queue : List String} {p : Pass} :
    p.Remembers (descendantsFrom catalog unmet queue p).2 ∧
      ∀ name ∈ (descendantsFrom catalog unmet queue p).1,
        ∃ known, (descendantsFrom catalog unmet queue p).2.lookups.lookup name = some known := by
  fun_induction descendantsFrom catalog unmet queue p with
  | case1 => exact ⟨fun _ _ h => h, by simp⟩
  | case2 unmet queue p name rest _ direct p₁ hlookup found p₂ hwalk ih =>
    obtain ⟨hbefore, hself⟩ := Pass.remembers_subtypesOf catalog p name
    rw [hlookup] at hbefore hself
    rw [hwalk] at ih
    obtain ⟨hafter, hothers⟩ := ih
    refine ⟨hbefore.trans hafter, fun other hother => ?_⟩
    rcases List.mem_cons.mp hother with rfl | hfound
    · exact ⟨direct, hafter _ _ hself⟩
    · exact hothers other hfound

open Pass in
/-- The walk over the descendants of any base, in any catalog, is a breadth-first search. It
finds the types other than the base on the paths of subtype steps that leave the base and do
not pass through it again, each once, in the order of their distance. What a pass remembers
of lookups is what the catalog says: after any requests, after each lookup more, and after the
walk, which has looked up every type that it found. -/
theorem descendants_breadth_first (catalog : TypeCatalog) :
    (∀ policy requests, ((start policy).afterAll catalog requests).Faithful catalog) ∧
    (∀ (p : Pass) (base : String), p.Faithful catalog →
      (p.subtypesOf catalog base).1 = catalog.subtypesOf base ∧
      (p.subtypesOf catalog base).2.Faithful catalog) ∧
    ∀ (p : Pass) (base : String), p.Faithful catalog → ∃ found p',
      descendants catalog base (catalog.subtypesOf base) p = .ok found p' ∧
      catalog.BreadthFirst base found ∧ p'.Faithful catalog ∧
      ∀ name ∈ found, p'.lookups.lookup name = some (catalog.subtypesOf name) := by
  refine ⟨fun policy requests => faithful_reached catalog policy requests,
    fun p base hp => ⟨hp.subtypesOf_eq base, (quiet_subtypesOf catalog p base).faithful hp⟩, ?_⟩
  intro p base hp
  obtain ⟨hwalk, hquiet⟩ := @descendantsFrom_spec catalog
    (without base (catalog.definitions.map TypeDefinition.name)) (catalog.subtypesOf base) p hp
  have hnearest := descendantsFrom_nearest_first hp (TypeCatalog.Frontier.start catalog base)
  rw [List.append_nil] at hnearest
  refine ⟨_, _, rfl, hwalk.breadthFirst hnearest, hquiet.faithful hp, fun name hname => ?_⟩
  obtain ⟨known, hknown⟩ := descendantsFrom_remembered.2 name hname
  rw [hknown, hquiet.faithful hp name known hknown]

namespace Amphibians

/-- Its own supertype, and a subtype of a type below it. -/
def vehicle : TypeDefinition where
  name := "org.acme.Vehicle"
  supertypes := ["org.acme.Vehicle", "org.acme.Cabrio"]

def car : TypeDefinition where
  name := "org.acme.Car"
  supertypes := ["org.acme.Vehicle"]

def cabrio : TypeDefinition where
  name := "org.acme.Cabrio"
  supertypes := ["org.acme.Car", "org.acme.Car"]

def boat : TypeDefinition where
  name := "org.acme.Boat"
  supertypes := ["org.acme.Vehicle"]

def amphicar : TypeDefinition where
  name := "org.acme.Amphicar"
  supertypes := ["org.acme.Boat", "org.acme.Car"]

def catalog : TypeCatalog := .ofList [amphicar, vehicle, cabrio, car, boat]

def below : List String := [car.name, boat.name, amphicar.name, cabrio.name]

/-- The walk goes round no cycle, and finds the amphicar once, behind both ways to it. -/
theorem vehicles_breadth_first : ∃ p',
    descendants catalog vehicle.name (catalog.subtypesOf vehicle.name) (.start .error) =
      .ok below p' ∧
    catalog.BreadthFirst vehicle.name below ∧ p'.Faithful catalog ∧
    p'.lookups.lookup car.name = some [amphicar.name, cabrio.name] := by
  have hwalk : (descendantsFrom catalog
      (without vehicle.name (catalog.definitions.map TypeDefinition.name))
      (catalog.subtypesOf vehicle.name) (.start .error)).1 = below := by decide +kernel
  have hcar : catalog.subtypesOf car.name = [amphicar.name, cabrio.name] := by decide +kernel
  have hsearches := descendants_breadth_first catalog
  obtain ⟨found, p', hrun, hsearch, hfaithful, hlookups⟩ :=
    hsearches.2.2 (.start .error) vehicle.name (hsearches.1 .error [])
  have hfound : found = below := by
    cases hrun
    exact hwalk
  subst found
  refine ⟨p', hrun, hsearch, hfaithful, ?_⟩
  rw [hlookups car.name (by simp [below]), hcar]

end Amphibians

end RestContract
