import Mathlib.Logic.Relation
import RestContract.Proofs.FirstMeetings
import RestContract.Proofs.Passes

/-!
The order in which components are completed. While a type is resolved, some declared types
have a name and no schema yet: they are under way. Resolution came from each of them to
where it is now, so each of them leads there, along members, type arguments and subtypes.

When a base is completed, its subtypes have names. One that is still under way leads back to
the base; all others are completed before it. So a type is completed before every base that
it stands below one way, that is, along subtypes that do not lead back to the base.
-/
namespace RestContract

/-- One step of resolution from a type to the next. -/
inductive Leads (catalog : TypeCatalog) : Encounter → Encounter → Prop
  | part {t inner : TypeDescriptor} :
      classify t = .composite → inner ∈ t.parts → Leads catalog (.type t) (.type inner)
  | named {t : TypeDescriptor} {d : TypeDefinition} :
      t.isLookedUp = true → catalog.lookup? t.name = some d →
      Leads catalog (.type t) (.declared d)
  | member {d : TypeDefinition} {m : Member} :
      d.isEnum = false → catalog.subtypesOf d.name = [] ∨ d.isInterface = false →
      m ∈ d.serializedMembers → Leads catalog (.declared d) (.type m.type)
  | subtype {d e : TypeDefinition} {name : String} :
      d.isEnum = false → name ∈ catalog.subtypesOf d.name → catalog.lookup? name = some e →
      Leads catalog (.declared d) (.declared e)

def TypeCatalog.LeadsTo (catalog : TypeCatalog) (d e : TypeDefinition) : Prop :=
  Relation.ReflTransGen (Leads catalog) (.declared d) (.declared e)

def Encounter.Among (ts : List TypeDescriptor) (ds : List TypeDefinition) : Encounter → Prop
  | .type t => t ∈ ts
  | .declared d => d ∈ ds

namespace TypeCatalog

variable {catalog : TypeCatalog} {ts : List TypeDescriptor} {ds : List TypeDefinition}
  {d e : TypeDefinition} {x y : Encounter}

/-- No step leads out of the types and declared types listed. -/
def Encloses (catalog : TypeCatalog) (ts : List TypeDescriptor) (ds : List TypeDefinition) : Prop :=
  (∀ t ∈ ts, (∀ inner ∈ t.parts, inner ∈ ts) ∧
    (t.isLookedUp = true → ∀ e ∈ catalog.lookup? t.name, e ∈ ds)) ∧
  ∀ d ∈ ds, (∀ m ∈ d.serializedMembers, m.type ∈ ts) ∧
    ∀ name ∈ catalog.subtypesOf d.name, ∀ e ∈ catalog.lookup? name, e ∈ ds

instance : Decidable (catalog.Encloses ts ds) := inferInstanceAs (Decidable (_ ∧ _))

theorem Encloses.step (h : catalog.Encloses ts ds) (hx : x.Among ts ds)
    (hstep : Leads catalog x y) : y.Among ts ds := by
  obtain ⟨htypes, hdeclared⟩ := h
  cases hstep with
  | part _ hinner => exact (htypes _ hx).1 _ hinner
  | named hlookedUp hlookup => exact (htypes _ hx).2 hlookedUp _ hlookup
  | member _ _ hm => exact (hdeclared _ hx).1 _ hm
  | subtype _ hname hlookup => exact (hdeclared _ hx).2 _ hname _ hlookup

/-- What is enclosed leads to enclosed types only. -/
theorem LeadsTo.enclosed (h : catalog.LeadsTo d e) (hclosed : catalog.Encloses ts ds)
    (hd : d ∈ ds) : e ∈ ds := by
  have hpath : ∀ x, Relation.ReflTransGen (Leads catalog) (.declared d) x → x.Among ts ds := by
    intro x hx
    induction hx with
    | refl => exact hd
    | tail _ hstep ih => exact hclosed.step ih hstep
  exact hpath (.declared e) h

end TypeCatalog

namespace Registry

variable {catalog : TypeCatalog} {r r' : Registry} {x y : Encounter} {e : TypeDefinition}

def UnderWay (r : Registry) (e : TypeDefinition) : Prop :=
  (r.nameOf? (.type e.name)).isSome = true ∧ r.schemaOf? (.type e.name) = none

def Trails (catalog : TypeCatalog) (r : Registry) (x : Encounter) : Prop :=
  ∀ e ∈ catalog.definitions, r.UnderWay e → Relation.ReflTransGen (Leads catalog) (.declared e) x

theorem Trails.step (h : r.Trails catalog x) (hstep : Leads catalog x y) :
    r.Trails catalog y := fun e he hunder => (h e he hunder).tail hstep

theorem Trails.of_underWay (h : r.Trails catalog x)
    (hunder : ∀ e ∈ catalog.definitions, r'.UnderWay e → r.UnderWay e) :
    r'.Trails catalog x := fun e he hnow => h e he (hunder e he hnow)

end Registry

namespace Pass

variable {catalog : TypeCatalog} {rule : Registry → Construction → Prop} {p p' : Pass}
  {name : String} {origin : Origin} {e : TypeDefinition} {x : Encounter}

/-- A growth completes whatever it starts. -/
theorem GrowsTo.underWay (h : p.GrowsTo catalog rule p') (hnow : p'.registry.UnderWay e) :
    p.registry.UnderWay e := by
  obtain ⟨log, hgrowth⟩ := h
  obtain ⟨hnamed, hunbuilt⟩ := hnow
  obtain ⟨name, hname⟩ := Option.isSome_iff_exists.mp hnamed
  rcases hgrowth.known_or_constructed hname with hknown | ⟨c, hc, horigin, -⟩
  · have hbuilt := hgrowth.built_iff hknown
    rw [hunbuilt] at hbuilt
    exact ⟨by simp [hknown], by simpa using hbuilt.symm⟩
  · have hbuilt := (hgrowth.constructed hc).2.2
    rw [horigin, hunbuilt] at hbuilt
    cases hbuilt

/-- A claim starts the construction of its own origin and no other. -/
theorem Enrolls.underWay (h : p.Enrolls name origin p') (hnow : p'.registry.UnderWay e) :
    origin = .type e.name ∨ p.registry.UnderWay e := by
  obtain ⟨hnamed, hunbuilt⟩ := hnow
  rw [h.nameOf?_eq] at hnamed
  rw [h.schemaOf?_eq] at hunbuilt
  by_cases heq : Origin.type e.name = origin
  · exact .inl heq.symm
  · rw [if_neg heq] at hnamed
    exact .inr ⟨hnamed, hunbuilt⟩

theorem Enrolls.underWay_of_synthetic {signature : String}
    (h : p.Enrolls name (.synthetic signature) p')
    (hnow : p'.registry.UnderWay e) : p.registry.UnderWay e := by
  rcases h.underWay hnow with heq | hbefore
  · cases heq
  · exact hbefore

structure Trailing (catalog : TypeCatalog) (x : Encounter) (depth levels : Nat) (p : Pass) :
    Prop where
  roomy : p.Roomy catalog depth levels
  trails : p.registry.Trails catalog x

structure Idle (catalog : TypeCatalog) (p : Pass) : Prop where
  faithful : p.Faithful catalog
  none : ∀ e ∈ catalog.definitions, ¬p.registry.UnderWay e

theorem Idle.start (catalog : TypeCatalog) (policy : CollisionPolicy) :
    (Pass.start policy).Idle catalog where
  faithful := .start catalog policy
  none e _ hnow := by simp [Registry.UnderWay, Pass.start, Registry.empty, Registry.nameOf?] at hnow

end Pass

/-- The rule holds, and where a declared type is completed, all that is under way leads to
it. -/
def Tracked (catalog : TypeCatalog) (rule : Registry → Construction → Prop) (r : Registry)
    (c : Construction) : Prop :=
  rule r c ∧ ∀ d ∈ catalog.definitions, c.origin = .type d.name → r.Trails catalog (.declared d)

theorem Tracked.of_synthetic {catalog : TypeCatalog} {rule : Registry → Construction → Prop}
    {r : Registry} {c : Construction} {signature : String}
    (horigin : c.origin = .synthetic signature) (h : rule r c) : Tracked catalog rule r c := by
  refine ⟨h, fun d _ htype => ?_⟩
  rw [horigin] at htype
  cases htype

/-- With so many levels, constructions are tracked, if all that is under way leads to the
type that is resolved. -/
structure Resolver.Tracks (catalog : TypeCatalog) (levels : Nat) (resolver : Resolver) :
    Prop where
  resolve : ∀ (t : TypeDescriptor) (depth : Nat) (p : Pass),
    p.Trailing catalog (.type t) depth levels →
    Resolving.Grows catalog (Tracked catalog (Lawful catalog)) (resolver.resolve t depth) p
      fun ref r => r.position? catalog t depth = some ref
  subtype : ∀ (name : String) (depth : Nat) (p : Pass), p.Roomy catalog depth levels →
    (∀ e, catalog.lookup? name = some e → p.registry.Trails catalog (.declared e)) →
    Resolving.Grows catalog (Tracked catalog (Lawful catalog)) (resolver.subtype name depth) p
      fun ref r => r.namedPosition? catalog name = some ref

namespace Resolver

open Resolving

variable {catalog : TypeCatalog} {levels depth : Nat} {resolver : Resolver} {p : Pass}
  {d : TypeDefinition} {t : TypeDescriptor}

theorem setting_trailing (catalog : TypeCatalog) (x : Encounter) (depth levels : Nat) :
    Setting catalog (Tracked catalog (Lawful catalog))
      (Pass.Trailing catalog x depth levels) where
  faithful _ hp := hp.roomy.faithful
  grows p p' hp hgrows := by
    refine ⟨hp.roomy.of_extends (hgrows.faithful hp.roomy.faithful) hgrows.keeps, ?_⟩
    exact hp.trails.of_underWay fun e _ hnow => hgrows.underWay hnow
  claims p p' name signature hp henrolls := by
    refine ⟨hp.roomy.of_extends (henrolls.faithful hp.roomy.faithful) henrolls.keeps, ?_⟩
    exact hp.trails.of_underWay fun e _ hnow => henrolls.underWay_of_synthetic hnow
  synthetic _ _ _ horigin hlawful := .of_synthetic horigin hlawful

namespace Tracks

variable (h : resolver.Tracks catalog levels)

include h

theorem declared (hp : p.Trailing catalog (.declared d) depth (levels + 1))
    (hd : d ∈ catalog.definitions) :
    Grows catalog (Tracked catalog (Lawful catalog)) (resolver.declared catalog d depth) p
      fun ref r =>
        (if d.isEnum then some (.inline (enumSchema d)) else r.reference? (.type d.name)) =
          some ref := by
  refine grows_declared fun henum name p' henrolls => ?_
  have hinside : p'.Trailing catalog (.declared d) (depth + 1) levels := by
    refine ⟨⟨henrolls.faithful hp.roomy.faithful, ?_⟩, fun e he hnow => ?_⟩
    · exact TypeCatalog.room_lt hp.roomy.room hd henrolls
    · -- The type itself is under way now, and it leads to itself.
      rcases henrolls.underWay hnow with heq | hbefore
      · rw [TypeCatalog.eq_of_name_eq he hd (Origin.type.inj heq).symm]
      · exact hp.trails e he hbefore
  refine builds_component (setting_trailing catalog (.declared d) (depth + 1) levels) hinside ?_ hd
    henum (fun hopen m hm p hp => ?_) fun name hname p hp => ?_
  · intro p c hp horigin hlawful
    refine ⟨hlawful, fun d' hd' horigin' => ?_⟩
    rw [horigin] at horigin'
    rw [TypeCatalog.eq_of_name_eq hd' hd (Origin.type.inj horigin').symm]
    exact hp.trails
  · exact h.resolve m.type (depth + 1) p ⟨hp.roomy, hp.trails.step (.member henum hopen hm)⟩
  · exact h.subtype name (depth + 1) p hp.roomy fun e he =>
      hp.trails.step (.subtype henum hname he)

theorem named (hp : p.Roomy catalog depth (levels + 1))
    (htrails : ∀ e, catalog.lookup? t.name = some e → p.registry.Trails catalog (.declared e)) :
    Grows catalog (Tracked catalog (Lawful catalog)) (resolver.named catalog t depth) p
      fun ref r => r.namedPosition? catalog t.name = some ref := by
  refine grows_named (fun hnone r c horigin hlawful => ?_) fun d hlookup p' hgrows => ?_
  · refine ⟨hlawful, fun d hd horigin' => ?_⟩
    rw [horigin] at horigin'
    rw [Origin.type.inj horigin', TypeCatalog.lookup?_name hd] at hnone
    cases hnone
  · have hp' := (setting_trailing catalog (.declared d) depth (levels + 1)).grows p p'
      ⟨hp, htrails d hlookup⟩ hgrows
    exact h.declared hp' (TypeCatalog.mem_of_lookup? hlookup)

theorem step : (resolver.step catalog).Tracks catalog (levels + 1) where
  subtype name depth p hp htrails := h.named hp htrails
  resolve t depth p hp := by
    refine grows_any fun hdepth hclass => ?_
    have hinside : p.Trailing catalog (.type t) (depth + 1) levels := by
      have hroom := hp.roomy.room
      refine ⟨⟨hp.roomy.faithful, ?_⟩, hp.trails⟩
      unfold TypeCatalog.room at hroom ⊢
      omega
    refine grows_composite (setting_trailing catalog (.type t) (depth + 1) levels) hinside
      (fun inner hinner p hp => ?_) fun hnamed => h.named hp.roomy fun e he => ?_
    · exact h.resolve inner (depth + 1) p ⟨hp.roomy, hp.trails.step (.part hclass hinner)⟩
    · have hlookedUp := TypeDescriptor.isLookedUp_iff.mpr ⟨hnamed, hclass⟩
      exact hp.trails.step (.named hlookedUp he)

end Tracks

theorem tracks_ofLevels (levels : Nat) :
    (ofLevels catalog levels).Tracks catalog levels := by
  induction levels with
  | zero =>
    exact ⟨fun _ _ _ hp => absurd hp.roomy.room (by omega),
      fun _ _ _ hp _ => absurd hp.room (by omega)⟩
  | succ levels ih => exact ih.step

end Resolver

/-- Compilation goes from root to root with nothing under way in between. -/
theorem wrapping_tracked {catalog : TypeCatalog} (interface : Interface) :
    Wrapping catalog interface (Tracked catalog (Made catalog interface))
      (Pass.Idle catalog) where
  faithful _ hp := hp.faithful
  grows p p' hp hgrows := by
    refine ⟨hgrows.faithful hp.faithful, fun e he hnow => ?_⟩
    exact hp.none e he (hgrows.underWay hnow)
  claims p p' name signature hp henrolls := by
    refine ⟨henrolls.faithful hp.faithful, fun e he hnow => ?_⟩
    exact hp.none e he (henrolls.underWay_of_synthetic hnow)
  synthetic _ _ _ horigin hlawful := .of_synthetic horigin (.resolved hlawful)
  root t p hp := by
    have hroomy : p.Roomy catalog 1 (maxDepth + 1 + catalog.size) :=
      ⟨hp.faithful, TypeCatalog.room_lt_full (Nat.le_refl 1)⟩
    have htrails : p.registry.Trails catalog (.type t) := fun e he hnow =>
      absurd hnow (hp.none e he)
    exact ((Resolver.tracks_ofLevels _).resolve t 1 p ⟨hroomy, htrails⟩).mono
      fun r c htracked => ⟨.resolved htracked.1, htracked.2⟩
  wrapper _ _ _ horigin hmade := .of_synthetic horigin hmade

section Below

variable {catalog : TypeCatalog} {interface : Interface} {r : Registry} {c : Construction}
  {base d e : TypeDefinition}

/-- A step to a direct subtype that is no enumeration and does not lead back to the base. -/
structure OneWay (catalog : TypeCatalog) (base d e : TypeDefinition) : Prop where
  declared : e ∈ catalog.definitions
  notEnum : e.isEnum = false
  subtype : e.name ∈ catalog.subtypesOf d.name
  away : ¬catalog.LeadsTo e base

def TypeCatalog.BelowOneWay (catalog : TypeCatalog) (base e : TypeDefinition) : Prop :=
  Relation.TransGen (OneWay catalog base) base e

/-- Where the component of a base is completed, its subtypes have names. -/
theorem Made.subtype_named (h : Made catalog interface r c)
    (hd : d ∈ catalog.definitions) (horigin : c.origin = .type d.name)
    (he : e ∈ catalog.definitions) (henum : e.isEnum = false)
    (hsubtype : e.name ∈ catalog.subtypesOf d.name) :
    (r.nameOf? (.type e.name)).isSome = true := by
  obtain ⟨-, ⟨hleaf, -⟩ | ⟨-, alternatives, halternatives, -⟩⟩ :=
    (h.lawful_of_type horigin).of_declared hd horigin
  · rw [hleaf] at hsubtype
    cases hsubtype
  · obtain ⟨ref, -, hposition⟩ := exists_related_of_mem halternatives.flip hsubtype
    unfold Registry.namedPosition? at hposition
    simp only [TypeCatalog.lookup?_name he, henum, Bool.false_eq_true, if_false] at hposition
    obtain ⟨name, hname, -⟩ := Registry.reference?_eq_some.mp hposition
    simp [hname]

/-- A type is completed before every base that it stands below one way. -/
theorem Pass.Growth.completed_before {policy : CollisionPolicy} {p : Pass}
    {log before after : List Construction}
    (h : Growth catalog (Tracked catalog (Made catalog interface)) (.start policy) log p)
    (hlog : log = before ++ c :: after) (hbase : base ∈ catalog.definitions)
    (horigin : c.origin = .type base.name) (hbelow : catalog.BelowOneWay base e) :
    ∃ b ∈ before, b.origin = .type e.name := by
  obtain ⟨r, ⟨hmade, htrails⟩, hsnapshot⟩ := h.snapshot (fun _ _ htracked => htracked.1)
    (fun _ _ _ hext hmade => hmade.mono hext) hlog
  -- One step down: the subtype has a name, and it cannot be under way.
  have hstep : ∀ d e (c : Construction), d ∈ catalog.definitions → c.origin = .type d.name →
      Made catalog interface r c → OneWay catalog base d e →
      ∃ b ∈ before, b.origin = .type e.name := by
    intro d e c hd hown hmade hone
    have hnamed := hmade.subtype_named hd hown hone.declared hone.notEnum hone.subtype
    have hbuilt : (r.schemaOf? (.type e.name)).isSome = true := by
      by_contra hunbuilt
      have hunder : r.UnderWay e := ⟨hnamed, by simpa using hunbuilt⟩
      exact hone.away (htrails base hbase horigin e hone.declared hunder)
    rcases (hsnapshot.built _).mp hbuilt with hstart | hbefore
    · simp [Pass.start, Registry.empty, Registry.schemaOf?, Registry.nameOf?] at hstart
    · exact hbefore
  have hall : e ∈ catalog.definitions ∧ ∃ b ∈ before, b.origin = .type e.name := by
    induction hbelow with
    | single hone => exact ⟨hone.declared, hstep base _ c hbase horigin hmade hone⟩
    | tail _ hone ih =>
      obtain ⟨hd, b, hb, hown⟩ := ih
      exact ⟨hone.declared, hstep _ _ b hd hown (hsnapshot.lawful b hb) hone⟩
  exact hall.2

end Below

namespace Compilation

/-- How a document came about, with all constructions tracked. -/
theorem exists_tracked_run {catalog : TypeCatalog} {options : CompilerOptions}
    {interface : Interface} {document : Document} {pass : Pass}
    (h : interfacePass catalog options interface
      (.start options.collisionPolicy) = .ok document pass) :
    ∃ served log p, Run catalog options interface document pass served log p ∧
      Pass.Growth catalog (Tracked catalog (Made catalog interface))
        (.start options.collisionPolicy) log p :=
  exists_run_within (wrapping_tracked interface)
    (.start catalog options.collisionPolicy) (fun _ _ htracked => htracked.1) h

end Compilation

end RestContract
