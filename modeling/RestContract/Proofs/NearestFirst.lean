import RestContract.Proofs.CompletionOrder
import RestContract.Proofs.LeafComponents

/-!
The order of what a leaf inherits. The attachments of the bases arrive in the order in which
the bases are completed. A nearer base that stands below a farther one, and does so one way,
is completed first, and the leaf before both; so the nearer base comes first in the leaf.
Where a member refers back up the hierarchy, a farther base can be completed inside a nearer
one, and then it comes first.
-/
namespace RestContract

/-- In a list without duplicates, two entries stand in the order of every sublist that has
them both. -/
theorem pair_sublist_of_nodup {α : Type} {l l' : List α} {x y : α} (hnodup : l.Nodup)
    (hpair : [x, y].Sublist l) (hsublist : l'.Sublist l) (hx : x ∈ l') (hy : y ∈ l') :
    [x, y].Sublist l' := by
  induction hsublist with
  | slnil => cases hx
  | @cons l' l a hrest ih =>
    obtain ⟨hnew, hnodup⟩ := List.nodup_cons.mp hnodup
    cases hpair with
    | cons _ hpair => exact ih hnodup hpair hx hy
    | cons_cons _ _ => exact absurd (hrest.subset hx) hnew
  | @cons_cons l' l a hrest ih =>
    obtain ⟨hnew, hnodup⟩ := List.nodup_cons.mp hnodup
    cases hpair with
    | cons _ hpair =>
      have hxne : x ≠ a := fun heq => hnew (heq ▸ hpair.subset (by simp))
      have hyne : y ≠ a := fun heq => hnew (heq ▸ hpair.subset (by simp))
      have hx' := (List.mem_cons.mp hx).resolve_left hxne
      have hy' := (List.mem_cons.mp hy).resolve_left hyne
      exact (ih hnodup hpair hx' hy').cons _
    | cons_cons _ hsingle =>
      have hyne : y ≠ x := fun heq => hnew (heq ▸ hsingle.subset (by simp))
      have hy' := (List.mem_cons.mp hy).resolve_left hyne
      exact (List.singleton_sublist.mpr hy').cons_cons x

theorem pair_sublist_of_map {α β : Type} {f : α → β} {l : List α} {x y : α}
    (hnodup : (l.map f).Nodup) (hx : x ∈ l) (hy : y ∈ l) (h : [f x, f y].Sublist (l.map f)) :
    [x, y].Sublist l := by
  obtain ⟨pair, hpair, heq⟩ := List.sublist_map_iff.mp h
  have hlength : pair.length = 2 := by simpa using (congrArg List.length heq).symm
  obtain ⟨x', y', rfl⟩ := List.length_eq_two.mp hlength
  injection heq with hfirst hrest
  injection hrest with hsecond
  have hx' : x = x' := List.inj_on_of_nodup_map hnodup hx (hpair.subset (by simp)) hfirst
  have hy' : y = y' := List.inj_on_of_nodup_map hnodup hy (hpair.subset (by simp)) hsecond
  rw [hx', hy']
  exact hpair

/-- Where no origin comes twice, a construction is at one place of the log. -/
theorem split_unique {log before after before' after' : List Construction}
    {c c' : Construction} (hnodup : (log.map Construction.origin).Nodup)
    (h : log = before ++ c :: after) (h' : log = before' ++ c' :: after')
    (horigin : c.origin = c'.origin) : before = before' ∧ after = after' := by
  have hsame : c = c' := List.inj_on_of_nodup_map hnodup (by simp [h]) (by simp [h']) horigin
  have hlog : (before ++ c :: after).Nodup := h ▸ hnodup.of_map
  have hnew := (List.nodup_cons.mp (List.nodup_middle.mp hlog)).1
  obtain ⟨hbefore, hafter⟩ := not_or.mp (mt List.mem_append.mpr hnew)
  have hboth : before ++ c :: after = before' ++ c' :: after' := h.symm.trans h'
  rw [← hsame, List.append_cons_inj_of_notMem hbefore hafter] at hboth
  exact ⟨hboth.1, hboth.2.2⟩

open Attachment

variable {catalog : TypeCatalog} {interface : Interface} {r : Registry}
  {base near far d e : TypeDefinition}

namespace TypeCatalog.BelowOneWay

theorem declared (h : catalog.BelowOneWay base e) : e ∈ catalog.definitions ∧ e.isEnum = false := by
  cases h with
  | single hone => exact ⟨hone.declared, hone.notEnum⟩
  | tail _ hone => exact ⟨hone.declared, hone.notEnum⟩

theorem below (h : catalog.BelowOneWay base e) : catalog.Below base.name e.name := by
  induction h with
  | single hone => exact .single hone.subtype
  | tail _ hone ih => exact ih.tail hone.subtype

theorem subtypes (h : catalog.BelowOneWay base e) : catalog.subtypesOf base.name ≠ [] := by
  obtain ⟨first, hone, -⟩ := Relation.TransGen.head'_iff.mp h
  exact List.ne_nil_of_mem hone.subtype

end TypeCatalog.BelowOneWay

/-- The leaf is completed first, then the nearer base, then the farther one. -/
theorem Pass.Growth.nearest_first {policy : CollisionPolicy} {p : Pass}
    {log : List Construction}
    (h : Growth catalog (Tracked catalog (Made catalog interface)) (.start policy) log p)
    (hfar : far ∈ catalog.definitions) (hlog : ∃ c ∈ log, c.origin = .type far.name)
    (hnear : catalog.BelowOneWay far near) (hbelow : catalog.BelowOneWay near d) :
    ∃ before c after, log = before ++ c :: after ∧ c.origin = .type d.name ∧
      [Origin.type near.name, Origin.type far.name].Sublist (after.map Construction.origin) := by
  obtain ⟨last, hlast, hlastOrigin⟩ := hlog
  obtain ⟨before, after, hsplit⟩ := List.append_of_mem hlast
  obtain ⟨middle, hmiddle, hmiddleOrigin⟩ :=
    h.completed_before hsplit hfar hlastOrigin hnear
  obtain ⟨before', between, rfl⟩ := List.append_of_mem hmiddle
  have hsplit' : log = before' ++ middle :: (between ++ last :: after) := by simpa using hsplit
  obtain ⟨first, hfirst, hfirstOrigin⟩ :=
    h.completed_before hsplit' hnear.declared.1 hmiddleOrigin hbelow
  obtain ⟨before'', between', rfl⟩ := List.append_of_mem hfirst
  refine ⟨before'', first, between' ++ middle :: (between ++ last :: after),
    by simpa using hsplit', hfirstOrigin, ?_⟩
  simp [hmiddleOrigin, hlastOrigin]

theorem exists_split_of_forall₂ {α β : Type} {related : α → β → Prop} {as : List α}
    {before after : List β} {b : β} (h : List.Forall₂ related as (before ++ b :: after)) :
    ∃ first a rest, as = first ++ a :: rest ∧ List.Forall₂ related first before ∧
      related a b := by
  have hdrop := List.forall₂_drop_append _ _ _ h
  obtain ⟨a, rest, ha, -, heq⟩ := List.forall₂_cons_right_iff.mp hdrop
  refine ⟨as.take before.length, a, rest, ?_, List.forall₂_take_append _ _ _ h, ha⟩
  rw [← heq, List.take_append_drop]

theorem exists_sublist_related {α β : Type} {related : α → β → Prop} {as : List α}
    {bs bs' : List β} (h : List.Forall₂ related as bs) (hsublist : bs'.Sublist bs) :
    ∃ as', as'.Sublist as ∧ List.Forall₂ related as' bs' := by
  induction hsublist generalizing as with
  | slnil =>
    cases h
    exact ⟨[], .slnil, .nil⟩
  | cons b _ ih =>
    cases h with
    | cons _ hrest =>
      obtain ⟨as', hsublist', hrelated⟩ := ih hrest
      exact ⟨as', hsublist'.cons _, hrelated⟩
  | cons_cons b _ ih =>
    cases h with
    | cons hfirst hrest =>
      obtain ⟨as', hsublist', hrelated⟩ := ih hrest
      exact ⟨_ :: as', hsublist'.cons_cons _, .cons hfirst hrelated⟩

/-- The members of the nearer base come before those of the farther base. -/
theorem parts_of_bases {parts : List SchemaRef} {bases : List TypeDefinition}
    (h : List.Forall₂ IsMembersPart parts (bases.filter fun b => b.serializedMembers ≠ []))
    (hpair : [near, far].Sublist bases) (hnear : near.serializedMembers ≠ [])
    (hfar : far.serializedMembers ≠ []) :
    ∃ first second, [first, second].Sublist parts ∧ IsMembersPart first near ∧
      IsMembersPart second far := by
  have hfilter := hpair.filter fun b => decide (b.serializedMembers ≠ [])
  simp only [List.filter_cons, hnear, hfar, ne_eq, not_false_eq_true, decide_true, if_true,
    List.filter_nil] at hfilter
  obtain ⟨pair, hsublist, hrelated⟩ := exists_sublist_related h hfilter
  obtain ⟨first, rest, hfirst, hrest, rfl⟩ := List.forall₂_cons_right_iff.mp hrelated
  obtain ⟨second, last, hsecond, hnil, rfl⟩ := List.forall₂_cons_right_iff.mp hrest
  cases List.forall₂_nil_right_iff.mp hnil
  exact ⟨first, second, hsublist, hfirst, hsecond⟩

/-- If no other base has the property of the farther base, the property of the nearer base
is required before it. -/
theorem required_of_bases {s : Schema} {attachments : List Attachment}
    {bases : List TypeDefinition} (hplain : s.isPlainObject = true) (hs : s.required = none)
    (hfrom : List.Forall₂ (ComesFrom catalog r) attachments bases) (hnodup : bases.Nodup)
    (hpair : [near, far].Sublist bases)
    (hone : ∀ b ∈ bases, Naming.discriminatorProperty b.simpleName =
      Naming.discriminatorProperty far.simpleName → b = far) :
    [Naming.discriminatorProperty near.simpleName,
      Naming.discriminatorProperty far.simpleName].Sublist
        ((applyAll attachments s).required.getD []) := by
  -- Cut the bases at the farther one, and the attachments with them.
  obtain ⟨start, rest, rfl, hnear, hfar⟩ := List.cons_sublist_iff.mp hpair
  obtain ⟨between, after, rfl⟩ := List.append_of_mem (List.singleton_sublist.mp hfar)
  rw [← List.append_assoc] at hfrom hnodup hone
  obtain ⟨first, a, last, rfl, hfirst, ha⟩ := exists_split_of_forall₂ hfrom
  have hplain' : (applyAll first s).isPlainObject = true := isPlainObject_applyAll.trans hplain
  have hknown : Naming.discriminatorProperty near.simpleName ∈
      (applyAll first s).required.getD [] := by
    have hmem : near ∈ start ++ between := List.mem_append_left _ hnear
    rw [mem_required_applyAll hplain, exists_property_iff hfirst]
    exact .inr ⟨near, hmem, rfl⟩
  have hnew : a.property ∉ (applyAll first s).required.getD [] := by
    rw [mem_required_applyAll hplain, exists_property_iff hfirst, hs]
    rintro (hnone | ⟨b, hb, heq⟩)
    · cases hnone
    · have hsame := hone b (List.mem_append_left _ hb) (heq.symm.trans ha.property)
      have hdisjoint := (List.nodup_append.mp hnodup).2.2
      exact hdisjoint b hb far (List.mem_cons_self ..) hsame
  have hnow : (a.apply (applyAll first s)).required.getD [] =
      (applyAll first s).required.getD [] ++ [a.property] := by
    rw [required_apply hplain', Option.getD_some, if_neg (by simpa using hnew)]
  rw [applyAll_append, applyAll_cons, ← ha.property]
  refine List.Sublist.trans ?_
    (required_prefix_applyAll (isPlainObject_apply.trans hplain')).sublist
  rw [hnow]
  exact (List.singleton_sublist.mpr hknown).append (.refl [a.property])

namespace Compilation

/-- The nearest base comes first. Let a leaf stand below a nearer concrete base, and this one
below a farther concrete base, each along subtypes that are no enumerations and do not lead
back to the base. If the farther base has a component, then in the component of the leaf the
members of the nearer base come before those of the farther one, and so does its
discriminator property, unless a third base has the same property as the farther one. -/
theorem nearest_base_first (definitions : List TypeDefinition) (options : CompilerOptions)
    (interface : Interface) (document : Document) (pass : Pass)
    (h : interfacePass (.ofList definitions) options interface
      (.start options.collisionPolicy) = .ok document pass)
    (d : TypeDefinition) (hleaf : (TypeCatalog.ofList definitions).subtypesOf d.name = [])
    (name : String) (hname : pass.registry.nameOf? (.type d.name) = some name)
    (near far : TypeDefinition) (hnear : near.isInterface = false)
    (hfar : far ∈ (TypeCatalog.ofList definitions).definitions)
    (hconcrete : far.isInterface = false ∧ far.isEnum = false) (hregistered : Registered pass far)
    (hbelow : (TypeCatalog.ofList definitions).BelowOneWay near d)
    (habove : (TypeCatalog.ofList definitions).BelowOneWay far near) :
    ∃ schema bases, document.schema? name = some schema ∧ bases.Nodup ∧
      (∀ b, b ∈ bases ↔ ConcreteBase (.ofList definitions) d.name b ∧ Registered pass b) ∧
      [near, far].Sublist bases ∧
      List.Forall₂ IsMembersPart (schema.allOf.getD [])
        (bases.filter fun b => b.serializedMembers ≠ []) ∧
      (near.serializedMembers ≠ [] → far.serializedMembers ≠ [] →
        ∃ first second, [first, second].Sublist (schema.allOf.getD []) ∧
          IsMembersPart first near ∧ IsMembersPart second far) ∧
      ((∀ b ∈ bases, Naming.discriminatorProperty b.simpleName =
          Naming.discriminatorProperty far.simpleName → b = far) →
        [Naming.discriminatorProperty near.simpleName,
          Naming.discriminatorProperty far.simpleName].Sublist (schema.required.getD [])) := by
  obtain ⟨served, log, p, run, hgrowth⟩ := exists_tracked_run h
  obtain ⟨before, c, after, depth, members, bases, hlog, horigin, ⟨placed, -, rfl⟩, hschema,
    hsublist, hbases, hfrom⟩ := run.leaf_arrivals hbelow.declared.1 hleaf hname
  have hnodup := run.nodup_others hlog
  have hbasesNodup : bases.Nodup := (hnodup.sublist hsublist).of_map
  obtain ⟨before', c', after', hlog', horigin', hafter⟩ := hgrowth.nearest_first hfar
    (run.registered_iff.mp hregistered) habove hbelow
  obtain ⟨-, rfl⟩ := split_unique (run.growth.nodup) hlog hlog'
    (horigin.trans horigin'.symm)
  have hpair : [Origin.type near.name, Origin.type far.name].Sublist
      ((after ++ before).map Construction.origin) := by
    rw [List.map_append]
    exact hafter.trans (List.sublist_append_left ..)
  have hnearBase : near ∈ bases := by
    obtain ⟨c, hc, hown⟩ := List.mem_map.mp (hafter.subset (List.mem_cons_self ..))
    refine (hbases near).mpr ⟨⟨habove.declared.1, ⟨hnear, habove.declared.2⟩, hbelow.subtypes,
      hbelow.below⟩, run.registered_iff.mpr ⟨c, ?_, hown⟩⟩
    simp [hlog, hc]
  have hfarBase : far ∈ bases :=
    (hbases far).mpr ⟨⟨hfar, hconcrete, habove.subtypes, habove.below.trans hbelow.below⟩,
      hregistered⟩
  have horder : [near, far].Sublist bases :=
    pair_sublist_of_map (hnodup.sublist hsublist) hnearBase hfarBase
      (pair_sublist_of_nodup hnodup hpair hsublist
        (List.mem_map.mpr ⟨near, hnearBase, rfl⟩) (List.mem_map.mpr ⟨far, hfarBase, rfl⟩))
  have hplain : ((Schema.objectOf (.ofList placed)).withDescription d.name).isPlainObject = true :=
    rfl
  have hparts := (allOf_of_bases hplain rfl hfrom).1
  refine ⟨_, bases, hschema, hbasesNodup, hbases, horder, hparts, ?_, ?_⟩
  · exact fun hnear hfar => parts_of_bases hparts horder hnear hfar
  · exact fun hone => required_of_bases hplain rfl hfrom hbasesNodup horder hone

end Compilation

-- A chain of three types, with one member of the middle one left open.
namespace Garage

def vehicle : TypeDefinition where
  name := "org.acme.Vehicle"
  members := [⟨"wheels", .ofName "int", false, false⟩]

def car (m : Member) : TypeDefinition where
  name := "org.acme.Car"
  supertypes := ["org.acme.Vehicle"]
  members := [m]

def cabrio : TypeDefinition where
  name := "org.acme.Cabrio"
  supertypes := ["org.acme.Car"]
  members := [⟨"roof", .ofName "java.lang.String", false, false⟩]

def types (m : Member) : List TypeDefinition := [vehicle, car m, cabrio]

def seats : Member := ⟨"seats", .ofName "int", false, false⟩

/-- A member of the car that refers back to the vehicle. -/
def towed : Member := ⟨"towed", .ofName "org.acme.Vehicle", false, false⟩

def partNames : SchemaRef → List String
  | .inline part => part.propertyMap.keys
  | .reference _ => []

def service : Interface where
  name := "org.acme.IGarage"
  operations :=
    [{ name := "find", returns := .ofName "org.acme.Car" },
      { name := "all", returns := .ofName "org.acme.Vehicle" }]

/-- With seats, the car and the cabrio lead to each other and to scalars only. -/
theorem oneWay : (TypeCatalog.ofList (types seats)).BelowOneWay (car seats) cabrio ∧
    (TypeCatalog.ofList (types seats)).BelowOneWay vehicle (car seats) := by
  have hcabrio : (TypeCatalog.ofList (types seats)).Encloses [.ofName "java.lang.String"]
      [cabrio] := by decide +kernel
  have hcar : (TypeCatalog.ofList (types seats)).Encloses
      [.ofName "int", .ofName "java.lang.String"] [car seats, cabrio] := by decide +kernel
  refine ⟨.single ⟨by decide +kernel, rfl, by decide +kernel, fun hleads => ?_⟩,
    .single ⟨by decide +kernel, rfl, by decide +kernel, fun hleads => ?_⟩⟩
  · exact absurd (hleads.enclosed hcabrio (by decide +kernel)) (by decide +kernel)
  · exact absurd (hleads.enclosed hcar (by decide +kernel)) (by decide +kernel)

end Garage

namespace Compilation

open Garage in
/-- Without a member that refers back, the car comes before the vehicle. -/
theorem garage_nearest_base_first : ∃ document pass schema,
    interfacePass (.ofList (types seats)) {} service (.start .error) = .ok document pass ∧
      (TypeCatalog.ofList (types seats)).subtypesOf cabrio.name = [] ∧
      pass.registry.nameOf? (.type cabrio.name) = some "Cabrio" ∧ Registered pass vehicle ∧
      (TypeCatalog.ofList (types seats)).BelowOneWay (car seats) cabrio ∧
      (TypeCatalog.ofList (types seats)).BelowOneWay vehicle (car seats) ∧
      document.schema? "Cabrio" = some schema ∧
      (∃ first second, [first, second].Sublist (schema.allOf.getD []) ∧
        IsMembersPart first (car seats) ∧ IsMembersPart second vehicle) ∧
      ["type_car", "type_vehicle"].Sublist (schema.required.getD []) := by
  have hnames : (pass? (.ofList (types seats)) {} service).map (fun result =>
      [cabrio, vehicle].map fun d => result.2.registry.nameOf? (.type d.name)) =
        some [some "Cabrio", some "Vehicle"] := by decide +kernel
  obtain ⟨⟨document, pass⟩, hsome, hlist⟩ := Option.map_eq_some_iff.mp hnames
  injection hlist with hcabrio hrest
  injection hrest with hvehicle
  have h := pass?_eq_some.mp hsome
  have hleaf : (TypeCatalog.ofList (types seats)).subtypesOf cabrio.name = [] := by decide +kernel
  have hdistinct : ∀ b ∈ (TypeCatalog.ofList (types seats)).definitions,
      Naming.discriminatorProperty b.simpleName =
        Naming.discriminatorProperty vehicle.simpleName → b = vehicle := by decide +kernel
  have hproperties : Naming.discriminatorProperty (car seats).simpleName = "type_car" ∧
      Naming.discriminatorProperty vehicle.simpleName = "type_vehicle" := by decide +kernel
  obtain ⟨schema, bases, hschema, -, hbases, -, -, hparts, hrequired⟩ :=
    nearest_base_first (types seats) {} service document pass h cabrio hleaf "Cabrio" hcabrio
      (car seats) vehicle rfl (by decide +kernel) ⟨rfl, rfl⟩ ⟨"Vehicle", hvehicle⟩ oneWay.1 oneWay.2
  have horder := hrequired fun b hb => hdistinct b ((hbases b).mp hb).1.declared
  rw [hproperties.1, hproperties.2] at horder
  exact ⟨document, pass, schema, h, hleaf, hcabrio, ⟨"Vehicle", hvehicle⟩, oneWay.1, oneWay.2,
    hschema, hparts (by decide +kernel) (by decide +kernel), horder⟩

open Garage in
/-- With a car that refers back to the vehicle, the vehicle is completed inside the car, and
the cabrio lists the farther base first. -/
theorem garage_farthest_base_first :
    (do
      let (document, pass) ← pass? (.ofList (types towed)) {} service
      let schema ← document.schema? "Cabrio"
      return ([vehicle, car towed, cabrio].map fun d => pass.registry.nameOf? (.type d.name),
        schema.required.getD [], (schema.allOf.getD []).map partNames)) =
      some ([some "Vehicle", some "Car", some "Cabrio"], ["type_vehicle", "type_car"],
        [["wheels"], ["towed"]]) ∧
    [vehicle, car towed, cabrio].map (fun d =>
      (d.isInterface, d.isEnum, (TypeCatalog.ofList (types towed)).subtypesOf d.name)) =
      [(false, false, [(car towed).name]), (false, false, [cabrio.name]), (false, false, [])] := by
  decide +kernel

end Compilation

end RestContract
