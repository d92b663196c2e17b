import RestContract.Proofs.Passes
import RestContract.Proofs.Sessions

/-!
What becomes of a component after it was built. Its name and its owner are settled by then,
and of its schema nothing is ever taken back: a base that comes to be resolved lays its
discriminator over the schema, as a required text property, and may add the members of the
base as one more part. This holds across requests, those that fail included, and of the
attachments that are settled only when the pass is finished.
-/
namespace RestContract

/-- The schema without what attachments write: its type, format, description, items, unique
items, additional properties, constants and alternatives. -/
def Schema.outline (s : Schema) : Schema :=
  { s with properties := none, required := none, allOf := none, discriminator := none }

/-- The second schema is the first with discriminators of declared types laid over it. -/
structure Schema.Labelled (catalog : TypeCatalog) (s s' : Schema) : Prop where
  outline : s'.outline = s.outline
  /-- A property is what it was, or it is a discriminator by now and holds a text. -/
  properties : ∀ name, s'.propertyMap.get? name = s.propertyMap.get? name ∨
    catalog.Discriminates name ∧ s'.propertyMap.get? name = some (.inline Schema.string)
  required : ∀ names, s.required = some names → ∃ more, s'.required = some (names ++ more)
  allOf : ∀ parts, s.allOf = some parts → ∃ more, s'.allOf = some (parts ++ more)

namespace Schema.Labelled

variable {catalog : TypeCatalog} {s s' s'' : Schema} {a : Attachment}
  {attachments : List Attachment}

theorem refl (s : Schema) : s.Labelled catalog s where
  outline := rfl
  properties _ := .inl rfl
  required names h := ⟨[], by simpa using h⟩
  allOf parts h := ⟨[], by simpa using h⟩

theorem trans (h : s.Labelled catalog s') (h' : s'.Labelled catalog s'') :
    s.Labelled catalog s'' where
  outline := h'.outline.trans h.outline
  properties name := by
    rcases h'.properties name with hsame | hlabel
    · rw [hsame]
      exact h.properties name
    · exact .inr hlabel
  required names hnames := by
    obtain ⟨more, hmore⟩ := h.required names hnames
    obtain ⟨more', hmore'⟩ := h'.required _ hmore
    exact ⟨more ++ more', by rw [hmore', List.append_assoc]⟩
  allOf parts hparts := by
    obtain ⟨more, hmore⟩ := h.allOf parts hparts
    obtain ⟨more', hmore'⟩ := h'.allOf _ hmore
    exact ⟨more ++ more', by rw [hmore', List.append_assoc]⟩

/-- One attachment. -/
theorem of_apply (ha : catalog.Discriminates a.property) : s.Labelled catalog (a.apply s) := by
  by_cases hplain : s.isPlainObject = true
  · refine ⟨?_, fun name => ?_, fun names hnames => ?_, fun parts hparts => ?_⟩
    · rw [Attachment.apply_of_plain hplain]
      rfl
    · rw [Attachment.propertyMap_apply hplain, SortedMap.get?_insert]
      by_cases hname : name = a.property
      · rw [if_pos hname, hname]
        exact .inr ⟨ha, rfl⟩
      · rw [if_neg hname]
        exact .inl rfl
    · rw [Attachment.required_apply hplain, hnames, Option.getD_some]
      split
      · exact ⟨[], by rw [List.append_nil]⟩
      · exact ⟨[a.property], rfl⟩
    · rw [Attachment.apply_of_plain hplain]
      cases hinherited : a.inherited with
      | none => exact ⟨[], by simp [Attachment.allOfAfter, hinherited, hparts]⟩
      | some members =>
        exact ⟨[.inline members], by simp [Attachment.allOfAfter, hinherited, hparts]⟩
  · rw [Attachment.apply_of_not_plain (by simpa using hplain)]
    exact refl s

theorem of_applyAll (h : ∀ a ∈ attachments, catalog.Discriminates a.property) :
    s.Labelled catalog (Attachment.applyAll attachments s) := by
  induction attachments generalizing s with
  | nil => exact refl s
  | cons a rest ih =>
    obtain ⟨hfirst, hrest⟩ := List.forall_mem_cons.mp h
    exact (of_apply hfirst).trans (ih hrest)

/-- Those of the attachments that are aimed at one origin. -/
theorem of_aimedAt (h : ∀ a ∈ attachments, catalog.Discriminates a.property) (origin : Origin) :
    s.Labelled catalog (Attachment.applyAll (Attachment.aimedAt origin attachments) s) :=
  of_applyAll fun a ha => h a (Attachment.mem_aimedAt.mp ha).1

end Schema.Labelled

def Registry.LabelledInto (catalog : TypeCatalog) (r r' : Registry) : Prop :=
  ∀ name entry, r.entries.get? name = some entry →
    ∃ entry', r'.entries.get? name = some entry' ∧ entry'.origin = entry.origin ∧
      ∀ s, entry.schema = some s → ∃ s', entry'.schema = some s' ∧ s.Labelled catalog s'

/-- Entries belong to origins, so it is enough to look at origins and their schemas. -/
theorem Registry.labelledInto_of_origins {catalog : TypeCatalog} {r r' : Registry}
    (hext : r.Extends r') (h : ∀ origin s, r.schemaOf? origin = some s →
      ∃ s', r'.schemaOf? origin = some s' ∧ s.Labelled catalog s') :
    r.LabelledInto catalog r' := by
  intro name entry hentry
  have hname := (r.owned entry.origin name).mpr ⟨entry, hentry, rfl⟩
  have hname' := hext _ _ hname
  obtain ⟨entry', hentry', horigin⟩ := (r'.owned entry.origin name).mp hname'
  refine ⟨entry', hentry', horigin, fun s hs => ?_⟩
  have hschema : r.schemaOf? entry.origin = some s := by
    rw [schemaOf?_of_nameOf? hname, get?_eq_bind, hentry, Option.bind_some, hs]
  obtain ⟨s', hs', hlabelled⟩ := h _ s hschema
  rw [schemaOf?_of_nameOf? hname', get?_eq_bind, hentry', Option.bind_some] at hs'
  exact ⟨s', hs', hlabelled⟩

namespace Pass

variable {catalog : TypeCatalog} {p p' : Pass} {log : List Construction} {c : Construction}
  {origin : Origin} {s : Schema}

def DefersLabels (catalog : TypeCatalog) (p : Pass) : Prop :=
  ∀ a ∈ p.deferred, catalog.Discriminates a.property

theorem defersLabels_start (catalog : TypeCatalog) (policy : CollisionPolicy) :
    (start policy).DefersLabels catalog := by
  intro a ha
  cases ha

/-- The last move of a construction defers attachments of its own only. -/
theorem DefersLabels.complete (h : p.DefersLabels catalog)
    (hc : Labels catalog p.registry c) : (p.complete c).DefersLabels catalog := by
  intro a ha
  have hwaits : a ∈ (p.complete c).waiting a.target := Attachment.mem_aimedAt.mpr ⟨ha, rfl⟩
  rw [waiting_complete] at hwaits
  split at hwaits
  · exact h a (Attachment.mem_aimedAt.mp hwaits).1
  · rcases List.mem_append.mp hwaits with hbefore | hown
    · exact h a (Attachment.mem_aimedAt.mp hbefore).1
    · exact hc a (Attachment.mem_aimedAt.mp hown).1

theorem Growth.defersLabels (h : Growth catalog (Labels catalog) p log p')
    (hdeferred : p.DefersLabels catalog) : p'.DefersLabels catalog := by
  induction h with
  | quiet hquiet =>
    intro a ha
    rw [hquiet.deferred] at ha
    exact hdeferred a ha
  | append h _ ih ih' => exact ih' (ih hdeferred)
  | @construct p p' registry log c hclaim hbody hlast ih =>
    have hinside : p'.DefersLabels catalog := ih hdeferred
    exact hinside.complete hlast

theorem Interrupted.defersLabels (h : Interrupted catalog (Labels catalog) p p')
    (hdeferred : p.DefersLabels catalog) : p'.DefersLabels catalog := by
  induction h with
  | here p => exact hdeferred
  | after hgrowth _ ih => exact ih (hgrowth.defersLabels hdeferred)
  | inside hclaim _ ih => exact ih hdeferred

/-- The last move of a construction labels the schemas of the other origins. -/
theorem labelled_complete (hname : p.registry.nameOf? c.origin = some c.name)
    (hc : Labels catalog p.registry c) (hother : origin ≠ c.origin)
    (hs : p.registry.schemaOf? origin = some s) :
    ∃ s', (p.complete c).registry.schemaOf? origin = some s' ∧ s.Labelled catalog s' := by
  refine ⟨_, ?_, .of_aimedAt hc origin⟩
  rw [schemaOf?_complete hname, if_neg hother, hs, Option.map_some]

theorem Growth.labelled (h : Growth catalog (Labels catalog) p log p')
    (hs : p.registry.schemaOf? origin = some s) :
    ∃ s', p'.registry.schemaOf? origin = some s' ∧ s.Labelled catalog s' := by
  induction h generalizing s with
  | quiet hquiet =>
    rw [← hquiet.registry] at hs
    exact ⟨s, hs, .refl s⟩
  | append h _ ih ih' =>
    obtain ⟨s₁, hs₁, hlabelled₁⟩ := ih hs
    obtain ⟨s₂, hs₂, hlabelled₂⟩ := ih' hs₁
    exact ⟨s₂, hs₂, hlabelled₁.trans hlabelled₂⟩
  | @construct p p' registry log c hclaim hbody hlast ih =>
    obtain ⟨hname, hpending⟩ := pending hclaim hbody
    obtain ⟨hnone, hfree, rfl⟩ := claim_new hclaim
    rw [← Registry.schemaOf?_enroll hfree hnone] at hs
    obtain ⟨s₁, hs₁, hlabelled₁⟩ := ih hs
    -- What is built is not what is under construction.
    have hother : origin ≠ c.origin := by
      intro heq
      rw [heq, hpending] at hs₁
      cases hs₁
    obtain ⟨s₂, hs₂, hlabelled₂⟩ := labelled_complete hname hlast hother hs₁
    exact ⟨s₂, hs₂, hlabelled₁.trans hlabelled₂⟩

theorem Interrupted.labelled (h : Interrupted catalog (Labels catalog) p p')
    (hs : p.registry.schemaOf? origin = some s) :
    ∃ s', p'.registry.schemaOf? origin = some s' ∧ s.Labelled catalog s' := by
  induction h generalizing s with
  | here p => exact ⟨s, hs, .refl s⟩
  | after hgrowth _ ih =>
    obtain ⟨s₁, hs₁, hlabelled₁⟩ := hgrowth.labelled hs
    obtain ⟨s₂, hs₂, hlabelled₂⟩ := ih hs₁
    exact ⟨s₂, hs₂, hlabelled₁.trans hlabelled₂⟩
  | inside hclaim _ ih =>
    obtain ⟨hnone, hfree, rfl⟩ := claim_new hclaim
    rw [← Registry.schemaOf?_enroll hfree hnone] at hs
    exact ih hs

theorem Interrupted.labelledInto (h : Interrupted catalog (Labels catalog) p p') :
    p.registry.LabelledInto catalog p'.registry :=
  Registry.labelledInto_of_origins h.keeps fun _ _ hs => h.labelled hs

/-- The end of a pass. -/
theorem labelledInto_finish (hdeferred : p.DefersLabels catalog) :
    p.registry.LabelledInto catalog p.finish.registry := by
  have hext : p.registry.Extends p.finish.registry := by
    intro origin name hname
    rw [finish_registry, Registry.nameOf?_takeAll, hname]
  refine Registry.labelledInto_of_origins hext fun origin s hs => ?_
  refine ⟨_, ?_, .of_aimedAt hdeferred origin⟩
  rw [schemaOf?_finish, hs, Option.map_some]
  rfl

end Pass

open Pass in
/-- Whatever was asked of a pass before, one more request or the end of the pass leaves each
entry under its name and with its owner, and lays over a schema that is built discriminators
of declared types and nothing else. It does not matter whether the request succeeds. -/
theorem components_only_labelled (catalog : TypeCatalog) (policy : CollisionPolicy)
    (requests : List Request) :
    (∀ request, ((start policy).afterAll catalog requests).registry.LabelledInto catalog
      (((start policy).afterAll catalog requests).after catalog request).registry) ∧
    ((start policy).afterAll catalog requests).registry.LabelledInto catalog
      ((start policy).afterAll catalog requests).finish.registry := by
  have hstart : (start policy).Faithful catalog := .start catalog policy
  have hreached := faithful_reached catalog policy requests
  have hdeferred := (interrupted_afterAll hstart requests).defersLabels
    (defersLabels_start catalog policy)
  constructor
  · intro request
    exact (interrupted_after hreached request).labelledInto
  · exact labelledInto_finish hdeferred

namespace Fleet

/-- The cabrio is built on its own, and labelled once its bases are asked for. -/
theorem cabrio_labelled_by_bases :
    let catalog := TypeCatalog.ofList types
    let first := (Pass.start .error).afterAll catalog [.resolve (.ofName cabrio.name)]
    let second := first.after catalog (.resolve (.ofName vehicle.name))
    ∃ s s', first.registry.get? "Cabrio" = some s ∧ s.required = none ∧
      second.registry.get? "Cabrio" = some s' ∧ s'.required = some ["type_car", "type_vehicle"] ∧
      s.Labelled catalog s' := by
  intro catalog first second
  have hfirst : (first.registry.get? "Cabrio").map Schema.required = some none := by
    decide +kernel
  have hsecond : (second.registry.get? "Cabrio").map Schema.required =
      some (some ["type_car", "type_vehicle"]) := by decide +kernel
  obtain ⟨s, hs, hrequired⟩ := Option.map_eq_some_iff.mp hfirst
  obtain ⟨entry, hentry, hschema⟩ := Option.bind_eq_some_iff.mp (Registry.get?_eq_bind ▸ hs)
  obtain ⟨entry', hentry', -, hlabelled⟩ :=
    (components_only_labelled catalog .error [.resolve (.ofName cabrio.name)]).1
      (.resolve (.ofName vehicle.name)) "Cabrio" entry hentry
  obtain ⟨s', hschema', hlabels⟩ := hlabelled s hschema
  have hs' : second.registry.get? "Cabrio" = some s' := by
    rw [Registry.get?_eq_bind]
    exact Option.bind_eq_some_iff.mpr ⟨entry', hentry', hschema'⟩
  rw [hs', Option.map_some] at hsecond
  exact ⟨s, s', hs, hrequired, hs', Option.some.inj hsecond, hlabels⟩

end Fleet

end RestContract
