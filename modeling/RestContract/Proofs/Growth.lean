import RestContract.Proofs.PassAttachments

/-!
How a pass grows. A component comes about in three moves: its name is claimed, its
schema is put together while other components may come about, and then attachments
are handed out and the schema is defined. So components nest like brackets, and the
log of a growth lists them in the order in which their brackets close.

Everything that holds of a growth follows from these moves: names are never given
up, what was pending stays pending, and every name claimed on the way has its schema
at the end.
-/
namespace RestContract

/-- A component as it was defined, with the attachments handed out just before. -/
structure Construction where
  preferred : String
  name : String
  origin : Origin
  schema : Schema
  attachments : List Attachment

namespace Pass

variable {catalog : TypeCatalog} {p p' p'' : Pass} {c : Construction} {origin : Origin}

def complete (p : Pass) (c : Construction) : Pass :=
  { p.attachAll c.attachments with
    registry := (p.attachAll c.attachments).registry.define c.name c.schema }

theorem complete_registry :
    (p.complete c).registry = (p.registry.takeAll c.attachments).define c.name c.schema := by
  rw [← attachAll_registry]
  rfl

@[simp] theorem nameOf?_complete :
    (p.complete c).registry.nameOf? origin = p.registry.nameOf? origin := by
  rw [complete_registry, Registry.nameOf?_define, Registry.nameOf?_takeAll]

theorem schemaOf?_complete (hname : p.registry.nameOf? c.origin = some c.name) :
    (p.complete c).registry.schemaOf? origin =
      if origin = c.origin then some c.schema
      else (p.registry.schemaOf? origin).map
        (Attachment.applyAll (Attachment.aimedAt origin c.attachments)) := by
  rw [complete_registry, Registry.schemaOf?_define
    (by rw [Registry.nameOf?_takeAll, hname]), Registry.schemaOf?_takeAll]

theorem waiting_complete :
    (p.complete c).waiting origin =
      if (p.registry.schemaOf? origin).isSome then p.waiting origin
      else p.waiting origin ++ Attachment.aimedAt origin c.attachments :=
  waiting_attachAll

/-- A pass grows by the constructions of the log, each under the rule when it is
completed. -/
inductive Growth (catalog : TypeCatalog) (rule : Registry → Construction → Prop) :
    Pass → List Construction → Pass → Prop
  | quiet {p p' : Pass} : p.Quiet catalog p' → Growth catalog rule p [] p'
  | append {p p' p'' : Pass} {log log' : List Construction} :
      Growth catalog rule p log p' → Growth catalog rule p' log' p'' →
      Growth catalog rule p (log ++ log') p''
  | construct {p p' : Pass} {registry : Registry} {log : List Construction} {c : Construction} :
      p.registry.claim c.preferred c.origin = .ok (.new c.name, registry) →
      Growth catalog rule { p with registry } log p' → rule p'.registry c →
      Growth catalog rule p (log ++ [c]) (p'.complete c)

/-- A growth that was cut short, possibly inside some constructions. -/
inductive Interrupted (catalog : TypeCatalog) (rule : Registry → Construction → Prop) :
    Pass → Pass → Prop
  | here (p : Pass) : Interrupted catalog rule p p
  | after {p p' p'' : Pass} {log : List Construction} :
      Growth catalog rule p log p' → Interrupted catalog rule p' p'' →
      Interrupted catalog rule p p''
  | inside {p p' : Pass} {registry : Registry} {preferred name : String} {origin : Origin} :
      p.registry.claim preferred origin = .ok (.new name, registry) →
      Interrupted catalog rule { p with registry } p' → Interrupted catalog rule p p'

/-- The first move of a construction, seen from the registry. -/
theorem claim_new {r registry : Registry} {preferred name : String}
    (h : r.claim preferred origin = .ok (.new name, registry)) :
    r.nameOf? origin = none ∧ r.contains name = false ∧ registry = r.enroll name origin := by
  obtain ⟨_, hclaim, -⟩ | ⟨_, hclaim, hnone, hfree, heq⟩ := Registry.claim_cases h
  · cases hclaim
  · cases hclaim
    exact ⟨hnone, hfree, heq⟩

namespace Growth

variable {rule rule' : Registry → Construction → Prop} {log : List Construction}

theorem refl (p : Pass) : Growth catalog rule p [] p := .quiet (.refl catalog p)

theorem mono (himp : ∀ r c, rule r c → rule' r c) (h : Growth catalog rule p log p') :
    Growth catalog rule' p log p' := by
  induction h with
  | quiet hquiet => exact .quiet hquiet
  | append _ _ ih ih' => exact .append ih ih'
  | construct hclaim _ hrule ih => exact .construct hclaim ih (himp _ _ hrule)

theorem faithful (h : Growth catalog rule p log p') (hp : p.Faithful catalog) :
    p'.Faithful catalog := by
  induction h with
  | quiet hquiet => exact hquiet.faithful hp
  | append _ _ ih ih' => exact ih' (ih hp)
  | @construct p p' registry log c _ _ _ ih =>
    have hp' : p'.Faithful catalog := ih hp
    intro base known hknown
    exact hp' base known (attachAll_lookups (p := p') ▸ hknown)

theorem keeps (h : Growth catalog rule p log p') : p.registry.Extends p'.registry := by
  induction h with
  | quiet hquiet => exact hquiet.registry ▸ .refl _
  | append _ _ ih ih' => exact ih.trans ih'
  | @construct p p' registry log c hclaim _ _ ih =>
    obtain ⟨-, -, rfl⟩ := claim_new hclaim
    refine Registry.extends_enroll.trans (ih.trans ?_)
    exact fun _ _ hname => nameOf?_complete.trans hname

/-- A name that is known before is built afterwards exactly if it was built before. -/
theorem built_iff (h : Growth catalog rule p log p')
    {name : String} (hname : p.registry.nameOf? origin = some name) :
    (p'.registry.schemaOf? origin).isSome = (p.registry.schemaOf? origin).isSome := by
  induction h generalizing name with
  | quiet hquiet => rw [hquiet.registry]
  | append h _ ih ih' =>
    rw [ih' (h.keeps origin name hname), ih hname]
  | @construct p p' registry log c hclaim hbody _ ih =>
    obtain ⟨hnone, hfree, rfl⟩ := claim_new hclaim
    have hne : origin ≠ c.origin := by
      rintro rfl
      rw [hnone] at hname
      cases hname
    have hself : p'.registry.nameOf? c.origin = some c.name :=
      hbody.keeps c.origin c.name (Registry.nameOf?_enroll_self hfree hnone)
    rw [schemaOf?_complete hself, if_neg hne, Option.isSome_map,
      ih (by simpa [Registry.nameOf?_enroll hfree hnone, hne] using hname),
      Registry.schemaOf?_enroll hfree hnone]

/-- While its schema is put together, the name of a construction stays pending. -/
theorem pending {registry : Registry}
    (hclaim : p.registry.claim c.preferred c.origin = .ok (.new c.name, registry))
    (hbody : Growth catalog rule { p with registry } log p') :
    p'.registry.nameOf? c.origin = some c.name ∧ p'.registry.schemaOf? c.origin = none := by
  obtain ⟨hnone, hfree, rfl⟩ := claim_new hclaim
  have hname : (p.registry.enroll c.name c.origin).nameOf? c.origin = some c.name :=
    Registry.nameOf?_enroll_self hfree hnone
  refine ⟨hbody.keeps _ _ hname, ?_⟩
  have hbuilt := hbody.built_iff hname
  rw [Registry.schemaOf?_enroll hfree hnone, Registry.schemaOf?_of_unknown hnone] at hbuilt
  simpa using hbuilt

/-- The constructions of the log are new, and they are built. -/
theorem constructed (h : Growth catalog rule p log p') (hc : c ∈ log) :
    p.registry.nameOf? c.origin = none ∧ p'.registry.nameOf? c.origin = some c.name ∧
      (p'.registry.schemaOf? c.origin).isSome = true := by
  induction h with
  | quiet => cases hc
  | @append p p' p'' log log' h h' ih ih' =>
    rcases List.mem_append.mp hc with hfirst | hsecond
    · obtain ⟨hnone, hname, hbuilt⟩ := ih hfirst
      refine ⟨hnone, h'.keeps _ _ hname, ?_⟩
      rw [h'.built_iff hname, hbuilt]
    · obtain ⟨hnone, hname, hbuilt⟩ := ih' hsecond
      refine ⟨?_, hname, hbuilt⟩
      cases hknown : p.registry.nameOf? c.origin with
      | none => rfl
      | some name => rw [h.keeps _ _ hknown] at hnone; cases hnone
  | @construct p p' registry log last hclaim hbody _ ih =>
    obtain ⟨hlast, hunbuilt⟩ := pending hclaim hbody
    obtain ⟨hnone, hfree, rfl⟩ := claim_new hclaim
    rw [nameOf?_complete, schemaOf?_complete hlast]
    rcases List.mem_append.mp hc with hinner | hself
    · obtain ⟨hunknown, hname, hbuilt⟩ := ih hinner
      -- An inner construction is new to a registry that already knows the outer one.
      have hne : c.origin ≠ last.origin := by
        intro heq
        rw [heq, Registry.nameOf?_enroll_self hfree hnone] at hunknown
        cases hunknown
      refine ⟨by simpa [Registry.nameOf?_enroll hfree hnone, hne] using hunknown, hname, ?_⟩
      rwa [if_neg hne, Option.isSome_map]
    · rw [List.mem_singleton.mp hself, if_pos rfl]
      exact ⟨hnone, hlast, rfl⟩

/-- Whatever has a name afterwards had it before or is in the log. -/
theorem known_or_constructed (h : Growth catalog rule p log p')
    {name : String} (hname : p'.registry.nameOf? origin = some name) :
    p.registry.nameOf? origin = some name ∨ ∃ c ∈ log, c.origin = origin ∧ c.name = name := by
  induction h with
  | quiet hquiet => exact .inl (hquiet.registry ▸ hname)
  | append h _ ih ih' =>
    rcases ih' hname with hmid | ⟨c, hc, heq⟩
    · rcases ih hmid with hbefore | ⟨c, hc, heq⟩
      · exact .inl hbefore
      · exact .inr ⟨c, List.mem_append_left _ hc, heq⟩
    · exact .inr ⟨c, List.mem_append_right _ hc, heq⟩
  | @construct p p' registry log c hclaim _ _ ih =>
    obtain ⟨hnone, hfree, rfl⟩ := claim_new hclaim
    rw [nameOf?_complete] at hname
    rcases ih hname with hbefore | ⟨inner, hinner, heq⟩
    · rw [Registry.nameOf?_enroll hfree hnone] at hbefore
      split at hbefore
      next heq => exact .inr ⟨c, by simp, heq.symm, Option.some.inj hbefore⟩
      next => exact .inl hbefore
    · exact .inr ⟨inner, List.mem_append_left _ hinner, heq⟩

/-- A rule that outlives the growth of the registry holds of the whole log at the end. -/
theorem rule_of_mem (hrule : ∀ r r' c, r.Extends r' → rule r c → rule r' c)
    (h : Growth catalog rule p log p') (hc : c ∈ log) : rule p'.registry c := by
  induction h with
  | quiet => cases hc
  | append h h' ih ih' =>
    rcases List.mem_append.mp hc with hfirst | hsecond
    · exact hrule _ _ c (h'.keeps) (ih hfirst)
    · exact ih' hsecond
  | @construct p p' registry log last hclaim _ hlast ih =>
    obtain ⟨hnone, hfree, rfl⟩ := claim_new hclaim
    refine hrule p'.registry _ c (fun _ _ hname => nameOf?_complete.trans hname) ?_
    rcases List.mem_append.mp hc with hinner | hself
    · exact ih hinner
    · exact List.mem_singleton.mp hself ▸ hlast

/-- What is built afterwards was built before or is in the log. -/
theorem built_or_constructed (h : Growth catalog rule p log p') :
    (p'.registry.schemaOf? origin).isSome = true ↔
      (p.registry.schemaOf? origin).isSome = true ∨ ∃ c ∈ log, c.origin = origin := by
  constructor
  · intro hbuilt
    obtain ⟨schema, hschema⟩ := Option.isSome_iff_exists.mp hbuilt
    obtain ⟨name, hname, -⟩ := Registry.nameOf?_of_schemaOf? hschema
    rcases h.known_or_constructed hname with hknown | ⟨c, hc, horigin, -⟩
    · rw [h.built_iff hknown] at hbuilt
      exact .inl hbuilt
    · exact .inr ⟨c, hc, horigin⟩
  · rintro (hbuilt | ⟨c, hc, rfl⟩)
    · obtain ⟨schema, hschema⟩ := Option.isSome_iff_exists.mp hbuilt
      obtain ⟨name, hname, -⟩ := Registry.nameOf?_of_schemaOf? hschema
      rwa [h.built_iff hname]
    · exact (h.constructed hc).2.2

/-- Whatever the rule neither constructs nor attaches to is left as it is. -/
theorem untouched (hrule : ∀ r c, rule r c →
      c.origin ≠ origin ∧ Attachment.aimedAt origin c.attachments = [])
    (h : Growth catalog rule p log p') :
    p'.registry.nameOf? origin = p.registry.nameOf? origin ∧
      p'.registry.schemaOf? origin = p.registry.schemaOf? origin := by
  induction h with
  | quiet hquiet =>
    rw [hquiet.registry]
    exact ⟨rfl, rfl⟩
  | append h _ ih ih' =>
    obtain ⟨hname, hschema⟩ := ih
    obtain ⟨hname', hschema'⟩ := ih'
    exact ⟨hname'.trans hname, hschema'.trans hschema⟩
  | @construct p p' registry log c hclaim hbody hlast ih =>
    obtain ⟨hown, hunbuilt⟩ := pending hclaim hbody
    obtain ⟨hnone, hfree, rfl⟩ := claim_new hclaim
    obtain ⟨hname, hschema⟩ := ih
    obtain ⟨hother, haimed⟩ := hrule _ c hlast
    rw [nameOf?_complete, schemaOf?_complete hown, if_neg hother.symm,
      haimed, hname, hschema, Registry.nameOf?_enroll hfree hnone, if_neg hother.symm,
      Registry.schemaOf?_enroll hfree hnone]
    refine ⟨rfl, ?_⟩
    cases p.registry.schemaOf? origin <;> rfl

/-- No origin is constructed twice. -/
theorem nodup (h : Growth catalog rule p log p') : (log.map Construction.origin).Nodup := by
  induction h with
  | quiet => exact .nil
  | append h h' ih ih' =>
    rw [List.map_append]
    refine List.nodup_append.mpr ⟨ih, ih', ?_⟩
    intro origin hfirst other hsecond heq
    obtain ⟨c, hc, rfl⟩ := List.mem_map.mp hfirst
    obtain ⟨c', hc', rfl⟩ := List.mem_map.mp hsecond
    have hknown := (h.constructed hc).2.1
    rw [heq, (h'.constructed hc').1] at hknown
    cases hknown
  | @construct p p' registry log last hclaim hbody _ ih =>
    obtain ⟨hnone, hfree, rfl⟩ := claim_new hclaim
    rw [List.map_append]
    refine List.nodup_append.mpr ⟨ih, by simp, ?_⟩
    intro origin hinner other hlast heq
    obtain ⟨c, hc, rfl⟩ := List.mem_map.mp hinner
    have hunknown := (hbody.constructed hc).1
    have hsame : c.origin = last.origin := by simpa [heq] using hlast
    rw [hsame, Registry.nameOf?_enroll_self hfree hnone] at hunknown
    cases hunknown

end Growth

/-- What the registry is when some constructions are completed and others are not: the
constructions so far are what was built since, and they keep to a law. -/
structure Snapshot (law : Registry → Construction → Prop) (p : Pass) (sofar : List Construction)
    (r : Registry) : Prop where
  keeps : p.registry.Extends r
  built : ∀ origin, (r.schemaOf? origin).isSome = true ↔
    (p.registry.schemaOf? origin).isSome = true ∨ ∃ b ∈ sofar, b.origin = origin
  lawful : ∀ b ∈ sofar, law r b

/-- A construction of two logs in a row is in the first one or in the second one. -/
theorem append_eq_split {log log' before after : List Construction}
    (h : log ++ log' = before ++ c :: after) :
    (∃ rest, log = before ++ c :: rest) ∨
      ∃ sofar, before = log ++ sofar ∧ log' = sofar ++ c :: after := by
  rcases List.append_eq_append_iff.mp h with ⟨sofar, hbefore, hlog'⟩ | ⟨rest, hlog, hrest⟩
  · exact .inr ⟨sofar, hbefore, hlog'⟩
  · cases rest with
    | nil => exact .inr ⟨[], by simpa using hlog.symm, by simpa using hrest.symm⟩
    | cons first rest =>
      obtain ⟨rfl, -⟩ := List.cons.inj hrest
      exact .inl ⟨rest, hlog⟩

variable {rule law : Registry → Construction → Prop} {log before after : List Construction}

/-- Each construction of a log was completed, under the rule, at a moment when exactly those
before it were. -/
theorem Growth.snapshot (hlaw : ∀ r c, rule r c → law r c)
    (hlasts : ∀ r r' c, r.Extends r' → law r c → law r' c)
    (h : Growth catalog rule p log p')
    (hlog : log = before ++ c :: after) : ∃ r, rule r c ∧ Snapshot law p before r := by
  induction h generalizing before after with
  | quiet => simp at hlog
  | @append p p₁ p₂ log₁ log₂ h₁ h₂ ih₁ ih₂ =>
    rcases append_eq_split hlog with ⟨rest, hfirst⟩ | ⟨sofar, rfl, hsecond⟩
    · exact ih₁ hfirst
    · obtain ⟨r, hrule, hkeeps, hbuilt, hlawful⟩ := ih₂ hsecond
      refine ⟨r, hrule, (h₁.keeps).trans hkeeps, fun origin => ?_, fun b hb => ?_⟩
      · rw [hbuilt origin, h₁.built_or_constructed]
        simp [or_and_right, exists_or, or_assoc]
      · rcases List.mem_append.mp hb with hold | hnew
        · exact hlasts _ _ b hkeeps ((h₁.mono hlaw).rule_of_mem hlasts hold)
        · exact hlawful b hnew
  | @construct p p₁ registry inner last hclaim hbody hlast ih =>
    obtain ⟨hnone, hfree, rfl⟩ := claim_new hclaim
    have hclaimed : p.registry.Extends (p.registry.enroll last.name last.origin) :=
      Registry.extends_enroll
    have hunbuilt : ∀ origin, (p.registry.enroll last.name last.origin).schemaOf? origin =
        p.registry.schemaOf? origin := fun _ => Registry.schemaOf?_enroll hfree hnone
    rcases append_eq_split hlog with ⟨rest, hinner⟩ | ⟨sofar, rfl, hself⟩
    · obtain ⟨r, hrule, hkeeps, hbuilt, hlawful⟩ := ih hinner
      refine ⟨r, hrule, hclaimed.trans hkeeps, fun origin => ?_, hlawful⟩
      rw [hbuilt origin, hunbuilt origin]
    · obtain ⟨rfl, rfl⟩ : sofar = [] ∧ last = c := by
        cases sofar with
        | nil => exact ⟨rfl, (List.cons.inj hself).1⟩
        | cons first rest => simp at hself
      refine ⟨p₁.registry, hlast, hclaimed.trans (hbody.keeps), fun origin => ?_, fun b hb => ?_⟩
      · rw [hbody.built_or_constructed, hunbuilt origin, List.append_nil]
      · rw [List.append_nil] at hb
        exact (hbody.mono hlaw).rule_of_mem hlasts hb

end Pass

end RestContract
