import RestContract.Proofs.Attachments
import RestContract.Proofs.DescendantWalk

/-!
Attachments within a pass, seen from one origin. An attachment aimed at the origin
changes its schema if that is built, and otherwise waits; one aimed elsewhere does
neither. At the end of the pass the origin takes what waited for it, in order.
-/
namespace RestContract

namespace Attachment

variable {origin : Origin} {a : Attachment} {first second : List Attachment}

def aimedAt (origin : Origin) (attachments : List Attachment) : List Attachment :=
  attachments.filter fun a => a.target = origin

@[simp] theorem aimedAt_nil : aimedAt origin [] = [] := rfl

@[simp] theorem aimedAt_append :
    aimedAt origin (first ++ second) = aimedAt origin first ++ aimedAt origin second :=
  List.filter_append ..

theorem aimedAt_cons_self (h : a.target = origin) :
    aimedAt origin (a :: first) = a :: aimedAt origin first := by simp [aimedAt, h]

theorem aimedAt_cons_other (h : a.target ≠ origin) :
    aimedAt origin (a :: first) = aimedAt origin first := by simp [aimedAt, h]

theorem mem_aimedAt : a ∈ aimedAt origin first ↔ a ∈ first ∧ a.target = origin := by
  simp [aimedAt]

/-- The target takes the attachment if its schema is built. -/
theorem applyTo?_of_built {r : Registry} {name : String} {schema : Schema}
    (hname : r.nameOf? a.target = some name) (hschema : r.get? name = some schema) :
    a.applyTo? r = some (r.edit name a.apply) := by
  simp [applyTo?, builtTarget?, hname, hschema]

theorem applyTo?_of_unbuilt {r : Registry} (h : r.schemaOf? a.target = none) :
    a.applyTo? r = none := by
  unfold Registry.schemaOf? at h
  cases hname : r.nameOf? a.target with
  | none => simp [applyTo?, builtTarget?, hname]
  | some name =>
    have hget : r.get? name = none := by simpa [hname] using h
    simp [applyTo?, builtTarget?, hname, hget]

end Attachment

open Attachment

namespace Registry

variable {r : Registry} {a : Attachment} {origin : Origin} {attachments : List Attachment}

def take (r : Registry) (a : Attachment) : Registry := (a.applyTo? r).getD r

/-- Nothing happens, or the schema under the name of the target is edited. -/
theorem take_cases (r : Registry) (a : Attachment) :
    r.schemaOf? a.target = none ∧ r.take a = r ∨
    ∃ name, r.nameOf? a.target = some name ∧ r.take a = r.edit name a.apply := by
  cases h : r.schemaOf? a.target with
  | none => exact .inl ⟨rfl, by simp [take, applyTo?_of_unbuilt h]⟩
  | some schema =>
    obtain ⟨name, hname, hschema⟩ := nameOf?_of_schemaOf? h
    exact .inr ⟨name, hname, by simp [take, applyTo?_of_built hname hschema]⟩

@[simp] theorem nameOf?_take : (r.take a).nameOf? origin = r.nameOf? origin := by
  obtain ⟨-, heq⟩ | ⟨name, -, heq⟩ := r.take_cases a
  · rw [heq]
  · rw [heq, nameOf?_edit]

theorem policy_take (r : Registry) (a : Attachment) : (r.take a).policy = r.policy := by
  obtain ⟨-, heq⟩ | ⟨name, -, heq⟩ := r.take_cases a
  · rw [heq]
  · rw [heq]
    rfl

theorem schemaOf?_take :
    (r.take a).schemaOf? origin =
      if a.target = origin then (r.schemaOf? origin).map a.apply else r.schemaOf? origin := by
  obtain ⟨hnone, heq⟩ | ⟨name, hname, heq⟩ := r.take_cases a
  · rw [heq]
    split
    next h => rw [← h, hnone, Option.map_none]
    next => rfl
  · rw [heq, schemaOf?_edit hname]
    simp only [eq_comm]

def takeAll (r : Registry) (attachments : List Attachment) : Registry := attachments.foldl take r

@[simp] theorem nameOf?_takeAll :
    (r.takeAll attachments).nameOf? origin = r.nameOf? origin := by
  induction attachments generalizing r with
  | nil => rfl
  | cons a rest ih => exact (ih (r := r.take a)).trans nameOf?_take

theorem policy_takeAll (r : Registry) (attachments : List Attachment) :
    (r.takeAll attachments).policy = r.policy := by
  induction attachments generalizing r with
  | nil => rfl
  | cons a rest ih => exact (ih (r.take a)).trans (r.policy_take a)

/-- A built schema takes exactly the attachments aimed at its origin. -/
theorem schemaOf?_takeAll :
    (r.takeAll attachments).schemaOf? origin =
      (r.schemaOf? origin).map (applyAll (aimedAt origin attachments)) := by
  induction attachments generalizing r with
  | nil =>
    change r.schemaOf? origin = _
    cases r.schemaOf? origin <;> rfl
  | cons a rest ih =>
    change ((r.take a).takeAll rest).schemaOf? origin = _
    rw [ih, schemaOf?_take]
    by_cases h : a.target = origin
    · rw [if_pos h, aimedAt_cons_self h, Option.map_map]
      rfl
    · rw [if_neg h, aimedAt_cons_other h]

end Registry

namespace Pass

variable {p : Pass} {a : Attachment} {origin : Origin} {attachments : List Attachment}

def waiting (p : Pass) (origin : Origin) : List Attachment := aimedAt origin p.deferred

theorem applyOr_registry {other : Pass} (h : other.registry = p.registry) :
    (p.applyOr a other).registry = p.registry.take a := by
  unfold applyOr Registry.take
  cases a.applyTo? p.registry with
  | some registry => rfl
  | none => exact h

theorem attach_registry : (p.attach a).registry = p.registry.take a := applyOr_registry rfl

theorem settle_registry : (p.settle a).registry = p.registry.take a := applyOr_registry rfl

theorem attach_lookups : (p.attach a).lookups = p.lookups := by
  unfold attach applyOr
  cases a.applyTo? p.registry <;> rfl

theorem waiting_attach :
    (p.attach a).waiting origin =
      if (p.registry.schemaOf? origin).isSome then p.waiting origin
      else p.waiting origin ++ aimedAt origin [a] := by
  cases h : p.registry.schemaOf? a.target with
  | none =>
    have heq : p.attach a = { p with deferred := p.deferred ++ [a] } := by
      simp [attach, applyOr, applyTo?_of_unbuilt h]
    rw [heq]
    change aimedAt origin (p.deferred ++ [a]) = _
    by_cases htarget : a.target = origin
    · subst htarget
      simp [h, waiting]
    · simp [aimedAt_cons_other htarget, waiting]
  | some schema =>
    obtain ⟨name, hname, hschema⟩ := Registry.nameOf?_of_schemaOf? h
    have heq : p.attach a = { p with registry := p.registry.edit name a.apply } := by
      simp [attach, applyOr, applyTo?_of_built hname hschema]
    rw [heq]
    change p.waiting origin = _
    by_cases htarget : a.target = origin
    · subst htarget
      simp [h]
    · simp [aimedAt_cons_other htarget]

def attachAll (p : Pass) (attachments : List Attachment) : Pass := attachments.foldl attach p

theorem attachAll_registry :
    (p.attachAll attachments).registry = p.registry.takeAll attachments := by
  induction attachments generalizing p with
  | nil => rfl
  | cons a rest ih =>
    change ((p.attach a).attachAll rest).registry = (p.registry.take a).takeAll rest
    rw [ih, attach_registry]

theorem attachAll_lookups : (p.attachAll attachments).lookups = p.lookups := by
  induction attachments generalizing p with
  | nil => rfl
  | cons a rest ih => exact (ih (p := p.attach a)).trans attach_lookups

theorem waiting_attachAll :
    (p.attachAll attachments).waiting origin =
      if (p.registry.schemaOf? origin).isSome then p.waiting origin
      else p.waiting origin ++ aimedAt origin attachments := by
  induction attachments generalizing p with
  | nil => simp [attachAll]
  | cons a rest ih =>
    change ((p.attach a).attachAll rest).waiting origin = _
    have hbuilt : ((p.attach a).registry.schemaOf? origin).isSome =
        (p.registry.schemaOf? origin).isSome := by
      rw [attach_registry, Registry.schemaOf?_take]
      split <;> simp
    rw [ih, hbuilt, waiting_attach]
    split
    · rfl
    · rw [List.append_assoc, ← aimedAt_append, List.singleton_append]

theorem finish_registry : p.finish.registry = p.registry.takeAll p.deferred := by
  have aux : ∀ (attachments : List Attachment) (p : Pass),
      (attachments.foldl settle p).registry = p.registry.takeAll attachments := by
    intro attachments
    induction attachments with
    | nil => exact fun _ => rfl
    | cons a rest ih =>
      intro p
      change ((rest.foldl settle (p.settle a))).registry = (p.registry.take a).takeAll rest
      rw [ih, settle_registry]
  exact aux p.deferred { p with deferred := [] }

theorem schemaOf?_finish :
    p.finish.registry.schemaOf? origin =
      (p.registry.schemaOf? origin).map (applyAll (p.waiting origin)) := by
  rw [finish_registry, Registry.schemaOf?_takeAll]
  rfl

end Pass

end RestContract
