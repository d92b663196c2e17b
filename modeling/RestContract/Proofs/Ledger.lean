import RestContract.Proofs.Growth

/-!
The ledger of attachments. Every attachment handed out during a growth is accounted
for once: while its target is not built it waits, and when its target is built it has
been applied, unless it was handed out earlier and still waits. So at the end of the
pass a component is the schema it was defined with, after the attachments handed out
later and then those handed out before.
-/
namespace RestContract

open Attachment

def handedOut (log : List Construction) : List Attachment :=
  log.flatMap Construction.attachments

@[simp] theorem handedOut_append (log log' : List Construction) :
    handedOut (log ++ log') = handedOut log ++ handedOut log' := List.flatMap_append

@[simp] theorem handedOut_singleton (c : Construction) : handedOut [c] = c.attachments := by
  simp [handedOut]

namespace Pass

variable {catalog : TypeCatalog} {rule : Registry → Construction → Prop} {p p' : Pass}
  {log log' : List Construction} {c : Construction} {origin : Origin} {schema : Schema}

/-- Where the attachments of a log are. -/
structure Ledger (p : Pass) (log : List Construction) : Prop where
  unbuilt : ∀ origin, p.registry.schemaOf? origin = none →
    p.waiting origin = aimedAt origin (handedOut log)
  built : ∀ origin schema, p.registry.schemaOf? origin = some schema →
    ∃ before c after, log = before ++ c :: after ∧ c.origin = origin ∧
      p.waiting origin = aimedAt origin (handedOut (before ++ [c])) ∧
      schema = applyAll (aimedAt origin (handedOut after)) c.schema

theorem Ledger.start (policy : CollisionPolicy) : Ledger (Pass.start policy) [] where
  unbuilt _ _ := rfl
  built origin schema h := by
    simp [Pass.start, Registry.empty, Registry.schemaOf?, Registry.nameOf?] at h

theorem Ledger.quiet (hledger : p.Ledger log) (hquiet : p.Quiet catalog p') : p'.Ledger log := by
  have hwaiting : p'.waiting = p.waiting := by
    funext origin
    simp [waiting, hquiet.deferred]
  constructor
  · intro origin h
    rw [hwaiting]
    exact hledger.unbuilt origin (hquiet.registry ▸ h)
  · intro origin schema h
    rw [hwaiting]
    exact hledger.built origin schema (hquiet.registry ▸ h)

/-- A claim builds nothing and hands out nothing. -/
theorem Ledger.claimed {registry : Registry} (hledger : p.Ledger log)
    (hclaim : p.registry.claim c.preferred c.origin = .ok (.new c.name, registry)) :
    Ledger { p with registry } log := by
  obtain ⟨hnone, hfree, rfl⟩ := claim_new hclaim
  have hschema : ∀ origin, (p.registry.enroll c.name c.origin).schemaOf? origin =
      p.registry.schemaOf? origin := fun _ => Registry.schemaOf?_enroll hfree hnone
  constructor
  · intro origin h
    exact hledger.unbuilt origin ((hschema origin).symm.trans h)
  · intro origin schema h
    exact hledger.built origin schema ((hschema origin).symm.trans h)

/-- Completing a construction enters its attachments, and moves its own origin from
the unbuilt ones to the built ones. -/
theorem Ledger.completed (hledger : p.Ledger log)
    (hname : p.registry.nameOf? c.origin = some c.name)
    (hpending : p.registry.schemaOf? c.origin = none) : (p.complete c).Ledger (log ++ [c]) := by
  constructor
  · intro origin h
    rw [schemaOf?_complete hname] at h
    split at h
    · cases h
    · have hunbuilt : p.registry.schemaOf? origin = none := Option.map_eq_none_iff.mp h
      rw [waiting_complete, hunbuilt, hledger.unbuilt origin hunbuilt]
      simp
  · intro origin schema h
    rw [schemaOf?_complete hname] at h
    split at h
    next hself =>
      -- What was handed out for it before it was built goes on waiting.
      refine ⟨log, c, [], by simp, hself.symm, ?_, ?_⟩
      · rw [waiting_complete, hself, hpending, hledger.unbuilt _ hpending]
        simp
      · cases h
        rfl
    next hother =>
      obtain ⟨old, hold, rfl⟩ := Option.map_eq_some_iff.mp h
      obtain ⟨before, first, after, rfl, horigin, hwaiting, rfl⟩ := hledger.built origin old hold
      refine ⟨before, first, after ++ [c], by simp, horigin, ?_, ?_⟩
      · rw [waiting_complete, hold, ← hwaiting]
        rfl
      · rw [handedOut_append, aimedAt_append, applyAll_append, handedOut_singleton]

/-- A growth enters its log. -/
theorem Growth.ledger (h : Growth catalog rule p log' p')
    (hledger : p.Ledger log) : p'.Ledger (log ++ log') := by
  induction h generalizing log with
  | quiet hquiet => simpa using hledger.quiet hquiet
  | append h _ ih ih' =>
    rw [← List.append_assoc]
    exact ih' (ih hledger)
  | @construct p p' registry inner c hclaim hbody _ ih =>
    obtain ⟨hname, hpending⟩ := Growth.pending hclaim hbody
    have hclaimed := hledger.claimed hclaim
    rw [← List.append_assoc]
    exact (ih hclaimed).completed hname hpending

theorem Growth.ledger_from_start {policy : CollisionPolicy}
    (h : Growth catalog rule (Pass.start policy) log p) : p.Ledger log := by
  simpa using h.ledger (.start policy)

/-- At the end of the pass a component is the schema of its construction after all
attachments handed out for it: first those handed out later, then those handed out
before, which waited. -/
theorem Growth.finished_schema {policy : CollisionPolicy} {name : String}
    (h : Growth catalog rule (Pass.start policy) log p)
    (hname : p.registry.nameOf? origin = some name) :
    ∃ before c after, log = before ++ c :: after ∧ c.origin = origin ∧ c.name = name ∧
      p.finish.registry.schemaOf? origin =
        some (applyAll (aimedAt origin (handedOut after ++ handedOut (before ++ [c])))
          c.schema) := by
  obtain hknown | ⟨c, hc, rfl, rfl⟩ := h.known_or_constructed hname
  · simp [Pass.start, Registry.empty, Registry.nameOf?] at hknown
  obtain ⟨schema, hschema⟩ := Option.isSome_iff_exists.mp (h.constructed hc).2.2
  obtain ⟨before, built, after, rfl, horigin, hwaiting, rfl⟩ :=
    h.ledger_from_start.built _ schema hschema
  have hbuilt : built ∈ before ++ built :: after := by simp
  have hsame : built.name = c.name := by
    have hname' := (h.constructed hbuilt).2.1
    rw [horigin, hname] at hname'
    exact (Option.some.inj hname').symm
  refine ⟨before, built, after, rfl, horigin, hsame, ?_⟩
  rw [schemaOf?_finish, hschema, hwaiting, Option.map_some, aimedAt_append, applyAll_append]

end Pass

end RestContract
