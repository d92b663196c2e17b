import RestContract.Proofs.Congruences
import RestContract.Proofs.GrowingRuns

/-!
The log of a pass is written and never read. Two computations are alike if they come to
the same from passes that differ in their logs at most: to the same result and again to
such passes, or to the same failure. Every step of resolution is alike to itself, and a
step that only logs may be left out.
-/
namespace RestContract

inductive Pass.SameWork : Pass → Pass → Prop
  | intro (registry : Registry) (lookups : List (String × List String))
      (deferred : List Attachment) (events events' : List LogEvent) :
      SameWork ⟨registry, lookups, deferred, events⟩ ⟨registry, lookups, deferred, events'⟩

namespace Pass.SameWork

variable {p p' q q' : Pass}

theorem refl (p : Pass) : p.SameWork p := .intro ..

theorem symm (h : p.SameWork q) : q.SameWork p := by
  cases h
  exact .intro ..

theorem trans (h : p.SameWork p') (h' : p'.SameWork q) : p.SameWork q := by
  cases h
  cases h'
  exact .intro ..

theorem record (p : Pass) (event : LogEvent) : p.SameWork (p.record event) := .intro ..

theorem recordAll (p : Pass) (events : List LogEvent) : p.SameWork (p.recordAll events) := by
  induction events generalizing p with
  | nil => exact .refl p
  | cons event rest ih => exact (record p event).trans (ih (p.record event))

theorem withRegistry (h : p.SameWork q) (registry : Registry) :
    SameWork { p with registry } { q with registry } := by
  cases h
  exact .intro ..

theorem registry_eq (h : p.SameWork q) : p.registry = q.registry := by
  cases h
  rfl

theorem subtypesOf (h : p.SameWork q) (catalog : TypeCatalog) (base : String) :
    (p.subtypesOf catalog base).1 = (q.subtypesOf catalog base).1 ∧
      (p.subtypesOf catalog base).2.SameWork (q.subtypesOf catalog base).2 := by
  cases h with
  | intro registry lookups deferred events events' =>
    unfold Pass.subtypesOf
    cases lookups.lookup base with
    | some known => exact ⟨rfl, .intro ..⟩
    | none => exact ⟨rfl, .intro ..⟩

theorem applyOr (h : p.SameWork q) (a : Attachment) (h' : p'.SameWork q') :
    (p.applyOr a p').SameWork (q.applyOr a q') := by
  unfold Pass.applyOr
  rw [h.registry_eq]
  cases a.applyTo? q.registry with
  | some registry => exact h.withRegistry registry
  | none => exact h'

theorem attach (h : p.SameWork q) (a : Attachment) : (p.attach a).SameWork (q.attach a) := by
  refine h.applyOr a ?_
  cases h
  exact .intro ..

theorem settle (h : p.SameWork q) (a : Attachment) : (p.settle a).SameWork (q.settle a) :=
  h.applyOr a (((record p _).symm.trans h).trans (record q _))

theorem finish (h : p.SameWork q) : p.finish.SameWork q.finish := by
  cases h with
  | intro registry lookups deferred events events' =>
    have hfold : ∀ (attachments : List Attachment) (p q : Pass), p.SameWork q →
        (attachments.foldl Pass.settle p).SameWork (attachments.foldl Pass.settle q) := by
      intro attachments
      induction attachments with
      | nil => exact fun _ _ hpq => hpq
      | cons a rest ih => exact fun p q hpq => ih _ _ (hpq.settle a)
    exact hfold deferred _ _ (.intro ..)

theorem descendantsFrom (h : p.SameWork q) (catalog : TypeCatalog) (unmet queue : List String) :
    (descendantsFrom catalog unmet queue p).1 = (descendantsFrom catalog unmet queue q).1 ∧
      (descendantsFrom catalog unmet queue p).2.SameWork
        (descendantsFrom catalog unmet queue q).2 :=
  descendantsFrom_related (fun _ _ base hpq => hpq.subtypesOf catalog base) h unmet queue

end Pass.SameWork

namespace Resolving

variable {α β : Type} {x y : Resolving α} {f g : α → Resolving β} {p q : Pass}

inductive SameOutcome : EStateM.Result CompileError Pass α →
    EStateM.Result CompileError Pass α → Prop
  | ok {a : α} {p q : Pass} : p.SameWork q → SameOutcome (.ok a p) (.ok a q)
  | error {e : CompileError} {p q : Pass} : SameOutcome (.error e p) (.error e q)

/-- The computations come to the same, whatever was logged before. -/
def Alike (x y : Resolving α) : Prop := ∀ p q, p.SameWork q → SameOutcome (x p) (y q)

def Idle (x : Resolving α) (a : α) : Prop := ∀ p, ∃ p', x p = .ok a p' ∧ p.SameWork p'

theorem idle_note (level : LogLevel) (message : String) (fields : List (String × LogValue)) :
    Idle (note level message fields) () :=
  fun p => ⟨_, rfl, .record p _⟩

namespace Alike

theorem pure (a : α) : Alike (pure a) (pure a) := fun _ _ h => .ok h

/-- The continuations need to be alike at the results that arise. -/
theorem bind_of_ok (h : Alike x y)
    (hf : ∀ a, (∃ p p', x p = .ok a p') → Alike (f a) (g a)) : Alike (x >>= f) (y >>= g) := by
  intro p q hpq
  have hxy := h p q hpq
  cases hx : x p with
  | error e p' =>
    rw [hx] at hxy
    cases hy : y q with
    | error e' q' =>
      rw [hy] at hxy
      cases hxy
      rw [bind_error hx, bind_error hy]
      exact .error
    | ok a q' =>
      rw [hy] at hxy
      cases hxy
  | ok a p' =>
    rw [hx] at hxy
    cases hy : y q with
    | error e' q' =>
      rw [hy] at hxy
      cases hxy
    | ok b q' =>
      rw [hy] at hxy
      cases hxy with
      | ok hpq' =>
        rw [bind_ok hx, bind_ok hy]
        exact hf a ⟨p, p', hx⟩ _ _ hpq'

theorem bind (h : Alike x y) (hf : ∀ a, Alike (f a) (g a)) : Alike (x >>= f) (y >>= g) :=
  h.bind_of_ok fun a _ => hf a

theorem of_idle {a : α} (h : Idle x a) : Alike x x := by
  intro p q hpq
  obtain ⟨p', hx, hp'⟩ := h p
  obtain ⟨q', hy, hq'⟩ := h q
  rw [hx, hy]
  exact .ok (hp'.symm.trans (hpq.trans hq'))

/-- A step that only logs may be left out. -/
theorem idle_bind {y : Resolving β} {a : α} (h : Idle x a) (hf : Alike (f a) y) :
    Alike (x >>= f) y := by
  intro p q hpq
  obtain ⟨p', hx, hp'⟩ := h p
  rw [bind_ok hx]
  exact hf p' q (hp'.symm.trans hpq)

theorem modifyGet {change : Pass → α × Pass} (h : ∀ p q, p.SameWork q →
      (change p).1 = (change q).1 ∧ (change p).2.SameWork (change q).2) :
    Alike (modifyGet change) (modifyGet change) := by
  intro p q hpq
  obtain ⟨heq, hwork⟩ := h p q hpq
  show SameOutcome (.ok (change p).1 (change p).2) (.ok (change q).1 (change q).2)
  rw [heq]
  exact .ok hwork

theorem claim (preferred : String) (origin : Origin) :
    Alike (claim preferred origin) (claim preferred origin) := by
  intro p q hpq
  unfold Resolving.claim
  rw [hpq.registry_eq]
  cases q.registry.claim preferred origin with
  | error e => exact .error
  | ok outcome =>
    refine .ok (((hpq.withRegistry outcome.2).symm.trans ?_).symm.trans ?_)
    · exact .recordAll _ _
    · exact .recordAll _ _

theorem define (name : String) (schema : Schema) :
    Alike (define name schema) (define name schema) := by
  refine modifyGet fun p q hpq => ⟨rfl, ?_⟩
  dsimp only
  rw [hpq.registry_eq]
  exact hpq.withRegistry _

theorem actions : Actions @Alike where
  pure := pure
  bind := bind
  note level message fields := of_idle (idle_note level message fields)
  claim := claim
  define := define

/-- Being alike is respected by resolution. -/
theorem congruence (catalog : TypeCatalog) :
    Congruence catalog catalog (fun _ => True) (fun _ _ => True) @Alike where
  toSteps := actions.steps
  lookup h := bind (modifyGet fun _ _ hpq => hpq.subtypesOf catalog _) fun a => h a trivial
  descendants _ := modifyGet fun _ _ hpq => hpq.descendantsFrom catalog _ _
  attach a _ := modifyGet fun _ _ hpq => ⟨rfl, hpq.attach a⟩

theorem resolveRoot (catalog : TypeCatalog) (t : TypeDescriptor) :
    Alike (resolveRoot catalog t) (resolveRoot catalog t) :=
  (Resolver.related_ofLevels (congruence catalog) _).1 t 1

end Alike

end Resolving

end RestContract
