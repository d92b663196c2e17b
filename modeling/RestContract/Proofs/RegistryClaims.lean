import RestContract.Proofs.Registries
import RestContract.Resolution.Pass

/-!
Claims on a registry. The names and the entries of a registry are inverse to each other,
whatever claims, definitions and edits it has been through. A claim on it finds the name
of an origin that is known, fails if the preferred name is taken and the policy forbids
another one, and otherwise takes a free name: the preferred one, else the qualified name of
a type, else the first free numbered one. Nothing else changes.
-/
namespace RestContract

namespace Registry

variable {r r' : Registry} {preferred name other : String} {origin : Origin} {k : Nat}

/-- The registry comes about under the policy, from nothing, by claims that succeed, by
definitions and by edits. -/
inductive Reachable (policy : CollisionPolicy) : Registry → Prop
  | empty : Reachable policy (Registry.empty policy)
  | claim {r r' : Registry} {preferred : String} {origin : Origin} {claim : Claim} :
      Reachable policy r → r.claim preferred origin = .ok (claim, r') → Reachable policy r'
  | define {r : Registry} (name : String) (schema : Schema) :
      Reachable policy r → Reachable policy (r.define name schema)
  | edit {r : Registry} (name : String) (change : Schema → Schema) :
      Reachable policy r → Reachable policy (r.edit name change)

theorem policy_claim {claim : Claim} (h : r.claim preferred origin = .ok (claim, r')) :
    r'.policy = r.policy := by
  obtain ⟨name, -, -, rfl⟩ | ⟨name, -, -, -, rfl⟩ := claim_cases h
  · rfl
  · exact policy_enroll

theorem Reachable.policy_eq {policy : CollisionPolicy} (h : Reachable policy r) :
    r.policy = policy := by
  induction h with
  | empty => rfl
  | claim _ hclaim ih => exact (policy_claim hclaim).trans ih
  | define _ _ _ ih => exact ih
  | edit _ _ _ ih => exact ih

/-- What the numbered names of an origin begin with: the qualified name of a type, and
for a synthesized schema the preferred name. -/
def stem (preferred : String) : Origin → String
  | .type qualified => qualified
  | .synthetic _ => preferred

structure FirstFreeNumber (r : Registry) (base : String) (k : Nat) : Prop where
  from_two : 2 ≤ k
  free : r.contains (numbered base k) = false
  taken : ∀ j, 2 ≤ j → j < k → r.contains (numbered base j) = true

theorem FirstFreeNumber.unique {base : String} {j : Nat} (hj : r.FirstFreeNumber base j)
    (hk : r.FirstFreeNumber base k) : j = k := by
  rcases Nat.lt_trichotomy j k with hlt | heq | hgt
  · have htaken := hk.taken j hj.from_two hlt
    rw [hj.free] at htaken
    cases htaken
  · exact heq
  · have htaken := hj.taken k hk.from_two hgt
    rw [hk.free] at htaken
    cases htaken

/-- As many trials as there are entries end at the least free number. -/
theorem exists_firstFreeNumber (r : Registry) (base : String) :
    ∃ k, r.FirstFreeNumber base k ∧ r.firstFree base r.size 2 = numbered base k := by
  obtain ⟨k, hfrom, -, heq, htaken, -⟩ := r.firstFree_spec base r.size 2
  have hfree := r.firstFree_free base 2
  rw [heq] at hfree
  exact ⟨k, ⟨hfrom, hfree, htaken⟩, heq⟩

/-- The name that an origin gets which has none: the preferred name if that is free, else
the qualified name of a type if that is free, else the stem with the first free number. -/
inductive Takes (r : Registry) (preferred : String) (origin : Origin) : String → Prop
  | preferred : r.contains preferred = false → Takes r preferred origin preferred
  | qualified {qualified : String} : r.contains preferred = true →
      origin = .type qualified → r.contains qualified = false →
      Takes r preferred origin qualified
  | numbered {k : Nat} : r.contains preferred = true →
      (∀ qualified, origin = .type qualified → r.contains qualified = true) →
      r.FirstFreeNumber (stem preferred origin) k →
      Takes r preferred origin (numbered (stem preferred origin) k)

theorem Takes.free (h : r.Takes preferred origin name) : r.contains name = false := by
  cases h with
  | preferred hfree => exact hfree
  | qualified _ _ hfree => exact hfree
  | numbered _ _ hnumber => exact hnumber.free

theorem Takes.eq_preferred (h : r.Takes preferred origin name)
    (hfree : r.contains preferred = false) : name = preferred := by
  cases h with
  | preferred => rfl
  | qualified htaken =>
    rw [htaken] at hfree
    cases hfree
  | numbered htaken =>
    rw [htaken] at hfree
    cases hfree

theorem takes_alternativeName (htaken : r.contains preferred = true) :
    r.Takes preferred origin (r.alternativeName preferred origin) := by
  cases origin with
  | synthetic signature =>
    obtain ⟨k, hk, heq⟩ := r.exists_firstFreeNumber preferred
    have hname : r.alternativeName preferred (.synthetic signature) =
        Registry.numbered preferred k := heq
    rw [hname]
    exact .numbered htaken (fun _ h => nomatch h) hk
  | type qualified =>
    cases hqualified : r.contains qualified with
    | false =>
      have hname : r.alternativeName preferred (.type qualified) = qualified := by
        simp [alternativeName, hqualified]
      rw [hname]
      exact .qualified htaken rfl hqualified
    | true =>
      obtain ⟨k, hk, heq⟩ := r.exists_firstFreeNumber qualified
      have hname : r.alternativeName preferred (.type qualified) =
          Registry.numbered qualified k := by
        simpa [alternativeName, hqualified] using heq
      rw [hname]
      refine .numbered htaken ?_ hk
      rintro _ ⟨⟩
      exact hqualified

theorem exists_takes (r : Registry) (preferred : String) (origin : Origin) :
    ∃ name, r.Takes preferred origin name := by
  cases hpreferred : r.contains preferred with
  | false => exact ⟨preferred, .preferred hpreferred⟩
  | true => exact ⟨_, takes_alternativeName hpreferred⟩

/-- The rule leaves no choice. -/
theorem Takes.unique (h : r.Takes preferred origin name) (h' : r.Takes preferred origin other) :
    name = other := by
  cases h with
  | preferred hfree => exact (h'.eq_preferred hfree).symm
  | qualified htaken horigin hfree =>
    cases h' with
    | preferred hfree' =>
      rw [htaken] at hfree'
      cases hfree'
    | qualified _ horigin' _ =>
      rw [horigin] at horigin'
      injection horigin'
    | numbered _ hqualified _ =>
      rw [hqualified _ horigin] at hfree
      cases hfree
  | numbered htaken hqualified hk =>
    cases h' with
    | preferred hfree' =>
      rw [htaken] at hfree'
      cases hfree'
    | qualified _ horigin hfree' =>
      rw [hqualified _ horigin] at hfree'
      cases hfree'
    | numbered _ _ hk' => rw [hk.unique hk']

theorem claim_of_known (hname : r.nameOf? origin = some name) :
    r.claim preferred origin = .ok (.existing name, r) := by
  simp [Registry.claim, hname]

theorem claim_of_free (hnone : r.nameOf? origin = none) (hfree : r.contains preferred = false) :
    r.claim preferred origin = .ok (.new preferred, r.enroll preferred origin) := by
  have hentry : r.entries.get? preferred = none := by simpa [contains_eq_isSome] using hfree
  simp [Registry.claim, hnone, hentry]

theorem claim_of_forbidden {entry : Entry} (hnone : r.nameOf? origin = none)
    (hentry : r.entries.get? preferred = some entry) (hpolicy : r.policy = .error) :
    r.claim preferred origin =
      .error (.schemaNameCollision preferred entry.origin.display origin.display) := by
  simp [Registry.claim, hnone, hentry, hpolicy]

theorem claim_of_taken (hnone : r.nameOf? origin = none) (htaken : r.contains preferred = true)
    (hpolicy : r.policy = .qualify) :
    r.claim preferred origin =
      .ok (.new (r.alternativeName preferred origin),
        r.enroll (r.alternativeName preferred origin) origin) := by
  obtain ⟨entry, hentry⟩ := Option.isSome_iff_exists.mp htaken
  simp [Registry.claim, hnone, hentry, hpolicy]

/-- A claim finds a name exactly for an origin that has one. -/
theorem claim_existing_iff :
    r.claim preferred origin = .ok (.existing name, r') ↔
      r.nameOf? origin = some name ∧ r' = r := by
  constructor
  · intro h
    obtain ⟨_, hclaim, hname, hsame⟩ | ⟨_, hclaim, -⟩ := claim_cases h
    · cases hclaim
      exact ⟨hname, hsame⟩
    · cases hclaim
  · rintro ⟨hname, rfl⟩
    exact claim_of_known hname

/-- A claim fails exactly for an unknown origin whose preferred name is taken, where the
policy forbids another name. -/
theorem claim_error_iff {e : CompileError} :
    r.claim preferred origin = .error e ↔
      r.nameOf? origin = none ∧ r.policy = .error ∧
        ∃ entry, r.entries.get? preferred = some entry ∧
          e = .schemaNameCollision preferred entry.origin.display origin.display := by
  constructor
  · intro h
    cases hname : r.nameOf? origin with
    | some name =>
      rw [claim_of_known hname] at h
      cases h
    | none =>
      cases hentry : r.entries.get? preferred with
      | none =>
        rw [claim_of_free hname (by simp [contains_eq_isSome, hentry])] at h
        cases h
      | some entry =>
        cases hpolicy : r.policy with
        | qualify =>
          rw [claim_of_taken hname (by simp [contains_eq_isSome, hentry]) hpolicy] at h
          cases h
        | error =>
          rw [claim_of_forbidden hname hentry hpolicy] at h
          cases h
          exact ⟨rfl, rfl, entry, rfl, rfl⟩
  · rintro ⟨hnone, hpolicy, entry, hentry, rfl⟩
    exact claim_of_forbidden hnone hentry hpolicy

/-- A claim takes a name exactly for an unknown origin, unless the policy forbids it, and
the name is the one that the rule gives. -/
theorem claim_new_iff :
    r.claim preferred origin = .ok (.new name, r') ↔
      r.nameOf? origin = none ∧ (r.contains preferred = false ∨ r.policy = .qualify) ∧
        r.Takes preferred origin name ∧ r' = r.enroll name origin := by
  cases hname : r.nameOf? origin with
  | some known =>
    rw [claim_of_known hname]
    simp
  | none =>
    cases hpreferred : r.contains preferred with
    | false =>
      rw [claim_of_free hname hpreferred]
      constructor
      · rintro ⟨⟩
        exact ⟨rfl, .inl rfl, .preferred hpreferred, rfl⟩
      · rintro ⟨-, -, htakes, rfl⟩
        rw [htakes.eq_preferred hpreferred]
    | true =>
      cases hpolicy : r.policy with
      | error =>
        obtain ⟨entry, hentry⟩ := Option.isSome_iff_exists.mp hpreferred
        rw [claim_of_forbidden hname hentry hpolicy]
        simp
      | qualify =>
        rw [claim_of_taken hname hpreferred hpolicy]
        constructor
        · rintro ⟨⟩
          exact ⟨rfl, .inr rfl, takes_alternativeName hpreferred, rfl⟩
        · rintro ⟨-, -, htakes, rfl⟩
          rw [htakes.unique (takes_alternativeName hpreferred)]

/-- A failing claim leaves the pass it is made in as it is. -/
theorem claim_eq_error_iff {p p' : Pass} {e : CompileError} :
    Resolving.claim preferred origin p = .error e p' ↔
      p.registry.claim preferred origin = .error e ∧ p' = p := by
  unfold Resolving.claim
  cases p.registry.claim preferred origin with
  | error e' => simp [eq_comm]
  | ok outcome => simp

/-- Names and entries of a registry are inverse to each other, and a claim on it has
exactly three outcomes. It finds the name of a known origin and changes nothing. It fails
and changes nothing where the origin is unknown, its preferred name is taken and the policy
is to fail. Otherwise it takes a name that was free, by the rule, enters the origin under
that name, and leaves every other entry and every other name as it was. -/
theorem claim_of_reachable (policy : CollisionPolicy) (r : Registry) (h : Reachable policy r)
    (preferred : String) (origin : Origin) :
    (∀ o n, r.nameOf? o = some n ↔ ∃ entry, r.entries.get? n = some entry ∧ entry.origin = o) ∧
    (∀ n r', r.claim preferred origin = .ok (.existing n, r') ↔
      r.nameOf? origin = some n ∧ r' = r) ∧
    (∀ p p' e, p.registry = r → (Resolving.claim preferred origin p = .error e p' ↔
      (r.nameOf? origin = none ∧ policy = .error ∧
        ∃ entry, r.entries.get? preferred = some entry ∧
          e = .schemaNameCollision preferred entry.origin.display origin.display) ∧ p' = p)) ∧
    ((∃ n r', r.claim preferred origin = .ok (.new n, r')) ↔
      r.nameOf? origin = none ∧ (r.contains preferred = false ∨ policy = .qualify)) ∧
    (∀ n r', r.claim preferred origin = .ok (.new n, r') →
      r.Takes preferred origin n ∧ r.contains n = false ∧ r'.policy = policy ∧
      (∀ m, r'.entries.get? m = if m = n then some ⟨origin, none⟩ else r.entries.get? m) ∧
      (∀ o, r'.nameOf? o = if o = origin then some n else r.nameOf? o)) := by
  have hpolicy := h.policy_eq
  refine ⟨r.owned, fun n r' => claim_existing_iff, ?_, ?_, ?_⟩
  · rintro p p' e rfl
    rw [claim_eq_error_iff, claim_error_iff, hpolicy]
  · constructor
    · rintro ⟨n, r', hclaim⟩
      obtain ⟨hnone, hallowed, -⟩ := claim_new_iff.mp hclaim
      exact ⟨hnone, hpolicy ▸ hallowed⟩
    · rintro ⟨hnone, hallowed⟩
      obtain ⟨n, htakes⟩ := r.exists_takes preferred origin
      exact ⟨n, _, claim_new_iff.mpr ⟨hnone, hpolicy.symm ▸ hallowed, htakes, rfl⟩⟩
  · intro n r' hclaim
    obtain ⟨hnone, -, htakes, rfl⟩ := claim_new_iff.mp hclaim
    exact ⟨htakes, htakes.free, policy_enroll.trans hpolicy,
      fun m => get?_entries_enroll htakes.free hnone, fun o => nameOf?_enroll htakes.free hnone⟩

def crowded : Registry :=
  ((Registry.empty .qualify).enroll "Cat" (.type "a.Cat")).enroll "b.Cat" (.synthetic "pets")

theorem crowded_claim_takes_number :
    Reachable .qualify crowded ∧
      ∃ n r', crowded.claim "Cat" (.type "b.Cat") = .ok (.new n, r') ∧
        crowded.Takes "Cat" (.type "b.Cat") n ∧ n = "b.Cat_2" := by
  have hfirst : Reachable .qualify ((Registry.empty .qualify).enroll "Cat" (.type "a.Cat")) :=
    .claim .empty (claim_of_free rfl rfl)
  have hreach : Reachable .qualify crowded := .claim hfirst (claim_of_free rfl (by decide))
  obtain ⟨-, -, -, hoccurs, hnew⟩ :=
    claim_of_reachable .qualify crowded hreach "Cat" (.type "b.Cat")
  obtain ⟨n, r', hclaim⟩ := hoccurs.mpr ⟨by decide, .inr rfl⟩
  have htakes := (hnew n r' hclaim).1
  have hnumber : crowded.FirstFreeNumber "b.Cat" 2 :=
    ⟨by decide, by decide, fun j hfrom hbelow => absurd hbelow (by omega)⟩
  refine ⟨hreach, n, r', hclaim, htakes, htakes.unique ?_⟩
  refine .numbered (k := 2) (by decide) ?_ hnumber
  rintro _ ⟨⟩
  decide

end Registry

end RestContract
