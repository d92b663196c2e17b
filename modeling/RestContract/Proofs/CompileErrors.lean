import RestContract.Proofs.InterfaceCongruences
import RestContract.Proofs.LenientCompilation
import RestContract.Proofs.RegistryClaims

/-!
Which interfaces fail to compile. Resolution fails at a name collision only, and only under
the policy that makes collisions errors. Around resolution, an operation is turned down for
its method, or, strictly, for a map parameter or a taken route. So a lenient compilation
under the other policy fails exactly at the first operation whose metadata names a method
that contracts do not use.
-/
namespace RestContract

namespace Operation

def NamesForeignMethod (o : Operation) (text : String) : Prop :=
  ∃ metadata, o.route = some metadata ∧ metadata.method = some text ∧
    Text.upper text ∉ ["GET", "POST", "PUT", "DELETE"]

end Operation

/-- When an error may come up in the compilation of an interface under the options. -/
def CompileError.Warranted (options : CompilerOptions) (i : Interface) : CompileError → Prop
  | .unsupportedMapParameter _ _ _ => options.strict = true
  | .duplicateRoute _ _ _ => options.strict = true
  | .schemaNameCollision _ _ _ => options.collisionPolicy = .error
  | .unsupportedMethod name text => ∃ o ∈ i.operations, o.name = name ∧ o.NamesForeignMethod text
  | .descriptor _ => False

theorem HttpMethod.ofName?_eq_none_iff (name : String) :
    HttpMethod.ofName? name = none ↔ name ∉ ["GET", "POST", "PUT", "DELETE"] := by
  unfold HttpMethod.ofName?
  split <;> simp_all

namespace EndpointRoute

variable {interface : Interface} {operation : Operation}

/-- A route is missing exactly where the metadata names a foreign method. -/
theorem of?_eq_error_iff (e : CompileError) :
    of? interface operation = .error e ↔
      ∃ text, operation.NamesForeignMethod text ∧ e = .unsupportedMethod operation.name text := by
  unfold of? Operation.NamesForeignMethod
  cases hroute : operation.route with
  | none => simp [method?]
  | some metadata =>
    cases hmethod : metadata.method with
    | none => simp [method?, hmethod]
    | some text =>
      cases hname : HttpMethod.ofName? (Text.upper text) with
      | none =>
        have hforeign := (HttpMethod.ofName?_eq_none_iff _).mp hname
        simp only [Option.getD_some, hmethod, method?, HttpMethod.parse, hname]
        constructor
        · intro h
          cases h
          exact ⟨text, ⟨metadata, rfl, hmethod, hforeign⟩, rfl⟩
        · rintro ⟨text', ⟨metadata', hmetadata, hmethod', -⟩, rfl⟩
          cases hmetadata
          rw [hmethod] at hmethod'
          cases hmethod'
          rfl
      | some method =>
        have hknown : Text.upper text ∈ ["GET", "POST", "PUT", "DELETE"] := by
          by_contra hforeign
          rw [(HttpMethod.ofName?_eq_none_iff _).mpr hforeign] at hname
          cases hname
        simp only [Option.getD_some, hmethod, method?, HttpMethod.parse, hname]
        constructor
        · intro h
          cases h
        · rintro ⟨text', ⟨metadata', hmetadata, hmethod', hforeign⟩, -⟩
          cases hmetadata
          rw [hmethod] at hmethod'
          cases hmethod'
          exact absurd hknown hforeign

end EndpointRoute

/-- What an operation of the interface is turned down with is warranted. -/
theorem Operation.Refused.warranted {options : CompilerOptions} {i : Interface} {o : Operation}
    {e : CompileError} (h : o.Refused i options.strict e) (ho : o ∈ i.operations) :
    e.Warranted options i := by
  cases h with
  | method hroute =>
    obtain ⟨text, hforeign, rfl⟩ := (EndpointRoute.of?_eq_error_iff e).mp hroute
    exact ⟨o, ho, rfl, hforeign⟩
  | route route hstrict => exact hstrict
  | parameter parameter hstrict => exact hstrict

namespace Resolving

variable {α β : Type} {policy : CollisionPolicy} {errors : CompileError → Prop}
  {x : Resolving α} {f : α → Resolving β}

/-- Under the policy, the computation keeps the policy or ends in one of the errors. -/
def Raises (policy : CollisionPolicy) (errors : CompileError → Prop) (x : Resolving α) : Prop :=
  ∀ p, p.registry.policy = policy →
    (∃ a p', x p = .ok a p' ∧ p'.registry.policy = policy) ∨ ∃ e p', x p = .error e p' ∧ errors e

namespace Raises

theorem pure (a : α) : Raises policy errors (pure a) := by
  intro p hp
  exact .inl ⟨a, p, rfl, hp⟩

theorem throw {e : CompileError} (h : errors e) : Raises policy errors (throw e : Resolving α) := by
  intro p _
  exact .inr ⟨e, p, rfl, h⟩

theorem bind (h : Raises policy errors x) (hf : ∀ a, Raises policy errors (f a)) :
    Raises policy errors (x >>= f) := by
  intro p hp
  rcases h p hp with ⟨a, p', hx, hp'⟩ | ⟨e, p', hx, he⟩
  · rw [bind_ok hx]
    exact hf a p' hp'
  · rw [bind_error hx]
    exact .inr ⟨e, p', rfl, he⟩

theorem modifyGet {change : Pass → α × Pass}
    (h : ∀ p, (change p).2.registry.policy = p.registry.policy) :
    Raises policy errors (modifyGet change) := by
  intro p hp
  exact .inl ⟨(change p).1, (change p).2, rfl, (h p).trans hp⟩

/-- A claim fails under the policy that makes collisions errors only. -/
theorem claim (preferred : String) (origin : Origin)
    (h : policy = .error → ∀ name existing incoming,
      errors (.schemaNameCollision name existing incoming)) :
    Raises policy errors (claim preferred origin) := by
  intro p hp
  cases hclaim : p.registry.claim preferred origin with
  | error e =>
    have hfails : Resolving.claim preferred origin p = .error e p :=
      Registry.claim_eq_error_iff.mpr ⟨hclaim, rfl⟩
    obtain ⟨-, hpolicy, entry, -, rfl⟩ := Registry.claim_error_iff.mp hclaim
    exact .inr ⟨_, p, hfails, h (hp.symm.trans hpolicy) _ _ _⟩
  | ok outcome =>
    obtain ⟨claim, registry⟩ := outcome
    have hquiet := Pass.quiet_recordAll (.ofList []) { p with registry }
      (Registry.renameEvent? preferred origin claim).toList
    refine .inl ⟨claim, _, by rw [Resolving.claim, hclaim], ?_⟩
    rw [hquiet.registry]
    exact (Registry.policy_claim hclaim).trans hp

theorem actions (hcollision : policy = .error → ∀ name existing incoming,
      errors (.schemaNameCollision name existing incoming)) :
    Actions fun x _ => Raises policy errors x where
  pure := pure
  bind := bind
  note _ _ _ := modifyGet fun _ => rfl
  claim preferred origin := claim preferred origin hcollision
  define _ _ := modifyGet fun _ => rfl

/-- Resolution raises collisions, where these are errors, and nothing else. -/
theorem congruence (catalog : TypeCatalog)
    (hcollision : policy = .error → ∀ name existing incoming,
      errors (.schemaNameCollision name existing incoming)) :
    Congruence catalog catalog (fun _ => True) (fun _ _ => True)
      fun x _ => Raises policy errors x where
  toSteps := (actions hcollision).steps
  lookup h := by
    refine bind (modifyGet fun p => ?_) fun a => h a trivial
    rw [(Pass.quiet_subtypesOf catalog p _).registry]
  descendants _ := modifyGet fun _ => congrArg Registry.policy registry_descendantsFrom
  attach a _ := modifyGet fun p => by
    rw [Pass.attach_registry]
    exact Registry.policy_take _ a

end Raises

end Resolving

namespace Compilation

open Resolving

variable {catalog : TypeCatalog} {options : CompilerOptions} {interface : Interface}
  {errors : CompileError → Prop} {operations : List Operation} {p : Pass} {e : CompileError}

/-- Adding operations ends in collisions, where these are errors, and in what the operations
are turned down with. -/
theorem raises_addOperations
    (hcollision : options.collisionPolicy = .error → ∀ name existing incoming,
      errors (.schemaNameCollision name existing incoming))
    (hrefused : ∀ o ∈ operations, ∀ e, o.Refused interface options.strict e → errors e)
    (document : Document) :
    Raises options.collisionPolicy errors
      (addOperations catalog options interface operations document) := by
  have hcongruence := Raises.congruence catalog hcollision
  refine @related_addOperations catalog catalog _ _ interface options options document hcongruence
    rfl operations fun o ho => ⟨fun t _ => ?_, fun e he => .throw (hrefused o ho e he)⟩
  exact (Resolver.related_ofLevels hcongruence _).1 t 1

theorem raises_close (policy : CollisionPolicy) (document : Document) :
    Raises policy errors (close interface document) := by
  intro p hp
  refine .inl ⟨_, _, rfl, ?_⟩
  have hfinish : p.finish.registry.policy = p.registry.policy := by
    rw [Pass.finish_registry, Registry.policy_takeAll]
  exact hfinish.trans hp

theorem warranted_of_error (h : (compile catalog options interface).result = .error e) :
    e.Warranted options interface := by
  have hraises : Raises options.collisionPolicy (CompileError.Warranted options interface)
      (interfacePass catalog options interface) := by
    refine (raises_addOperations ?_ ?_ _).bind fun document => raises_close _ document
    · intro hpolicy name existing incoming
      exact hpolicy
    · intro o ho e he
      exact he.warranted ho
  unfold compile at h
  rcases hraises (.start options.collisionPolicy) rfl with
    ⟨document, pass, hrun, -⟩ | ⟨e', pass, hrun, he'⟩
  · rw [hrun] at h
    cases h
  · rw [hrun] at h
    cases h
    exact he'

/-- Leniently and without collisions, operations with methods of a contract are added. -/
theorem addOperations_succeeds (catalog : TypeCatalog) (interface : Interface)
    (hlenient : options.strict = false) (hqualify : options.collisionPolicy = .qualify)
    (hmethods : ∀ o ∈ operations, ∀ text, ¬ o.NamesForeignMethod text)
    (hp : p.registry.policy = options.collisionPolicy) (document : Document) :
    ∃ document' p', addOperations catalog options interface operations document p =
      .ok document' p' := by
  have hraises : Raises options.collisionPolicy (fun _ => False)
      (addOperations catalog options interface operations document) := by
    refine raises_addOperations ?_ ?_ document
    · intro herror
      rw [hqualify] at herror
      cases herror
    · intro o ho e he
      cases he with
      | method hroute =>
        obtain ⟨text, hforeign, -⟩ := (EndpointRoute.of?_eq_error_iff e).mp hroute
        exact hmethods o ho text hforeign
      | route route hstrict => simp [hlenient] at hstrict
      | parameter parameter hstrict => simp [hlenient] at hstrict
  rcases hraises p hp with ⟨document', p', hrun, -⟩ | ⟨e, p', -, hfalse⟩
  · exact ⟨document', p', hrun⟩
  · exact hfalse.elim

theorem addOperations_append (first second : List Operation) (document : Document) :
    addOperations catalog options interface (first ++ second) document =
      (addOperations catalog options interface first document >>= fun document' =>
        addOperations catalog options interface second document') := by
  induction first generalizing document with
  | nil => rfl
  | cons operation rest ih =>
    simp only [List.cons_append, addOperations, bind_assoc]
    congr 1
    funext document'
    exact ih document'

/-- The first foreign method ends a lenient compilation without collisions. -/
theorem addOperations_fails (catalog : TypeCatalog) (interface : Interface)
    (hlenient : options.strict = false) (hqualify : options.collisionPolicy = .qualify)
    {before after : List Operation} {o : Operation} {text : String}
    (hbefore : ∀ other ∈ before, ∀ text, ¬ other.NamesForeignMethod text)
    (hforeign : o.NamesForeignMethod text) (hp : p.registry.policy = options.collisionPolicy)
    (document : Document) :
    ∃ p', addOperations catalog options interface (before ++ o :: after) document p =
      .error (.unsupportedMethod o.name text) p' := by
  obtain ⟨document', p', hrun⟩ :=
    addOperations_succeeds catalog interface hlenient hqualify hbefore hp document
  have hroute : EndpointRoute.of? interface o = .error (.unsupportedMethod o.name text) :=
    (EndpointRoute.of?_eq_error_iff _).mpr ⟨text, hforeign, rfl⟩
  obtain ⟨p'', hdecide⟩ := EndpointRoute.decide_eq_error hroute p'
  refine ⟨p'', ?_⟩
  rw [addOperations_append, bind_ok hrun]
  exact bind_error (bind_error hdecide)

/-- The first element with a property, if some element has it. -/
theorem exists_first {α : Type} {property : α → Prop} {items : List α}
    (h : ∃ a ∈ items, property a) :
    ∃ before a after, items = before ++ a :: after ∧ (∀ b ∈ before, ¬ property b) ∧
      property a := by
  classical
  obtain ⟨a, ha, hproperty⟩ := h
  have hfound : (items.find? fun a => decide (property a)).isSome = true :=
    List.find?_isSome.mpr ⟨a, ha, by simpa using hproperty⟩
  obtain ⟨first, hfirst⟩ := Option.isSome_iff_exists.mp hfound
  obtain ⟨hholds, before, after, hsplit, hnone⟩ := List.find?_eq_some_iff_append.mp hfirst
  exact ⟨before, first, after, hsplit, fun b hb => by simpa using hnone b hb, by simpa using hholds⟩

theorem compile_eq_error (h : ∃ p', addOperations catalog options interface interface.operations
      (blank interface options) (.start options.collisionPolicy) = .error e p') :
    (compile catalog options interface).result = .error e := by
  obtain ⟨p', hadd⟩ := h
  have hpass : interfacePass catalog options interface (.start options.collisionPolicy) =
      .error e p' := bind_error hadd
  unfold compile
  rw [hpass]

/-- A lenient compilation that settles collisions fails exactly if some operation names a
foreign method, and the error is that of the first such operation. Under any options, an
error is warranted: map parameters and taken routes are errors in strict compilations only,
and collisions under their policy only. -/
theorem compile_fails_iff (catalog : TypeCatalog) (options : CompilerOptions)
    (interface : Interface) :
    ((∃ e, (compile catalog { options with strict := false, collisionPolicy := .qualify }
        interface).result = .error e) ↔
      ∃ o ∈ interface.operations, ∃ text, o.NamesForeignMethod text) ∧
    (∀ e, (compile catalog { options with strict := false, collisionPolicy := .qualify }
        interface).result = .error e ↔
      ∃ before o after text, interface.operations = before ++ o :: after ∧
        (∀ other ∈ before, ∀ text, ¬ other.NamesForeignMethod text) ∧
        o.NamesForeignMethod text ∧ e = .unsupportedMethod o.name text) ∧
    ∀ e, (compile catalog options interface).result = .error e →
      e.Warranted options interface := by
  have hfails : ∀ before o after text, interface.operations = before ++ o :: after →
      (∀ other ∈ before, ∀ text, ¬ other.NamesForeignMethod text) → o.NamesForeignMethod text →
      (compile catalog { options with strict := false, collisionPolicy := .qualify }
        interface).result = .error (.unsupportedMethod o.name text) := by
    intro before o after text hsplit hbefore hforeign
    apply compile_eq_error
    rw [hsplit]
    exact addOperations_fails catalog interface rfl rfl hbefore hforeign rfl _
  have hforeign : ∀ e, (compile catalog
      { options with strict := false, collisionPolicy := .qualify } interface).result = .error e →
      ∃ o ∈ interface.operations, ∃ text, o.NamesForeignMethod text := by
    intro e he
    have hwarranted := warranted_of_error he
    cases e with
    | unsupportedMethod name text =>
      obtain ⟨o, ho, -, hnames⟩ := hwarranted
      exact ⟨o, ho, text, hnames⟩
    | unsupportedMapParameter | duplicateRoute | schemaNameCollision => cases hwarranted
    | descriptor => exact hwarranted.elim
  refine ⟨⟨fun ⟨e, he⟩ => hforeign e he, fun hsome => ?_⟩, fun e => ⟨fun he => ?_, ?_⟩,
    fun e => warranted_of_error⟩
  · obtain ⟨before, o, after, hsplit, hbefore, text, hnames⟩ := exists_first hsome
    refine ⟨_, hfails before o after text hsplit ?_ hnames⟩
    exact fun other hother text hother' => hbefore other hother ⟨text, hother'⟩
  · obtain ⟨before, o, after, hsplit, hbefore, text, hnames⟩ := exists_first (hforeign e he)
    have hfirst : ∀ other ∈ before, ∀ text, ¬ other.NamesForeignMethod text :=
      fun other hother text hother' => hbefore other hother ⟨text, hother'⟩
    have herror := he.symm.trans (hfails before o after text hsplit hfirst hnames)
    exact ⟨before, o, after, text, hsplit, hfirst, hnames, Except.error.inj herror⟩
  · rintro ⟨before, o, after, text, hsplit, hbefore, hnames, rfl⟩
    exact hfails before o after text hsplit hbefore hnames

def kiosk : Interface where
  name := "org.acme.IKiosk"
  operations :=
    [{ name := "open", route := some { method := some "Put" } },
      { name := "sell", route := some { method := some "patch" } },
      { name := "close", route := some { method := some "head" } }]

/-- The kiosk fails with the first of them, and whatever a strict compilation of it fails with
is warranted. -/
theorem kiosk_fails :
    (compile (.ofList []) { strict := false, collisionPolicy := .qualify } kiosk).result =
      .error (.unsupportedMethod "sell" "patch") ∧
    ∀ e, (compile (.ofList []) { strict := true } kiosk).result = .error e →
      e.Warranted { strict := true } kiosk := by
  obtain ⟨-, herror, -⟩ := compile_fails_iff (.ofList []) {} kiosk
  obtain ⟨-, -, hwarranted⟩ := compile_fails_iff (.ofList []) { strict := true } kiosk
  refine ⟨(herror _).mpr ?_, hwarranted⟩
  refine ⟨kiosk.operations.take 1, _, kiosk.operations.drop 2, "patch", rfl, ?_, ?_, rfl⟩
  · intro other hother text hforeign
    obtain ⟨metadata, hroute, hmethod, hupper⟩ := hforeign
    rw [List.mem_singleton.mp hother] at hroute
    cases hroute
    cases hmethod
    exact hupper (by decide +kernel)
  · exact ⟨_, rfl, rfl, by decide +kernel⟩

end Compilation

end RestContract
