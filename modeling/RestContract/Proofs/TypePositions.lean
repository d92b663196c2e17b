import RestContract.Proofs.Catalogs
import RestContract.Proofs.SchemaReferences

/-!
What a type resolves to, read off a registry that already knows the names. Nothing
but names is consulted, so the position of a type is the same in every registry that
extends the first, and it refers to nothing that the registry does not know.
-/
namespace RestContract

namespace Registry

def reference? (r : Registry) (origin : Origin) : Option SchemaRef :=
  (r.nameOf? origin).map .component

def namedPosition? (catalog : TypeCatalog) (r : Registry) (name : String) : Option SchemaRef :=
  match catalog.lookup? name with
  | none => r.reference? (.type name)
  | some d =>
      if d.isEnum then some (.inline (Resolver.enumSchema d)) else r.reference? (.type d.name)

section Composite

variable (catalog : TypeCatalog) (r : Registry) (inside : TypeDescriptor → Option SchemaRef)

def optionalPosition? (t : TypeDescriptor) : Option SchemaRef :=
  match t.arguments with
  | [inner] => inside inner
  | _ => some freeForm

def collectionPosition? (family : ContainerFamily) (t : TypeDescriptor) : Option SchemaRef :=
  match t.arguments with
  | element :: _ => (inside element).map (Resolver.collectionSchema family)
  | [] => some (Resolver.collectionSchema family freeForm)

def mapPosition? (t : TypeDescriptor) : Option SchemaRef :=
  match t.arguments with
  | [key, value] =>
      if isText key then (inside value).map fun values => .inline (.mapOf values)
      else r.reference? (.synthetic s!"map {t.qualified}")
  | _ => some (.inline (.mapOf freeForm))

def compositePosition? (t : TypeDescriptor) : Option SchemaRef :=
  if isAnyObject t then some freeForm
  else if isOptional t then optionalPosition? inside t
  else
    match ContainerFamily.of? t with
    | some .map => r.mapPosition? inside t
    | some family => collectionPosition? inside family t
    | none => r.namedPosition? catalog t.name

end Composite

/-- The position of a type with so many levels left before the depth limit. -/
def positionWithin? (catalog : TypeCatalog) (r : Registry) : Nat → TypeDescriptor → Option SchemaRef
  | 0, _ => some freeForm
  | left + 1, t =>
      match classify t with
      | .scalar schema => some (.inline schema)
      | .void => some freeForm
      | .composite => r.compositePosition? catalog (r.positionWithin? catalog left) t

def position? (catalog : TypeCatalog) (r : Registry) (t : TypeDescriptor) (depth : Nat) :
    Option SchemaRef :=
  r.positionWithin? catalog (maxDepth + 1 - depth) t

variable {catalog : TypeCatalog} {r r' : Registry} {origin : Origin} {name : String}
  {ref : SchemaRef}

theorem position?_of_deep {t : TypeDescriptor} {depth : Nat} (h : maxDepth < depth) :
    r.position? catalog t depth = some freeForm := by
  have hleft : maxDepth + 1 - depth = 0 := by omega
  rw [position?, hleft, positionWithin?]

/-- Above the limit a type is opened, and the types inside it stand one level deeper. -/
theorem position?_of_shallow {t : TypeDescriptor} {depth : Nat} (h : depth ≤ maxDepth) :
    r.position? catalog t depth =
      match classify t with
      | .scalar schema => some (.inline schema)
      | .void => some freeForm
      | .composite =>
          r.compositePosition? catalog (fun inner => r.position? catalog inner (depth + 1)) t := by
  have hleft : maxDepth + 1 - depth = (maxDepth + 1 - (depth + 1)) + 1 := by omega
  rw [position?, hleft, positionWithin?]
  rfl

theorem reference?_eq_some : r.reference? origin = some ref ↔
    ∃ name, r.nameOf? origin = some name ∧ ref = .component name := by
  rw [reference?, Option.map_eq_some_iff]
  simp only [eq_comm]

theorem reference?_mono (hext : r.Extends r') (h : r.reference? origin = some ref) :
    r'.reference? origin = some ref := by
  obtain ⟨name, hname, rfl⟩ := reference?_eq_some.mp h
  exact reference?_eq_some.mpr ⟨name, hext origin name hname, rfl⟩

theorem covers_of_reference? (h : r.reference? origin = some ref) : r.Covers ref := by
  obtain ⟨name, hname, rfl⟩ := reference?_eq_some.mp h
  exact covers_component hname

theorem namedPosition?_mono (hext : r.Extends r')
    (h : r.namedPosition? catalog name = some ref) :
    r'.namedPosition? catalog name = some ref := by
  unfold namedPosition? at h ⊢
  split at h
  · exact reference?_mono hext h
  · split at h
    next henum => simpa [henum] using h
    next henum => simpa [henum] using reference?_mono hext h

theorem covers_of_namedPosition? (h : r.namedPosition? catalog name = some ref) :
    r.Covers ref := by
  unfold namedPosition? at h
  split at h
  · exact covers_of_reference? h
  · split at h
    · cases h
      exact covers_of_parts_nil rfl
    · exact covers_of_reference? h

section Composite

variable {inside inside' : TypeDescriptor → Option SchemaRef} {t : TypeDescriptor}

theorem optionalPosition?_mono (hinside : ∀ t ref, inside t = some ref → inside' t = some ref)
    (h : optionalPosition? inside t = some ref) : optionalPosition? inside' t = some ref := by
  unfold optionalPosition? at h ⊢
  split at h
  next inner _ => exact hinside inner ref h
  next => exact h

theorem collectionPosition?_mono {family : ContainerFamily}
    (hinside : ∀ t ref, inside t = some ref → inside' t = some ref)
    (h : collectionPosition? inside family t = some ref) :
    collectionPosition? inside' family t = some ref := by
  unfold collectionPosition? at h ⊢
  split at h
  next element _ _ =>
    obtain ⟨items, hitems, rfl⟩ := Option.map_eq_some_iff.mp h
    simp [hinside element items hitems]
  next => exact h

theorem mapPosition?_mono (hext : r.Extends r')
    (hinside : ∀ t ref, inside t = some ref → inside' t = some ref)
    (h : r.mapPosition? inside t = some ref) : r'.mapPosition? inside' t = some ref := by
  unfold mapPosition? at h ⊢
  split at h
  next key value _ =>
    split at h
    next htext =>
      obtain ⟨values, hvalues, rfl⟩ := Option.map_eq_some_iff.mp h
      simp [htext, hinside value values hvalues]
    next htext => simpa [htext] using reference?_mono hext h
  next => exact h

theorem compositePosition?_mono (hext : r.Extends r')
    (hinside : ∀ t ref, inside t = some ref → inside' t = some ref)
    (h : r.compositePosition? catalog inside t = some ref) :
    r'.compositePosition? catalog inside' t = some ref := by
  unfold compositePosition? at h ⊢
  split at h
  next hany => simpa [hany] using h
  next hany =>
    rw [if_neg hany]
    split at h
    next hoptional =>
      rw [if_pos hoptional]
      exact optionalPosition?_mono hinside h
    next hoptional =>
      rw [if_neg hoptional]
      split at h
      · exact mapPosition?_mono hext hinside h
      · exact collectionPosition?_mono hinside h
      · exact namedPosition?_mono hext h

end Composite

theorem positionWithin?_mono {left : Nat} {t : TypeDescriptor} (hext : r.Extends r')
    (h : r.positionWithin? catalog left t = some ref) :
    r'.positionWithin? catalog left t = some ref := by
  induction left generalizing t ref with
  | zero => exact h
  | succ left ih =>
    unfold positionWithin? at h ⊢
    split at h
    · exact h
    · exact h
    · exact compositePosition?_mono hext (fun _ _ => ih) h

theorem position?_mono {t : TypeDescriptor} {depth : Nat} (hext : r.Extends r')
    (h : r.position? catalog t depth = some ref) : r'.position? catalog t depth = some ref :=
  positionWithin?_mono hext h

theorem scalar?_of_classify {t : TypeDescriptor} {schema : Schema}
    (h : classify t = .scalar schema) : scalar? t.name = some schema := by
  unfold classify at h
  split at h
  · cases h
  · split at h
    next hname =>
      cases h
      exact hname
    next => cases h

/-- A scalar stands in one of the two tables. -/
theorem mem_tables_of_scalar? {schema : Schema} (h : scalar? name = some schema) :
    (name, schema) ∈ primitives ∨
      ∃ simple, wellKnownSimpleName? name = some simple ∧ (simple, schema) ∈ wellKnownScalars := by
  have hmem : ∀ {table : List (String × Schema)} {key : String},
      table.lookup key = some schema → (key, schema) ∈ table := by
    intro table key hkey
    obtain ⟨before, after, rfl, -⟩ := List.lookup_eq_some_iff.mp hkey
    simp
  unfold scalar? at h
  split at h
  next hname => exact .inl (hmem (hname.trans h))
  next =>
    obtain ⟨simple, hsimple, hschema⟩ := Option.bind_eq_some_iff.mp h
    exact .inr ⟨simple, hsimple, hmem hschema⟩

/-- A scalar says its type, neither object nor array, and at most a format beside it. -/
theorem scalar?_cases {schema : Schema} (h : scalar? name = some schema) :
    ∃ type format, (type ≠ .object ∧ type ≠ .array) ∧ schema = { type := some type, format } := by
  have hentries : ∀ entry ∈ primitives ++ wellKnownScalars, ∃ type format,
      (type ≠ .object ∧ type ≠ .array) ∧ entry.2 = { type := some type, format } := by
    simp only [primitives, wellKnownScalars, List.cons_append, List.nil_append,
      List.forall_mem_cons, List.not_mem_nil, false_implies, implies_true, and_true]
    and_intros <;> exact ⟨_, _, by decide, rfl⟩
  rcases mem_tables_of_scalar? h with hentry | ⟨simple, -, hentry⟩
  · exact hentries _ (List.mem_append_left _ hentry)
  · exact hentries _ (List.mem_append_right _ hentry)

theorem parts_scalar {schema : Schema} (h : scalar? name = some schema) : schema.parts = [] := by
  obtain ⟨type, format, -, rfl⟩ := scalar?_cases h
  rfl

section Composite

variable {inside : TypeDescriptor → Option SchemaRef} {t : TypeDescriptor}

theorem covers_of_optionalPosition? (hinside : ∀ t ref, inside t = some ref → r.Covers ref)
    (h : optionalPosition? inside t = some ref) : r.Covers ref := by
  unfold optionalPosition? at h
  split at h
  next inner _ => exact hinside inner ref h
  next =>
    cases h
    exact covers_freeForm

theorem covers_of_collectionPosition? {family : ContainerFamily}
    (hinside : ∀ t ref, inside t = some ref → r.Covers ref)
    (h : collectionPosition? inside family t = some ref) : r.Covers ref := by
  unfold collectionPosition? at h
  split at h
  next element _ _ =>
    obtain ⟨items, hitems, rfl⟩ := Option.map_eq_some_iff.mp h
    exact covers_collection family (hinside element items hitems)
  next =>
    cases h
    exact covers_collection family covers_freeForm

theorem covers_of_mapPosition? (hinside : ∀ t ref, inside t = some ref → r.Covers ref)
    (h : r.mapPosition? inside t = some ref) : r.Covers ref := by
  unfold mapPosition? at h
  split at h
  next key value _ =>
    split at h
    · obtain ⟨values, hvalues, rfl⟩ := Option.map_eq_some_iff.mp h
      exact covers_mapOf (hinside value values hvalues)
    · exact covers_of_reference? h
  next =>
    cases h
    exact covers_mapOf covers_freeForm

theorem covers_of_compositePosition? (hinside : ∀ t ref, inside t = some ref → r.Covers ref)
    (h : r.compositePosition? catalog inside t = some ref) : r.Covers ref := by
  unfold compositePosition? at h
  split at h
  · cases h
    exact covers_freeForm
  · split at h
    · exact covers_of_optionalPosition? hinside h
    · split at h
      · exact covers_of_mapPosition? hinside h
      · exact covers_of_collectionPosition? hinside h
      · exact covers_of_namedPosition? h

end Composite

theorem covers_of_positionWithin? {left : Nat} {t : TypeDescriptor}
    (h : r.positionWithin? catalog left t = some ref) : r.Covers ref := by
  induction left generalizing t ref with
  | zero =>
    cases h
    exact covers_freeForm
  | succ left ih =>
    unfold positionWithin? at h
    split at h
    next schema hscalar =>
      cases h
      exact covers_of_parts_nil (parts_scalar (scalar?_of_classify hscalar))
    next =>
      cases h
      exact covers_freeForm
    next => exact covers_of_compositePosition? (fun _ _ => ih) h

theorem covers_of_position? {t : TypeDescriptor} {depth : Nat}
    (h : r.position? catalog t depth = some ref) : r.Covers ref :=
  covers_of_positionWithin? h

end Registry

end RestContract
