import RestContract.Endpoint
import RestContract.Proofs.DescriptorTexts

/-!
What the signature of a request wrapper tells. It is a text, in which the types of the body
parameters stand between the last bracket and the end. For types that can be read this text
is as good as the types: none of them has a bracket in its text, and together they are
written like the arguments of a single type, which is read back from its text.
-/
namespace RestContract

namespace TypeDescriptor

variable {t : TypeDescriptor} {ts us : List TypeDescriptor} {c : Char}

def TextChar (c : Char) : Prop := NameChar c ∨ c ∈ ['<', ',', ' ', '>']

theorem textChar_renderRest (h : ∀ t ∈ ts, ∀ c ∈ t.qualified.toList, TextChar c)
    (hc : c ∈ (renderRest id ts).toList) : TextChar c := by
  induction ts with
  | nil => simp [renderRest] at hc
  | cons first rest ih =>
    obtain ⟨hfirst, hrest⟩ := List.forall_mem_cons.mp h
    rw [renderRest, String.toList_append, String.toList_append, List.mem_append,
      List.mem_append] at hc
    rcases hc with (hmark | hname) | hothers
    · have hmarks : ", ".toList ⊆ ['<', ',', ' ', '>'] := by simp
      exact .inr (hmarks hmark)
    · exact hfirst c hname
    · exact ih hrest hothers

theorem WellNamed.textChar (h : t.WellNamed) (hc : c ∈ t.qualified.toList) : TextChar c := by
  induction h generalizing c with
  | @mk name arguments hname _ ih =>
    cases arguments with
    | nil => exact .inl (hname.2 c hc)
    | cons first rest =>
      obtain ⟨hfirst, hrest⟩ := List.forall_mem_cons.mp fun t ht c => @ih t ht c
      rw [qualified, render] at hc
      simp only [String.toList_append, List.mem_append] at hc
      rcases hc with (((hlabel | hopen) | hinner) | hothers) | hclose
      · exact .inl (hname.2 c hlabel)
      · have hmarks : "<".toList ⊆ ['<', ',', ' ', '>'] := by simp
        exact .inr (hmarks hopen)
      · exact hfirst c hinner
      · exact textChar_renderRest hrest hothers
      · have hmarks : ">".toList ⊆ ['<', ',', ' ', '>'] := by simp
        exact .inr (hmarks hclose)

/-- The texts of some types with commas in between. -/
theorem intercalate_qualified (first : TypeDescriptor) (rest : List TypeDescriptor) :
    ", ".intercalate ((first :: rest).map qualified) = first.qualified ++ renderRest id rest := by
  induction rest generalizing first with
  | nil => simp [renderRest]
  | cons second others ih =>
    rw [List.map_cons, List.map_cons, String.intercalate_cons_cons, ← List.map_cons, ih second,
      renderRest, String.append_assoc, String.append_assoc]
    rfl

theorem textChar_intercalate (h : ∀ t ∈ ts, t.WellNamed)
    (hc : c ∈ (", ".intercalate (ts.map qualified)).toList) : TextChar c := by
  cases ts with
  | nil => simp at hc
  | cons first rest =>
    obtain ⟨hfirst, hrest⟩ := List.forall_mem_cons.mp h
    rw [intercalate_qualified, String.toList_append] at hc
    rcases List.mem_append.mp hc with hinner | hothers
    · exact hfirst.textChar hinner
    · exact textChar_renderRest (fun t ht c => (hrest t ht).textChar) hothers

theorem not_textChar_bracket : ¬TextChar '(' := by
  have hname : isNameChar '(' = false := by decide +kernel
  rintro (hchar | hmark)
  · rw [isNameChar_iff.mpr hchar] at hname
    cases hname
  · simp at hmark

/-- Types that can be read are known from such a text. -/
theorem eq_of_intercalate_qualified (hts : ∀ t ∈ ts, t.WellNamed) (hus : ∀ t ∈ us, t.WellNamed)
    (hts' : ts ≠ []) (hus' : us ≠ [])
    (h : ", ".intercalate (ts.map qualified) = ", ".intercalate (us.map qualified)) : ts = us := by
  obtain ⟨first, rest, rfl⟩ := List.exists_cons_of_ne_nil hts'
  obtain ⟨first', rest', rfl⟩ := List.exists_cons_of_ne_nil hus'
  rw [intercalate_qualified, intercalate_qualified] at h
  -- As the arguments of one type they are read back from its text.
  have hname : IsName object.name := by
    obtain ⟨hname, -⟩ := wellNamed_object
    exact hname
  have htext : qualified ⟨object.name, first :: rest⟩ =
      qualified ⟨object.name, first' :: rest'⟩ := by
    simp only [qualified, render] at h ⊢
    rw [@String.append_assoc _ (render id first), h, ← @String.append_assoc _ (render id first')]
  have hread := parse_qualified_of_wellNamed (.mk hname hts)
  rw [htext, parse_qualified_of_wellNamed (.mk hname hus)] at hread
  injection hread with heq
  injection heq with _ harguments
  exact harguments.symm

end TypeDescriptor

/-- What follows the last mark of a text. -/
theorem eq_of_last_mark {mark : Char} {front front' back back' : List Char} (hback : mark ∉ back)
    (hback' : mark ∉ back') (h : front ++ mark :: back = front' ++ mark :: back') :
    back = back' := by
  have hlast : ∀ front back : List Char, mark ∉ back →
      (front ++ mark :: back).reverse.takeWhile (· ≠ mark) = back.reverse := by
    intro front back hback
    have hpass : ∀ c ∈ back.reverse, decide (c ≠ mark) = true := by
      intro c hc
      have hne : c ≠ mark := by
        rintro rfl
        exact hback (List.mem_reverse.mp hc)
      simpa using hne
    rw [List.reverse_append, List.reverse_cons, List.append_assoc,
      List.takeWhile_append_of_pos hpass]
    simp
  have hreverse := hlast front back hback
  rw [h, hlast front' back' hback'] at hreverse
  exact (List.reverse_inj.mp hreverse).symm

namespace Endpoint

variable {interface : Interface} {operation operation' : Operation}
  {body body' : List BodyParameter}

theorem wrapperSignature_toList (interface : Interface) (operation : Operation)
    (body : List BodyParameter) :
    ∃ front, (wrapperSignature interface operation body).toList = front ++
      '(' :: ((", ".intercalate ((body.map BodyParameter.origin).map
        TypeDescriptor.qualified)).toList ++ [')']) := by
  refine ⟨("request " ++ interface.name ++ "." ++ operation.name).toList, ?_⟩
  unfold wrapperSignature
  rw [List.map_map]
  simp only [String.toList_append, List.append_assoc]
  rfl

theorem not_mem_origins (h : ∀ b ∈ body, b.origin.WellNamed) :
    '(' ∉ (", ".intercalate ((body.map BodyParameter.origin).map
      TypeDescriptor.qualified)).toList ++ [')'] := by
  intro hmem
  rcases List.mem_append.mp hmem with hinside | hclose
  · refine TypeDescriptor.not_textChar_bracket (TypeDescriptor.textChar_intercalate ?_ hinside)
    exact List.forall_mem_map.mpr h
  · simp at hclose

/-- The signature of a wrapper tells the types of the body parameters. -/
theorem origins_of_wrapperSignature (hbody : ∀ b ∈ body, b.origin.WellNamed)
    (hbody' : ∀ b ∈ body', b.origin.WellNamed) (hsome : body ≠ []) (hsome' : body' ≠ [])
    (h : wrapperSignature interface operation body = wrapperSignature interface operation' body') :
    body.map BodyParameter.origin = body'.map BodyParameter.origin := by
  obtain ⟨front, htext⟩ := wrapperSignature_toList interface operation body
  obtain ⟨front', htext'⟩ := wrapperSignature_toList interface operation' body'
  rw [h, htext'] at htext
  have hclosed := eq_of_last_mark (not_mem_origins hbody') (not_mem_origins hbody) htext
  have hinside := String.toList_inj.mp (List.append_cancel_right hclosed)
  refine (TypeDescriptor.eq_of_intercalate_qualified ?_ ?_ ?_ ?_ hinside).symm
  · exact List.forall_mem_map.mpr hbody'
  · exact List.forall_mem_map.mpr hbody
  · simpa using hsome'
  · simpa using hsome

end Endpoint

end RestContract
