import RestContract.Proofs.DescriptorGrammar
import RestContract.Source.Catalog

/-!
Descriptors and their qualified texts. Nothing in a qualified text is escaped, so a name
that is no run of name characters is lost in it, or read as something else. With well
formed names the text has one reading, the descriptor itself: every name ends at a bracket,
a comma or the end of the text, and none follows the mark of a wildcard, not even one that
reads `extends` or `super`.

Only well formed names are ever read, so for a descriptor that was read the text is as good
as the descriptor.
-/
namespace RestContract

namespace TypeDescriptor

def IsName (name : String) : Prop := name.toList ≠ [] ∧ ∀ c ∈ name.toList, NameChar c

inductive WellNamed : TypeDescriptor → Prop
  | mk {name : String} {arguments : List TypeDescriptor} : IsName name →
      (∀ t ∈ arguments, WellNamed t) → WellNamed ⟨name, arguments⟩

def Phrase.WellNamed : Phrase → Prop
  | .type t => t.WellNamed
  | .arguments ts => ∀ t ∈ ts, t.WellNamed

variable {text start name rest : List Char} {t : TypeDescriptor} {ts : List TypeDescriptor}

theorem NameRun.isName (h : NameRun text name rest) (hname : name ≠ []) :
    IsName (String.ofList name) := by
  rw [IsName, String.toList_ofList]
  exact ⟨hname, h.chars⟩

theorem wellNamed_object : object.WellNamed := by
  refine .mk ⟨by decide, ?_⟩ (by simp)
  have hchars : "java.lang.Object".toList.all isNameChar = true := by decide +kernel
  exact fun c hc => isNameChar_iff.mp (List.all_eq_true.mp hchars c hc)

theorem wellNamed_of_derives {phrase : Phrase} (h : Derives phrase text rest) :
    phrase.WellNamed := by
  induction h with
  | plain _ hrun hname _ => exact .mk (hrun.isName hname) (by simp)
  | generic _ hrun hname _ _ ih => exact .mk (hrun.isName hname) ih
  | unbounded => exact wellNamed_object
  | bounded _ _ _ _ _ ih => exact ih
  | last _ _ ih => exact List.forall_mem_singleton.mpr ih
  | more _ _ _ ih ih' => exact List.forall_mem_cons.mpr ⟨ih, ih'⟩

theorem Blanks.cons {c : Char} (hc : Text.isBlank c = true) (h : Blanks text rest) :
    Blanks (c :: text) rest := by
  obtain ⟨blanks, hblanks, rfl⟩ := h
  exact ⟨c :: blanks, List.forall_mem_cons.mpr ⟨hc, hblanks⟩, rfl⟩

/-- Any phrase may stand behind a blank. -/
theorem Derives.behind_blank {phrase : Phrase} {c : Char} (hc : Text.isBlank c = true)
    (h : Derives phrase text rest) : Derives phrase (c :: text) rest := by
  induction h with
  | plain hblanks hrun hname hafter => exact .plain (hblanks.cons hc) hrun hname hafter
  | generic hblanks hrun hname hopen hinside _ =>
    exact .generic (hblanks.cons hc) hrun hname hopen hinside
  | unbounded hmark hafter hrun hword => exact .unbounded (hmark.cons hc) hafter hrun hword
  | bounded hmark hafter hrun hword hbound _ =>
    exact .bounded (hmark.cons hc) hafter hrun hword hbound
  | last _ hclose ih => exact .last ih hclose
  | more _ hcomma hrest ih _ => exact .more ih hcomma hrest

/-- The qualified text is derived in front of anything that does not prolong it. -/
def Readable (t : TypeDescriptor) : Prop :=
  ∀ rest : List Char, (∀ c ∈ rest.head?, ¬NameChar c) →
    Derives (.type t) (t.qualified.toList ++ rest) rest

theorem not_nameChar_of_mark {c : Char} (h : c ∈ ['?', '<', ',', '>']) : ¬NameChar c := by
  rw [← isNameChar_iff, (mark_classes c h).2]
  simp

/-- A readable type in front of one of the marks. -/
theorem Readable.before_mark (h : t.Readable) {c : Char} (hc : c ∈ ['?', '<', ',', '>'])
    (rest : List Char) : Derives (.type t) (t.qualified.toList ++ c :: rest) (c :: rest) := by
  refine h (c :: rest) ?_
  rintro _ ⟨⟩
  exact not_nameChar_of_mark hc

theorem nameRun_of_isName {name : String} (h : IsName name)
    (hstop : ∀ c ∈ rest.head?, ¬NameChar c) : NameRun (name.toList ++ rest) name.toList rest :=
  ⟨rfl, h.2, hstop⟩

theorem readable_ofName {name : String} (h : IsName name) : (ofName name).Readable := by
  intro rest hstop
  have hplain : Derives (.type (ofName (String.ofList name.toList))) (name.toList ++ rest) rest :=
    .plain (blanks_refl _) (nameRun_of_isName h hstop) h.1 (blanks_refl _)
  rwa [String.ofList_toList] at hplain

/-- The arguments as they are written behind the opening bracket. -/
theorem derives_arguments (first : TypeDescriptor) (others : List TypeDescriptor)
    (h : ∀ t ∈ first :: others, t.Readable) (rest : List Char) :
    Derives (.arguments (first :: others))
      (first.qualified.toList ++ ((renderRest id others).toList ++ '>' :: rest)) rest := by
  induction others generalizing first with
  | nil =>
    have hfirst := h first (List.mem_cons_self ..)
    exact .last (hfirst.before_mark (by simp) rest) (blanks_refl _)
  | cons second others ih =>
    obtain ⟨hfirst, hothers⟩ := List.forall_mem_cons.mp h
    have htext : (renderRest id (second :: others)).toList ++ '>' :: rest =
        ',' :: ' ' :: (second.qualified.toList ++
          ((renderRest id others).toList ++ '>' :: rest)) := by
      rw [renderRest, String.toList_append, String.toList_append, List.append_assoc,
        List.append_assoc]
      rfl
    rw [htext]
    exact .more (hfirst.before_mark (by simp) _) (blanks_refl _)
      ((ih second hothers).behind_blank (by decide))

theorem WellNamed.readable (h : t.WellNamed) : t.Readable := by
  induction h with
  | @mk name arguments hname _ ih =>
    cases arguments with
    | nil => exact readable_ofName hname
    | cons first others =>
      intro rest _
      have htext : (qualified ⟨name, first :: others⟩).toList ++ rest =
          name.toList ++ '<' :: (first.qualified.toList ++
            ((renderRest id others).toList ++ '>' :: rest)) := by
        rw [qualified, render]
        simp only [String.toList_append, List.append_assoc]
        rfl
      have hopen : ∀ inside : List Char, NameRun (name.toList ++ '<' :: inside) name.toList
          ('<' :: inside) := by
        intro inside
        refine nameRun_of_isName hname ?_
        rintro _ ⟨⟩
        exact not_nameChar_of_mark (by simp)
      have hgeneric : Derives (.type ⟨String.ofList name.toList, first :: others⟩) _ rest :=
        .generic (blanks_refl _) (hopen _) hname.1 (blanks_refl _)
          (derives_arguments first others ih rest)
      rw [htext]
      rwa [String.ofList_toList] at hgeneric

theorem wellNamed_of_parse {text : String} (h : parse text = .ok t) : t.WellNamed := by
  obtain ⟨rest, hderives, -⟩ := readAll_eq_ok_iff.mp (parse_eq_ok_iff_readAll.mp h)
  exact wellNamed_of_derives hderives

theorem parse_qualified_of_wellNamed (h : t.WellNamed) : parse t.qualified = .ok t := by
  have hderives := h.readable [] (by simp)
  rw [List.append_nil] at hderives
  exact parse_eq_ok_iff_readAll.mpr (readAll_eq_ok_iff.mpr ⟨[], hderives, blanks_refl []⟩)

/-- The qualified text of a descriptor reads as that descriptor exactly if all its names are
well formed. So a descriptor that was read from a text is read again from its qualified
text, also where that is what stands for it in a document. -/
theorem parse_qualified_iff_wellNamed (t : TypeDescriptor) :
    (parse t.qualified = .ok t ↔ t.WellNamed) ∧
    ∀ text, parse text = .ok t → parse t.qualified = .ok t ∧ ofNode? t.toJson = some t := by
  refine ⟨⟨wellNamed_of_parse, parse_qualified_of_wellNamed⟩, fun text h => ?_⟩
  have hparse := parse_qualified_of_wellNamed (wellNamed_of_parse h)
  refine ⟨hparse, ?_⟩
  change (parse t.qualified).toOption = some t
  rw [hparse]
  rfl

/-- A text with blanks and wildcards, whose second argument is named like a keyword. -/
theorem spaced_map_reads_again :
    parse " java.util.Map <?,? extends super > " =
        .ok ⟨"java.util.Map", [object, ofName "super"]⟩ ∧
      parse "java.util.Map<java.lang.Object, super>" =
        .ok ⟨"java.util.Map", [object, ofName "super"]⟩ ∧
      ofNode? (toJson ⟨"java.util.Map", [object, ofName "super"]⟩) =
        some ⟨"java.util.Map", [object, ofName "super"]⟩ := by
  have hread : parse " java.util.Map <?,? extends super > " =
      .ok ⟨"java.util.Map", [object, ofName "super"]⟩ := by decide +kernel
  obtain ⟨hagain, hnode⟩ := (parse_qualified_iff_wellNamed _).2 _ hread
  exact ⟨hread, hagain, hnode⟩

end TypeDescriptor

end RestContract
