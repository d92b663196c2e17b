import Mathlib.Data.List.TakeWhile
import RestContract.Descriptor.Reading

/-!
The grammar of descriptor texts. A phrase of the grammar is a type or the arguments of a
type, with the value it stands for; a derivation takes the phrase off the front of a text
and leaves the rest. Blanks may be taken or left at every joint, so one text has several
derivations, but a run of name characters is always taken whole.

Reading is sound because it takes as much as it can: all blanks, and all of a name. It is
complete for phrases that are followed by a comma, a closing bracket or nothing at all;
what blanks a derivation left behind, the reader may have taken.
-/
namespace RestContract

namespace Text

theorem exists_run_of_covered {runs : List Run} {n : Nat} (h : covered runs n = true) :
    ∃ r ∈ runs, r.first ≤ n ∧ n ≤ r.last := by
  induction runs with
  | nil => cases h
  | cons r rest ih =>
    rw [covered] at h
    split at h
    · cases h
    · rcases Bool.or_eq_true_iff.mp h with hcovers | hrest
      · simp only [Run.covers, Bool.and_eq_true, decide_eq_true_eq] at hcovers
        exact ⟨r, List.mem_cons_self .., hcovers.1⟩
      · obtain ⟨r', hr', hbounds⟩ := ih hrest
        exact ⟨r', List.mem_cons_of_mem _ hr', hbounds⟩

/-- No blank is alphanumeric. -/
theorem not_alphanumeric_of_blank {c : Char} (h : isBlank c = true) :
    isAlphanumeric c = false := by
  have hruns : ∀ r ∈ blankRuns, ∀ k < r.last - r.first + 1,
      covered alphanumericRuns (r.first + k) = false := by decide +kernel
  obtain ⟨r, hr, hfirst, hlast⟩ := exists_run_of_covered h
  have hcode : r.first + (c.toNat - r.first) = c.toNat := by omega
  rw [isAlphanumeric, ← hcode]
  exact hruns r hr _ (by omega)

end Text

namespace TypeDescriptor

def NameChar (c : Char) : Prop := Text.isAlphanumeric c = true ∨ c = '.' ∨ c = '_' ∨ c = '$'

def Blanks (text rest : List Char) : Prop :=
  ∃ blanks, (∀ c ∈ blanks, Text.isBlank c = true) ∧ text = blanks ++ rest

/-- The word is the longest run of name characters at the front of the text. -/
structure NameRun (text word rest : List Char) : Prop where
  split : text = word ++ rest
  chars : ∀ c ∈ word, NameChar c
  stop : ∀ c ∈ rest.head?, ¬NameChar c

def BoundWord (word : List Char) : Prop := word = "extends".toList ∨ word = "super".toList

inductive Phrase where
  | type (t : TypeDescriptor)
  | arguments (ts : List TypeDescriptor)

/-- The phrase stands at the front of the text and leaves the rest. -/
inductive Derives : Phrase → List Char → List Char → Prop
  | plain {text start name rest afterName : List Char} :
      Blanks text start → NameRun start name afterName → name ≠ [] → Blanks afterName rest →
      Derives (.type (ofName (String.ofList name))) text rest
  | generic {text start name afterName inside rest : List Char} {ts : List TypeDescriptor} :
      Blanks text start → NameRun start name afterName → name ≠ [] →
      Blanks afterName ('<' :: inside) → Derives (.arguments ts) inside rest →
      Derives (.type ⟨String.ofList name, ts⟩) text rest
  | unbounded {text afterMark word afterWord rest : List Char} :
      Blanks text ('?' :: afterMark) → Blanks afterMark rest → NameRun rest word afterWord →
      ¬BoundWord word → Derives (.type object) text rest
  | bounded {text afterMark start word afterWord rest : List Char} {t : TypeDescriptor} :
      Blanks text ('?' :: afterMark) → Blanks afterMark start → NameRun start word afterWord →
      BoundWord word → Derives (.type t) afterWord rest → Derives (.type t) text rest
  | last {text afterType rest : List Char} {t : TypeDescriptor} :
      Derives (.type t) text afterType → Blanks afterType ('>' :: rest) →
      Derives (.arguments [t]) text rest
  | more {text afterType next rest : List Char} {t : TypeDescriptor}
      {ts : List TypeDescriptor} :
      Derives (.type t) text afterType → Blanks afterType (',' :: next) →
      Derives (.arguments ts) next rest → Derives (.arguments (t :: ts)) text rest

def DescriptorText (text : List Char) (t : TypeDescriptor) : Prop :=
  ∃ rest, Derives (.type t) text rest ∧ Blanks rest []

variable {text start word rest : List Char}

theorem isNameChar_iff {c : Char} : isNameChar c = true ↔ NameChar c := by
  simp [isNameChar, NameChar, or_assoc]

theorem isBoundKeyword_iff : isBoundKeyword word = true ↔ BoundWord word := by
  simp [isBoundKeyword, BoundWord]

theorem NameChar.not_blank {c : Char} (h : NameChar c) : Text.isBlank c = false := by
  rcases h with halphanumeric | rfl | rfl | rfl
  · cases hblank : Text.isBlank c with
    | false => rfl
    | true => simp [Text.not_alphanumeric_of_blank hblank] at halphanumeric
  · decide
  · decide
  · decide

/-- The marks of the grammar are neither blanks nor name characters. -/
theorem mark_classes : ∀ c ∈ ['?', '<', ',', '>'],
    Text.isBlank c = false ∧ isNameChar c = false := by
  intro c hc
  simp only [List.mem_cons, List.not_mem_nil, or_false] at hc
  rcases hc with rfl | rfl | rfl | rfl <;> decide +kernel

theorem blanks_refl (text : List Char) : Blanks text text := ⟨[], by simp, rfl⟩

theorem blanks_skipBlanks (text : List Char) : Blanks text (skipBlanks text) :=
  ⟨text.takeWhile Text.isBlank, fun _ h => List.mem_takeWhile_imp h,
    (List.takeWhile_append_dropWhile ..).symm⟩

theorem skipBlanks_of_blanks (h : Blanks text rest) : skipBlanks text = skipBlanks rest := by
  obtain ⟨blanks, hblanks, rfl⟩ := h
  exact List.dropWhile_append_of_pos hblanks

theorem skipBlanks_cons {c : Char} (h : Text.isBlank c = false) :
    skipBlanks (c :: rest) = c :: rest := by simp [skipBlanks, h]

/-- Blanks in front of a character that is none are skipped up to that character. -/
theorem Blanks.skipBlanks_eq {c : Char} (h : Blanks text (c :: rest))
    (hc : Text.isBlank c = false) : skipBlanks text = c :: rest := by
  rw [skipBlanks_of_blanks h, skipBlanks_cons hc]

theorem Blanks.length_le (h : Blanks text rest) : rest.length ≤ text.length := by
  obtain ⟨blanks, -, rfl⟩ := h
  simp

theorem nameRun_splitName (text : List Char) :
    NameRun text (splitName text).1 (splitName text).2 where
  split := (List.takeWhile_append_dropWhile ..).symm
  chars c hc := isNameChar_iff.mp (List.mem_takeWhile_imp hc)
  stop c hc := by
    have hhead := List.head?_dropWhile_not isNameChar text
    have hc' : (text.dropWhile isNameChar).head? = some c := hc
    rw [hc'] at hhead
    rw [← isNameChar_iff]
    simpa using hhead

theorem NameRun.splitName_eq (h : NameRun text word rest) : splitName text = (word, rest) := by
  have hchars : ∀ c ∈ word, isNameChar c = true := fun c hc => isNameChar_iff.mpr (h.chars c hc)
  have hstop : rest.takeWhile isNameChar = [] ∧ rest.dropWhile isNameChar = rest := by
    cases rest with
    | nil => simp
    | cons c others =>
      have hc : isNameChar c = false := by
        rw [← Bool.not_eq_true, isNameChar_iff]
        exact h.stop c rfl
      simp [hc]
  rw [splitName, h.split, List.takeWhile_append_of_pos hchars,
    List.dropWhile_append_of_pos hchars, hstop.1, hstop.2, List.append_nil]

theorem NameRun.length_eq (h : NameRun text word rest) :
    text.length = word.length + rest.length := by
  rw [h.split, List.length_append]

/-- A name starts with a character that is neither a blank nor the mark of a wildcard. -/
theorem NameRun.head (h : NameRun text word rest) (hword : word ≠ []) :
    ∃ c others, text = c :: others ∧ Text.isBlank c = false ∧ c ≠ '?' := by
  obtain ⟨c, others, rfl⟩ := List.exists_cons_of_ne_nil hword
  have hc : NameChar c := h.chars c (List.mem_cons_self ..)
  refine ⟨c, others ++ rest, by simp [h.split], hc.not_blank, ?_⟩
  rintro rfl
  have hmark := (mark_classes '?' (by simp)).2
  rw [isNameChar_iff.mpr hc] at hmark
  cases hmark

theorem BoundWord.ne_nil (h : BoundWord word) : word ≠ [] := by
  rcases h with rfl | rfl <;> decide

theorem Derives.length_lt {phrase : Phrase} (h : Derives phrase text rest) :
    rest.length < text.length := by
  induction h with
  | plain hblanks hrun hname hafter =>
    have hlength := hrun.length_eq
    have hpos := List.length_pos_iff.mpr hname
    have := hblanks.length_le
    have := hafter.length_le
    omega
  | generic hblanks hrun _ hopen _ ih =>
    have hlength := hrun.length_eq
    have := hblanks.length_le
    have := hopen.length_le
    simp only [List.length_cons] at *
    omega
  | unbounded hmark hafter =>
    have := hmark.length_le
    have := hafter.length_le
    simp only [List.length_cons] at *
    omega
  | bounded hmark hafter hrun _ _ ih =>
    have hlength := hrun.length_eq
    have := hmark.length_le
    have := hafter.length_le
    simp only [List.length_cons] at *
    omega
  | last _ hclose ih =>
    have := hclose.length_le
    simp only [List.length_cons] at *
    omega
  | more _ hcomma _ ih ih' =>
    have := hcomma.length_le
    simp only [List.length_cons] at *
    omega

theorem derives_of_readType_step {fuel : Nat} {t : TypeDescriptor}
    (ihtype : ∀ text t rest, readType fuel text = .ok (t, rest) → Derives (.type t) text rest)
    (iharguments : ∀ text ts rest, readArguments fuel text = .ok (ts, rest) →
      Derives (.arguments ts) text rest)
    (h : readType (fuel + 1) text = .ok (t, rest)) : Derives (.type t) text rest := by
  have hblanks := blanks_skipBlanks text
  rw [readType] at h
  split at h
  next afterMark hstart =>
    rw [hstart] at hblanks
    have hafter := blanks_skipBlanks afterMark
    have hrun := nameRun_splitName (skipBlanks afterMark)
    dsimp only at h
    split at h
    next hword =>
      exact .bounded hblanks hafter hrun (isBoundKeyword_iff.mp hword) (ihtype _ _ _ h)
    next hword =>
      cases h
      exact .unbounded hblanks hafter hrun fun hbound => hword (isBoundKeyword_iff.mpr hbound)
  next hstart =>
    have hrun := nameRun_splitName (skipBlanks text)
    split at h
    next => cases h
    next name afterName hname hsplit =>
      rw [hsplit] at hrun
      have hafter := blanks_skipBlanks afterName
      split at h
      next inside hopen =>
        rw [hopen] at hafter
        split at h
        next => cases h
        next ts after hread =>
          cases h
          exact .generic hblanks hrun hname hafter (iharguments _ _ _ hread)
      next =>
        cases h
        exact .plain hblanks hrun hname hafter

theorem derives_of_readArguments_step {fuel : Nat} {ts : List TypeDescriptor}
    (ihtype : ∀ text t rest, readType fuel text = .ok (t, rest) → Derives (.type t) text rest)
    (iharguments : ∀ text ts rest, readArguments fuel text = .ok (ts, rest) →
      Derives (.arguments ts) text rest)
    (h : readArguments (fuel + 1) text = .ok (ts, rest)) : Derives (.arguments ts) text rest := by
  rw [readArguments] at h
  split at h
  next => cases h
  next t afterType hread =>
    have hfirst := ihtype _ _ _ hread
    have hblanks := blanks_skipBlanks afterType
    split at h
    next next' hcomma =>
      rw [hcomma] at hblanks
      split at h
      next => cases h
      next ts' after hrest =>
        cases h
        exact .more hfirst hblanks (iharguments _ _ _ hrest)
    next after hclose =>
      rw [hclose] at hblanks
      cases h
      exact .last hfirst hblanks
    next => cases h

theorem derives_of_read (fuel : Nat) :
    (∀ text t rest, readType fuel text = .ok (t, rest) → Derives (.type t) text rest) ∧
    ∀ text ts rest, readArguments fuel text = .ok (ts, rest) →
      Derives (.arguments ts) text rest := by
  induction fuel with
  | zero =>
    constructor
    · intro _ _ _ h
      cases h
    · intro _ _ _ h
      cases h
  | succ fuel ih =>
    exact ⟨fun _ _ _ => derives_of_readType_step ih.1 ih.2,
      fun _ _ _ => derives_of_readArguments_step ih.1 ih.2⟩

def Ends (rest : List Char) : Prop := ∀ c ∈ (skipBlanks rest).head?, c = ',' ∨ c = '>'

theorem Ends.of_blanks (h : Blanks text rest) (hrest : Ends rest) : Ends text := by
  rwa [Ends, skipBlanks_of_blanks h]

theorem ends_cons {c : Char} (h : c = ',' ∨ c = '>') : Ends (c :: rest) := by
  have hc : Text.isBlank c = false := by
    rcases h with rfl | rfl
    · exact (mark_classes ',' (by simp)).1
    · exact (mark_classes '>' (by simp)).1
  rw [Ends, skipBlanks_cons hc]
  rintro _ ⟨⟩
  exact h

theorem Ends.head_ne {c : Char} {others : List Char} (h : Ends rest)
    (hrest : skipBlanks rest = c :: others) : c ≠ '<' ∧ isNameChar c = false := by
  have hc := h c (by simp [hrest])
  rcases hc with rfl | rfl
  · exact ⟨by decide, (mark_classes ',' (by simp)).2⟩
  · exact ⟨by decide, (mark_classes '>' (by simp)).2⟩

/-- With enough fuel the reader takes the phrase off the text. Behind a type it may also
take blanks that the derivation left. -/
def Phrase.IsRead : Phrase → List Char → List Char → Prop
  | .type t, text, rest => Ends rest → ∀ fuel, 2 * text.length + 1 ≤ fuel →
      ∃ rest', readType fuel text = .ok (t, rest') ∧ skipBlanks rest' = skipBlanks rest
  | .arguments ts, text, rest => ∀ fuel, 2 * text.length + 2 ≤ fuel →
      readArguments fuel text = .ok (ts, rest)

section Readings

variable {afterName inside afterMark afterWord afterType next name : List Char}
  {t : TypeDescriptor} {ts : List TypeDescriptor}

/-- What the reader does behind a name. -/
theorem readType_of_name {fuel : Nat} (hblanks : Blanks text start)
    (hrun : NameRun start name afterName) (hname : name ≠ []) :
    readType (fuel + 1) text =
      match skipBlanks afterName with
      | '<' :: inside =>
          match readArguments fuel inside with
          | .error refusal => .error refusal
          | .ok (arguments, rest) => .ok (⟨String.ofList name, arguments⟩, rest)
      | rest => .ok (ofName (String.ofList name), rest) := by
  obtain ⟨c, others, rfl, hblank, hmark⟩ := hrun.head hname
  have hsplit := hrun.splitName_eq
  rw [readType, hblanks.skipBlanks_eq hblank]
  split
  next heq =>
    cases heq
    exact absurd rfl hmark
  next heq =>
    rw [hsplit]
    cases name with
    | nil => exact absurd rfl hname
    | cons _ _ => rfl

/-- What the reader does behind the mark of a wildcard. -/
theorem readType_of_mark {fuel : Nat} (hmark : Blanks text ('?' :: afterMark)) :
    readType (fuel + 1) text =
      if isBoundKeyword (splitName (skipBlanks afterMark)).1 then
        readType fuel (splitName (skipBlanks afterMark)).2
      else .ok (object, skipBlanks afterMark) := by
  rw [readType, hmark.skipBlanks_eq (mark_classes '?' (by simp)).1]
  rfl

theorem isRead_plain (hblanks : Blanks text start) (hrun : NameRun start name afterName)
    (hname : name ≠ []) (hafter : Blanks afterName rest) :
    Phrase.IsRead (.type (ofName (String.ofList name))) text rest := by
  intro hends fuel hfuel
  obtain ⟨fuel, rfl⟩ : ∃ k, fuel = k + 1 := ⟨fuel - 1, by omega⟩
  refine ⟨skipBlanks rest, ?_, ?_⟩
  · rw [readType_of_name hblanks hrun hname, skipBlanks_of_blanks hafter]
    split
    next inside hopen => exact absurd rfl (hends.head_ne hopen).1
    next => rfl
  · exact (skipBlanks_of_blanks (blanks_skipBlanks rest)).symm

theorem isRead_generic (hblanks : Blanks text start) (hrun : NameRun start name afterName)
    (hname : name ≠ []) (hopen : Blanks afterName ('<' :: inside))
    (ih : Phrase.IsRead (.arguments ts) inside rest) :
    Phrase.IsRead (.type ⟨String.ofList name, ts⟩) text rest := by
  intro _ fuel hfuel
  obtain ⟨fuel, rfl⟩ : ∃ k, fuel = k + 1 := ⟨fuel - 1, by omega⟩
  have hlength : 2 * inside.length + 2 ≤ fuel := by
    have hlengthRun := hrun.length_eq
    have hlengthBlanks := hblanks.length_le
    have hlengthOpen := hopen.length_le
    simp only [List.length_cons] at hlengthOpen
    omega
  refine ⟨rest, ?_, rfl⟩
  rw [readType_of_name hblanks hrun hname, hopen.skipBlanks_eq (mark_classes '<' (by simp)).1]
  simp only [ih fuel hlength]

theorem isRead_unbounded (hmark : Blanks text ('?' :: afterMark))
    (hafter : Blanks afterMark rest) : Phrase.IsRead (.type object) text rest := by
  intro hends fuel hfuel
  obtain ⟨fuel, rfl⟩ : ∃ k, fuel = k + 1 := ⟨fuel - 1, by omega⟩
  -- The rest may begin with blanks, but no bound can follow them.
  have hword : (splitName (skipBlanks rest)).1 = [] := by
    cases hrest : skipBlanks rest with
    | nil => rfl
    | cons c others => simp [splitName, (hends.head_ne hrest).2]
  have hkeyword : isBoundKeyword [] = false := rfl
  refine ⟨skipBlanks rest, ?_, (skipBlanks_of_blanks (blanks_skipBlanks rest)).symm⟩
  rw [readType_of_mark hmark, skipBlanks_of_blanks hafter, hword, hkeyword]
  rfl

theorem isRead_bounded (hmark : Blanks text ('?' :: afterMark)) (hafter : Blanks afterMark start)
    (hrun : NameRun start word afterWord) (hword : BoundWord word)
    (ih : Phrase.IsRead (.type t) afterWord rest) : Phrase.IsRead (.type t) text rest := by
  intro hends fuel hfuel
  obtain ⟨fuel, rfl⟩ : ∃ k, fuel = k + 1 := ⟨fuel - 1, by omega⟩
  have hlength : 2 * afterWord.length + 1 ≤ fuel := by
    have hlengthRun := hrun.length_eq
    have hlengthMark := hmark.length_le
    have hlengthAfter := hafter.length_le
    simp only [List.length_cons] at hlengthMark
    omega
  have hstart : skipBlanks afterMark = start := by
    obtain ⟨c, others, rfl, hblank, -⟩ := hrun.head hword.ne_nil
    exact hafter.skipBlanks_eq hblank
  rw [readType_of_mark hmark, hstart, hrun.splitName_eq, if_pos (isBoundKeyword_iff.mpr hword)]
  exact ih hends fuel hlength

theorem isRead_last (hclose : Blanks afterType ('>' :: rest))
    (ih : Phrase.IsRead (.type t) text afterType) : Phrase.IsRead (.arguments [t]) text rest := by
  intro fuel hfuel
  obtain ⟨fuel, rfl⟩ : ∃ k, fuel = k + 1 := ⟨fuel - 1, by omega⟩
  obtain ⟨rest', hread, hskip⟩ := ih (.of_blanks hclose (ends_cons (.inr rfl))) fuel (by omega)
  have hmark := hclose.skipBlanks_eq (mark_classes '>' (by simp)).1
  rw [readArguments, hread]
  simp only [hskip, hmark]

theorem isRead_more (htype : Derives (.type t) text afterType)
    (hcomma : Blanks afterType (',' :: next)) (ih : Phrase.IsRead (.type t) text afterType)
    (ih' : Phrase.IsRead (.arguments ts) next rest) :
    Phrase.IsRead (.arguments (t :: ts)) text rest := by
  intro fuel hfuel
  obtain ⟨fuel, rfl⟩ : ∃ k, fuel = k + 1 := ⟨fuel - 1, by omega⟩
  obtain ⟨rest', hread, hskip⟩ := ih (.of_blanks hcomma (ends_cons (.inl rfl))) fuel (by omega)
  have hmark := hcomma.skipBlanks_eq (mark_classes ',' (by simp)).1
  have hlength : 2 * next.length + 2 ≤ fuel := by
    have hlengthType := htype.length_lt
    have hlengthComma := hcomma.length_le
    simp only [List.length_cons] at hlengthComma
    omega
  rw [readArguments, hread]
  simp only [hskip, hmark, ih' fuel hlength]

end Readings

theorem isRead_of_derives {phrase : Phrase} (h : Derives phrase text rest) :
    phrase.IsRead text rest := by
  induction h with
  | plain hblanks hrun hname hafter => exact isRead_plain hblanks hrun hname hafter
  | generic hblanks hrun hname hopen _ ih => exact isRead_generic hblanks hrun hname hopen ih
  | unbounded hmark hafter => exact isRead_unbounded hmark hafter
  | bounded hmark hafter hrun hword _ ih => exact isRead_bounded hmark hafter hrun hword ih
  | last _ hclose ih => exact isRead_last hclose ih
  | more htype hcomma _ ih ih' => exact isRead_more htype hcomma ih ih'

theorem readAll_eq_ok_iff {t : TypeDescriptor} :
    readAll text = .ok t ↔ DescriptorText text t := by
  constructor
  · intro h
    unfold readAll at h
    split at h
    next => cases h
    next t' rest hread =>
      have hblanks := blanks_skipBlanks rest
      split at h
      next hnil =>
        cases h
        rw [hnil] at hblanks
        exact ⟨rest, (derives_of_read _).1 _ _ _ hread, hblanks⟩
      next => cases h
  · rintro ⟨rest, hderives, hblanks⟩
    have hnil : skipBlanks rest = [] := skipBlanks_of_blanks hblanks
    have hends : Ends rest := by simp [Ends, hnil]
    obtain ⟨rest', hread, hskip⟩ :=
      isRead_of_derives hderives hends (2 * text.length + 2) (by omega)
    simp only [readAll, hread, hskip, hnil]

theorem parse_eq_ok_iff_readAll {text : String} {t : TypeDescriptor} :
    parse text = .ok t ↔ readAll text.toList = .ok t := by
  rw [parse]
  cases readAll text.toList with
  | ok t' => simp
  | error refusal => simp

/-- A text is accepted, with a value, exactly if the grammar derives it with that value. -/
theorem parse_eq_ok_iff_descriptorText (text : String) (t : TypeDescriptor) :
    parse text = .ok t ↔ DescriptorText text.toList t :=
  parse_eq_ok_iff_readAll.trans readAll_eq_ok_iff

example : parse "? extends ?super java.util.List< ? >" = .ok ⟨"java.util.List", [object]⟩ := by
  decide +kernel

end TypeDescriptor

end RestContract
