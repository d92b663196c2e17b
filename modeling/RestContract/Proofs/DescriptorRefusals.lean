import RestContract.Proofs.DescriptorTexts

/-!
Where reading is given up. The reader refuses a text at the first place where no phrase of
the grammar goes on: what stands before that place can still be completed. Where a name is
missing, a name completes it; where brackets are open, closing them does. Only behind a whole
type the rest is trailing, and then what was read is a text of its own.
-/
namespace RestContract

namespace TypeDescriptor

def Stops (text : List Char) : Prop := ∀ c ∈ text.head?, ¬NameChar c

def AllBlank (text : List Char) : Prop := ∀ c ∈ text, Text.isBlank c = true

section Stops

variable {front blanks rest : List Char} {c : Char}

theorem stops_nil : Stops [] := by
  intro c hc
  cases hc

theorem stops_cons (h : ¬NameChar c) : Stops (c :: rest) := by
  intro _ hc
  cases hc
  exact h

theorem stops_mark (h : c ∈ ['?', '<', ',', '>']) : Stops (c :: rest) :=
  stops_cons (not_nameChar_of_mark h)

theorem Stops.append (hfront : Stops front) (hrest : Stops rest) : Stops (front ++ rest) := by
  cases front with
  | nil => exact hrest
  | cons c others => exact stops_cons (hfront c rfl)

theorem Stops.of_append (h : Stops (front ++ rest)) : Stops front := by
  cases front with
  | nil => exact stops_nil
  | cons c others => exact stops_cons (h c rfl)

theorem allBlank_nil : AllBlank [] := by
  intro c hc
  cases hc

theorem not_nameChar_of_blank (h : Text.isBlank c = true) : ¬NameChar c := by
  intro hname
  rw [hname.not_blank] at h
  cases h

theorem AllBlank.stops (h : AllBlank blanks) : Stops blanks := by
  cases blanks with
  | nil => exact stops_nil
  | cons c others =>
    apply stops_cons
    apply not_nameChar_of_blank
    exact h c (List.mem_cons_self ..)

end Stops

/-- The front is the phrase, before any rest at which no name goes on. -/
def Phrase.Spans (phrase : Phrase) (front : List Char) : Prop :=
  ∀ rest, Stops rest → Derives phrase (front ++ rest) rest

section Spans

variable {blanks blanks' name word front inside : List Char} {t : TypeDescriptor}
  {ts : List TypeDescriptor}

theorem spans_plain (hblanks : AllBlank blanks) (hchars : ∀ c ∈ name, NameChar c)
    (hname : name ≠ []) (hblanks' : AllBlank blanks') :
    (Phrase.type (ofName (String.ofList name))).Spans (blanks ++ (name ++ blanks')) := by
  intro rest hrest
  rw [List.append_assoc, List.append_assoc]
  exact .plain ⟨blanks, hblanks, rfl⟩ ⟨rfl, hchars, hblanks'.stops.append hrest⟩ hname
    ⟨blanks', hblanks', rfl⟩

theorem spans_generic (hblanks : AllBlank blanks) (hchars : ∀ c ∈ name, NameChar c)
    (hname : name ≠ []) (hblanks' : AllBlank blanks')
    (hinside : (Phrase.arguments ts).Spans inside) :
    (Phrase.type ⟨String.ofList name, ts⟩).Spans
      (blanks ++ (name ++ (blanks' ++ '<' :: inside))) := by
  intro rest hrest
  rw [List.append_assoc, List.append_assoc, List.append_assoc, List.cons_append]
  exact .generic ⟨blanks, hblanks, rfl⟩ ⟨rfl, hchars, hblanks'.stops.append (stops_mark (by simp))⟩
    hname ⟨blanks', hblanks', rfl⟩ (hinside rest hrest)

theorem spans_unbounded (hblanks : AllBlank blanks) (hblanks' : AllBlank blanks') :
    (Phrase.type object).Spans (blanks ++ '?' :: blanks') := by
  intro rest hrest
  rw [List.append_assoc, List.cons_append]
  have hrun : NameRun rest [] rest := ⟨rfl, by simp, hrest⟩
  refine .unbounded ⟨blanks, hblanks, rfl⟩ ⟨blanks', hblanks', rfl⟩ hrun ?_
  intro hword
  exact hword.ne_nil rfl

theorem spans_bounded (hblanks : AllBlank blanks) (hblanks' : AllBlank blanks')
    (hchars : ∀ c ∈ word, NameChar c) (hword : BoundWord word) (hstops : Stops inside)
    (hinside : (Phrase.type t).Spans inside) :
    (Phrase.type t).Spans (blanks ++ '?' :: (blanks' ++ (word ++ inside))) := by
  intro rest hrest
  rw [List.append_assoc, List.cons_append, List.append_assoc, List.append_assoc]
  exact .bounded ⟨blanks, hblanks, rfl⟩ ⟨blanks', hblanks', rfl⟩
    ⟨rfl, hchars, hstops.append hrest⟩ hword (hinside rest hrest)

theorem spans_last (hfront : (Phrase.type t).Spans front) (hblanks : AllBlank blanks) :
    (Phrase.arguments [t]).Spans (front ++ (blanks ++ ['>'])) := by
  intro rest _
  rw [List.append_assoc, List.append_assoc, List.singleton_append]
  exact .last (hfront _ (hblanks.stops.append (stops_mark (by simp)))) ⟨blanks, hblanks, rfl⟩

theorem spans_more (hfront : (Phrase.type t).Spans front) (hblanks : AllBlank blanks)
    (hinside : (Phrase.arguments ts).Spans inside) :
    (Phrase.arguments (t :: ts)).Spans (front ++ (blanks ++ ',' :: inside)) := by
  intro rest hrest
  rw [List.append_assoc, List.append_assoc, List.cons_append]
  exact .more (hfront _ (hblanks.stops.append (stops_mark (by simp)))) ⟨blanks, hblanks, rfl⟩
    (hinside rest hrest)

/-- What a derivation takes off a text, it takes off before any other rest. -/
theorem Derives.spans {phrase : Phrase} {text rest : List Char} (h : Derives phrase text rest) :
    ∃ front, text = front ++ rest ∧ phrase.Spans front := by
  induction h with
  | plain hstart hrun hname hafter =>
    obtain ⟨blanks, hblanks, rfl⟩ := hstart
    obtain ⟨blanks', hblanks', rfl⟩ := hafter
    obtain ⟨rfl, hchars, -⟩ := hrun
    exact ⟨_, by simp, spans_plain hblanks hchars hname hblanks'⟩
  | generic hstart hrun hname hopen _ ih =>
    obtain ⟨blanks, hblanks, rfl⟩ := hstart
    obtain ⟨blanks', hblanks', rfl⟩ := hopen
    obtain ⟨rfl, hchars, -⟩ := hrun
    obtain ⟨front, rfl, hinside⟩ := ih
    exact ⟨_, by simp, spans_generic hblanks hchars hname hblanks' hinside⟩
  | unbounded hmark hafter =>
    obtain ⟨blanks, hblanks, rfl⟩ := hmark
    obtain ⟨blanks', hblanks', rfl⟩ := hafter
    exact ⟨_, by simp, spans_unbounded hblanks hblanks'⟩
  | bounded hmark hafter hrun hword _ ih =>
    obtain ⟨blanks, hblanks, rfl⟩ := hmark
    obtain ⟨blanks', hblanks', rfl⟩ := hafter
    obtain ⟨rfl, hchars, hstop⟩ := hrun
    obtain ⟨front, rfl, hinside⟩ := ih
    exact ⟨_, by simp, spans_bounded hblanks hblanks' hchars hword (Stops.of_append hstop) hinside⟩
  | last _ hclose ih =>
    obtain ⟨blanks, hblanks, rfl⟩ := hclose
    obtain ⟨front, rfl, hfront⟩ := ih
    exact ⟨_, by simp, spans_last hfront hblanks⟩
  | more _ hcomma _ ih ih' =>
    obtain ⟨blanks, hblanks, rfl⟩ := hcomma
    obtain ⟨front, rfl, hfront⟩ := ih
    obtain ⟨inside, rfl, hinside⟩ := ih'
    exact ⟨_, by simp, spans_more hfront hblanks hinside⟩

end Spans

/-- The text was refused in the middle of a phrase of the sort: something makes what was read
such a phrase, and no name goes on in it. -/
structure Refusal.Breaks {α : Type} (r : Refusal) (sort : α → Phrase) (text : List Char) :
    Prop where
  inside : r.fault ≠ .trailingInput
  completed : ∃ front more value,
    text = front ++ r.rest ∧ Stops more ∧ (sort value).Spans (front ++ more)

section Breaks

variable {text start afterMark word afterWord name afterName inside rest more : List Char}
  {t : TypeDescriptor} {r : Refusal}

/-- A name completes what breaks off before a type. -/
theorem breaks_before_name (text : List Char) :
    (Refusal.mk .emptyName (skipBlanks text)).Breaks Phrase.type text := by
  obtain ⟨blanks, hblanks, htext⟩ := blanks_skipBlanks text
  have hspace : Text.isBlank ' ' = true := by decide
  have hblank : AllBlank (blanks ++ [' ']) :=
    List.forall_mem_append.mpr ⟨hblanks, List.forall_mem_singleton.mpr hspace⟩
  have hname : ∀ c ∈ ['a'], NameChar c :=
    List.forall_mem_singleton.mpr (.inl (by decide +kernel))
  have hstops : Stops [' ', 'a'] := stops_cons (not_nameChar_of_blank hspace)
  refine ⟨by simp, blanks, [' ', 'a'], ofName "a", htext, hstops, ?_⟩
  have hspans := spans_plain hblank hname (by simp) allBlank_nil
  simpa using hspans

theorem breaks_bounded (hmark : Blanks text ('?' :: afterMark)) (hafter : Blanks afterMark start)
    (hrun : NameRun start word afterWord) (hword : BoundWord word)
    (h : r.Breaks Phrase.type afterWord) : r.Breaks Phrase.type text := by
  obtain ⟨blanks, hblanks, rfl⟩ := hmark
  obtain ⟨blanks', hblanks', rfl⟩ := hafter
  obtain ⟨rfl, hchars, hstop⟩ := hrun
  obtain ⟨hinside, front, more, t, rfl, hstops, hspans⟩ := h
  have hfront : Stops front := Stops.of_append hstop
  have hbounded := spans_bounded hblanks hblanks' hchars hword (hfront.append hstops) hspans
  exact ⟨hinside, blanks ++ '?' :: (blanks' ++ (word ++ front)), more, t, by simp, hstops,
    by simpa using hbounded⟩

theorem breaks_generic (hstart : Blanks text start) (hrun : NameRun start name afterName)
    (hname : name ≠ []) (hopen : Blanks afterName ('<' :: inside))
    (h : r.Breaks Phrase.arguments inside) : r.Breaks Phrase.type text := by
  obtain ⟨blanks, hblanks, rfl⟩ := hstart
  obtain ⟨blanks', hblanks', rfl⟩ := hopen
  obtain ⟨rfl, hchars, -⟩ := hrun
  obtain ⟨hinside, front, more, ts, rfl, hstops, hspans⟩ := h
  have hgeneric := spans_generic hblanks hchars hname hblanks' hspans
  exact ⟨hinside, blanks ++ (name ++ (blanks' ++ '<' :: front)), more, ⟨String.ofList name, ts⟩,
    by simp, hstops, by simpa using hgeneric⟩

/-- A closing bracket completes arguments once the last of them is completed. -/
theorem breaks_argument (h : r.Breaks Phrase.type text) : r.Breaks Phrase.arguments text := by
  obtain ⟨hinside, front, more, t, rfl, hstops, hspans⟩ := h
  have hlast := spans_last hspans allBlank_nil
  exact ⟨hinside, front, more ++ ['>'], [t], rfl, hstops.append (stops_mark (by simp)),
    by simpa using hlast⟩

theorem breaks_more (htype : Derives (.type t) text rest) (hcomma : Blanks rest (',' :: more))
    (h : r.Breaks Phrase.arguments more) : r.Breaks Phrase.arguments text := by
  obtain ⟨blanks, hblanks, rfl⟩ := hcomma
  obtain ⟨front, rfl, hfront⟩ := htype.spans
  obtain ⟨hinside, front', more', ts, rfl, hstops, hspans⟩ := h
  have hmore := spans_more hfront hblanks hspans
  exact ⟨hinside, front ++ (blanks ++ ',' :: front'), more', t :: ts, by simp, hstops,
    by simpa using hmore⟩

/-- A closing bracket completes arguments that break off behind one of them. -/
theorem breaks_unclosed (htype : Derives (.type t) text rest) :
    (Refusal.mk .unbalanced (skipBlanks rest)).Breaks Phrase.arguments text := by
  obtain ⟨blanks, hblanks, hrest⟩ := blanks_skipBlanks rest
  obtain ⟨front, htext, hfront⟩ := htype.spans
  have hlast := spans_last hfront hblanks
  refine ⟨by simp, front ++ blanks, ['>'], [t], ?_, stops_mark (by simp), by simpa using hlast⟩
  rw [htext, List.append_assoc, ← hrest]

end Breaks

section Reading

variable {text : List Char} {fuel : Nat} {r : Refusal}
  (ihtype : ∀ text r, 2 * text.length + 1 ≤ fuel → readType fuel text = .error r →
    r.Breaks Phrase.type text)
  (iharguments : ∀ text r, 2 * text.length + 2 ≤ fuel → readArguments fuel text = .error r →
    r.Breaks Phrase.arguments text)

include ihtype iharguments

theorem breaks_of_readType_step (hfuel : 2 * text.length + 1 ≤ fuel + 1)
    (h : readType (fuel + 1) text = .error r) : r.Breaks Phrase.type text := by
  have hblanks := blanks_skipBlanks text
  rw [readType] at h
  split at h
  next afterMark hstart =>
    rw [hstart] at hblanks
    have hafter := blanks_skipBlanks afterMark
    have hrun := nameRun_splitName (skipBlanks afterMark)
    dsimp only at h
    split at h
    next hword =>
      have hshorter : 2 * (splitName (skipBlanks afterMark)).2.length + 1 ≤ fuel := by
        have hmark := hblanks.length_le
        have hbound := hafter.length_le
        have hsplit := hrun.length_eq
        rw [List.length_cons] at hmark
        omega
      exact breaks_bounded hblanks hafter hrun (isBoundKeyword_iff.mp hword)
        (ihtype _ _ hshorter h)
    next => cases h
  next =>
    split at h
    next =>
      cases h
      exact breaks_before_name text
    next name afterName hname hsplit =>
      have hrun : NameRun (skipBlanks text) name afterName := by
        have hlongest := nameRun_splitName (skipBlanks text)
        rwa [hsplit] at hlongest
      have hafter := blanks_skipBlanks afterName
      split at h
      next inside hopen =>
        rw [hopen] at hafter
        have hshorter : 2 * inside.length + 2 ≤ fuel := by
          have hbefore := hblanks.length_le
          have hbracket := hafter.length_le
          have hsplit := hrun.length_eq
          rw [List.length_cons] at hbracket
          omega
        split at h
        next hread =>
          cases h
          exact breaks_generic hblanks hrun hname hafter (iharguments _ _ hshorter hread)
        next => cases h
      next => cases h

theorem breaks_of_readArguments_step (hfuel : 2 * text.length + 2 ≤ fuel + 1)
    (h : readArguments (fuel + 1) text = .error r) : r.Breaks Phrase.arguments text := by
  rw [readArguments] at h
  split at h
  next hread =>
    cases h
    exact breaks_argument (ihtype _ _ (by omega) hread)
  next t afterType hread =>
    have htype := (derives_of_read fuel).1 _ _ _ hread
    have hblanks := blanks_skipBlanks afterType
    split at h
    next more hcomma =>
      rw [hcomma] at hblanks
      have hshorter : 2 * more.length + 2 ≤ fuel := by
        have hlength := htype.length_lt
        have hmark := hblanks.length_le
        rw [List.length_cons] at hmark
        omega
      split at h
      next hothers =>
        cases h
        exact breaks_more htype hblanks (iharguments _ _ hshorter hothers)
      next => cases h
    next => cases h
    next =>
      cases h
      exact breaks_unclosed htype

end Reading

theorem breaks_of_read (fuel : Nat) :
    (∀ text r, 2 * text.length + 1 ≤ fuel → readType fuel text = .error r →
      r.Breaks Phrase.type text) ∧
    ∀ text r, 2 * text.length + 2 ≤ fuel → readArguments fuel text = .error r →
      r.Breaks Phrase.arguments text := by
  induction fuel with
  | zero =>
    constructor
    · intro text r hfuel _
      omega
    · intro text r hfuel _
      omega
  | succ fuel ih =>
    exact ⟨fun _ _ => breaks_of_readType_step ih.1 ih.2,
      fun _ _ => breaks_of_readArguments_step ih.1 ih.2⟩

/-- What was read before a refusal can be completed to a descriptor text, and is one already
if only the rest is trailing. -/
theorem completed_of_readAll {text : List Char} {r : Refusal} (h : readAll text = .error r) :
    ∃ front, text = front ++ r.rest ∧ (∃ more t, DescriptorText (front ++ more) t) ∧
      (r.fault = .trailingInput → ∃ t, DescriptorText front t) := by
  unfold readAll at h
  split at h
  next hread =>
    cases h
    obtain ⟨hinside, front, more, t, htext, -, hspans⟩ :=
      (breaks_of_read _).1 text r (by omega) hread
    refine ⟨front, htext, ⟨more, t, [], ?_, blanks_refl []⟩, fun hfault => absurd hfault hinside⟩
    simpa using hspans [] stops_nil
  next t rest hread =>
    split at h
    next => cases h
    next =>
      cases h
      obtain ⟨blanks, hblanks, hrest⟩ := blanks_skipBlanks rest
      obtain ⟨front, htext, hfront⟩ := ((derives_of_read _).1 _ _ _ hread).spans
      have hwhole : DescriptorText (front ++ blanks) t :=
        ⟨blanks, hfront blanks (AllBlank.stops hblanks), blanks, hblanks, by simp⟩
      refine ⟨front ++ blanks, ?_, ⟨[], t, by simpa using hwhole⟩, fun _ => ⟨t, hwhole⟩⟩
      rw [htext, List.append_assoc, ← hrest]

end TypeDescriptor

end RestContract
