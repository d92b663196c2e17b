import RestContract.Proofs.DescriptorRefusals

/-!
Reading a descriptor by byte offsets. A reader that leaves its text in one piece keeps an
offset into it and slices the text there to see what comes next. A slice that begins or ends
inside a character does not exist. Reading never asks for one: it only stands where a rest of
the text begins, and moves on by whole characters. What it reads, and the offset at which it
gives up, are those of the reader that takes characters off the front.
-/
namespace RestContract

namespace TypeDescriptor

def sliceFrom? (text : String) (offset : Nat) : Option String :=
  if h : String.Pos.Raw.IsValid text ⟨offset⟩ then some (text.sliceFrom ⟨⟨offset⟩, h⟩).copy
  else none

def sliceTo? (text : String) (offset : Nat) : Option String :=
  if h : String.Pos.Raw.IsValid text ⟨offset⟩ then some (text.sliceTo ⟨⟨offset⟩, h⟩).copy
  else none

/-- The text between two offsets, unless one of them is inside a character. -/
def slice? (text : String) (first last : Nat) : Option String :=
  (sliceTo? text last).bind fun front => sliceFrom? front first

def offsetOf (text : String) (rest : List Char) : Nat := byteSize text.toList - byteSize rest

section Slices

variable {text : String} {before word rest : List Char}

theorem byteSize_append : byteSize (before ++ rest) = byteSize before + byteSize rest := by
  induction before with
  | nil => simp [byteSize]
  | cons c others ih =>
    rw [List.cons_append, byteSize, ih, byteSize]
    omega

theorem byteSize_eq (chars : List Char) :
    byteSize chars = (String.ofList chars).utf8ByteSize := by
  induction chars with
  | nil => rfl
  | cons c others ih =>
    rw [byteSize, ih, String.ofList_cons, String.utf8ByteSize_append,
      String.utf8ByteSize_singleton]

theorem rawEndPos_ofList (chars : List Char) :
    (String.ofList chars).rawEndPos = ⟨byteSize chars⟩ := by
  rw [byteSize_eq]
  rfl

theorem offsetOf_eq (h : before ++ rest = text.toList) : offsetOf text rest = byteSize before := by
  rw [offsetOf, ← h, byteSize_append]
  omega

theorem eq_append_of_toList (h : before ++ rest = text.toList) :
    text = String.ofList before ++ String.ofList rest := by
  rw [← String.ofList_append, h, String.ofList_toList]

/-- A rest of the text begins at the boundary of a character. -/
theorem isValid_byteSize (h : before ++ rest = text.toList) :
    String.Pos.Raw.IsValid text ⟨byteSize before⟩ := by
  rw [← rawEndPos_ofList]
  exact String.Pos.Raw.isValid_iff_exists_append.mpr
    ⟨String.ofList before, String.ofList rest, eq_append_of_toList h, rfl⟩

theorem splits_byteSize (h : before ++ rest = text.toList) :
    String.Pos.Splits ⟨⟨byteSize before⟩, isValid_byteSize h⟩ (String.ofList before)
      (String.ofList rest) where
  eq_append := eq_append_of_toList h
  offset_eq_rawEndPos := (rawEndPos_ofList before).symm

theorem sliceFrom?_eq (h : before ++ rest = text.toList) :
    sliceFrom? text (byteSize before) = some (String.ofList rest) := by
  rw [sliceFrom?, dif_pos (isValid_byteSize h), (splits_byteSize h).copy_sliceFrom_eq]

theorem sliceTo?_eq (h : before ++ rest = text.toList) :
    sliceTo? text (byteSize before) = some (String.ofList before) := by
  rw [sliceTo?, dif_pos (isValid_byteSize h), (splits_byteSize h).copy_sliceTo_eq]

theorem slice?_eq (h : before ++ (word ++ rest) = text.toList) :
    slice? text (byteSize before) (byteSize (before ++ word)) = some (String.ofList word) := by
  have hfront : (before ++ word) ++ rest = text.toList := by rw [List.append_assoc, h]
  rw [slice?, sliceTo?_eq hfront, Option.bind_some]
  exact sliceFrom?_eq (String.toList_ofList).symm

end Slices

/-- Why a reader by offsets stops: it refuses the text at an offset, or it asked for a slice
that does not exist. -/
inductive Stop where
  | refused (fault : DescriptorFault) (offset : Nat)
  | torn

abbrev Scanner := StateT Nat (Except Stop)

namespace Scanner

variable (text : String)

def refuse {α : Type} (fault : DescriptorFault) : Scanner α := do
  throw (.refused fault (← get))

def whole : Option String → Scanner String
  | some slice => return slice
  | none => throw .torn

def peek : Scanner (Option Char) := do
  let ahead ← whole (sliceFrom? text (← get))
  return ahead.toList.head?

def bump (c : Char) : Scanner Unit := modify (· + c.utf8Size)

def advance (accepts : Char → Bool) : Nat → Scanner Unit
  | 0 => return ()
  | steps + 1 => do
      match ← peek text with
      | none => return ()
      | some c =>
          if accepts c then
            bump c
            advance accepts steps
          else return ()

def skip : Scanner Unit := advance text Text.isBlank text.length

def identifier : Scanner String := do
  let start ← get
  advance text isNameChar text.length
  whole (slice? text start (← get))

/-- From the mark of a wildcard on. Without a bound the reader goes back to where a bound
would begin. -/
def wildcard (bound : Scanner TypeDescriptor) : Scanner TypeDescriptor := do
  bump '?'
  skip text
  let checkpoint ← get
  let word ← identifier text
  if isBoundKeyword word.toList then bound
  else
    set checkpoint
    return object

def named (arguments : Scanner (List TypeDescriptor)) : Scanner TypeDescriptor := do
  let start ← get
  let name ← identifier text
  if name = "" then throw (.refused .emptyName start)
  else
    skip text
    if (← peek text) = some '<' then
      bump '<'
      return ⟨name, ← arguments⟩
    else return ofName name

def argumentList (first : Scanner TypeDescriptor) (others : Scanner (List TypeDescriptor)) :
    Scanner (List TypeDescriptor) := do
  let argument ← first
  skip text
  let next ← peek text
  if next = some ',' then
    bump ','
    return argument :: (← others)
  else if next = some '>' then
    bump '>'
    return [argument]
  else refuse .unbalanced

mutual

def scanType : Nat → Scanner TypeDescriptor
  | 0 => refuse .emptyName
  | fuel + 1 => do
      skip text
      if (← peek text) = some '?' then wildcard text (scanType fuel)
      else named text (scanArguments fuel)

def scanArguments : Nat → Scanner (List TypeDescriptor)
  | 0 => refuse .unbalanced
  | fuel + 1 => argumentList text (scanType fuel) (scanArguments fuel)

end

def scanAll : Scanner TypeDescriptor := do
  let t ← scanType text (2 * text.length + 2)
  skip text
  if (← get) = text.utf8ByteSize then return t else refuse .trailingInput

end Scanner

/-- What a text is read as by offsets; nothing if a slice was asked for that does not
exist. -/
def parseByOffsets? (text : String) : Option (Except DescriptorError TypeDescriptor) :=
  match Scanner.scanAll text 0 with
  | .ok (t, _) => some (.ok t)
  | .error (.refused fault offset) => some (.error ⟨fault, text, offset⟩)
  | .error .torn => none

theorem readType_of_no_name {fuel : Nat} {cs : List Char}
    (hmark : (skipBlanks cs).head? ≠ some '?') (hname : (splitName (skipBlanks cs)).1 = []) :
    readType (fuel + 1) cs = .error ⟨.emptyName, skipBlanks cs⟩ := by
  rw [readType]
  split
  next afterMark hcons => exact absurd (by rw [hcons]; rfl) hmark
  next =>
    split
    next => rfl
    next name afterName hne hsplit =>
      rw [hsplit] at hname
      exact absurd hname hne

theorem skipBlanks_suffix (cs : List Char) : skipBlanks cs <:+ cs := List.dropWhile_suffix _

theorem splitName_suffix (cs : List Char) : (splitName cs).2 <:+ cs := List.dropWhile_suffix _

/-- A phrase is taken off the front. -/
theorem Derives.suffix {phrase : Phrase} {text rest : List Char} (h : Derives phrase text rest) :
    rest <:+ text := by
  obtain ⟨front, rfl, -⟩ := h.spans
  exact List.suffix_append ..

namespace Scanner

variable {text : String} {rest : List Char}

section Bind

variable {α β : Type} {x : Scanner α} {f : α → Scanner β} {offset offset' : Nat}

theorem bind_ok {a : α} (h : x offset = .ok (a, offset')) : (x >>= f) offset = f a offset' := by
  simp [bind, StateT.bind, Except.bind, h]

theorem bind_error {stop : Stop} (h : x offset = .error stop) :
    (x >>= f) offset = .error stop := by
  simp [bind, StateT.bind, Except.bind, h]

end Bind

theorem get_eq (offset : Nat) : (get : Scanner Nat) offset = .ok (offset, offset) := rfl

theorem peek_eq (h : rest <:+ text.toList) :
    peek text (offsetOf text rest) = .ok (rest.head?, offsetOf text rest) := by
  obtain ⟨before, hbefore⟩ := h
  have hslice := sliceFrom?_eq hbefore
  rw [← offsetOf_eq hbefore] at hslice
  have hahead : whole (sliceFrom? text (offsetOf text rest)) (offsetOf text rest) =
      .ok (String.ofList rest, offsetOf text rest) := by
    rw [hslice]
    rfl
  rw [peek, bind_ok (get_eq _), bind_ok hahead, String.toList_ofList]
  rfl

theorem bump_eq {c : Char} (h : c :: rest <:+ text.toList) :
    bump c (offsetOf text (c :: rest)) = .ok ((), offsetOf text rest) := by
  obtain ⟨before, hbefore⟩ := h
  have hmore : (before ++ [c]) ++ rest = text.toList := by
    rw [List.append_assoc, List.singleton_append, hbefore]
  have hoffset : offsetOf text (c :: rest) + c.utf8Size = offsetOf text rest := by
    rw [offsetOf_eq hbefore, offsetOf_eq hmore, byteSize_append, byteSize, byteSize]
    rfl
  rw [← hoffset]
  rfl

theorem advance_eq {accepts : Char → Bool} {steps : Nat} (h : rest <:+ text.toList)
    (hsteps : rest.length ≤ steps) :
    advance text accepts steps (offsetOf text rest) =
      .ok ((), offsetOf text (rest.dropWhile accepts)) := by
  induction steps generalizing rest with
  | zero =>
    obtain rfl : rest = [] := List.eq_nil_of_length_eq_zero (by omega)
    rfl
  | succ steps ih =>
    rw [advance, bind_ok (peek_eq h)]
    cases rest with
    | nil => rfl
    | cons c others =>
      rw [List.length_cons] at hsteps
      by_cases hc : accepts c = true
      · have hothers : others <:+ text.toList := (List.suffix_cons c others).trans h
        rw [List.dropWhile_cons_of_pos hc]
        simp only [List.head?_cons, if_pos hc]
        rw [bind_ok (bump_eq h)]
        exact ih hothers (by omega)
      · rw [List.dropWhile_cons_of_neg hc]
        simp only [List.head?_cons, if_neg hc]
        rfl

theorem length_le (h : rest <:+ text.toList) : rest.length ≤ text.length := by
  have hlength := h.length_le
  rwa [String.length_toList] at hlength

theorem skip_eq (h : rest <:+ text.toList) :
    skip text (offsetOf text rest) = .ok ((), offsetOf text (skipBlanks rest)) :=
  advance_eq h (length_le h)

theorem identifier_eq (h : rest <:+ text.toList) :
    identifier text (offsetOf text rest) =
      .ok (String.ofList (splitName rest).1, offsetOf text (splitName rest).2) := by
  have hadvance : advance text isNameChar text.length (offsetOf text rest) =
      .ok ((), offsetOf text (splitName rest).2) := advance_eq h (length_le h)
  obtain ⟨before, hbefore⟩ := h
  have hsplit : (splitName rest).1 ++ (splitName rest).2 = rest :=
    (nameRun_splitName rest).split.symm
  have hword : before ++ ((splitName rest).1 ++ (splitName rest).2) = text.toList := by
    rw [hsplit, hbefore]
  have hend : (before ++ (splitName rest).1) ++ (splitName rest).2 = text.toList := by
    rw [List.append_assoc, hword]
  have hslice := slice?_eq hword
  rw [← offsetOf_eq hbefore, ← offsetOf_eq hend] at hslice
  rw [identifier, bind_ok (get_eq _), bind_ok hadvance, bind_ok (get_eq _), hslice]
  rfl

def placed {α : Type} (text : String) : Except Refusal (α × List Char) → Except Stop (α × Nat)
  | .ok (a, rest) => .ok (a, offsetOf text rest)
  | .error ⟨fault, rest⟩ => .error (.refused fault (offsetOf text rest))

def Agrees {α : Type} (text : String) (x : Scanner α)
    (read : List Char → Except Refusal (α × List Char)) : Prop :=
  ∀ rest, rest <:+ text.toList → x (offsetOf text rest) = placed text (read rest)

section Steps

variable {fuel : Nat}

theorem wildcard_eq {afterMark : List Char} (ih : Agrees text (scanType text fuel) (readType fuel))
    (hmark : Blanks rest ('?' :: afterMark)) (h : '?' :: afterMark <:+ text.toList) :
    wildcard text (scanType text fuel) (offsetOf text ('?' :: afterMark)) =
      placed text (readType (fuel + 1) rest) := by
  have hafter : afterMark <:+ text.toList := (List.suffix_cons ..).trans h
  have hbound : skipBlanks afterMark <:+ text.toList := (skipBlanks_suffix _).trans hafter
  rw [wildcard, bind_ok (bump_eq h), bind_ok (skip_eq hafter), bind_ok (get_eq _),
    bind_ok (identifier_eq hbound), String.toList_ofList, readType_of_mark hmark]
  by_cases hword : isBoundKeyword (splitName (skipBlanks afterMark)).1 = true
  · rw [if_pos hword, if_pos hword]
    exact ih _ ((splitName_suffix _).trans hbound)
  · rw [if_neg hword, if_neg hword]
    rfl

theorem named_eq (ih : Agrees text (scanArguments text fuel) (readArguments fuel))
    (hmark : (skipBlanks rest).head? ≠ some '?') (h : rest <:+ text.toList) :
    named text (scanArguments text fuel) (offsetOf text (skipBlanks rest)) =
      placed text (readType (fuel + 1) rest) := by
  have hstart : skipBlanks rest <:+ text.toList := (skipBlanks_suffix _).trans h
  have hrun := nameRun_splitName (skipBlanks rest)
  have hname : String.ofList (splitName (skipBlanks rest)).1 = "" ↔
      (splitName (skipBlanks rest)).1 = [] := by
    rw [← String.toList_inj, String.toList_ofList]
    rfl
  rw [named, bind_ok (get_eq _), bind_ok (identifier_eq hstart)]
  by_cases hempty : (splitName (skipBlanks rest)).1 = []
  · rw [if_pos (hname.mpr hempty), readType_of_no_name hmark hempty]
    rfl
  · have hafter : (splitName (skipBlanks rest)).2 <:+ text.toList :=
      (splitName_suffix _).trans hstart
    have hnext : skipBlanks (splitName (skipBlanks rest)).2 <:+ text.toList :=
      (skipBlanks_suffix _).trans hafter
    rw [if_neg (mt hname.mp hempty), readType_of_name (blanks_skipBlanks rest) hrun hempty,
      bind_ok (skip_eq hafter), bind_ok (peek_eq hnext)]
    generalize String.ofList (splitName (skipBlanks rest)).1 = name
    generalize skipBlanks (splitName (skipBlanks rest)).2 = next at hnext
    by_cases hopen : next.head? = some '<'
    · obtain ⟨inside, rfl⟩ := List.head?_eq_some_iff.mp hopen
      rw [if_pos hopen, bind_ok (bump_eq hnext)]
      have hinside := ih inside ((List.suffix_cons ..).trans hnext)
      cases hread : readArguments fuel inside with
      | error refusal =>
        rw [hread] at hinside
        simp only [hread]
        exact bind_error hinside
      | ok result =>
        rw [hread] at hinside
        simp only [hread]
        exact bind_ok hinside
    · rw [if_neg hopen]
      split
      next inside => exact absurd rfl hopen
      next => rfl

theorem argumentList_eq (ihtype : Agrees text (scanType text fuel) (readType fuel))
    (iharguments : Agrees text (scanArguments text fuel) (readArguments fuel))
    (h : rest <:+ text.toList) :
    argumentList text (scanType text fuel) (scanArguments text fuel) (offsetOf text rest) =
      placed text (readArguments (fuel + 1) rest) := by
  have hfirst := ihtype rest h
  rw [argumentList, readArguments]
  cases hread : readType fuel rest with
  | error refusal =>
    rw [hread] at hfirst
    exact bind_error hfirst
  | ok result =>
    obtain ⟨argument, after⟩ := result
    rw [hread] at hfirst
    have hafter : after <:+ text.toList :=
      ((derives_of_read fuel).1 _ _ _ hread).suffix.trans h
    have hnext : skipBlanks after <:+ text.toList := (skipBlanks_suffix _).trans hafter
    rw [bind_ok hfirst, bind_ok (skip_eq hafter), bind_ok (peek_eq hnext)]
    dsimp only
    generalize skipBlanks after = next at hnext
    by_cases hcomma : next.head? = some ','
    · obtain ⟨more, rfl⟩ := List.head?_eq_some_iff.mp hcomma
      rw [if_pos hcomma, bind_ok (bump_eq hnext)]
      have hmore := iharguments more ((List.suffix_cons ..).trans hnext)
      cases hothers : readArguments fuel more with
      | error refusal =>
        rw [hothers] at hmore
        simp only [hothers]
        exact bind_error hmore
      | ok others =>
        rw [hothers] at hmore
        simp only [hothers]
        exact bind_ok hmore
    rw [if_neg hcomma]
    by_cases hclose : next.head? = some '>'
    · obtain ⟨last, rfl⟩ := List.head?_eq_some_iff.mp hclose
      rw [if_pos hclose, bind_ok (bump_eq hnext)]
      rfl
    · rw [if_neg hclose]
      split
      next => exact absurd rfl hcomma
      next => exact absurd rfl hclose
      next => rfl

end Steps

theorem agrees_scan (text : String) (fuel : Nat) :
    Agrees text (scanType text fuel) (readType fuel) ∧
      Agrees text (scanArguments text fuel) (readArguments fuel) := by
  induction fuel with
  | zero =>
    constructor
    · intro rest _
      rfl
    · intro rest _
      rfl
  | succ fuel ih =>
    constructor
    · intro rest h
      have hstart : skipBlanks rest <:+ text.toList := (skipBlanks_suffix _).trans h
      rw [scanType, bind_ok (skip_eq h), bind_ok (peek_eq hstart)]
      by_cases hmark : (skipBlanks rest).head? = some '?'
      · obtain ⟨afterMark, hcons⟩ := List.head?_eq_some_iff.mp hmark
        have hblanks := blanks_skipBlanks rest
        rw [if_pos hmark]
        rw [hcons] at hblanks hstart ⊢
        exact wildcard_eq ih.1 hblanks hstart
      · rw [if_neg hmark]
        exact named_eq ih.2 hmark h
    · intro rest h
      rw [scanArguments]
      exact argumentList_eq ih.1 ih.2 h

end Scanner

/-- The end of the text is where nothing is left of it. -/
theorem offsetOf_eq_utf8ByteSize_iff {text : String} {rest : List Char}
    (h : rest <:+ text.toList) : offsetOf text rest = text.utf8ByteSize ↔ rest = [] := by
  obtain ⟨before, hbefore⟩ := h
  have hsize : text.utf8ByteSize = byteSize before + byteSize rest := by
    rw [← byteSize_append, hbefore, byteSize_eq, String.ofList_toList]
  rw [offsetOf_eq hbefore, hsize]
  cases rest with
  | nil => simp [byteSize]
  | cons c others =>
    have hpos := c.utf8Size_pos
    simp only [byteSize, reduceCtorEq, iff_false]
    omega

namespace Scanner

/-- The whole text, from what the other reader makes of it. -/
theorem scanAll_eq (text : String) :
    scanAll text 0 = placed text ((readAll text.toList).map fun t => (t, [])) := by
  have hread := (agrees_scan text (2 * text.length + 2)).1 text.toList List.suffix_rfl
  have hstart : offsetOf text text.toList = 0 := by simp [offsetOf]
  rw [hstart, ← String.length_toList] at hread
  rw [scanAll, readAll, ← String.length_toList]
  cases htype : readType (2 * text.toList.length + 2) text.toList with
  | error refusal =>
    rw [htype] at hread
    exact bind_error hread
  | ok result =>
    obtain ⟨t, rest⟩ := result
    rw [htype] at hread
    have hrest : rest <:+ text.toList := ((derives_of_read _).1 _ _ _ htype).suffix
    have hnext : skipBlanks rest <:+ text.toList := (skipBlanks_suffix _).trans hrest
    rw [bind_ok hread, bind_ok (skip_eq hrest), bind_ok (get_eq _)]
    dsimp only
    generalize skipBlanks rest = next at hnext
    by_cases hend : next = []
    · rw [if_pos ((offsetOf_eq_utf8ByteSize_iff hnext).mpr hend), hend]
      rfl
    · rw [if_neg (mt (offsetOf_eq_utf8ByteSize_iff hnext).mp hend)]
      split
      next => exact absurd rfl hend
      next => rfl

end Scanner

/-- Reading by offsets never asks for a slice that does not exist, and comes to the same. -/
theorem parseByOffsets?_eq (text : String) : parseByOffsets? text = some (parse text) := by
  rw [parseByOffsets?, Scanner.scanAll_eq, parse]
  cases readAll text.toList with
  | ok t => rfl
  | error refusal => rfl

theorem exists_parse_of_descriptorText {text : List Char} {t : TypeDescriptor}
    (h : DescriptorText text t) : ∃ t, parse (String.ofList text) = .ok t := by
  refine ⟨t, parse_eq_ok_iff_readAll.mpr ?_⟩
  rw [String.toList_ofList]
  exact readAll_eq_ok_iff.mpr h

/-- No slice is asked for that begins or ends inside a character. A text that is refused is
recorded, with an offset in bytes that is within the text and at the boundary of a character.
What stands before the offset can be completed to a text that is accepted, and if only the
rest is trailing, it is accepted as it is. -/
theorem refusals_point_into_readable_part (text : String) :
    parseByOffsets? text = some (parse text) ∧
    ∀ e, parse text = .error e →
      e.input = text ∧ e.position ≤ text.utf8ByteSize ∧
      String.Pos.Raw.IsValid text ⟨e.position⟩ ∧
      ∃ before rest, text = before ++ rest ∧ before.utf8ByteSize = e.position ∧
        (∃ more t, parse (before ++ more) = .ok t) ∧
        (e.fault = .trailingInput → ∃ t, parse before = .ok t) := by
  refine ⟨parseByOffsets?_eq text, fun e h => ?_⟩
  rw [parse] at h
  cases hread : readAll text.toList with
  | ok t =>
    rw [hread] at h
    cases h
  | error refusal =>
    rw [hread] at h
    cases h
    obtain ⟨front, htext, ⟨more, t, hmore⟩, htrailing⟩ := completed_of_readAll hread
    have hposition : byteSize text.toList - byteSize refusal.rest = byteSize front :=
      offsetOf_eq htext.symm
    have hsplit := eq_append_of_toList htext.symm
    have hsize := congrArg String.utf8ByteSize hsplit
    rw [String.utf8ByteSize_append, ← byteSize_eq] at hsize
    dsimp only
    rw [hposition]
    refine ⟨rfl, by omega, isValid_byteSize htext.symm, String.ofList front,
      String.ofList refusal.rest, hsplit, (byteSize_eq front).symm, ⟨String.ofList more, ?_⟩, ?_⟩
    · rw [← String.ofList_append]
      exact exists_parse_of_descriptorText hmore
    · intro hfault
      obtain ⟨t', hwhole⟩ := htrailing hfault
      exact exists_parse_of_descriptorText hwhole

/-- Letters of two bytes before a bound that is missing. -/
theorem missing_bound_refused_at_boundary :
    parse "Карта<? extends >" = .error ⟨.emptyName, "Карта<? extends >", 21⟩ ∧
    String.Pos.Raw.IsValid "Карта<? extends >" ⟨21⟩ ∧
    ∃ before rest, "Карта<? extends >" = before ++ rest ∧ before.utf8ByteSize = 21 ∧
      ∃ more t, parse (before ++ more) = .ok t := by
  have hrefused : parse "Карта<? extends >" =
      .error ⟨.emptyName, "Карта<? extends >", 21⟩ := by decide +kernel
  obtain ⟨-, -, hvalid, before, rest, hsplit, hsize, hmore, -⟩ :=
    (refusals_point_into_readable_part "Карта<? extends >").2 _ hrefused
  exact ⟨hrefused, hvalid, before, rest, hsplit, hsize, hmore⟩

end TypeDescriptor

end RestContract
