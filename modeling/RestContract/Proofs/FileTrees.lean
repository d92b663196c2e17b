import Mathlib.Data.List.Basic
import RestContract.Files.Tree

/-!
Writing into a tree of files. Creating folders and writing texts only add places to a tree,
so a path that leads to a place keeps leading there. A text that was written stands at the
place of its path until another text is written to the same place: of several texts written
in a row, each path reads back the last one whose path leads to the same place. Two names
directly below one folder lead to two places.
-/
namespace RestContract

namespace FileTree

variable {t t' t'' : FileTree} {place folder found : Place} {part path text name : String}
  {parts : List String} {p : PathParts}

structure Grows (t t' : FileTree) : Prop where
  workingFolder : t'.workingFolder = t.workingFolder
  folders : ∀ place, t.isFolder place = true → t'.isFolder place = true
  files : ∀ place, (t.content? place).isSome = true → (t'.content? place).isSome = true

theorem Grows.refl (t : FileTree) : t.Grows t := ⟨rfl, fun _ h => h, fun _ h => h⟩

theorem Grows.trans (h : t.Grows t') (h' : t'.Grows t'') : t.Grows t'' where
  workingFolder := h'.workingFolder.trans h.workingFolder
  folders place hfolder := h'.folders place (h.folders place hfolder)
  files place hfile := h'.files place (h.files place hfile)

/-- One part further stands a folder or a file, unless the part leads nowhere or upwards. -/
theorem advance_of_name (hdot : part ≠ ".") (hup : part ≠ "..") :
    t.advance place part = .ok found ↔ t.isFolder place = true ∧
      part.utf8ByteSize ≤ maxNameBytes ∧ found = place ++ [part] ∧
      (t.isFolder found || (t.content? found).isSome) = true := by
  unfold advance
  by_cases hfolder : t.isFolder place = true
  · rw [if_neg (by simp [hfolder]), if_neg (by simpa using hdot), if_neg (by simpa using hup)]
    by_cases hlong : maxNameBytes < part.utf8ByteSize
    · rw [if_pos hlong]
      constructor
      · intro h
        cases h
      · intro h
        omega
    · rw [if_neg hlong]
      by_cases hthere : (t.isFolder (place ++ [part]) ||
          (t.content? (place ++ [part])).isSome) = true
      · rw [if_pos hthere]
        constructor
        · intro h
          cases h
          exact ⟨hfolder, by omega, rfl, hthere⟩
        · intro h
          rw [h.2.2.1]
      · rw [if_neg hthere]
        constructor
        · intro h
          cases h
        · intro h
          obtain ⟨-, -, rfl, hfound⟩ := h
          exact absurd hfound hthere
  · rw [if_pos (by simpa using hfolder)]
    constructor
    · intro h
      cases h
    · intro h
      exact absurd h.1 hfolder

theorem isFolder_of_advance (h : t.advance place part = .ok found) : t.isFolder place = true := by
  unfold advance at h
  split at h
  · cases h
  next hfolder => simpa using hfolder

theorem advance_mono (hgrows : t.Grows t') (h : t.advance place part = .ok found) :
    t'.advance place part = .ok found := by
  have hfolder := isFolder_of_advance h
  have hfolder' := hgrows.folders place hfolder
  by_cases hdot : part = "."
  · subst hdot
    simpa [advance, hfolder, hfolder'] using h
  · by_cases hup : part = ".."
    · subst hup
      simpa [advance, hfolder, hfolder'] using h
    · obtain ⟨-, hshort, hfound, hthere⟩ := (advance_of_name hdot hup).mp h
      refine (advance_of_name hdot hup).mpr ⟨hfolder', hshort, hfound, ?_⟩
      rcases Bool.or_eq_true_iff.mp hthere with hthere | hthere
      · simp [hgrows.folders found hthere]
      · simp [hgrows.files found hthere]

theorem walk_mono (hgrows : t.Grows t') (h : t.walk place parts = .ok found) :
    t'.walk place parts = .ok found := by
  induction parts generalizing place with
  | nil => exact h
  | cons part rest ih =>
    unfold walk at h ⊢
    split at h
    next next hstep =>
      rw [advance_mono hgrows hstep]
      exact ih h
    next => cases h

theorem walk_append (first : List String) : t.walk place (first ++ [part]) = .ok found ↔
    ∃ folder, t.walk place first = .ok folder ∧ t.advance folder part = .ok found := by
  induction first generalizing place with
  | nil =>
    simp only [List.nil_append, walk, Except.ok.injEq, exists_eq_left']
    cases t.advance place part with
    | ok next => rfl
    | error e => rfl
  | cons next rest ih =>
    simp only [List.cons_append, walk]
    cases t.advance place next with
    | ok next => exact ih
    | error e => simp

theorem startOf_mono (hgrows : t.Grows t') (p : PathParts) : t'.startOf p = t.startOf p := by
  rw [startOf, startOf, hgrows.workingFolder]

theorem locate_eq_ok_iff : t.locate path = .ok place ↔ pathError? path = none ∧
    t.walk (t.startOf (.ofText path)) (if hasTrailingSlash path then
      (PathParts.ofText path).parts ++ ["."] else (PathParts.ofText path).parts) = .ok place := by
  unfold locate
  cases pathError? path with
  | none => simp
  | some e => simp

theorem locate_mono (hgrows : t.Grows t') (h : t.locate path = .ok place) :
    t'.locate path = .ok place := by
  rw [locate_eq_ok_iff] at h ⊢
  rw [startOf_mono hgrows]
  exact ⟨h.1, walk_mono hgrows h.2⟩

structure AddsFolders (t t' : FileTree) : Prop where
  workingFolder : t'.workingFolder = t.workingFolder
  folders : t.folders ⊆ t'.folders
  files : t'.files = t.files

theorem AddsFolders.refl (t : FileTree) : t.AddsFolders t := ⟨rfl, fun _ h => h, rfl⟩

theorem AddsFolders.trans (h : t.AddsFolders t') (h' : t'.AddsFolders t'') :
    t.AddsFolders t'' where
  workingFolder := h'.workingFolder.trans h.workingFolder
  folders := fun _ hfolder => h'.folders (h.folders hfolder)
  files := h'.files.trans h.files

theorem AddsFolders.content? (h : t.AddsFolders t') (place : Place) :
    t'.content? place = t.content? place := by
  rw [FileTree.content?, FileTree.content?, h.files]

theorem AddsFolders.grows (h : t.AddsFolders t') : t.Grows t' where
  workingFolder := h.workingFolder
  folders place hfolder := by
    unfold isFolder at hfolder ⊢
    simp only [Bool.or_eq_true, List.contains_iff_mem] at hfolder ⊢
    exact hfolder.imp_right fun hmem => h.folders hmem
  files place hfile := by rwa [h.content?]

theorem addsFolders_createFolder (h : t.createFolder p = .ok t') : t.AddsFolders t' := by
  unfold createFolder at h
  split at h
  · cases h
  split at h
  · cases h
  iterate 3
    split at h
    · cases h
  dsimp only at h
  split at h
  · cases h
  cases h
  exact ⟨rfl, List.subset_cons_self .., rfl⟩

theorem addsFolders_ensureFolder (h : t.ensureFolder p = .ok t') : t.AddsFolders t' := by
  unfold ensureFolder at h
  split at h
  next hcreate =>
    cases h
    exact addsFolders_createFolder hcreate
  next =>
    split at h
    · cases h
      exact .refl t
    · cases h

theorem addsFolders_createFoldersWithin {levels : Nat}
    (h : createFoldersWithin levels t p = .ok t') : t.AddsFolders t' := by
  induction levels generalizing t' p with
  | zero => cases h
  | succ levels ih =>
    unfold createFoldersWithin at h
    split at h
    · cases h
      exact .refl t
    · split at h
      next hcreate =>
        cases h
        exact addsFolders_createFolder hcreate
      next =>
        split at h
        · cases h
        · split at h
          · cases h
          next around haround => exact (ih haround).trans (addsFolders_ensureFolder h)
      next =>
        split at h
        · cases h
          exact .refl t
        · cases h

theorem addsFolders_createFolders (h : t.createFolders path = .ok t') : t.AddsFolders t' := by
  unfold createFolders at h
  split at h
  · cases h
    exact .refl t
  · split at h
    · cases h
    · exact addsFolders_createFoldersWithin h

theorem lookup_filter_ne {files : List (Place × FileContent)} {other : Place}
    (h : other ≠ place) : (files.filter (·.1 != place)).lookup other = files.lookup other := by
  induction files with
  | nil => rfl
  | cons file rest ih =>
    by_cases hfile : file.1 = place
    · have hother : (other == file.1) = false := by simpa [hfile] using h
      rw [List.filter_cons_of_neg (by simpa using hfile), ih, List.lookup_cons, hother]
    · rw [List.filter_cons_of_pos (by simpa using hfile), List.lookup_cons, List.lookup_cons, ih]

theorem content?_setFile (content : FileContent) (other : Place) :
    (t.setFile place content).content? other =
      if other = place then some content else t.content? other := by
  unfold content? setFile
  by_cases h : other = place
  · simp [h]
  · have hother : (other == place) = false := by simpa using h
    rw [if_neg h, List.lookup_cons, hother]
    exact lookup_filter_ne h

theorem grows_setFile (content : FileContent) : t.Grows (t.setFile place content) where
  workingFolder := rfl
  folders _ h := h
  files other h := by
    rw [content?_setFile]
    split
    · rfl
    · exact h

/-- A text that was written stands where its path leads. -/
theorem writeText_eq_ok (h : t.writeText path text = .ok t') :
    ∃ place, t' = t.setFile place (.text text) ∧ t'.locate path = .ok place := by
  unfold writeText at h
  split at h
  · cases h
  rename_i hpath
  dsimp only at h
  split at h
  · cases h
  rename_i name hlast
  split at h
  · cases h
  rename_i folder hwalk
  split at h
  · cases h
  rename_i hfolder
  split at h
  · cases h
  rename_i hname
  split at h
  · cases h
  rename_i hlong
  split at h
  · cases h
  cases h
  simp only [Bool.or_eq_true, beq_iff_eq, not_or] at hname
  have hgrows := @grows_setFile t (folder ++ [name]) (.text text)
  have hparts : (PathParts.ofText path).parts = (PathParts.ofText path).parts.dropLast ++ [name] :=
    (List.dropLast_append_getLast? name hlast).symm
  refine ⟨folder ++ [name], rfl, locate_eq_ok_iff.mpr ⟨hpath, ?_⟩⟩
  rw [if_neg hname.2, hparts, walk_append]
  refine ⟨folder, startOf_mono hgrows _ ▸ walk_mono hgrows hwalk, ?_⟩
  refine (advance_of_name hname.1.1 hname.1.2).mpr ⟨?_, Nat.le_of_not_lt hlong, rfl, ?_⟩
  · exact hgrows.folders folder (by simpa using hfolder)
  · simp [content?_setFile]

/-- The second tree is the first one after the text was written to the path, in folders that
were created if needed. -/
structure Stores (t : FileTree) (path text : String) (t' : FileTree) : Prop where
  grows : t.Grows t'
  stored : ∃ place, t'.locate path = .ok place ∧ ∀ other, t'.content? other =
    if other = place then some (.text text) else t.content? other

theorem stores_of_write {folder : String} (hfolders : t.createFolders folder = .ok t')
    (hwrite : t'.writeText path text = .ok t'') : t.Stores path text t'' := by
  have hadds := addsFolders_createFolders hfolders
  obtain ⟨place, rfl, hlocate⟩ := writeText_eq_ok hwrite
  refine ⟨hadds.grows.trans (grows_setFile _), place, hlocate, fun other => ?_⟩
  rw [content?_setFile, hadds.content?]

inductive StoresAll : FileTree → List (String × String) → FileTree → Prop
  | nil (t : FileTree) : StoresAll t [] t
  | cons {t t' t'' : FileTree} {path text : String} {rest : List (String × String)} :
      t.Stores path text t' → StoresAll t' rest t'' → StoresAll t ((path, text) :: rest) t''

def IsLastAt (t : FileTree) (place : Place) (writes : List (String × String))
    (last : String × String) : Prop :=
  ∃ before after, writes = before ++ last :: after ∧ t.locate last.1 = .ok place ∧
    ∀ later ∈ after, t.locate later.1 ≠ .ok place

namespace StoresAll

variable {writes : List (String × String)} {w : String × String}

theorem grows (h : StoresAll t writes t') : t.Grows t' := by
  induction h with
  | nil t => exact .refl t
  | cons hfirst _ ih => exact hfirst.grows.trans ih

theorem exists_place (h : StoresAll t writes t') (hw : w ∈ writes) :
    ∃ place, t'.locate w.1 = .ok place := by
  induction h with
  | nil t => cases hw
  | cons hfirst hrest ih =>
    rcases List.mem_cons.mp hw with rfl | hmem
    · obtain ⟨place, hplace, -⟩ := hfirst.stored
      exact ⟨place, locate_mono hrest.grows hplace⟩
    · exact ih hmem

/-- At every place stands the last text written there, or what stood there before. -/
theorem content_cases (h : StoresAll t writes t') (place : Place) :
    (∃ last, t'.IsLastAt place writes last ∧ t'.content? place = some (.text last.2)) ∨
    ((∀ w ∈ writes, t'.locate w.1 ≠ .ok place) ∧ t'.content? place = t.content? place) := by
  induction h with
  | nil t => exact .inr ⟨nofun, rfl⟩
  | @cons t t₁ t' path text rest hfirst hrest ih =>
    rcases ih with ⟨last, ⟨before, after, rfl, hlast, hafter⟩, hcontent⟩ | ⟨hnone, hcontent⟩
    · exact .inl ⟨last, ⟨(path, text) :: before, after, rfl, hlast, hafter⟩, hcontent⟩
    · obtain ⟨place', hplace', hstored⟩ := hfirst.stored
      have hlocate := locate_mono hrest.grows hplace'
      by_cases hsame : place = place'
      · subst hsame
        refine .inl ⟨(path, text), ⟨[], rest, rfl, hlocate, hnone⟩, ?_⟩
        rw [hcontent, hstored, if_pos rfl]
      · refine .inr ⟨fun w hw => ?_, ?_⟩
        · rcases List.mem_cons.mp hw with rfl | hmem
          · rw [hlocate]
            intro heq
            exact hsame (Except.ok.inj heq).symm
          · exact hnone w hmem
        · rw [hcontent, hstored, if_neg hsame]

/-- Each path reads back the last text that was written to its place. -/
theorem readText_eq_last (h : StoresAll t writes t') (hw : w ∈ writes) :
    ∃ place last, t'.locate w.1 = .ok place ∧ t'.IsLastAt place writes last ∧
      t'.readText w.1 = .ok last.2 := by
  obtain ⟨place, hplace⟩ := h.exists_place hw
  rcases h.content_cases place with ⟨last, hlast, hcontent⟩ | ⟨hnone, -⟩
  · refine ⟨place, last, hplace, hlast, ?_⟩
    simp [readText, hplace, hcontent]
  · exact absurd hplace (hnone w hw)

/-- The same of items with a path and a text each. -/
theorem exists_last {α : Type} {pathOf textOf : α → String} {items : List α} {a : α}
    (h : StoresAll t (items.map fun a => (pathOf a, textOf a)) t') (ha : a ∈ items) :
    ∃ before last after, items = before ++ last :: after ∧
      t'.locate (pathOf last) = t'.locate (pathOf a) ∧
      (∀ later ∈ after, t'.locate (pathOf later) ≠ t'.locate (pathOf a)) ∧
      t'.readText (pathOf a) = .ok (textOf last) := by
  have hwrite : (pathOf a, textOf a) ∈ items.map fun a => (pathOf a, textOf a) :=
    List.mem_map_of_mem ha
  obtain ⟨place, written, hplace, ⟨before, after, hsplit, hwritten, hlater⟩, hread⟩ :=
    h.readText_eq_last hwrite
  obtain ⟨before', rest, rfl, -, hrest⟩ := List.map_eq_append_iff.mp hsplit
  obtain ⟨last, after', rfl, rfl, rfl⟩ := List.map_eq_cons_iff.mp hrest
  refine ⟨before', last, after', rfl, hwritten.trans hplace.symm, fun later hmem => ?_, hread⟩
  rw [hplace]
  exact hlater _ (List.mem_map_of_mem hmem)

end StoresAll

end FileTree

theorem splitSlashes_ne_nil (cs : List Char) : splitSlashes cs ≠ [] := by
  fun_cases splitSlashes cs <;> simp_all

theorem splitSlashes_of_no_slash {cs : List Char} (h : '/' ∉ cs) : splitSlashes cs = [cs] := by
  induction cs with
  | nil => rfl
  | cons c rest ih =>
    obtain ⟨hc, hrest⟩ := not_or.mp (mt List.mem_cons.mpr h)
    rw [splitSlashes, ih hrest]
    exact fun heq => hc heq.symm

theorem splitSlashes_append (first second : List Char) :
    splitSlashes (first ++ '/' :: second) = splitSlashes first ++ splitSlashes second := by
  induction first with
  | nil => rfl
  | cons c rest ih =>
    by_cases hc : c = '/'
    · subst hc
      simp [splitSlashes, ih]
    · cases hrest : splitSlashes rest with
      | nil => exact absurd hrest (splitSlashes_ne_nil rest)
      | cons part parts =>
        rw [hrest] at ih
        rw [List.cons_append, splitSlashes.eq_3 _ _ (fun heq => hc heq),
          splitSlashes.eq_3 _ _ (fun heq => hc heq), ih, hrest]
        rfl

structure IsPlainName (name : String) : Prop where
  nonempty : name ≠ ""
  noSlash : '/' ∉ name.toList
  notDot : name ≠ "."
  notUp : name ≠ ".."

namespace IsPlainName

variable {folder name other : String} (hname : IsPlainName name)

include hname

theorem head_ne : name.toList.head? ≠ some '/' := by
  intro hhead
  exact hname.noSlash (List.mem_of_head? hhead)

/-- The name follows the folder, after a slash unless the folder is empty or has one. -/
theorem toList_joinPath (folder : String) :
    (folder = "" ∧ (joinPath folder name).toList = name.toList) ∨
    (∃ stem, folder.toList = stem ++ ['/'] ∧
      (joinPath folder name).toList = stem ++ '/' :: name.toList) ∨
    (folder ≠ "" ∧ (joinPath folder name).toList = folder.toList ++ '/' :: name.toList) := by
  unfold joinPath
  by_cases hempty : folder = ""
  · exact .inl ⟨hempty, by simp [hempty]⟩
  · have hjoin : ¬(name.toList.head? == some '/' || folder.isEmpty) = true := by
      simp [hname.head_ne, hempty]
    rw [if_neg hjoin]
    by_cases hslash : folder.toList.getLast? = some '/'
    · obtain ⟨stem, hstem⟩ := List.getLast?_eq_some_iff.mp hslash
      exact .inr (.inl ⟨stem, hstem, by simp [hstem]⟩)
    · exact .inr (.inr ⟨hempty, by simp [hslash]⟩)

theorem parts_append_slash (stem : List Char) :
    ((splitSlashes (stem ++ '/' :: name.toList)).filter (! ·.isEmpty)).map String.ofList =
      ((splitSlashes stem).filter (! ·.isEmpty)).map String.ofList ++ [name] := by
  have hnonempty : name.toList.isEmpty = false := by simpa using hname.nonempty
  rw [splitSlashes_append, splitSlashes_of_no_slash hname.noSlash]
  simp [hnonempty]

/-- The parts of the path to a name below a folder. -/
theorem ofText_joinPath (folder : String) : PathParts.ofText (joinPath folder name) =
    { PathParts.ofText folder with parts := (PathParts.ofText folder).parts ++ [name] } := by
  unfold PathParts.ofText
  obtain ⟨rfl, hjoin⟩ | ⟨stem, hstem, hjoin⟩ | ⟨hempty, hjoin⟩ := hname.toList_joinPath folder
  · have hnonempty : name.toList.isEmpty = false := by simpa using hname.nonempty
    rw [hjoin, splitSlashes_of_no_slash hname.noSlash]
    simp [hnonempty, hname.head_ne, splitSlashes]
  · rw [hjoin, hname.parts_append_slash, hstem, splitSlashes_append]
    cases stem with
    | nil => simp [splitSlashes]
    | cons c rest => simp [splitSlashes]
  · rw [hjoin, hname.parts_append_slash]
    cases hchars : folder.toList with
    | nil => exact absurd (by simpa using hchars) hempty
    | cons c rest => simp

theorem hasTrailingSlash_joinPath (folder : String) :
    hasTrailingSlash (joinPath folder name) = false := by
  have hlast : ∀ stem : List Char, (stem ++ name.toList).getLast? ≠ some '/' := by
    intro stem hslash
    have hne : name.toList ≠ [] := by simpa using hname.nonempty
    rw [List.getLast?_append_of_ne_nil _ hne] at hslash
    exact hname.noSlash (List.mem_of_getLast? hslash)
  unfold hasTrailingSlash
  obtain ⟨-, hjoin⟩ | ⟨stem, -, hjoin⟩ | ⟨-, hjoin⟩ := hname.toList_joinPath folder
  · simpa [hjoin] using hlast []
  · simpa [hjoin] using hlast (stem ++ ['/'])
  · simpa [hjoin] using hlast (folder.toList ++ ['/'])

/-- The place of a name below a folder is one step from the place of the folder. -/
theorem locate_joinPath {t : FileTree} {place : Place}
    (h : t.locate (joinPath folder name) = .ok place) :
    ∃ around, t.walk (t.startOf (.ofText folder)) (PathParts.ofText folder).parts = .ok around ∧
      place = around ++ [name] := by
  obtain ⟨-, hwalk⟩ := FileTree.locate_eq_ok_iff.mp h
  rw [if_neg (by simp [hname.hasTrailingSlash_joinPath folder]), hname.ofText_joinPath,
    FileTree.walk_append] at hwalk
  obtain ⟨around, haround, hstep⟩ := hwalk
  obtain ⟨-, -, hplace, -⟩ := (FileTree.advance_of_name hname.notDot hname.notUp).mp hstep
  exact ⟨around, haround, hplace⟩

end IsPlainName

/-- Below one folder, two names lead to one place only if they are the same. -/
theorem IsPlainName.eq_of_locate_eq {t : FileTree} {place : Place} {folder name other : String}
    (hname : IsPlainName name) (hother : IsPlainName other)
    (h : t.locate (joinPath folder name) = .ok place)
    (h' : t.locate (joinPath folder other) = .ok place) : name = other := by
  obtain ⟨around, haround, rfl⟩ := hname.locate_joinPath h
  obtain ⟨around', haround', hsame⟩ := hother.locate_joinPath h'
  rw [haround] at haround'
  cases haround'
  simpa using hsame

end RestContract
