import Mathlib.Data.List.Nodup
import RestContract.Command.Run
import RestContract.Proofs.FileTrees
import RestContract.Proofs.Passes

/-!
The files that a run leaves behind. A run reads its options and its source, compiles, and
then writes one document after the other, each under the simple name of its interface. What
is written last to a place is what stays there. So a document is lost if another interface
with the same simple name comes after it, and if the simple names are distinct none is.

Runs are followed on a tree of files. A step that succeeds is taken apart into the steps
before it, each with what it prints and with the tree that it leaves.
-/
namespace RestContract

namespace Document

def outputPath (d : Document) (folder : String) (format : OutputFormat) : String :=
  joinPath folder (d.fileName format)

variable {d other : Document} {format : OutputFormat}

theorem title_of_fileName_eq (h : d.fileName format = other.fileName format) :
    d.info.title = other.info.title := by
  have hchars := congrArg String.toList h
  simp only [fileName, String.toList_append, List.append_assoc] at hchars
  exact String.toList_inj.mp (List.append_cancel_right hchars)

/-- A title without slashes makes the name of a file. -/
theorem isPlainName_fileName (h : '/' ∉ d.info.title.toList) : IsPlainName (d.fileName format) := by
  have hlength : (d.fileName format).length = d.info.title.length + 5 := by
    rw [fileName, String.length_append, String.length_append]
    cases format <;> rfl
  refine ⟨?_, ?_, ?_, ?_⟩
  · intro hempty
    simp [hempty] at hlength
  · cases format <;> simp [fileName, OutputFormat.extension, h]
  · intro hdot
    rw [hdot] at hlength
    have hone : ".".length = 1 := rfl
    omega
  · intro hup
    rw [hup] at hlength
    have htwo : "..".length = 2 := rfl
    omega

end Document

namespace Compilation

variable {catalog : TypeCatalog} {options : CompilerOptions} {interface : Interface}
  {document : Document}

theorem info_addServed (document : Document) (served : List (Operation × Endpoint)) :
    (addServed document served).info = document.info := by
  induction served generalizing document with
  | nil => rfl
  | cons s rest ih => exact ih (addEndpoint document s.2)

theorem info_withSchemas (schemas : SortedMap Schema) :
    (withSchemas document schemas).info = document.info := by
  unfold withSchemas
  split <;> rfl

/-- The title of a document is the simple name of its interface. -/
theorem title_of_interfacePass {pass : Pass} (h : interfacePass catalog options interface
      (.start options.collisionPolicy) = .ok document pass) :
    document.info.title = interface.simpleName := by
  obtain ⟨served, log, p, run⟩ := exists_run h
  rw [run.document, info_withSchemas, info_addServed]
  rfl

theorem titles_of_compileSource {source : ContractSource} {documents : List Document}
    (h : (compileSource source options).result = .ok documents) :
    documents.map (·.info.title) =
      (selected options source.interfaces).map Interface.simpleName := by
  have hpasses := passes_of_compileAll h
  generalize selected options source.interfaces = interfaces at hpasses
  clear h
  induction hpasses with
  | nil => rfl
  | cons hfirst _ ih =>
    obtain ⟨pass, hpass⟩ := hfirst
    rw [List.map_cons, List.map_cons, title_of_interfacePass hpass, ih]

end Compilation

namespace Command

namespace Session

variable {α β ε : Type} {x : Session (StateM FileTree) α} {f : α → Session (StateM FileTree) β}
  {s s' s'' : Transcript} {t t' t'' : FileTree} {a a' : α} {b : β}

/-- From a transcript and a tree, the session comes to the result, with another transcript
and another tree. -/
def Succeeds (x : Session (StateM FileTree) α) (s : Transcript) (t : FileTree) (a : α)
    (s' : Transcript) (t' : FileTree) : Prop :=
  (x.run.run s).run t = ((.ok a, s'), t')

theorem Succeeds.of_bind (h : Succeeds (x >>= f) s t b s'' t'') :
    ∃ a s' t', Succeeds x s t a s' t' ∧ Succeeds (f a) s' t' b s'' t'' := by
  unfold Succeeds at h
  rw [ExceptT.run_bind, StateT.run_bind, StateT.run_bind] at h
  cases hx : (x.run.run s).run t with
  | mk outcome t' =>
    obtain ⟨result, s'⟩ := outcome
    rw [hx] at h
    cases result with
    | ok a => exact ⟨a, s', t', hx, h⟩
    | error e => cases h

theorem Succeeds.of_pure (h : Succeeds (pure a) s t a' s' t') : a' = a ∧ s' = s ∧ t' = t := by
  cases h
  exact ⟨rfl, rfl, rfl⟩

theorem not_succeeds_throw (e : CommandError) :
    ¬Succeeds (throw e : Session (StateM FileTree) α) s t a s' t' := by
  intro h
  cases h

theorem Succeeds.of_log {records : List LogRecord} {u : Unit}
    (h : Succeeds (log records) s t u s' t') : s'.lines = s.lines ∧ t' = t := by
  cases h
  exact ⟨rfl, rfl⟩

theorem Succeeds.of_printLine {line : String} {u : Unit}
    (h : Succeeds (printLine line) s t u s' t') : s'.lines = s.lines ++ [line] ∧ t' = t := by
  cases h
  exact ⟨rfl, rfl⟩

theorem Succeeds.of_lift {work : StateM FileTree α}
    (h : Succeeds (liftM (liftM work : StateT Transcript (StateM FileTree) α)) s t a s' t') :
    s' = s ∧ work.run t = (a, t') := by
  have hpair : ((Except.ok (work.run t).1, s), (work.run t).2) = ((Except.ok a, s'), t') := h
  simp only [Prod.mk.injEq, Except.ok.injEq] at hpair
  obtain ⟨⟨hvalue, rfl⟩, htree⟩ := hpair
  exact ⟨rfl, Prod.ext hvalue htree⟩

theorem Succeeds.of_orFail {failure : ε → CommandError} {work : StateM FileTree (Except ε α)}
    (h : Succeeds (orFail failure work) s t a s' t') :
    s' = s ∧ work.run t = (.ok a, t') := by
  obtain ⟨result, s₁, t₁, hwork, hrest⟩ := h.of_bind
  obtain ⟨rfl, hrun⟩ := hwork.of_lift
  cases result with
  | error e => exact absurd hrest (not_succeeds_throw _)
  | ok value =>
    obtain ⟨rfl, rfl, rfl⟩ := hrest.of_pure
    exact ⟨rfl, hrun⟩

end Session

open Session FileTree

variable {conventions : Conventions} {s s' : Transcript} {t t' : FileTree} {i : Invocation}
  {path out : String} {format : OutputFormat} {documents : List Document}

theorem run_bind {α β : Type} (x : StateM FileTree α) (f : α → StateM FileTree β) :
    (x >>= f).run t = (f (x.run t).1).run (x.run t).2 := rfl

theorem run_readText {α : Type} (f : Except FileError String → StateM FileTree α) :
    (fileAccess.readText path >>= f).run t = (f (t.readText path)).run t := rfl

theorem tree_load_options :
    ((CompilerOptions.load conventions.parseOptions fileAccess path).run t).2 = t := by
  rw [CompilerOptions.load, run_readText]
  cases t.readText path with
  | error e => rfl
  | ok text => rfl

theorem tree_load_source :
    ((ContractSource.load conventions.readSource? fileAccess path).run t).2 = t := by
  rw [ContractSource.load, run_readText]
  cases t.readText path with
  | error e => rfl
  | ok text =>
    dsimp only
    cases conventions.readSource? (SourceFormat.ofPath path) text with
    | none => rfl
    | some source => rfl

theorem tree_configPath? (o : Overrides) : ((configPath? fileAccess o).run t).2 = t := by
  unfold configPath?
  cases o.config with
  | some path => rfl
  | none => rfl

theorem tree_of_loadOptions {o : Overrides} {options : CompilerOptions}
    (h : Succeeds (loadOptions conventions fileAccess o) s t options s' t') :
    s'.lines = s.lines ∧ t' = t := by
  obtain ⟨config, s₁, t₁, hconfig, hrest⟩ := h.of_bind
  obtain ⟨rfl, hpath⟩ := hconfig.of_lift
  obtain rfl : t₁ = t := (congrArg Prod.snd hpath).symm.trans (tree_configPath? o)
  cases config with
  | none =>
    obtain ⟨-, rfl, rfl⟩ := hrest.of_pure
    exact ⟨rfl, rfl⟩
  | some path =>
    obtain ⟨_, s₂, t₂, hnote, hload⟩ := hrest.of_bind
    obtain ⟨hlines, rfl⟩ := Succeeds.of_log hnote
    obtain ⟨loaded, s₃, t₃, hread, happly⟩ := hload.of_bind
    obtain ⟨rfl, hrun⟩ := hread.of_orFail
    obtain ⟨-, rfl, rfl⟩ := happly.of_pure
    exact ⟨hlines, (congrArg Prod.snd hrun).symm.trans tree_load_options⟩

/-- The invocation finds the options and the source in the tree, and the documents are those
of the source under the options. -/
structure Invocation.Compiles (i : Invocation) (conventions : Conventions) (t : FileTree)
    (source : ContractSource) (options : CompilerOptions) (documents : List Document) : Prop where
  loads : ∃ s, Succeeds (loadOptions conventions fileAccess i.overrides) {} t options s t
  reads : (ContractSource.load conventions.readSource? fileAccess i.source).run t = (.ok source, t)
  compiles : (Compilation.compileSource source options).result = .ok documents

theorem compiles_of_compileDocuments
    (h : Succeeds (compileDocuments conventions fileAccess i) {} t documents s' t') :
    s'.lines = [] ∧ t' = t ∧
      ∃ source options, i.Compiles conventions t source options documents := by
  obtain ⟨options, s₁, t₁, hoptions, hafter⟩ := h.of_bind
  obtain ⟨hlines, rfl⟩ := tree_of_loadOptions hoptions
  obtain ⟨source, s₂, t₂, hsource, hcompile⟩ := hafter.of_bind
  obtain ⟨rfl, hload⟩ := hsource.of_orFail
  obtain rfl : t₂ = t₁ := (congrArg Prod.snd hload).symm.trans tree_load_source
  obtain ⟨_, s₃, t₃, hlog, hresult⟩ := hcompile.of_bind
  obtain ⟨hlines', rfl⟩ := hlog.of_log
  have hdocuments : s' = s₃ ∧ t' = t₃ ∧
      (Compilation.compileSource source options).result = .ok documents := by
    cases hcases : (Compilation.compileSource source options).result with
    | error e =>
      rw [hcases] at hresult
      exact absurd hresult (not_succeeds_throw _)
    | ok found =>
      rw [hcases] at hresult
      cases found with
      | nil =>
        cases honly : options.only with
        | some name =>
          simp only [honly] at hresult
          exact absurd hresult (not_succeeds_throw _)
        | none =>
          simp only [honly] at hresult
          exact absurd hresult (not_succeeds_throw _)
      | cons first rest =>
        obtain ⟨rfl, rfl, rfl⟩ := hresult.of_pure
        exact ⟨rfl, rfl, rfl⟩
  obtain ⟨rfl, rfl, hfound⟩ := hdocuments
  exact ⟨hlines'.trans hlines, rfl, source, options, ⟨_, hoptions⟩, hload, hfound⟩

theorem run_attempt {change : FileTree → Except FileError FileTree} {u : Unit}
    (h : (attempt change).run t = (.ok u, t')) : change t = .ok t' := by
  cases hchange : change t with
  | ok t₁ =>
    simp only [attempt, StateT.run, hchange] at h
    cases h
    rfl
  | error e =>
    simp only [attempt, StateT.run, hchange] at h
    cases h

theorem stores_of_write {d : Document}
    (h : (d.write conventions.render fileAccess out format).run t = (.ok path, t')) :
    path = d.outputPath out format ∧ t.Stores path (conventions.render d format) t' := by
  rw [Document.write, run_bind] at h
  cases hfolders : (fileAccess.createFolders out).run t with
  | mk created t₁ =>
    rw [hfolders] at h
    cases created with
    | error cause => cases h
    | ok u =>
      dsimp only at h
      rw [run_bind] at h
      cases hwrite : (fileAccess.writeText (d.outputPath out format)
          (conventions.render d format)).run t₁ with
      | mk written t₂ =>
        rw [← Document.outputPath, hwrite] at h
        cases written with
        | error cause => cases h
        | ok u =>
          cases h
          exact ⟨rfl, FileTree.stores_of_write (run_attempt hfolders) (run_attempt hwrite)⟩

def Conventions.outputs (conventions : Conventions) (out : String) (format : OutputFormat)
    (documents : List Document) : List (String × String) :=
  documents.map fun d => (d.outputPath out format, conventions.render d format)

theorem storesAll_of_writeDocuments {u : Unit}
    (h : Succeeds (writeDocuments conventions fileAccess out format documents) s t u s' t') :
    s'.lines = s.lines ++ documents.map (·.outputPath out format) ∧
      t.StoresAll (conventions.outputs out format documents) t' := by
  induction documents generalizing s t with
  | nil =>
    obtain ⟨-, rfl, rfl⟩ := h.of_pure
    exact ⟨by simp, .nil _⟩
  | cons d rest ih =>
    obtain ⟨path, s₁, t₁, hwrite, hafter⟩ := h.of_bind
    obtain ⟨rfl, hrun⟩ := hwrite.of_orFail
    obtain ⟨rfl, hstores⟩ := stores_of_write hrun
    obtain ⟨_, s₂, t₂, hnote, hprint⟩ := hafter.of_bind
    obtain ⟨hnoted, rfl⟩ := Succeeds.of_log hnote
    obtain ⟨_, s₃, t₃, hline, hrest⟩ := hprint.of_bind
    obtain ⟨hlines, rfl⟩ := hline.of_printLine
    obtain ⟨hlines', hstoresAll⟩ := ih hrest
    exact ⟨by simp [hlines', hlines, hnoted], .cons hstores hstoresAll⟩

/-- Documents with the same place have the same title, if titles have no slashes. -/
theorem title_of_locate_eq {d other : Document}
    (h : t.StoresAll (conventions.outputs out format documents) t')
    (hd : d ∈ documents) (hslash : '/' ∉ d.info.title.toList)
    (hslash' : '/' ∉ other.info.title.toList)
    (hsame : t'.locate (other.outputPath out format) = t'.locate (d.outputPath out format)) :
    other.info.title = d.info.title := by
  obtain ⟨place, hplace⟩ := h.exists_place (List.mem_map_of_mem hd)
  exact Document.title_of_fileName_eq
    ((Document.isPlainName_fileName hslash').eq_of_locate_eq (Document.isPlainName_fileName hslash)
      (hsame.trans hplace) hplace)

/-- A run that ends well printed the lines of its session. -/
theorem succeeds_of_execute {environment : Environment} {arguments : List String}
    {completion : Completion} (hinterpret : conventions.interpret environment arguments = .ok i)
    (hrun : (execute conventions fileAccess environment arguments).run t = (completion, t'))
    (hexit : completion.exitCode = 0) :
    ∃ transcript, Succeeds (i.run conventions fileAccess) {} t () transcript t' ∧
      completion.output = String.join (transcript.lines.map (· ++ "\n")) := by
  unfold execute at hrun
  simp only [hinterpret] at hrun
  rw [StateT.run_bind] at hrun
  cases houtcome : ((i.run conventions fileAccess).run.run {}).run t with
  | mk outcome t₁ =>
    obtain ⟨result, transcript⟩ := outcome
    rw [houtcome] at hrun
    let output := String.join (transcript.lines.map (· ++ "\n"))
    let log := shownEvents (logFilter environment i.verbosity) transcript.log
    cases result with
    | error e =>
      have hpair : ((⟨1, output, log, some e⟩ : Completion), t₁) = (completion, t') := hrun
      obtain ⟨rfl, -⟩ := Prod.mk.inj hpair
      exact absurd hexit Nat.one_ne_zero
    | ok u =>
      have hpair : ((⟨0, output, log, none⟩ : Completion), t₁) = (completion, t') := hrun
      obtain ⟨rfl, rfl⟩ := Prod.mk.inj hpair
      exact ⟨transcript, houtcome, rfl⟩

/-- A session that compiles prints the path of each document and stores it there. -/
theorem storesAll_of_run {u : Unit} (haction : i.action = .compile out format)
    (h : Succeeds (i.run conventions fileAccess) {} t u s' t') :
    ∃ source options documents, i.Compiles conventions t source options documents ∧
      s'.lines = documents.map (·.outputPath out format) ∧
      t.StoresAll (conventions.outputs out format documents) t' := by
  obtain ⟨documents, s₁, t₁, hcompile, hwrite⟩ := h.of_bind
  obtain ⟨hlines, rfl, source, options, hcompiles⟩ := compiles_of_compileDocuments hcompile
  rw [haction] at hwrite
  obtain ⟨hlines', hstores⟩ := storesAll_of_writeDocuments hwrite
  rw [hlines, List.nil_append] at hlines'
  exact ⟨source, options, documents, hcompiles, hlines', hstores⟩

/-- Distinct titles without slashes have distinct paths, and each path holds its document. -/
theorem stored_of_distinct_titles
    (h : t.StoresAll (conventions.outputs out format documents) t')
    (hslash : ∀ title ∈ documents.map (·.info.title), '/' ∉ title.toList)
    (hdistinct : (documents.map (·.info.title)).Nodup) :
    (documents.map (·.outputPath out format)).Nodup ∧
      ∀ d ∈ documents,
        t'.readText (d.outputPath out format) = .ok (conventions.render d format) := by
  have hsame : ∀ d ∈ documents, ∀ other ∈ documents,
      t'.locate (other.outputPath out format) = t'.locate (d.outputPath out format) →
        other = d := by
    intro d hd other hother hlocate
    have htitle := title_of_locate_eq h hd (hslash _ (List.mem_map_of_mem hd))
      (hslash _ (List.mem_map_of_mem hother)) hlocate
    exact List.inj_on_of_nodup_map hdistinct hother hd htitle
  constructor
  · refine (List.Nodup.of_map _ hdistinct).map_on fun other hother d hd hpath => ?_
    exact hsame d hd other hother (congrArg t'.locate hpath)
  · intro d hd
    obtain ⟨before, last, after, rfl, hlocate, -, hread⟩ := h.exists_last hd
    rwa [hsame d hd last (by simp) hlocate] at hread

/-- A run that compiles and ends well prints one path for each document, which leads to a
file, and this file holds the last document whose path leads there. Documents are named for
the simple names of their interfaces. Unless a name has a slash, the paths are distinct
exactly if the names are, and then every path holds its own document. -/
theorem printed_paths_hold_last_documents (conventions : Conventions)
    (environment : Environment) (arguments : List String) (i : Invocation) (out : String)
    (format : OutputFormat)
    (hinterpret : conventions.interpret environment arguments = .ok i)
    (haction : i.action = .compile out format) (t t' : FileTree) (completion : Completion)
    (hrun : (execute conventions fileAccess environment arguments).run t = (completion, t'))
    (hexit : completion.exitCode = 0) :
    ∃ source options documents, i.Compiles conventions t source options documents ∧
      documents.map (·.info.title) =
        (Compilation.selected options source.interfaces).map Interface.simpleName ∧
      completion.output = String.join (documents.map (·.outputPath out format ++ "\n")) ∧
      (∀ d ∈ documents, ∃ before last after, documents = before ++ last :: after ∧
        t'.locate (last.outputPath out format) = t'.locate (d.outputPath out format) ∧
        (∀ later ∈ after,
          t'.locate (later.outputPath out format) ≠ t'.locate (d.outputPath out format)) ∧
        t'.readText (d.outputPath out format) = .ok (conventions.render last format)) ∧
      ((∀ interface ∈ Compilation.selected options source.interfaces,
          '/' ∉ interface.simpleName.toList) →
        ((documents.map (·.outputPath out format)).Nodup ↔
          ((Compilation.selected options source.interfaces).map Interface.simpleName).Nodup) ∧
        (((Compilation.selected options source.interfaces).map Interface.simpleName).Nodup →
          ∀ d ∈ documents,
            t'.readText (d.outputPath out format) = .ok (conventions.render d format))) := by
  obtain ⟨transcript, hsucceeds, houtput⟩ := succeeds_of_execute hinterpret hrun hexit
  obtain ⟨source, options, documents, hcompiles, hlines, hstores⟩ :=
    storesAll_of_run haction hsucceeds
  have htitles := Compilation.titles_of_compileSource hcompiles.compiles
  refine ⟨source, options, documents, hcompiles, htitles, ?_, fun d hd => hstores.exists_last hd,
    fun hslash => ?_⟩
  · rw [houtput, hlines, List.map_map]
    rfl
  · have hslash' : ∀ title ∈ documents.map (·.info.title), '/' ∉ title.toList := by
      rw [htitles]
      simpa using hslash
    rw [← htitles]
    refine ⟨⟨fun hpaths => ?_, fun hdistinct => ?_⟩, fun hdistinct => ?_⟩
    · have hpath : documents.map (·.outputPath out format) =
          (documents.map (·.info.title)).map fun title =>
            joinPath out (title ++ "." ++ format.extension) := by
        rw [List.map_map]
        rfl
      rw [hpath] at hpaths
      exact List.Nodup.of_map _ hpaths
    · exact (stored_of_distinct_titles hstores hslash' hdistinct).1
    · exact (stored_of_distinct_titles hstores hslash' hdistinct).2

end Command

-- Sources with two interfaces, compiled in a folder of their own.
namespace Shops

open Command

def shelf (first second : String) : FileTree :=
  (FileTree.bare ["work"]).plant ["work", "source.yaml"] (.text
    ("interfaces:\n- name: " ++ first ++ "\n  operations:\n  - name: load\n- name: " ++ second ++
      "\n"))

def arguments : List String := ["compile", "source.yaml", "--out", "out", "--format", "json"]

def invocation : Invocation := ⟨.compile "out" .json, "source.yaml", {}, 0⟩

theorem interpret_arguments : Conventions.standard.interpret [] arguments = .ok invocation := by
  decide +kernel

def finish (t : FileTree) : Completion × FileTree :=
  (execute .standard FileTree.fileAccess [] arguments).run t

theorem run_eq_finish (t : FileTree) :
    (execute .standard FileTree.fileAccess [] arguments).run t = ((finish t).1, (finish t).2) := rfl

def sourceIn (t : FileTree) : Except SourceError ContractSource × FileTree :=
  (ContractSource.load Conventions.standard.readSource? FileTree.fileAccess
    invocation.source).run t

def names? (t : FileTree) : Option (List String) :=
  match sourceIn t,
      ((loadOptions .standard FileTree.fileAccess invocation.overrides).run.run {}).run t with
  | (.ok source, _), ((.ok options, _), _) =>
      some ((Compilation.selected options source.interfaces).map Interface.simpleName)
  | _, _ => none

theorem names_of_compiles {t : FileTree} {source : ContractSource} {options : CompilerOptions}
    {documents : List Document} {names : List String}
    (h : invocation.Compiles .standard t source options documents)
    (hnames : names? t = some names) :
    (Compilation.selected options source.interfaces).map Interface.simpleName = names := by
  obtain ⟨s, hloads⟩ := h.loads
  have hoptions :
      ((loadOptions .standard FileTree.fileAccess invocation.overrides).run.run {}).run t =
        ((.ok options, s), t) := hloads
  rw [names?, sourceIn, h.reads, hoptions] at hnames
  exact Option.some.inj hnames

/-- Two interfaces of different simple names: both documents are there afterwards. -/
theorem shops_hold_own_documents : ∃ source options documents,
    invocation.Compiles .standard (shelf "a.Store" "b.Shop") source options documents ∧
    (documents.map (·.outputPath "out" .json)).Nodup ∧
    ∀ d ∈ documents, (finish (shelf "a.Store" "b.Shop")).2.readText
      (d.outputPath "out" .json) = .ok (d.render .json) := by
  have hexit : (finish (shelf "a.Store" "b.Shop")).1.exitCode = 0 := by decide +kernel
  have hnames : names? (shelf "a.Store" "b.Shop") = some ["Store", "Shop"] := by decide +kernel
  obtain ⟨source, options, documents, hcompiles, -, -, -, hplain⟩ :=
    printed_paths_hold_last_documents .standard [] arguments invocation "out" .json
      interpret_arguments rfl _ _ _ (run_eq_finish _) hexit
  have hselected := names_of_compiles hcompiles hnames
  have hslash : ∀ interface ∈ Compilation.selected options source.interfaces,
      '/' ∉ interface.simpleName.toList := by
    intro interface hinterface
    have hname := List.mem_map_of_mem (f := Interface.simpleName) hinterface
    rw [hselected] at hname
    rcases List.mem_pair.mp hname with hname | hname
    · rw [hname]
      decide
    · rw [hname]
      decide
  obtain ⟨hpaths, hstored⟩ := hplain hslash
  have hdistinct : ((Compilation.selected options source.interfaces).map
      Interface.simpleName).Nodup := by
    rw [hselected]
    decide
  exact ⟨source, options, documents, hcompiles, hpaths.mpr hdistinct, hstored hdistinct⟩

def documents? (t : FileTree) : Option (List Document) :=
  match sourceIn t with
  | (.ok source, _) => (Compilation.compileSource source {}).result.toOption
  | (.error _, _) => none

def findings? (t : FileTree) (path : String) : Option (Nat × String × Bool × Bool) :=
  match documents? t, finish t with
  | some [first, second], (completion, t') =>
      some (completion.exitCode, completion.output,
        t'.readText path == .ok (first.render .json), t'.readText path == .ok (second.render .json))
  | _, _ => none

/-- Two interfaces of one simple name: one path is printed twice, and it does not hold the
first document. -/
theorem first_store_overwritten : ∃ first second completion t',
    documents? (shelf "a.Store" "b.Store") = some [first, second] ∧
    finish (shelf "a.Store" "b.Store") = (completion, t') ∧ completion.exitCode = 0 ∧
    completion.output = "out/Store.json\nout/Store.json\n" ∧
    t'.readText "out/Store.json" ≠ .ok (first.render .json) ∧
    t'.readText "out/Store.json" = .ok (second.render .json) := by
  have hfindings : findings? (shelf "a.Store" "b.Store") "out/Store.json" =
      some (0, "out/Store.json\nout/Store.json\n", false, true) := by decide +kernel
  unfold findings? at hfindings
  split at hfindings
  next first second completion t' hdocuments hfinish =>
    simp only [Option.some.injEq, Prod.mk.injEq, beq_eq_false_iff_ne, beq_iff_eq] at hfindings
    exact ⟨first, second, completion, t', hdocuments, hfinish, hfindings⟩
  next => cases hfindings

end Shops

end RestContract
