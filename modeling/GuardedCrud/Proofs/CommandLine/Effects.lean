import GuardedCrud.CommandLine.Run
import GuardedCrud.Proofs.Storage.Writing

/-!
# What a command leaves behind

The file system is any whose state is left as it is by asking and reading (`ReadsKeep`); a tree of files is one
(`readsKeep_ofTree`).  The steps of a command that come before the first write only read (`Reads`), and for `generate` these
are all that a dry run does (`run_generate_dry`).  So a dry run leaves the state, and so does every failure before the first
write (`run_leaves_state`).
-/

namespace GuardedCrud.CommandLine

open GuardedCrud.Storage GuardedCrud.Source

variable {σ α β : Type}

/-! ### Steps that only read -/

/-- The step leaves every state as it is. -/
def Reads (x : Step (StateM σ) α) : Prop := ∀ s, ∃ answer, x.run.run s = (answer, s)

theorem Reads.pure (a : α) : Reads (pure a : Step (StateM σ) α) := fun _ => ⟨.ok a, rfl⟩

theorem Reads.throw (f : Failure) : Reads (throw f : Step (StateM σ) α) := fun _ => ⟨.error f, rfl⟩

theorem run_bind_of_ok {x : Step (StateM σ) α} {s s₁ : σ} {a : α} (h : x.run.run s = (.ok a, s₁))
    (f : α → Step (StateM σ) β) : (x >>= f).run.run s = (f a).run.run s₁ := by
  rw [ExceptT.run_bind]
  exact run_bind_of_eq h _

theorem run_bind_of_error {x : Step (StateM σ) α} {s s₁ : σ} {e : Failure} (h : x.run.run s = (.error e, s₁))
    (f : α → Step (StateM σ) β) : (x >>= f).run.run s = (.error e, s₁) := by
  rw [ExceptT.run_bind]
  exact run_bind_of_eq h _

theorem Reads.bind {x : Step (StateM σ) α} {f : α → Step (StateM σ) β} (hx : Reads x) (hf : ∀ a, Reads (f a)) :
    Reads (x >>= f) := by
  intro s
  obtain ⟨answer, h⟩ := hx s
  cases answer with
  | error e => exact ⟨_, run_bind_of_error h f⟩
  | ok a =>
    obtain ⟨answer, hs⟩ := hf a s
    exact ⟨answer, (run_bind_of_ok h f).trans hs⟩

theorem Reads.mapM {f : α → Step (StateM σ) β} (hf : ∀ a, Reads (f a)) (as : List α) : Reads (as.mapM f) := by
  induction as with
  | nil => exact .pure []
  | cons a as ih =>
    rw [List.mapM_cons]
    exact (hf a).bind fun b => ih.bind fun bs => .pure (b :: bs)

theorem Reads.eq {x : Step (StateM σ) α} (hx : Reads x) {s s' : σ} {answer : Except Failure α}
    (h : x.run.run s = (answer, s')) : s' = s := by
  obtain ⟨answer', hs⟩ := hx s
  exact (Prod.mk.inj (h.symm.trans hs)).2

/-- Where a step that only reads comes first and all succeeds, the next one starts from the same state. -/
private theorem Reads.run_bind_eq_ok {x : Step (StateM σ) α} {f : α → Step (StateM σ) β} {s s' : σ} {b : β}
    (hx : Reads x) (h : (x >>= f).run.run s = (.ok b, s')) :
    ∃ a, x.run.run s = (.ok a, s) ∧ (f a).run.run s = (.ok b, s') := by
  obtain ⟨answer, hs⟩ := hx s
  cases answer with
  | error e =>
    rw [run_bind_of_error hs] at h
    cases h
  | ok a => exact ⟨a, hs, (run_bind_of_ok hs f).symm.trans h⟩

/-- Where a step that only reads comes first, a failure is its own or that of the next one from the same state. -/
theorem Reads.run_bind_eq_error {x : Step (StateM σ) α} {f : α → Step (StateM σ) β} {s s' : σ} {e : Failure}
    (hx : Reads x) (h : (x >>= f).run.run s = (.error e, s')) :
    x.run.run s = (.error e, s) ∨ ∃ a, x.run.run s = (.ok a, s) ∧ (f a).run.run s = (.error e, s') := by
  obtain ⟨answer, hs⟩ := hx s
  cases answer with
  | error e' =>
    rw [run_bind_of_error hs] at h
    cases h
    exact .inl hs
  | ok a => exact .inr ⟨a, hs, (run_bind_of_ok hs f).symm.trans h⟩

/-- The access leaves every state as it is. -/
def Keeps (x : StateM σ α) : Prop := ∀ s, (x.run s).2 = s

theorem run_liftM {x : StateM σ α} {s s' : σ} {a : α} (h : x.run s = (a, s')) :
    (liftM x : Step (StateM σ) α).run.run s = (.ok a, s') := by
  show (Except.ok (x.run s).1, (x.run s).2) = _
  rw [h]

theorem Keeps.run_eq {x : StateM σ α} (h : Keeps x) (s : σ) : x.run s = ((x.run s).1, s) := Prod.ext rfl (h s)

theorem Keeps.reads {x : StateM σ α} (h : Keeps x) : Reads (liftM x : Step (StateM σ) α) :=
  fun s => ⟨_, run_liftM (h.run_eq s)⟩

theorem Keeps.orFail {x : StateM σ (Except Cause α)} (h : Keeps x) (failure : Cause → Failure) :
    Reads (orFail failure x) := by
  refine h.reads.bind fun answer => ?_
  cases answer with
  | ok a => exact .pure a
  | error c => exact .throw (failure c)

/-- Asking a file system and reading from it leave its state as it is. -/
structure ReadsKeep (fs : FileSystem (StateM σ)) : Prop where
  pathExists (path : String) : Keeps (fs.pathExists path)
  isDirectory (path : String) : Keeps (fs.isDirectory path)
  readText (path : String) : Keeps (fs.readText path)
  entryNames (path : String) : Keeps (fs.entryNames path)

theorem readsKeep_ofTree : ReadsKeep FileSystem.ofTree where
  pathExists _ _ := rfl
  isDirectory _ _ := rfl
  readText _ _ := rfl
  entryNames _ _ := rfl

section

variable {fs : FileSystem (StateM σ)}

private theorem ReadsKeep.reads_loadSettings (hfs : ReadsKeep fs) (path : String) : Reads (loadSettings fs path) := by
  refine (hfs.pathExists path).reads.bind fun found => ?_
  cases found with
  | false => exact .pure _
  | true =>
    refine ((hfs.readText path).orFail _).bind fun text => ?_
    split
    · exact .pure _
    · exact .throw _

/-- What the walk below a directory finds at an entry. -/
def entryFiles (fs : FileSystem (StateM σ)) (path name : String) : Step (StateM σ) (List (List String)) := do
  let isDirectory ← (fs.isDirectory (Path.join path name) : StateM σ _)
  if isDirectory && Path.leadsOn path (Path.join path name) then
    return (← filesBelow fs (Path.join path name)).map (name :: ·)
  else return [[name]]

theorem filesBelow_eq (path : String) : filesBelow fs path = do
    let names ← orFail (.unlistable path) (fs.entryNames path)
    let found ← names.mapM (entryFiles fs path)
    return found.flatten := by
  rw [filesBelow]
  rfl

private theorem ReadsKeep.reads_entryFiles_of_below (hfs : ReadsKeep fs) {path name : String}
    (h : ∀ isDirectory, (isDirectory && Path.leadsOn path (Path.join path name)) = true →
      Reads (filesBelow fs (Path.join path name))) :
    Reads (entryFiles fs path name) := by
  refine (hfs.isDirectory (Path.join path name)).reads.bind fun isDirectory => ?_
  split
  · rename_i hon
    exact (h isDirectory hon).bind fun files => .pure (files.map (name :: ·))
  · exact .pure [[name]]

theorem ReadsKeep.reads_filesBelow (hfs : ReadsKeep fs) (path : String) : Reads (filesBelow fs path) := by
  induction path using filesBelow.induct with
  | case1 path ih =>
    rw [filesBelow_eq]
    refine ((hfs.entryNames path).orFail _).bind fun names => ?_
    exact (Reads.mapM (fun name => hfs.reads_entryFiles_of_below (ih name)) names).bind fun found => .pure found.flatten

theorem ReadsKeep.reads_entryFiles (hfs : ReadsKeep fs) (path name : String) : Reads (entryFiles fs path name) :=
  hfs.reads_entryFiles_of_below fun _ _ => hfs.reads_filesBelow _

/-- The walk fails at an entry only where it fails below it. -/
theorem ReadsKeep.filesBelow_of_entryFiles_eq_error (hfs : ReadsKeep fs) {path name : String} {s s' : σ} {f : Failure}
    (h : (entryFiles fs path name).run.run s = (.error f, s')) :
    ∃ isDirectory, (isDirectory && Path.leadsOn path (Path.join path name)) = true ∧
      (filesBelow fs (Path.join path name)).run.run s = (.error f, s) := by
  obtain h | ⟨isDirectory, -, h⟩ := (hfs.isDirectory (Path.join path name)).reads.run_bind_eq_error h
  · cases h
  · split at h
    · rename_i hon
      obtain h | ⟨files, -, h⟩ := (hfs.reads_filesBelow _).run_bind_eq_error h
      · exact ⟨isDirectory, hon, h⟩
      · cases h
    · cases h

theorem ReadsKeep.reads_schemaFilesOf (hfs : ReadsKeep fs) (path : String) : Reads (schemaFilesOf fs path) := by
  refine (hfs.isDirectory path).reads.bind fun directory => ?_
  cases directory with
  | false => exact .pure [path]
  | true =>
    refine (hfs.reads_filesBelow path).bind fun files => ?_
    split
    · exact .throw _
    · exact .pure _

theorem ReadsKeep.reads_schemaFiles (hfs : ReadsKeep fs) (paths : List String) : Reads (schemaFiles fs paths) := by
  induction paths with
  | nil => exact .pure []
  | cons path paths ih =>
    exact (hfs.reads_schemaFilesOf path).bind fun files => ih.bind fun rest => .pure (files ++ rest)

theorem ReadsKeep.reads_readSchemas (hfs : ReadsKeep fs) (paths : List String) : Reads (readSchemas fs paths) := by
  induction paths with
  | nil => exact .pure []
  | cons path paths ih =>
    exact ((hfs.readText path).orFail _).bind fun text => ih.bind fun texts => .pure (text :: texts)

private theorem ReadsKeep.reads_loadSchema (hfs : ReadsKeep fs) (paths : List String) : Reads (loadSchema fs paths) :=
  (hfs.reads_schemaFiles paths).bind fun files => (hfs.reads_readSchemas files).bind fun texts => .pure ("\n".intercalate texts)

private theorem reads_orStop (x : Except GenerationFault α) : Reads (orStop x : Step (StateM σ) α) := by
  cases x with
  | ok a => exact .pure a
  | error fault => exact .throw (.generation fault)

/-- What `generate` does before it prints or writes anything: the files of the schemas. -/
def prepare (fs : FileSystem (StateM σ)) (config : String) (schemas : List String) : Step (StateM σ) FileSet := do
  let s ← loadSettings fs config
  let source ← loadSchema fs schemas
  orStop (generate s Schema.Structure.ofText source)

/-- What `generate` does with its files unless it only prints their paths. -/
def writeOut (fs : FileSystem (StateM σ)) (out : String) (force : Bool) (files : FileSet) : Step (StateM σ) String := do
  let policy := if force then WritePolicy.overwrite else .skipExisting
  let progress ← (writeFiles (Store.ofDirectory fs out) policy files : StateM σ _)
  match progress.report with
  | .ok report => return reportLines out report
  | .error fault => throw (.storage fault)

theorem run_generate_dry (config : String) (schemas : List String) (out : String) (force : Bool) :
    (Invocation.mk config (.generate schemas out force true)).run fs =
      prepare fs config schemas >>= fun files => pure (pathLines out "" "" (files.map (·.path))) := by
  simp only [Invocation.run, runGenerate, prepare, bind_assoc, if_true]

private theorem run_generate_write (config : String) (schemas : List String) (out : String) (force : Bool) :
    (Invocation.mk config (.generate schemas out force false)).run fs =
      prepare fs config schemas >>= writeOut fs out force := by
  simp only [Invocation.run, runGenerate, prepare, bind_assoc, Bool.false_eq_true, if_false]
  rfl

private theorem ReadsKeep.reads_prepare (hfs : ReadsKeep fs) (config : String) (schemas : List String) :
    Reads (prepare fs config schemas) :=
  (hfs.reads_loadSettings config).bind fun _ => (hfs.reads_loadSchema schemas).bind fun _ => reads_orStop _

/-- Files to write come from the settings and the schemas that are read. -/
private theorem ReadsKeep.exists_generate_of_prepare (hfs : ReadsKeep fs) {config : String} {schemas : List String}
    {s : σ} {files : FileSet} (h : (prepare fs config schemas).run.run s = (.ok files, s)) : ∃ settings source,
      (loadSettings fs config).run.run s = (.ok settings, s) ∧ (loadSchema fs schemas).run.run s = (.ok source, s) ∧
        generate settings Schema.Structure.ofText source = .ok files := by
  obtain ⟨settings, hsettings, h⟩ := (hfs.reads_loadSettings config).run_bind_eq_ok h
  obtain ⟨source, hsource, h⟩ := (hfs.reads_loadSchema schemas).run_bind_eq_ok h
  refine ⟨settings, source, hsettings, hsource, ?_⟩
  cases hfiles : generate settings Schema.Structure.ofText source with
  | error fault =>
    rw [hfiles] at h
    cases h
  | ok files' =>
    rw [hfiles] at h
    cases h
    rfl

/-! ### Writing -/

/-- Writing ends with a report of all files that is printed, or with a refused write as the failure. -/
private theorem writeOut_outcome {out : String} {force : Bool} {files : FileSet} {s s' : σ}
    {answer : Except Failure String} (h : (writeOut fs out force files).run.run s = (answer, s')) :
    (∃ fault, answer = .error (.storage fault)) ∨ ∃ p report,
      (writeFiles (Store.ofDirectory fs out) (if force then .overwrite else .skipExisting) files).run s = (p, s') ∧
        p.report = .ok report ∧ answer = .ok (reportLines out report) ∧
        (report.written ++ report.skipped).Perm (files.map (·.path)) := by
  rcases hw : (writeFiles (Store.ofDirectory fs out) (if force then .overwrite else .skipExisting) files).run s
    with ⟨p, s₁⟩
  rw [writeOut, run_bind_of_ok (run_liftM hw)] at h
  cases hreport : p.report with
  | error fault =>
    rw [hreport] at h
    cases h
    exact .inl ⟨fault, rfl⟩
  | ok report =>
    rw [hreport] at h
    cases h
    exact .inr ⟨p, report, rfl, hreport, rfl, report_perm hw hreport⟩

/-- Settings are saved, or the write is refused. -/
private theorem run_saveSettings (fs : FileSystem (StateM σ)) (path : String) (settings : Settings) (s : σ) :
    (∃ s', (saveSettings fs path settings).run.run s = (.ok (), s')) ∨
      ∃ fault s', (saveSettings fs path settings).run.run s = (.error (.storage fault), s') := by
  rcases hsave : (fs.save path settings.toToml).run s with ⟨answer, s'⟩
  cases answer with
  | ok _ => exact .inl ⟨s', run_bind_of_ok (run_liftM hsave) _⟩
  | error fault => exact .inr ⟨fault, s', run_bind_of_ok (run_liftM hsave) _⟩

private theorem ReadsKeep.reads_inspect (hfs : ReadsKeep fs) (config : String) (schemas : List String) :
    Reads ((Invocation.mk config (.inspect schemas)).run fs) :=
  (hfs.reads_loadSettings config).bind fun _ => (hfs.reads_loadSchema schemas).bind fun _ =>
    (reads_orStop _).bind fun _ => .pure _

private theorem ReadsKeep.reads_generate_dry (hfs : ReadsKeep fs) (config : String) (schemas : List String)
    (out : String) (force : Bool) : Reads ((Invocation.mk config (.generate schemas out force true)).run fs) := by
  rw [run_generate_dry]
  exact (hfs.reads_prepare config schemas).bind fun _ => .pure _

/-- `init` keeps a file that is there unless it is told to replace it. -/
private theorem ReadsKeep.run_init_of_exists (hfs : ReadsKeep fs) {config : String} {s : σ}
    (h : ((fs.pathExists config).run s).1 = true) :
    ((Invocation.mk config (.init false)).run fs).run.run s = (.error (.settingsExist config), s) := by
  have hfound := run_liftM ((hfs.pathExists config).run_eq s)
  rw [h] at hfound
  exact run_bind_of_ok hfound _

/-- Settings that cannot be read stop a command that loads them. -/
private theorem ReadsKeep.run_loadSettings_of_unreadable (hfs : ReadsKeep fs) {config : String} {s : σ} {c : Cause}
    (hexists : ((fs.pathExists config).run s).1 = true) (hread : ((fs.readText config).run s).1 = .error c) :
    (loadSettings fs config).run.run s = (.error (.storage ⟨config, c⟩), s) := by
  have hfound := run_liftM ((hfs.pathExists config).run_eq s)
  have htext := run_liftM ((hfs.readText config).run_eq s)
  rw [hexists] at hfound
  rw [hread] at htext
  rw [loadSettings, run_bind_of_ok hfound, if_pos rfl]
  exact run_bind_of_error (run_bind_of_ok htext _) _

/-- A run that fails otherwise than by a refused access leaves the state as it was. -/
private theorem ReadsKeep.eq_of_run_eq_error (hfs : ReadsKeep fs) {i : Invocation} {s s' : σ} {f : Failure}
    (h : (i.run fs).run.run s = (.error f, s')) (hf : ∀ fault, f ≠ .storage fault) : s' = s := by
  obtain ⟨config, command⟩ := i
  cases command with
  | inspect schemas => exact (hfs.reads_inspect config schemas).eq h
  | generate schemas out force dryRun =>
    cases dryRun with
    | true => exact (hfs.reads_generate_dry config schemas out force).eq h
    | false =>
      rw [run_generate_write] at h
      obtain ⟨answer, hprepared⟩ := hfs.reads_prepare config schemas s
      cases answer with
      | error e =>
        rw [run_bind_of_error hprepared] at h
        cases h
        rfl
      | ok files =>
        rw [run_bind_of_ok hprepared] at h
        obtain ⟨fault, hfault⟩ | ⟨p, report, -, -, hok, -⟩ := writeOut_outcome h
        · cases hfault
          exact absurd rfl (hf fault)
        · cases hok
  | init force =>
    have hfound := run_liftM ((hfs.pathExists config).run_eq s)
    replace h := (run_bind_of_ok hfound _).symm.trans h
    split at h
    · cases h
      rfl
    · obtain ⟨s₁, hsaved⟩ | ⟨fault, s₁, hsaved⟩ := run_saveSettings fs config {} s
      · rw [run_bind_of_ok hsaved] at h
        cases h
      · rw [run_bind_of_error hsaved] at h
        cases h
        exact absurd rfl (hf fault)

/-- A failing run or a dry run leaves the file system alone.

`inspect` and a dry run leave the state as it is.  A run that writes fails as the dry run does, and then leaves the state
too; if the dry run prints paths, they are those of the generated files in their order, and the run that writes them is
refused a write, or reports as written and as skipped just these paths.  Also every failure that is not a refused access
leaves the state, as does a settings file that cannot be read, and one that `init` is not to replace. -/
theorem run_leaves_state (hfs : ReadsKeep fs) (config : String) (s : σ) :
    (∀ schemas, ∃ answer, ((Invocation.mk config (.inspect schemas)).run fs).run.run s = (answer, s)) ∧
    (∀ schemas out force, ∃ answer,
      ((Invocation.mk config (.generate schemas out force true)).run fs).run.run s = (answer, s) ∧
      (∀ f, answer = .error f →
        ((Invocation.mk config (.generate schemas out force false)).run fs).run.run s = (.error f, s)) ∧
      ∀ printed, answer = .ok printed → ∃ settings source files,
        (loadSettings fs config).run.run s = (.ok settings, s) ∧ (loadSchema fs schemas).run.run s = (.ok source, s) ∧
        generate settings Schema.Structure.ofText source = .ok files ∧
        printed = pathLines out "" "" (files.map (·.path)) ∧
        ∀ answer' s', ((Invocation.mk config (.generate schemas out force false)).run fs).run.run s = (answer', s') →
          (∃ fault, answer' = .error (.storage fault)) ∨ ∃ p report,
            (writeFiles (Store.ofDirectory fs out) (if force then .overwrite else .skipExisting) files).run s = (p, s') ∧
            p.report = .ok report ∧ answer' = .ok (reportLines out report) ∧
            (report.written ++ report.skipped).Perm (files.map (·.path))) ∧
    (∀ i f s', (Invocation.run fs i).run.run s = (.error f, s') → (∀ fault, f ≠ .storage fault) → s' = s) ∧
    (((fs.pathExists config).run s).1 = true →
      ((Invocation.mk config (.init false)).run fs).run.run s = (.error (.settingsExist config), s) ∧
      ∀ c, ((fs.readText config).run s).1 = .error c → ∀ schemas out force dryRun,
        ((Invocation.mk config (.inspect schemas)).run fs).run.run s = (.error (.storage ⟨config, c⟩), s) ∧
        ((Invocation.mk config (.generate schemas out force dryRun)).run fs).run.run s =
          (.error (.storage ⟨config, c⟩), s)) := by
  refine ⟨fun schemas => hfs.reads_inspect config schemas s, fun schemas out force => ?_,
    fun i f s' h => hfs.eq_of_run_eq_error h, fun hexists => ⟨hfs.run_init_of_exists hexists, ?_⟩⟩
  · rw [run_generate_dry, run_generate_write]
    obtain ⟨answer, hprepared⟩ := hfs.reads_prepare config schemas s
    cases answer with
    | error f =>
      refine ⟨.error f, run_bind_of_error hprepared _, ?_, nofun⟩
      rintro f' ⟨⟩
      exact run_bind_of_error hprepared _
    | ok files =>
      refine ⟨.ok (pathLines out "" "" (files.map (·.path))), run_bind_of_ok hprepared _, nofun, ?_⟩
      rintro printed ⟨⟩
      obtain ⟨settings, source, hsettings, hsource, hfiles⟩ := hfs.exists_generate_of_prepare hprepared
      refine ⟨settings, source, files, hsettings, hsource, hfiles, rfl, fun answer' s' h => ?_⟩
      rw [run_bind_of_ok hprepared] at h
      exact writeOut_outcome h
  · intro c hread schemas out force dryRun
    have hload := hfs.run_loadSettings_of_unreadable hexists hread
    exact ⟨run_bind_of_error hload _, run_bind_of_error hload _⟩

end

/-- A directory with a schema and an index of its own. -/
def noteTree : Tree :=
  ⟨.directory [("note.prisma", .file "model Note \x7b id Int @id \x7d".toUTF8), ("index.ts", .file "".toUTF8)], []⟩

/-- What `generate` does to `noteTree`, if it writes or does not. -/
def generateNote (dryRun : Bool) : Except Failure String × Tree :=
  ((Invocation.mk "crudgen.toml" (.generate ["note.prisma"] "." false dryRun)).run FileSystem.ofTree).run.run noteTree

/-- The dry run leaves the tree, and the paths it prints are those that the other run then reports, the index as skipped. -/
theorem run_leaves_state_noteTree : ∃ paths report,
    generateNote true = (.ok (pathLines "." "" "" paths), noteTree) ∧
      (generateNote false).1 = .ok (reportLines "." report) ∧ (report.written ++ report.skipped).Perm paths ∧
      pathLines "." "" "" paths = "./note.resolver.ts\n./note.service.ts\n./crud.module.ts\n./index.ts\n" ∧
      reportLines "." report = "wrote    ./note.resolver.ts\nwrote    ./note.service.ts\n" ++
        "wrote    ./crud.module.ts\nskipped  ./index.ts (exists, use --force to overwrite)\n" := by
  have hdry : (generateNote true).1.toOption =
      some "./note.resolver.ts\n./note.service.ts\n./crud.module.ts\n./index.ts\n" := by decide +kernel
  have hwrite : (generateNote false).1.toOption = some ("wrote    ./note.resolver.ts\nwrote    ./note.service.ts\n" ++
      "wrote    ./crud.module.ts\nskipped  ./index.ts (exists, use --force to overwrite)\n") := by decide +kernel
  obtain ⟨answer, hrun, -, hprints⟩ :=
    (run_leaves_state readsKeep_ofTree "crudgen.toml" noteTree).2.1 ["note.prisma"] "." false
  replace hrun : generateNote true = (answer, noteTree) := hrun
  rw [hrun] at hdry
  cases answer with
  | error f => cases hdry
  | ok printed =>
    obtain ⟨-, -, files, -, -, -, rfl, hwrites⟩ := hprints printed rfl
    obtain ⟨fault, hfault⟩ | ⟨p, report, -, -, hok, hperm⟩ := hwrites (generateNote false).1 (generateNote false).2 rfl
    · rw [hfault] at hwrite
      cases hwrite
    · rw [hok] at hwrite
      exact ⟨_, report, hrun, hok, hperm, Option.some.inj hdry, Option.some.inj hwrite⟩

end GuardedCrud.CommandLine
