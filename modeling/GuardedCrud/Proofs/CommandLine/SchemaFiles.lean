import GuardedCrud.Proofs.CommandLine.Effects
import GuardedCrud.Proofs.Storage.FilesBelow
import Mathlib.Data.List.Forall2

/-!
# The schema files that paths name

On a tree of files, every path contributes its schema files in its turn: a directory those that are reached below it,
in the order of their paths and each once, and any other path itself (`Contributes`).  It fails just if none is reached
below some directory.  The order in which the directories are listed matters neither to the paths nor to the text that
is loaded (`schemaFiles_of_relisted`).

On any file system the walk below a directory fails only where it is refused to list that directory or one below it, and
names the one that it may not list (`exists_of_filesBelow_eq_error`).

A path is taken for a directory only if it is not refused.  So what lies below a directory whose path has too many bytes
is not reached, and nothing says so (`schemaFiles_longPath`).  Where there is no such directory, what is reached is every
file with the extension of schemas.
-/

namespace GuardedCrud.CommandLine

open GuardedCrud.Storage

variable {α β : Type} {t t' : Tree}

/-- What a step answers on a tree of files. -/
def answer (x : Step (StateM Tree) α) (t : Tree) : Except Failure α := (x.run.run t).1

private theorem answer_bind {x : Step (StateM Tree) α} (hx : Reads x) (f : α → Step (StateM Tree) β) (t : Tree) :
    answer (x >>= f) t = answer x t >>= fun a => answer (f a) t := by
  obtain ⟨a, h⟩ := hx t
  unfold answer
  cases a with
  | error e =>
    rw [run_bind_of_error h, h]
    rfl
  | ok a =>
    rw [run_bind_of_ok h, h]
    rfl

private theorem answer_liftM (x : StateM Tree α) (t : Tree) : answer (liftM x) t = .ok (x.run t).1 := rfl

private theorem answer_orFail {x : StateM Tree (Except Cause α)} (hx : Keeps x) (failure : Cause → Failure) (t : Tree) :
    answer (orFail failure x) t = (x.run t).1.mapError failure := by
  unfold orFail
  rw [answer_bind hx.reads, answer_liftM]
  cases h : (x.run t).1 <;> rfl

/-! ### Refused listings -/

section

variable {σ : Type} {fs : FileSystem (StateM σ)} {s s' : σ} {f : Failure}

private theorem eq_error_of_orFail {x : StateM σ (Except Cause α)} (hx : Keeps x) {failure : Cause → Failure}
    (h : (orFail failure x).run.run s = (.error f, s')) : ∃ c, (x.run s).1 = .error c ∧ f = failure c := by
  rw [orFail, run_bind_of_ok (run_liftM (hx.run_eq s))] at h
  cases hanswer : (x.run s).1 with
  | ok a =>
    rw [hanswer] at h
    cases h
  | error c =>
    rw [hanswer] at h
    cases h
    exact ⟨c, rfl, rfl⟩

private theorem exists_of_mapM_eq_error {g : α → Step (StateM σ) β} (hg : ∀ a, Reads (g a)) {as : List α}
    (h : (as.mapM g).run.run s = (.error f, s')) : ∃ a, (g a).run.run s = (.error f, s) := by
  induction as generalizing s' with
  | nil => cases h
  | cons a as ih =>
    rw [List.mapM_cons] at h
    obtain h | ⟨b, -, h⟩ := (hg a).run_bind_eq_error h
    · exact ⟨a, h⟩
    · obtain h | ⟨bs, -, h⟩ := (Reads.mapM hg as).run_bind_eq_error h
      · exact ih h
      · cases h

/-- The walk fails only where it is refused to list its directory or one below it, and names the one that is refused. -/
theorem exists_of_filesBelow_eq_error (hfs : ReadsKeep fs) {path : String}
    (h : (filesBelow fs path).run.run s = (.error f, s')) : ∃ steps c,
      ((fs.entryNames (Path.below path steps)).run s).1 = .error c ∧ f = .unlistable (Path.below path steps) c := by
  induction path using filesBelow.induct generalizing s' with
  | case1 path ih =>
    rw [filesBelow_eq] at h
    obtain h | ⟨names, -, h⟩ := ((hfs.entryNames path).orFail _).run_bind_eq_error h
    · obtain ⟨c, hc, rfl⟩ := eq_error_of_orFail (hfs.entryNames path) h
      exact ⟨[], c, hc, rfl⟩
    · obtain h | ⟨found, -, h⟩ := (Reads.mapM (hfs.reads_entryFiles path) names).run_bind_eq_error h
      · obtain ⟨name, h⟩ := exists_of_mapM_eq_error (hfs.reads_entryFiles path) h
        obtain ⟨isDirectory, hon, h⟩ := hfs.filesBelow_of_entryFiles_eq_error h
        obtain ⟨steps, c, hc, rfl⟩ := ih name isDirectory hon h
        exact ⟨name :: steps, c, hc, rfl⟩
      · cases h

end

/-! ### Schema files among files -/

section

variable {path : String} {files files' : List (List String)}

/-- The order of the files does not matter to the paths of the schema files. -/
private theorem schemaPaths_perm (h : files.Perm files') (path : String) :
    schemaPaths path files = schemaPaths path files' := by
  have hsorted : (files.filter isSchemaFile).mergeSort Path.le = (files'.filter isSchemaFile).mergeSort Path.le := by
    refine List.Perm.eq_of_pairwise (fun _ _ _ _ => Path.le_antisymm) (Path.pairwise_mergeSort_le _)
      (Path.pairwise_mergeSort_le _) ?_
    exact (List.mergeSort_perm ..).trans ((h.filter _).trans (List.mergeSort_perm ..).symm)
  rw [schemaPaths, hsorted, schemaPaths]

private theorem schemaPaths_eq (h : ∀ steps ∈ files, ∀ name ∈ steps, Path.IsName name) :
    schemaPaths path files = ((files.filter isSchemaFile).mergeSort Path.le).map (Path.below path) := by
  refine List.map_congr_left fun steps hsteps => ?_
  obtain ⟨hmem, hschema⟩ := List.mem_filter.1 (List.mem_mergeSort.1 hsteps)
  refine Path.join_intercalate (h steps hmem) ?_ path
  rintro rfl
  cases hschema

private theorem mem_schemaPaths_iff (h : ∀ steps ∈ files, ∀ name ∈ steps, Path.IsName name) {p : String} :
    p ∈ schemaPaths path files ↔ ∃ steps, (steps ∈ files ∧ isSchemaFile steps = true) ∧ p = Path.below path steps := by
  rw [schemaPaths_eq h, List.mem_map]
  exact exists_congr fun steps => by rw [List.mem_mergeSort, List.mem_filter, eq_comm (a := p)]

private theorem schemaPaths_before (h : ∀ steps ∈ files, ∀ name ∈ steps, Path.IsName name) (hnodup : files.Nodup) :
    (schemaPaths path files).Pairwise Path.Before := by
  rw [schemaPaths_eq h, List.pairwise_map]
  have hnames : ∀ steps ∈ (files.filter isSchemaFile).mergeSort Path.le, ∀ name ∈ steps, Path.IsName name :=
    fun steps hsteps => h steps (List.mem_filter.1 (List.mem_mergeSort.1 hsteps)).1
  have hnodup' : ((files.filter isSchemaFile).mergeSort Path.le).Nodup :=
    (List.mergeSort_perm ..).nodup_iff.2 (hnodup.filter _)
  refine ((Path.pairwise_mergeSort_le _).and hnodup').imp_of_mem fun ha hb hab => ?_
  exact Path.before_below (hnames _ ha) (hnames _ hb) (Path.lt_of_le hab.1 hab.2) path

end

/-! ### The schema files of one path -/

/-- Some steps below a path are taken for a schema file: they are there, the last one has the extension of schemas, all
the paths on the way to their end lead to directories, and the path at their end does not. -/
structure ReachesSchema (t : Tree) (path : String) (steps : List String) : Prop where
  isSchemaFile : isSchemaFile steps = true
  exists_node : ∃ n, t.node? path = .ok n ∧ (n.at? steps).isSome
  isDirectory : ∀ place, place <+: steps → place ≠ steps → t.isDirectory (Path.below path place) = true
  not_isDirectory : t.isDirectory (Path.below path steps) = false

/-- What a path contributes to the schema files. -/
def Contributes (t : Tree) (path : String) (files : List String) : Prop :=
  if t.isDirectory path then
    files ≠ [] ∧ files.Pairwise Path.Before ∧
      ∀ p, p ∈ files ↔ ∃ steps, ReachesSchema t path steps ∧ p = Path.below path steps
  else files = [path]

/-- A directory without schema files. -/
def IsBarren (t : Tree) (path : String) : Prop := t.isDirectory path = true ∧ ∀ steps, ¬ ReachesSchema t path steps

private theorem Contributes.not_isBarren {path : String} {files : List String} (h : Contributes t path files) :
    ¬ IsBarren t path := by
  rintro ⟨hdirectory, hnone⟩
  rw [Contributes, if_pos hdirectory] at h
  obtain ⟨p, hp⟩ := List.exists_mem_of_ne_nil _ h.1
  obtain ⟨steps, hsteps, -⟩ := (h.2.2 p).1 hp
  exact hnone steps hsteps

private theorem reachesSchema_iff_finds (ht : t.root.WellNamed) {path : String} {n : Node} (hn : t.node? path = .ok n)
    (steps : List String) : ReachesSchema t path steps ↔ n.Finds path steps ∧ isSchemaFile steps = true := by
  constructor
  · rintro ⟨hschema, ⟨_, hn', hsome⟩, hdirectory, hlast⟩
    cases hn.symm.trans hn'
    refine ⟨⟨hsome, fun place hplace hne => ?_, fun hopens => ?_⟩, hschema⟩
    · exact (Tree.isDirectory_below_iff ht hn (Node.isSome_at?_of_prefix hplace hsome)).1 (hdirectory place hplace hne)
    · exact Bool.false_ne_true (hlast.symm.trans ((Tree.isDirectory_below_iff ht hn hsome).2 hopens))
  · rintro ⟨⟨hsome, hopens, hlast⟩, hschema⟩
    refine ⟨hschema, ⟨n, hn, hsome⟩, fun place hplace hne => ?_, ?_⟩
    · exact (Tree.isDirectory_below_iff ht hn (Node.isSome_at?_of_prefix hplace hsome)).2 (hopens place hplace hne)
    · exact eq_false_of_ne_true (mt (Tree.isDirectory_below_iff ht hn hsome).1 hlast)

private theorem exists_of_isDirectory {path : String} (h : t.isDirectory path = true) :
    ∃ n, t.node? path = .ok n ∧ n.isDirectory = true ∧ n.Opens path [] := by
  unfold Tree.isDirectory at h
  cases hn : t.node? path with
  | error c =>
    rw [hn] at h
    cases h
  | ok n =>
    rw [hn] at h
    replace h : n.isDirectory = true := h
    refine ⟨n, rfl, h, (n.opens_nil_iff path).2 ?_⟩
    rw [h, (Tree.exists_walk_of_node? hn).1]
    rfl

private theorem answer_schemaFilesOf (path : String) (t : Tree) : answer (schemaFilesOf FileSystem.ofTree path) t =
    if t.isDirectory path then
      answer (filesBelow FileSystem.ofTree path) t >>= fun files =>
        if schemaPaths path files = [] then .error (.noSchemaFiles path) else .ok (schemaPaths path files)
    else .ok [path] := by
  unfold schemaFilesOf
  rw [answer_bind (readsKeep_ofTree.isDirectory path).reads, answer_liftM]
  show answer (ite (t.isDirectory path = true) _ _) t = _
  split_ifs
  · rw [answer_bind (readsKeep_ofTree.reads_filesBelow path)]
    congr 1
    funext files
    cases schemaPaths path files <;> rfl
  · rfl

private theorem answer_schemaFilesOf_directory {path : String} {files : List (List String)}
    (h : t.isDirectory path = true) (hfiles : answer (filesBelow FileSystem.ofTree path) t = .ok files) :
    answer (schemaFilesOf FileSystem.ofTree path) t =
      if schemaPaths path files = [] then .error (.noSchemaFiles path) else .ok (schemaPaths path files) := by
  rw [answer_schemaFilesOf, if_pos h, hfiles]
  rfl

private theorem run_mapM_of_ok {f : α → Step (StateM Tree) β} {g : α → β} {as : List α}
    (h : ∀ a ∈ as, (f a).run.run t = (.ok (g a), t)) : (as.mapM f).run.run t = (.ok (as.map g), t) := by
  induction as with
  | nil => rfl
  | cons a as ih =>
    obtain ⟨ha, has⟩ := List.forall_mem_cons.1 h
    rw [List.mapM_cons, run_bind_of_ok ha, run_bind_of_ok (ih has)]
    rfl

private theorem run_orFail_of_ok {x : StateM Tree (Except Cause α)} {a : α} (h : x.run t = (.ok a, t))
    (failure : Cause → Failure) : (orFail failure x).run.run t = (.ok a, t) := by
  rw [orFail, run_bind_of_ok (run_liftM h)]
  rfl

/-- At an entry the walk finds the files of its node, if it finds them below the entry where this is opened. -/
private theorem run_entryFiles (ht : t.root.WellNamed) {path : String} {es : List (String × Node)}
    (hn : t.node? path = .ok (.directory es)) (nodup : (es.map (·.1)).Nodup) {e : String × Node} (he : e ∈ es)
    (hname : Path.IsName e.1)
    (h : e.2.Opens (Path.join path e.1) [] → (filesBelow FileSystem.ofTree (Path.join path e.1)).run.run t =
      (.ok (e.2.files (Path.join path e.1)), t)) :
    (entryFiles FileSystem.ofTree path e.1).run.run t = (.ok (Node.filesOfEntry path e), t) := by
  obtain ⟨name, child⟩ := e
  have hchild := (Node.lookup_eq_some_iff nodup).2 he
  have hasked := Tree.isDirectory_join_iff ht hn hchild
  have hdirectory : (FileSystem.ofTree.isDirectory (Path.join path name)).run t =
      (t.isDirectory (Path.join path name), t) := rfl
  rw [entryFiles, run_bind_of_ok (run_liftM hdirectory), Node.filesOfEntry_eq]
  by_cases hopens : child.Opens (Path.join path name) []
  · have hon := hname.leadsOn_join hopens.2
    rw [if_pos (by rw [hasked.2 hopens]; exact hon), if_pos hopens, run_bind_of_ok (h hopens)]
    rfl
  · have hno : t.isDirectory (Path.join path name) = false := eq_false_of_ne_true (mt hasked.1 hopens)
    rw [if_neg (by simp [hno]), if_neg hopens]
    rfl

/-- The walk below a directory of a tree finds the files of its node. -/
private theorem run_filesBelow (ht : t.root.WellNamed) {path : String} {n : Node} (hn : t.node? path = .ok n)
    (h : n.isDirectory = true) : (filesBelow FileSystem.ofTree path).run.run t = (.ok (n.files path), t) := by
  obtain ⟨-, place, -, hplace⟩ := Tree.exists_walk_of_node? hn
  have hwell := (ht.of_at? hplace).2
  clear hplace
  -- the walk enters a directory with a path of its own, so the path is general in the induction
  induction hwell generalizing path with
  | file content => cases h
  | @directory es nodup names nodes ih =>
    have hnames : (FileSystem.ofTree.entryNames path).run t = (.ok (es.map (·.1)), t) := by
      show (t.entryNames path, t) = _
      rw [Tree.entryNames, hn]
    rw [filesBelow_eq, run_bind_of_ok (run_orFail_of_ok hnames _), List.mapM_map]
    refine (run_bind_of_ok (run_mapM_of_ok (g := Node.filesOfEntry path) fun e he => ?_) _).trans ?_
    · refine run_entryFiles ht hn nodup he (names e he) fun hopens => ?_
      refine ih e he (Tree.node?_join ht hn ((Node.lookup_eq_some_iff nodup).2 he) hopens.2) ?_
      obtain ⟨⟨es', hes'⟩, -⟩ := hopens
      rw [Option.some.inj hes']
      rfl
    · rw [Node.files, Node.filesOfEntries_eq, List.flatMap]
      rfl

private theorem answer_filesBelow (ht : t.root.WellNamed) {path : String} {n : Node} (hn : t.node? path = .ok n)
    (h : n.isDirectory = true) : answer (filesBelow FileSystem.ofTree path) t = .ok (n.files path) := by
  rw [answer, run_filesBelow ht hn h]

private theorem schemaFilesOf_outcome (ht : t.root.WellNamed) (path : String) :
    (∃ files, answer (schemaFilesOf FileSystem.ofTree path) t = .ok files ∧ Contributes t path files) ∨
      (answer (schemaFilesOf FileSystem.ofTree path) t = .error (.noSchemaFiles path) ∧ IsBarren t path) := by
  cases hdirectory : t.isDirectory path with
  | false =>
    refine .inl ⟨[path], ?_, by simp [Contributes, hdirectory]⟩
    rw [answer_schemaFilesOf, hdirectory]
    rfl
  | true =>
    obtain ⟨n, hn, hn', hopens⟩ := exists_of_isDirectory hdirectory
    obtain ⟨-, place, -, hplace⟩ := Tree.exists_walk_of_node? hn
    have hwell := (ht.of_at? hplace).2
    have hnames : ∀ steps ∈ n.files path, ∀ name ∈ steps, Path.IsName name := by
      intro steps hsteps
      obtain ⟨m, hm⟩ := Option.isSome_iff_exists.1 ((Node.mem_files_iff hwell hopens steps).1 hsteps).isSome
      exact (hwell.of_at? hm).1
    have hmem : ∀ p, p ∈ schemaPaths path (n.files path) ↔
        ∃ steps, ReachesSchema t path steps ∧ p = Path.below path steps := fun p => by
      simp only [mem_schemaPaths_iff hnames, Node.mem_files_iff hwell hopens, reachesSchema_iff_finds ht hn]
    rw [answer_schemaFilesOf_directory hdirectory (answer_filesBelow ht hn hn')]
    split_ifs with hempty
    · refine .inr ⟨rfl, hdirectory, fun steps hsteps => ?_⟩
      have hp := (hmem _).2 ⟨steps, hsteps, rfl⟩
      rw [hempty] at hp
      cases hp
    · refine .inl ⟨_, rfl, ?_⟩
      rw [Contributes, if_pos hdirectory]
      exact ⟨hempty, schemaPaths_before hnames (Node.nodup_files hwell path), hmem⟩

/-! ### The schema files of several paths -/

private theorem answer_schemaFiles_cons (path : String) (rest : List String) (t : Tree) :
    answer (schemaFiles FileSystem.ofTree (path :: rest)) t =
      answer (schemaFilesOf FileSystem.ofTree path) t >>= fun files =>
        (answer (schemaFiles FileSystem.ofTree rest) t).map (files ++ ·) := by
  rw [schemaFiles, answer_bind (readsKeep_ofTree.reads_schemaFilesOf path)]
  congr 1
  funext files
  rw [answer_bind (readsKeep_ofTree.reads_schemaFiles rest)]
  cases answer (schemaFiles FileSystem.ofTree rest) t <;> rfl

/-- All paths contribute their schema files in turn, up to the first directory without any. -/
private theorem schemaFiles_outcome (ht : t.root.WellNamed) (paths : List String) :
    (∃ parts, List.Forall₂ (Contributes t) paths parts ∧
      answer (schemaFiles FileSystem.ofTree paths) t = .ok parts.flatten) ∨
    ∃ before path after parts, paths = before ++ path :: after ∧ List.Forall₂ (Contributes t) before parts ∧
      IsBarren t path ∧ answer (schemaFiles FileSystem.ofTree paths) t = .error (.noSchemaFiles path) := by
  induction paths with
  | nil => exact .inl ⟨[], .nil, rfl⟩
  | cons path rest ih =>
    rw [answer_schemaFiles_cons]
    obtain ⟨files, hfiles, hpath⟩ | ⟨hfailure, hbarren⟩ := schemaFilesOf_outcome ht path
    · rw [hfiles]
      obtain ⟨parts, hparts, hrest⟩ | ⟨before, barren, after, parts, rfl, hbefore, hbarren, hrest⟩ := ih
      · rw [hrest]
        exact .inl ⟨files :: parts, .cons hpath hparts, rfl⟩
      · rw [hrest]
        exact .inr ⟨path :: before, barren, after, files :: parts, rfl, .cons hpath hbefore, hbarren, rfl⟩
    · rw [hfailure]
      exact .inr ⟨[], path, rest, [], rfl, .nil, hbarren, rfl⟩

/-! ### Other orders of the entries -/

private theorem answer_schemaFilesOf_of_relisted (h : t.Relisted t') (ht : t.root.WellNamed) (path : String) :
    answer (schemaFilesOf FileSystem.ofTree path) t' = answer (schemaFilesOf FileSystem.ofTree path) t := by
  have hasked := h.isDirectory_eq ht path
  cases hdirectory : t.isDirectory path with
  | false => rw [answer_schemaFilesOf, answer_schemaFilesOf, hasked, hdirectory]; rfl
  | true =>
    obtain ⟨n, hn, hn', hopens⟩ := exists_of_isDirectory hdirectory
    obtain ⟨c, hc, -⟩ | ⟨_, n', hn₁, hn₂, hwell, hr⟩ := h.node? ht path
    · cases hn.symm.trans hc
    · cases hn.symm.trans hn₁
      rw [answer_schemaFilesOf_directory hdirectory (answer_filesBelow ht hn hn'),
        answer_schemaFilesOf_directory (hasked.trans hdirectory) (answer_filesBelow (h.root.wellNamed ht) hn₂ (hr.isDirectory_eq.trans hn')),
        schemaPaths_perm (hr.files_perm hwell hopens)]

private theorem answer_schemaFiles_of_relisted (h : t.Relisted t') (ht : t.root.WellNamed) (paths : List String) :
    answer (schemaFiles FileSystem.ofTree paths) t' = answer (schemaFiles FileSystem.ofTree paths) t := by
  induction paths with
  | nil => rfl
  | cons path rest ih =>
    rw [answer_schemaFiles_cons, answer_schemaFiles_cons, answer_schemaFilesOf_of_relisted h ht, ih]

private theorem answer_readSchemas_of_relisted (h : t.Relisted t') (ht : t.root.WellNamed) (paths : List String) :
    answer (readSchemas FileSystem.ofTree paths) t' = answer (readSchemas FileSystem.ofTree paths) t := by
  induction paths with
  | nil => rfl
  | cons path rest ih =>
    have hkeeps := readsKeep_ofTree.readText path
    have htext : ((FileSystem.ofTree.readText path).run t').1 = ((FileSystem.ofTree.readText path).run t).1 :=
      h.readText_eq ht path
    rw [readSchemas, answer_bind (hkeeps.orFail _), answer_bind (hkeeps.orFail _), answer_orFail hkeeps,
      answer_orFail hkeeps, htext]
    congr 1
    funext text
    have hreads := readsKeep_ofTree.reads_readSchemas rest
    rw [answer_bind hreads, answer_bind hreads, ih]
    rfl

private theorem answer_loadSchema_of_relisted (h : t.Relisted t') (ht : t.root.WellNamed) (paths : List String) :
    answer (loadSchema FileSystem.ofTree paths) t' = answer (loadSchema FileSystem.ofTree paths) t := by
  have hreads := readsKeep_ofTree.reads_schemaFiles paths
  rw [loadSchema, answer_bind hreads, answer_bind hreads, answer_schemaFiles_of_relisted h ht]
  congr 1
  funext files
  have hreads := readsKeep_ofTree.reads_readSchemas files
  rw [answer_bind hreads, answer_bind hreads, answer_readSchemas_of_relisted h ht]
  rfl

/-! ### Directories whose paths are not refused -/

/-- The steps lead from a path to a file below it whose name has the extension of schemas. -/
def IsSchemaFileBelow (t : Tree) (path : String) (steps : List String) : Prop :=
  isSchemaFile steps = true ∧ ∃ n content, t.node? path = .ok n ∧ n.at? steps = some (.file content)

/-- No directory below a path has a path that is refused. -/
def OpensAll (t : Tree) (path : String) : Prop := ∀ n steps es, t.node? path = .ok n →
  n.at? steps = some (.directory es) → Path.refusal? (Path.below path steps) = none

theorem OpensAll.opens {path : String} (h : OpensAll t path) {n m : Node} (hn : t.node? path = .ok n)
    {place more : List String} (hm : n.at? (place ++ more) = some m) (hmore : more ≠ []) : n.Opens path place := by
  rw [Node.at?_append] at hm
  obtain ⟨d, hd, hm⟩ := Option.bind_eq_some_iff.1 hm
  obtain ⟨step, rest, rfl⟩ := List.exists_cons_of_ne_nil hmore
  obtain ⟨es, _, rfl, -⟩ := Node.at?_cons_eq_some hm
  exact ⟨⟨es, hd⟩, h n place es hn hd⟩

/-- Where no path of a directory is refused, the schema files that are reached are those that are there. -/
private theorem OpensAll.reachesSchema_iff {path : String} (h : OpensAll t path) (ht : t.root.WellNamed)
    (steps : List String) : ReachesSchema t path steps ↔ IsSchemaFileBelow t path steps := by
  constructor
  · intro hreaches
    obtain ⟨n, hn, hsome⟩ := hreaches.exists_node
    obtain ⟨m, hm⟩ := Option.isSome_iff_exists.1 hsome
    cases m with
    | file content => exact ⟨hreaches.isSchemaFile, n, content, hn, hm⟩
    | directory es =>
      have hopens : n.Opens path steps := ⟨⟨es, hm⟩, h n steps es hn hm⟩
      have hdirectory := (Tree.isDirectory_below_iff ht hn hsome).2 hopens
      rw [hreaches.not_isDirectory] at hdirectory
      cases hdirectory
  · rintro ⟨hschema, n, content, hn, hm⟩
    refine (reachesSchema_iff_finds ht hn steps).2 ⟨⟨?_, ?_, ?_⟩, hschema⟩
    · rw [hm]
      rfl
    · rintro place ⟨more, rfl⟩ hne
      exact h.opens hn hm fun hnil => hne (by rw [hnil, List.append_nil])
    · rintro ⟨⟨es, hes⟩, -⟩
      cases hm.symm.trans hes

/-- The schema files that paths name, and the text they hold, do not depend on the order in which directories are listed.

Every path contributes its schema files in its turn, a directory those that are reached below it, in the order of their
paths and each once, and any other path itself.  It fails just if none is reached below some directory, and then names
the first such one.  Where no directory below a path has a path that is refused, what is reached is every file below it
with the extension of schemas, and nothing else. -/
theorem schemaFiles_of_relisted (ht : t.root.WellNamed) (h : t.Relisted t') (paths : List String) :
    answer (schemaFiles FileSystem.ofTree paths) t' = answer (schemaFiles FileSystem.ofTree paths) t ∧
    answer (loadSchema FileSystem.ofTree paths) t' = answer (loadSchema FileSystem.ofTree paths) t ∧
    ((∃ parts, List.Forall₂ (Contributes t) paths parts ∧
        answer (schemaFiles FileSystem.ofTree paths) t = .ok parts.flatten) ∨
      ∃ before path after parts, paths = before ++ path :: after ∧ List.Forall₂ (Contributes t) before parts ∧
        IsBarren t path ∧ answer (schemaFiles FileSystem.ofTree paths) t = .error (.noSchemaFiles path)) ∧
    ((∃ failure, answer (schemaFiles FileSystem.ofTree paths) t = .error failure) ↔ ∃ path ∈ paths, IsBarren t path) ∧
    ∀ path, OpensAll t path → ∀ steps, ReachesSchema t path steps ↔ IsSchemaFileBelow t path steps := by
  refine ⟨answer_schemaFiles_of_relisted h ht paths, answer_loadSchema_of_relisted h ht paths,
    schemaFiles_outcome ht paths, ?_, fun path hopens steps => hopens.reachesSchema_iff ht steps⟩
  obtain ⟨parts, hparts, hok⟩ | ⟨before, path, after, parts, rfl, -, hbarren, herror⟩ := schemaFiles_outcome ht paths
  · have hfull : ∀ path ∈ paths, ¬ IsBarren t path :=
      ((List.forall₂_and_left ..).1 (hparts.imp fun _ _ hpath => ⟨hpath.not_isBarren, hpath⟩)).1
    rw [hok]
    exact iff_of_false nofun fun ⟨path, hpath, hbarren⟩ => hfull path hpath hbarren
  · exact iff_of_true ⟨_, herror⟩ ⟨path, by simp, hbarren⟩

/-- A file with a model. -/
def modelFile (name : String) : Node := .file ("model " ++ name ++ " \x7b id Int @id \x7d").toUTF8

/-- A directory with schemas at two depths, another file and a directory named as a schema. -/
def schemaTree : Tree :=
  ⟨.directory [("schema", .directory [("user.prisma", modelFile "User"), ("old.prisma", .directory []),
    ("models", .directory [("notes.txt", modelFile "Note"), ("post.prisma", modelFile "Post")]),
    ("base.prisma", modelFile "Base")])], []⟩

/-- `schemaTree` with its directories listed from the end. -/
def turnedTree : Tree :=
  ⟨.directory [("schema", .directory [("base.prisma", modelFile "Base"),
    ("models", .directory [("post.prisma", modelFile "Post"), ("notes.txt", modelFile "Note")]),
    ("old.prisma", .directory []), ("user.prisma", modelFile "User")])], []⟩

private theorem wellNamed_schemaTree : schemaTree.root.WellNamed := by
  have hfile (name : String) : (modelFile name).WellNamed := .file _
  refine .directory (by decide) (by decide) (List.forall_mem_singleton.2 ?_)
  refine .directory (by decide) (by decide) (List.forall_mem_cons.2 ⟨hfile _, List.forall_mem_cons.2 ⟨?_, ?_⟩⟩)
  · exact .directory .nil nofun nofun
  · refine List.forall_mem_cons.2 ⟨?_, List.forall_mem_singleton.2 (hfile _)⟩
    exact .directory (by decide) (by decide) (List.forall_mem_cons.2 ⟨hfile _, List.forall_mem_singleton.2 (hfile _)⟩)

private theorem relisted_schemaTree : schemaTree.Relisted turnedTree where
  root := by
    have hmodels : (Node.directory [("notes.txt", modelFile "Note"), ("post.prisma", modelFile "Post")]).Relisted
        (.directory [("post.prisma", modelFile "Post"), ("notes.txt", modelFile "Note")]) :=
      .entries (List.reverse_perm _).symm
    have hschema := @Node.Relisted.inside [("user.prisma", modelFile "User"), ("old.prisma", .directory [])]
      [("base.prisma", modelFile "Base")] "models" _ _ hmodels
    exact @Node.Relisted.inside [] [] "schema" _ _ (hschema.trans (.entries (List.reverse_perm _).symm))
  working := rfl

/-- Both orders of the entries give the same schema files, in the order of their paths. -/
theorem schemaFiles_of_relisted_schemaTree :
    answer (schemaFiles FileSystem.ofTree ["schema", "extra.prisma"]) schemaTree =
      .ok ["schema/base.prisma", "schema/models/post.prisma", "schema/user.prisma", "extra.prisma"] ∧
    answer (loadSchema FileSystem.ofTree ["schema"]) turnedTree =
      answer (loadSchema FileSystem.ofTree ["schema"]) schemaTree := by
  have hfiles : answer (filesBelow FileSystem.ofTree "schema") turnedTree =
      .ok [["base.prisma"], ["models", "post.prisma"], ["models", "notes.txt"], ["user.prisma"]] := by
    decide +kernel
  have hpaths : schemaPaths "schema"
      [["base.prisma"], ["models", "post.prisma"], ["models", "notes.txt"], ["user.prisma"]] =
      ["schema/base.prisma", "schema/models/post.prisma", "schema/user.prisma"] := by
    rw [schemaPaths, List.mergeSort_of_pairwise (by decide)]
    decide
  have hturned : answer (schemaFiles FileSystem.ofTree ["schema", "extra.prisma"]) turnedTree =
      .ok ["schema/base.prisma", "schema/models/post.prisma", "schema/user.prisma", "extra.prisma"] := by
    rw [answer_schemaFiles_cons, answer_schemaFilesOf_directory (by decide) hfiles, hpaths,
      if_neg (List.cons_ne_nil _ _)]
    decide
  obtain ⟨hsame, -⟩ := schemaFiles_of_relisted wellNamed_schemaTree relisted_schemaTree ["schema", "extra.prisma"]
  obtain ⟨-, htext, -⟩ := schemaFiles_of_relisted wellNamed_schemaTree relisted_schemaTree ["schema"]
  exact ⟨hsame.symm.trans hturned, htext⟩

/-! ### Paths that are too long -/

/-- A number of slashes. -/
def slashes : Nat → String
  | 0 => ""
  | n + 1 => "/" ++ slashes n

private theorem utf8ByteSize_slashes (n : Nat) : (slashes n).utf8ByteSize = n := by
  induction n with
  | zero => rfl
  | succ n ih =>
    have hslash : "/".utf8ByteSize = 1 := rfl
    rw [slashes, String.utf8ByteSize_append, ih, hslash, Nat.add_comm]

private theorem null_notMem_slashes (n : Nat) : '\x00' ∉ (slashes n).toList := by
  induction n with
  | zero => simp [slashes]
  | succ n ih => simp [slashes, ih]

private theorem components_append_slashes (path : String) (n : Nat) :
    Path.components (path ++ slashes n) = Path.components path := by
  induction n generalizing path with
  | zero => rw [slashes, String.append_empty]
  | succ n ih =>
    have hslash : Path.components (path ++ "/") = Path.components path := by
      rw [← String.append_empty (s := path ++ "/"), Path.components_append_slash, Path.components_empty,
        List.append_nil]
    rw [slashes, ← String.append_assoc, ih, hslash]

/-- A schema, and a directory with another one. -/
def billingEntries : List (String × Node) :=
  [("a.prisma", modelFile "A"), ("generated_from_the_billing_service", .directory [("x.prisma", modelFile "X")])]

/-- A tree with a directory that has these entries. -/
def billingTree : Tree := ⟨.directory [("d", .directory billingEntries)], []⟩

private theorem node?_billingTree {n : Nat} (h : n < Path.longestPath) :
    billingTree.node? ("d" ++ slashes n) = .ok (.directory billingEntries) := by
  have hrefusal : Path.refusal? ("d" ++ slashes n) = none := by
    have hsize : ("d" ++ slashes n).utf8ByteSize = 1 + n := by
      rw [String.utf8ByteSize_append, utf8ByteSize_slashes]
      rfl
    have hnull : ("d" ++ slashes n).toList.contains '\x00' = false := by
      simp [null_notMem_slashes]
    unfold Path.refusal?
    rw [hnull, hsize, if_neg Bool.false_ne_true, if_neg (by simp), if_neg (by omega)]
  have hcomponents : Path.components ("d" ++ slashes n) = ["d"] := by
    rw [components_append_slashes]
    decide
  have hwalk : billingTree.walk ("d" ++ slashes n) ["d"] = .ok ["d"] := by
    unfold Tree.walk
    rw [Path.isAbsolute_append (by decide)]
    decide
  unfold Tree.node?
  rw [hrefusal]
  dsimp only
  rw [hcomponents, hwalk]
  simp [billingTree, Node.at?, Node.entries, Node.isDirectory]

private theorem wellNamed_billingTree : billingTree.root.WellNamed := by
  have hfile (name : String) : (modelFile name).WellNamed := .file _
  refine .directory (by decide) (by decide) (List.forall_mem_singleton.2 ?_)
  refine .directory (by decide) (by decide) (List.forall_mem_cons.2 ⟨hfile _, List.forall_mem_singleton.2 ?_⟩)
  exact .directory (by decide) (by decide) (List.forall_mem_singleton.2 (hfile _))

private theorem filesBelow_billingTree {n : Nat} (h : n < Path.longestPath) (hlong : Path.longestPath < n + 35) :
    answer (filesBelow FileSystem.ofTree ("d" ++ slashes n)) billingTree =
      .ok [["a.prisma"], ["generated_from_the_billing_service"]] := by
  have hname : Path.IsName "generated_from_the_billing_service" := by decide
  have hsize : Path.longestPath <
      (Path.join ("d" ++ slashes n) "generated_from_the_billing_service").utf8ByteSize := by
    have hfirst : "d".utf8ByteSize = 1 := rfl
    have hlast : "generated_from_the_billing_service".utf8ByteSize = 34 := rfl
    rw [hname.join_eq]
    simp only [String.utf8ByteSize_append, utf8ByteSize_slashes, hfirst, hlast]
    omega
  rw [answer_filesBelow wellNamed_billingTree (node?_billingTree h) rfl]
  simp [billingEntries, Node.files, Node.filesOfEntries, Node.filesOfEntry, Node.isDirectory,
    Path.isNone_refusal?_of_long hsize, modelFile]

/-- Of two schema files below a directory only one is reached if the path of the directory of the other has too many
bytes. -/
private theorem schemaFiles_billingTree {n : Nat} (h : n < Path.longestPath) (hlong : Path.longestPath < n + 35) :
    answer (schemaFiles FileSystem.ofTree ["d" ++ slashes n]) billingTree =
      .ok [Path.join ("d" ++ slashes n) "a.prisma"] := by
  have hdirectory : billingTree.isDirectory ("d" ++ slashes n) = true := by
    rw [Tree.isDirectory, node?_billingTree h]
    rfl
  have hpaths : schemaPaths ("d" ++ slashes n) [["a.prisma"], ["generated_from_the_billing_service"]] =
      [Path.join ("d" ++ slashes n) "a.prisma"] := by
    have hfilter : [["a.prisma"], ["generated_from_the_billing_service"]].filter isSchemaFile = [["a.prisma"]] := by
      decide
    rw [schemaPaths, hfilter, List.mergeSort_singleton, List.map_singleton, String.intercalate_singleton]
  rw [answer_schemaFiles_cons, answer_schemaFilesOf_directory hdirectory (filesBelow_billingTree h hlong), hpaths,
    if_neg (List.cons_ne_nil _ _)]
  rfl

/-- The schema file of a directory whose path has too many bytes is missing, and nothing says so. -/
theorem schemaFiles_longPath :
    answer (schemaFiles FileSystem.ofTree ["d" ++ slashes 4079]) billingTree =
      .ok [Path.join ("d" ++ slashes 4079) "a.prisma"] ∧
    IsSchemaFileBelow billingTree ("d" ++ slashes 4079) ["generated_from_the_billing_service", "x.prisma"] ∧
    Path.below ("d" ++ slashes 4079) ["generated_from_the_billing_service", "x.prisma"] ≠
      Path.join ("d" ++ slashes 4079) "a.prisma" := by
  have hnode := node?_billingTree (n := 4079) (by decide)
  have hlonger := schemaFiles_billingTree (n := 4079) (by decide) (by decide)
  have hnames : ∀ name ∈ ["generated_from_the_billing_service", "x.prisma"], Path.IsName name := by decide
  generalize slashes 4079 = tail at hnode hlonger ⊢
  refine ⟨hlonger, ⟨by decide, _, _, hnode, rfl⟩, fun heq => ?_⟩
  have hcomponents := congrArg Path.components heq
  rw [Path.components_below hnames, Path.IsName.components_join (by decide)] at hcomponents
  simp at hcomponents

end GuardedCrud.CommandLine
