import GuardedCrud.Proofs.DocumentationEdits
import GuardedCrud.Proofs.Record.OperationNames

/-!
# Paths of the generated files

The files of the models never share a path, since their kebab names differ and a resolver's name does not end as a
service's (`nodup_paths_modelFiles`).  What can clash is the file of the module, whose name is configured: with the index
or with a file of a model (`nodup_paths_of_models`).
-/

namespace GuardedCrud

open GuardedCrud.Schema GuardedCrud.Source

/-! ### Names of files -/

/-- The path of the file of a name. -/
def pathOf (stem : String) : String := stem ++ "." ++ sourceExtension

private theorem pathOf_injective : Function.Injective pathOf := by
  intro a b h
  exact String.append_left_inj _ |>.1 (String.append_left_inj _ |>.1 h)

theorem getLast?_append_of_getLast? {t : String} {c : Char} (h : t.toList.getLast? = some c) (name : String) :
    (name ++ t).toList.getLast? = some c := by
  rw [String.toList_append, List.getLast?_append, h, Option.some_or]

private theorem Record.getLast?_resolverStem (r : Record) : r.resolverStem.toList.getLast? = some 'r' :=
  getLast?_append_of_getLast? (by decide) _

private theorem Record.getLast?_serviceStem (r : Record) : r.serviceStem.toList.getLast? = some 'e' :=
  getLast?_append_of_getLast? (by decide) _

theorem ne_of_getLast? {t t' : String} {c c' : Char} (h : t.toList.getLast? = some c) (h' : t'.toList.getLast? = some c')
    (hne : c ≠ c') : t ≠ t' := by
  rintro rfl
  rw [h] at h'
  exact hne (Option.some.inj h')

private theorem Record.resolverStem_ne_serviceStem (r r' : Record) : r.resolverStem ≠ r'.serviceStem :=
  ne_of_getLast? r.getLast?_resolverStem r'.getLast?_serviceStem (by decide)

private theorem Record.resolverStem_ne_index (r : Record) : r.resolverStem ≠ Index.stem :=
  ne_of_getLast? r.getLast?_resolverStem (by decide : Index.stem.toList.getLast? = some 'x') (by decide)

private theorem Record.serviceStem_ne_index (r : Record) : r.serviceStem ≠ Index.stem :=
  ne_of_getLast? r.getLast?_serviceStem (by decide : Index.stem.toList.getLast? = some 'x') (by decide)

/-! ### Files and their paths -/

/-- The file of the service of a record. -/
def serviceFile (s : Settings) (r : Record) : SourceFile := ⟨pathOf r.serviceStem, (Service.ofRecord s r).render⟩

/-- The resolvers of some records, then their services. -/
def modelFiles (s : Settings) (rs : List Record) : FileSet := rs.map (resolverFile s) ++ rs.map (serviceFile s)

/-- The names of the files of some records. -/
def modelStems (rs : List Record) : List String := rs.map Record.resolverStem ++ rs.map Record.serviceStem

theorem ofRecords_eq_modelFiles (s : Settings) (rs : List Record) :
    FileSet.ofRecords s rs = modelFiles s rs ++ Target.module.files s rs := by
  rw [ofRecords_eq_append, ← List.append_assoc]
  rfl

private theorem paths_modelFiles (s : Settings) (rs : List Record) :
    (modelFiles s rs).map (·.path) = (modelStems rs).map pathOf := by
  simp only [modelFiles, modelStems, List.map_append, List.map_map]
  rfl

theorem paths_ofRecords (s : Settings) (rs : List Record) :
    (FileSet.ofRecords s rs).map (·.path) = (modelStems rs ++ [s.moduleFile, Index.stem]).map pathOf := by
  rw [ofRecords_eq_modelFiles, List.map_append, paths_modelFiles, List.map_append]
  rfl

variable {rs : List Record}

private theorem nodup_modelStems (h : (rs.map Record.kebabName).Nodup) : (modelStems rs).Nodup := by
  have hsuffix : ∀ t : String, (rs.map fun r => r.kebabName ++ t).Nodup := by
    intro t
    have hmap : (rs.map fun r => r.kebabName ++ t) = (rs.map Record.kebabName).map (· ++ t) := by
      rw [List.map_map]
      rfl
    rw [hmap]
    exact h.map fun _ _ heq => String.append_left_inj _ |>.1 heq
  refine List.nodup_append.2 ⟨hsuffix ".resolver", hsuffix ".service", ?_⟩
  intro stem hstem stem' hstem'
  obtain ⟨r, -, rfl⟩ := List.mem_map.1 hstem
  obtain ⟨r', -, rfl⟩ := List.mem_map.1 hstem'
  exact r.resolverStem_ne_serviceStem r'

/-- The files of models with distinct kebab names have distinct paths. -/
theorem nodup_paths_modelFiles (s : Settings) (h : (rs.map Record.kebabName).Nodup) :
    ((modelFiles s rs).map (·.path)).Nodup := by
  rw [paths_modelFiles]
  exact (nodup_modelStems h).map pathOf_injective

private theorem index_notMem_modelStems : Index.stem ∉ modelStems rs := by
  intro h
  rcases List.mem_append.1 h with h | h
  · obtain ⟨r, -, heq⟩ := List.mem_map.1 h
    exact r.resolverStem_ne_index heq
  · obtain ⟨r, -, heq⟩ := List.mem_map.1 h
    exact r.serviceStem_ne_index heq

private theorem notMem_modelStems {stem : String} :
    stem ∉ modelStems rs ↔ ∀ r ∈ rs, stem ≠ r.resolverStem ∧ stem ≠ r.serviceStem := by
  constructor
  · intro h r hr
    refine ⟨fun heq => h ?_, fun heq => h ?_⟩
    · exact List.mem_append_left _ (List.mem_map.2 ⟨r, hr, heq.symm⟩)
    · exact List.mem_append_right _ (List.mem_map.2 ⟨r, hr, heq.symm⟩)
  · intro h hmem
    rcases List.mem_append.1 hmem with hmem | hmem
    · obtain ⟨r, hr, heq⟩ := List.mem_map.1 hmem
      exact (h r hr).1 heq.symm
    · obtain ⟨r, hr, heq⟩ := List.mem_map.1 hmem
      exact (h r hr).2 heq.symm

/-- Files of models with distinct kebab names have distinct paths just if the module is named neither as the index nor as
a file of a model. -/
private theorem nodup_paths_ofRecords (s : Settings) (h : (rs.map Record.kebabName).Nodup) :
    ((FileSet.ofRecords s rs).map (·.path)).Nodup ↔
      s.moduleFile ≠ Index.stem ∧ ∀ r ∈ rs, s.moduleFile ≠ r.resolverStem ∧ s.moduleFile ≠ r.serviceStem := by
  rw [paths_ofRecords, List.nodup_map_iff pathOf_injective, ← notMem_modelStems]
  constructor
  · intro hnodup
    obtain ⟨-, hpair, hapart⟩ := List.nodup_append.1 hnodup
    refine ⟨fun heq => ?_, fun hmem => hapart _ hmem _ (List.mem_cons_self ..) rfl⟩
    exact (List.nodup_cons.1 hpair).1 (List.mem_singleton.2 heq)
  · rintro ⟨hindex, hmodel⟩
    refine List.nodup_append.2 ⟨nodup_modelStems h, ?_, ?_⟩
    · exact List.nodup_cons.2 ⟨fun hmem => hindex (List.mem_singleton.1 hmem), List.nodup_singleton _⟩
    · rintro stem hstem _ hmem rfl
      rcases List.mem_cons.1 hmem with rfl | hmem
      · exact hmodel hstem
      · rw [List.mem_singleton.1 hmem] at hstem
        exact index_notMem_modelStems hstem

/-! ### Looking files up -/

/-- A file of a set with distinct paths is found by its path, also if other files come after the set. -/
private theorem get?_append_of_mem {files others : FileSet} (h : (files.map (·.path)).Nodup) {f : SourceFile}
    (hf : f ∈ files) : FileSet.get? (files ++ others) f.path = some f := by
  induction files with
  | nil => cases hf
  | cons g files ih =>
    obtain ⟨hg, hfiles⟩ := List.nodup_cons.1 h
    rcases List.mem_cons.1 hf with rfl | hf
    · exact List.find?_cons_of_pos (beq_self_eq_true _)
    · have hne : g.path ≠ f.path := fun heq => hg (List.mem_map.2 ⟨f, hf, heq.symm⟩)
      have hskip : FileSet.get? (g :: files ++ others) f.path = FileSet.get? (files ++ others) f.path :=
        List.find?_cons_of_neg (by simpa using hne)
      rw [hskip]
      exact ih hfiles hf

/-- The files of models are found, whatever the name of the module. -/
theorem get?_of_mem_modelFiles {s : Settings} (h : (rs.map Record.kebabName).Nodup) {f : SourceFile}
    (hf : f ∈ modelFiles s rs) {path : String} (hpath : f.path = path) :
    (FileSet.ofRecords s rs).get? path = some f := by
  rw [ofRecords_eq_modelFiles, ← hpath]
  exact get?_append_of_mem (nodup_paths_modelFiles s h) hf

/-! ### The files of a schema -/

/-- The files of a schema have distinct paths just if the module is not named `index` and not as a file of a model, and
then each of them is found by its path. -/
theorem nodup_paths_of_models {s : Settings} {read : SchemaReader} {source : String}
    (h : models s read source = .ok rs) : ∃ files, generate s read source = .ok files ∧
      ((files.map (·.path)).Nodup ↔ s.moduleFile ≠ "index" ∧
        ∀ r ∈ rs, s.moduleFile ≠ r.kebabName ++ ".resolver" ∧ s.moduleFile ≠ r.kebabName ++ ".service") ∧
      ((files.map (·.path)).Nodup → ∀ f ∈ files, files.get? f.path = some f) := by
  have hkebab := nodup_kebabName_of_findCollision (findCollision_of_models h)
  refine ⟨FileSet.ofRecords s rs, ?_, nodup_paths_ofRecords s hkebab, fun hnodup f hf => ?_⟩
  · rw [generate, h]
  · have hget : FileSet.get? (FileSet.ofRecords s rs ++ []) f.path = some f := get?_append_of_mem hnodup hf
    rwa [List.append_nil] at hget

/-- With the usual name of the module nothing clashes; named `user.service`, it clashes with the service of the users. -/
theorem nodup_paths_userAndPost :
    (∃ files, generate {} Structure.ofText (namedModels ["User", "Post"]) = .ok files ∧ (files.map (·.path)).Nodup ∧
      ∀ f ∈ files, files.get? f.path = some f) ∧
    ∃ files, generate { moduleFile := "user.service" } Structure.ofText (namedModels ["User", "Post"]) = .ok files ∧
      ¬ (files.map (·.path)).Nodup := by
  have hnames : (models {} Structure.ofText (namedModels ["User", "Post"])).toOption.map (List.map Record.kebabName) =
      some ["user", "post"] := by decide +kernel
  cases hm : models {} Structure.ofText (namedModels ["User", "Post"]) with
  | error e =>
    rw [hm] at hnames
    cases hnames
  | ok rs =>
    rw [hm] at hnames
    have hkebab : rs.map Record.kebabName = ["user", "post"] := Option.some.inj hnames
    -- the name of the module does not count for the models
    have hm' : models { moduleFile := "user.service" } Structure.ofText (namedModels ["User", "Post"]) = .ok rs := hm
    obtain ⟨files, hfiles, hiff, hget⟩ := nodup_paths_of_models hm
    obtain ⟨files', hfiles', hiff', -⟩ := nodup_paths_of_models hm'
    refine ⟨⟨files, hfiles, ?_⟩, files', hfiles', ?_⟩
    · have hfree : ∀ name ∈ rs.map Record.kebabName,
          "crud.module" ≠ name ++ ".resolver" ∧ "crud.module" ≠ name ++ ".service" := by
        rw [hkebab]
        decide
      have hnodup := hiff.2 ⟨by decide, fun r hr => hfree r.kebabName (List.mem_map_of_mem hr)⟩
      exact ⟨hnodup, hget hnodup⟩
    · intro hnodup
      have huser : "user" ∈ rs.map Record.kebabName := by
        rw [hkebab]
        exact List.mem_cons_self ..
      obtain ⟨r, hr, hname⟩ := List.mem_map.1 huser
      refine ((hiff'.1 hnodup).2 r hr).2 ?_
      rw [hname]
      decide

end GuardedCrud
