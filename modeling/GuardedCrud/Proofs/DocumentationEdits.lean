import GuardedCrud.Proofs.Record.Models
import GuardedCrud.Proofs.Schema.EditedDocs

/-!
# Documentation edits stay local

Editing the documentation of one model changes its resolver and nothing else (`generate_of_editsDocs`).  Records of the
two texts differ in documentation, which no generated source shows, and in the policy of the edited model, which only its
resolver shows.
-/

namespace GuardedCrud

open GuardedCrud.Access GuardedCrud.Schema GuardedCrud.Source GuardedCrud.Text

/-! ### The records of edited texts -/

/-- Edited documentation leaves the records as they are, up to documentation, or the reason why there are none. -/
private theorem rawModels_of_editsDocs {model source source' : String} (h : EditsDocs model source source') :
    (rawModels Structure.ofText source).map (List.map Record.undocumented) =
      (rawModels Structure.ofText source').map (List.map Record.undocumented) := by
  have hblank : isBlankText source = isBlankText source' := by
    unfold isBlankText
    rw [Bool.eq_iff_iff, List.isEmpty_iff, List.isEmpty_iff]
    exact h.blank_iff
  rw [rawModels_eq, rawModels_eq, hblank]
  split
  · rfl
  · rw [← recordsOf_undocumented, ← recordsOf_undocumented, h.ofText_eq]

/-! ### What the generated sources show -/

/-- The record without its documentation, its fields and its policy. -/
def Record.bare (r : Record) : Record := { r with documentation := none, fields := [], policy? := none }

/-- A resolver shows no documentation. -/
private theorem resolver_of_bare {r r' : Record} (h : r.bare = r'.bare) (hp : r.policy = r'.policy) (s : Settings) :
    Resolver.ofRecord s r = Resolver.ofRecord s r' := by
  have hshown : ∀ q : Record, Resolver.ofRecord s q = Resolver.ofRecord s { q.bare with policy? := some q.policy } :=
    fun _ => rfl
  rw [hshown r, hshown r', h, hp]

private theorem services_bare (s : Settings) (rs : List Record) :
    Target.service.files s (rs.map Record.bare) = Target.service.files s rs := List.map_map ..

private theorem module_bare (s : Settings) (rs : List Record) :
    Target.module.files s (rs.map Record.bare) = Target.module.files s rs := by
  have hmodule : Module.ofRecords s (rs.map Record.bare) = Module.ofRecords s rs := by
    unfold Module.ofRecords
    rw [List.flatMap_map, List.flatMap_map]
    rfl
  have hindex : Index.ofRecords s (rs.map Record.bare) = Index.ofRecords s rs := by
    unfold Index.ofRecords
    rw [List.map_map]
    rfl
  unfold Target.files
  dsimp only
  rw [hmodule, hindex]

/-- The file of the resolver of a record. -/
def resolverFile (s : Settings) (r : Record) : SourceFile :=
  ⟨r.resolverStem ++ "." ++ sourceExtension, (Resolver.ofRecord s r).render⟩

/-- The files of some records: the resolvers, then the others. -/
theorem ofRecords_eq_append (s : Settings) (rs : List Record) : FileSet.ofRecords s rs =
    rs.map (resolverFile s) ++ (Target.service.files s rs ++ Target.module.files s rs) := by
  show rs.map (resolverFile s) ++ (Target.service.files s rs ++ (Target.module.files s rs ++ [])) = _
  rw [List.append_nil]

/-- The paths of the files hang neither on documentation nor on policies. -/
private theorem paths_bare (s : Settings) (rs : List Record) :
    (FileSet.ofRecords s (rs.map Record.bare)).map (·.path) = (FileSet.ofRecords s rs).map (·.path) := by
  have hresolvers : ((rs.map Record.bare).map (resolverFile s)).map (·.path) =
      (rs.map (resolverFile s)).map (·.path) := by
    rw [List.map_map, List.map_map, List.map_map]
    rfl
  simp only [ofRecords_eq_append, List.map_append, services_bare, module_bare, hresolvers]

/-- Records that differ in documentation and policies alone have the same files, but for the resolvers of records with
different policies. -/
private theorem getElem?_ofRecords_of_bare {s : Settings} {rs rs' : List Record}
    (h : rs.map Record.bare = rs'.map Record.bare) {i : Nat}
    (hi : ∀ r r', rs[i]? = some r → rs'[i]? = some r' → r.name = r'.name → r.policy = r'.policy) :
    (FileSet.ofRecords s rs)[i]? = (FileSet.ofRecords s rs')[i]? := by
  -- services and the module do not read documentation or policies
  have hothers : Target.service.files s rs ++ Target.module.files s rs =
      Target.service.files s rs' ++ Target.module.files s rs' := by
    rw [← services_bare s rs, ← services_bare s rs', ← module_bare s rs, ← module_bare s rs', h]
  have hlength : (rs.map (resolverFile s)).length = (rs'.map (resolverFile s)).length := by
    have := congrArg List.length h
    rwa [List.length_map, List.length_map] at this ⊢
  have hget : (rs[i]?).map Record.bare = (rs'[i]?).map Record.bare := by
    rw [← List.getElem?_map, ← List.getElem?_map, h]
  have hresolver : (rs.map (resolverFile s))[i]? = (rs'.map (resolverFile s))[i]? := by
    rw [List.getElem?_map, List.getElem?_map]
    cases hr : rs[i]? with
    | none =>
      rw [hr] at hget
      rw [Option.map_eq_none_iff.1 hget.symm]
    | some r =>
      rw [hr] at hget
      obtain ⟨r', hr', hbare⟩ := Option.map_eq_some_iff.1 hget.symm
      have hname : r.name = r'.name := by
        show r.bare.name = r'.bare.name
        rw [hbare]
      have hstem : r.resolverStem = r'.resolverStem := by
        show r.bare.resolverStem = r'.bare.resolverStem
        rw [hbare]
      rw [hr', Option.map_some, Option.map_some, resolverFile, resolverFile, hstem,
        resolver_of_bare hbare.symm (hi r r' hr hr' hname) s]
  rw [ofRecords_eq_append, ofRecords_eq_append, hothers]
  generalize Target.service.files s rs' ++ Target.module.files s rs' = others
  rw [List.getElem?_append, List.getElem?_append, hlength, hresolver]

/-! ### The models and the files of edited texts -/

section

variable {model source source' : String}

private theorem resolvePolicy_of_editsDocs (h : EditsDocs model source source') {other : String} (ho : other ≠ model)
    (base : Policy) : resolvePolicy base source other = resolvePolicy base source' other := by
  have hfinding : ∀ text, Finding.ofSource text other = .ofDocs? other (documentationOf text other) := fun _ => rfl
  rw [resolvePolicy, resolvePolicy, hfinding, hfinding, h.documentationOf_eq ho]

/-- Edited documentation leaves the models as they are, up to documentation and the policy of the edited model. -/
private theorem models_of_editsDocs (h : EditsDocs model source source') (s : Settings) :
    (∃ e, models s Structure.ofText source = .error e ∧ models s Structure.ofText source' = .error e) ∨
      ∃ rs rs', models s Structure.ofText source = .ok rs ∧ models s Structure.ofText source' = .ok rs' ∧
        rs.map Record.bare = rs'.map Record.bare := by
  have hraw := rawModels_of_editsDocs h
  have hbare : ∀ (text : String) (rs : List Record), (Record.withPolicies s.basePolicy text rs).map Record.bare =
      (rs.map Record.undocumented).map Record.bare := by
    intro text rs
    rw [Record.withPolicies_eq_map, List.map_map, List.map_map]
    rfl
  unfold models
  cases hrs : rawModels Structure.ofText source with
  | error e =>
    cases hrs' : rawModels Structure.ofText source' with
    | error e' =>
      rw [hrs, hrs'] at hraw
      exact Or.inl ⟨e, rfl, congrArg _ (Except.error.inj hraw).symm⟩
    | ok rs' => rw [hrs, hrs'] at hraw; cases hraw
  | ok rs =>
    cases hrs' : rawModels Structure.ofText source' with
    | error e' => rw [hrs, hrs'] at hraw; cases hraw
    | ok rs' =>
      rw [hrs, hrs'] at hraw
      have hmap : rs.map Record.undocumented = rs'.map Record.undocumented := Except.ok.inj hraw
      exact Or.inr ⟨_, _, rfl, rfl, by rw [hbare, hbare, hmap]⟩

/-- Editing the documentation of a model changes the resolver of the model and nothing else: generation fails for both
texts and for the same reason, or it gives the same paths in the same order, and a file that differs is the resolver of the
model. -/
theorem generate_of_editsDocs (h : EditsDocs model source source') (s : Settings) :
    (∃ e, generate s Structure.ofText source = .error e ∧ generate s Structure.ofText source' = .error e) ∨
      ∃ rs fs fs', models s Structure.ofText source = .ok rs ∧ generate s Structure.ofText source = .ok fs ∧
        generate s Structure.ofText source' = .ok fs' ∧ fs.map (·.path) = fs'.map (·.path) ∧
        ∀ i : Nat, fs[i]? ≠ fs'[i]? → ∃ r ∈ rs, r.name = model ∧ fs[i]? = some (resolverFile s r) := by
  rcases models_of_editsDocs h s with ⟨e, he, he'⟩ | ⟨rs, rs', hrs, hrs', hbare⟩
  · refine Or.inl ⟨e, ?_, ?_⟩
    · rw [generate, he]
    · rw [generate, he']
  · refine Or.inr ⟨rs, FileSet.ofRecords s rs, FileSet.ofRecords s rs', hrs, ?_, ?_, ?_, fun i hi => ?_⟩
    · rw [generate, hrs]
    · rw [generate, hrs']
    · rw [← paths_bare s rs, ← paths_bare s rs', hbare]
    -- the resolvers come first, in the order of the records
    · by_cases hr : ∃ r, rs[i]? = some r ∧ r.name = model
      · obtain ⟨r, hr, hname⟩ := hr
        have hlt : i < (rs.map (resolverFile s)).length := by
          rw [List.length_map]
          exact (List.getElem?_eq_some_iff.1 hr).1
        refine ⟨r, List.mem_of_getElem? hr, hname, ?_⟩
        rw [ofRecords_eq_append, List.getElem?_append_left hlt, List.getElem?_map, hr]
        rfl
      · refine absurd (getElem?_ofRecords_of_bare hbare fun r r' hri hri' hname => ?_) hi
        rw [policy_of_mem_models hrs (List.mem_of_getElem? hri), policy_of_mem_models hrs' (List.mem_of_getElem? hri'),
          ← hname]
        exact resolvePolicy_of_editsDocs h (fun e => hr ⟨r, hri, e⟩) s.basePolicy

end

/-- A schema with a comment before its first model. -/
def commentedNote : String := "/// Text\nmodel Note \x7b\n  id Int\n\x7d\nmodel Tag \x7b\n  id Int\n\x7d\n"

/-- The same schema with an annotation in place of the comment. -/
def annotatedNote : String :=
  "///@crudAuth: \x7b\"count\": \"user\"\x7d\nmodel Note \x7b\n  id Int\n\x7d\nmodel Tag \x7b\n  id Int\n\x7d\n"

private theorem editsDocs_note : EditsDocs "Note" commentedNote annotatedNote where
  noEscape := by decide +kernel
  noEscape' := by decide +kernel
  length := by decide +kernel
  documentation := by
    have htail : (lines commentedNote.toList).tail = (lines annotatedNote.toList).tail := by decide +kernel
    have hkind : (sourceKinds commentedNote)[0]? = some (.documentation "Text") := by decide +kernel
    have hnext : (declaredNames (sourceKinds commentedNote)).head? = some "Note" := by decide +kernel
    have hslashes : (lines annotatedNote.toList)[0]?.map (fun l => (trim l).take 3) = some ['/', '/', '/'] := by
      decide +kernel
    intro i l l' hl hl' hne
    cases i with
    | zero =>
      refine ⟨⟨_, hkind⟩, hnext, (trim l').drop 3, ?_⟩
      rw [hl', Option.map_some, Option.some.injEq] at hslashes
      rw [← List.take_append_drop 3 (trim l'), hslashes]
      rfl
    | succ i =>
      rw [← List.getElem?_tail, htail, List.getElem?_tail, hl'] at hl
      exact absurd (Option.some.inj hl).symm hne

/-- The annotation leaves every file but the resolver of the note as it was. -/
theorem generate_of_editsDocs_note : ∃ rs fs fs', models {} Structure.ofText commentedNote = .ok rs ∧
    generate {} Structure.ofText commentedNote = .ok fs ∧ generate {} Structure.ofText annotatedNote = .ok fs' ∧
    ∀ i : Nat, fs[i]? ≠ fs'[i]? → ∃ r ∈ rs, r.name = "Note" ∧ fs[i]? = some (resolverFile {} r) := by
  have hsome : (generate {} Structure.ofText commentedNote).toOption.isSome = true := by decide +kernel
  rcases generate_of_editsDocs editsDocs_note {} with ⟨e, he, -⟩ | ⟨rs, fs, fs', hrs, hfs, hfs', -, hfiles⟩
  · rw [he] at hsome
    cases hsome
  · exact ⟨rs, fs, fs', hrs, hfs, hfs', hfiles⟩

end GuardedCrud
