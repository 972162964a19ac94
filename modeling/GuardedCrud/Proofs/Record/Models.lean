import GuardedCrud.Generation
import GuardedCrud.Proofs.Schema.Erasure

/-!
# The records of a schema

The records that a text gives hang only on the structure that is read from it (`recordsOf`).  Each is made of a declared
model and of the policy that the text gives it (`exists_decl_of_mem_models`), and the documentation of a structure
reaches nothing but the documentation of its records (`recordsOf_undocumented`).
-/

namespace GuardedCrud

open GuardedCrud.Access GuardedCrud.Schema

/-! ### Records and their models -/

/-- The records of a structure that was read, if they can be generated from. -/
def recordsOf : Except Fault Structure → Except GenerationFault (List Record)
  | .error fault => .error (.schemaUnreadable fault.message)
  | .ok s =>
    if (Record.ofStructure s).isEmpty then .error .nothingToGenerate
    else
      match findCollision [] (Record.ofStructure s) with
      | some c => .error (.nameCollision c.stem c.first c.second)
      | none => .ok (Record.ofStructure s)

theorem rawModels_eq (read : SchemaReader) (source : String) : rawModels read source =
    if isBlankText source then .error (.schemaUnreadable "schema text is empty") else recordsOf (read source) := by
  unfold rawModels Record.ofText?
  cases read source <;> rfl

theorem recordsOf_eq_ok_iff {x : Except Fault Structure} {rs : List Record} : recordsOf x = .ok rs ↔
    ∃ st, x = .ok st ∧ (Record.ofStructure st).isEmpty = false ∧ findCollision [] (Record.ofStructure st) = none ∧
      rs = Record.ofStructure st := by
  cases x with
  | error e => simp [recordsOf]
  | ok st =>
    unfold recordsOf
    constructor
    · intro h
      dsimp only at h
      split at h
      · cases h
      · rename_i hempty
        split at h
        · cases h
        · rename_i hnone
          exact ⟨st, rfl, by simpa using hempty, hnone, (Except.ok.inj h).symm⟩
    · rintro ⟨_, heq, hempty, hnone, rfl⟩
      cases heq
      dsimp only
      rw [hempty, hnone]
      rfl

/-- The models of a text are the records of its structure with their policies. -/
theorem models_eq_ok_iff {s : Settings} {read : SchemaReader} {source : String} {rs : List Record} :
    models s read source = .ok rs ↔ isBlankText source = false ∧ ∃ raw, recordsOf (read source) = .ok raw ∧
      rs = raw.map (Record.withPolicy s.basePolicy source) := by
  unfold models
  rw [rawModels_eq]
  cases isBlankText source with
  | true => simp
  | false =>
    cases recordsOf (read source) with
    | error e => simp
    | ok raw => simp [Record.withPolicies_eq_map, eq_comm]

/-- Collisions hang only on the names of the records. -/
private theorem findCollision_map {f : Record → Record} (hf : ∀ r, (f r).name = r.name) (seen : List (String × String))
    (rs : List Record) : findCollision seen (rs.map f) = findCollision seen rs := by
  induction rs generalizing seen with
  | nil => rfl
  | cons r rs ih =>
    have hkebab : (f r).kebabName = r.kebabName := congrArg Naming.kebabCase (hf r)
    rw [List.map_cons, findCollision, findCollision, hkebab, hf, ih]

/-- No two models of a text have the same files. -/
theorem findCollision_of_models {s : Settings} {read : SchemaReader} {source : String} {rs : List Record}
    (h : models s read source = .ok rs) : findCollision [] rs = none := by
  obtain ⟨-, raw, hraw, rfl⟩ := models_eq_ok_iff.1 h
  obtain ⟨st, -, -, hnone, rfl⟩ := recordsOf_eq_ok_iff.1 hraw
  rw [findCollision_map (f := Record.withPolicy s.basePolicy source) fun _ => rfl]
  exact hnone

/-- A record is made of a declared model and of the policy that the text gives it. -/
theorem exists_decl_of_mem_models {s : Settings} {read : SchemaReader} {source : String} {rs : List Record}
    (h : models s read source = .ok rs) {r : Record} (hr : r ∈ rs) :
    ∃ st m, read source = .ok st ∧ m ∈ st.models ∧ r = (Record.ofDecl st m).withPolicy s.basePolicy source := by
  obtain ⟨-, raw, hraw, rfl⟩ := models_eq_ok_iff.1 h
  obtain ⟨st, hst, -, -, rfl⟩ := recordsOf_eq_ok_iff.1 hraw
  obtain ⟨r', hr', rfl⟩ := List.mem_map.1 hr
  obtain ⟨m, hm, hd⟩ := List.mem_filterMap.1 hr'
  unfold Record.ofDecl? at hd
  split at hd
  · cases hd
  · cases hd
    exact ⟨st, m, hst, hm, rfl⟩

theorem policy_of_mem_models {s : Settings} {read : SchemaReader} {source : String} {rs : List Record}
    (h : models s read source = .ok rs) {r : Record} (hr : r ∈ rs) :
    r.policy = resolvePolicy s.basePolicy source r.name := by
  obtain ⟨st, m, -, -, rfl⟩ := exists_decl_of_mem_models h hr
  rfl

/-! ### Records without documentation -/

/-- The field without its documentation. -/
def Field.undocumented (f : Field) : Field := { f with documentation := none }

/-- The record without its documentation and that of its fields. -/
def Record.undocumented (r : Record) : Record :=
  { r with documentation := none, fields := r.fields.map Field.undocumented }

private theorem foreignKeys_undocumented (fs : List FieldDecl) :
    foreignKeys (fs.map FieldDecl.undocumented) = foreignKeys fs := by
  unfold foreignKeys
  rw [List.flatMap_map]
  rfl

private theorem ofType_undocumented (s : Structure) (type : String) :
    FieldKind.ofType s.undocumented type = FieldKind.ofType s type := by
  unfold FieldKind.ofType
  have hmodels : (s.undocumented.models.any fun m => m.name == type) = s.models.any fun m => m.name == type := by
    rw [Structure.undocumented, List.any_map]
    rfl
  rw [hmodels]
  rfl

private theorem Field.ofDecl_undocumented (s : Structure) (m : ModelDecl) (f : FieldDecl) :
    Field.ofDecl s.undocumented m.undocumented f.undocumented = (Field.ofDecl s m f).undocumented := by
  have hkind : FieldKind.ofType s.undocumented f.undocumented.type = FieldKind.ofType s f.type :=
    ofType_undocumented s f.type
  have hkeys : foreignKeys m.undocumented.fields = foreignKeys m.fields := foreignKeys_undocumented m.fields
  unfold Field.ofDecl
  rw [hkind, hkeys]
  rfl

private theorem primaryFieldOf_undocumented (fs : List Field) :
    Record.primaryFieldOf (fs.map Field.undocumented) = Record.primaryFieldOf fs := by
  unfold Record.primaryFieldOf
  rw [List.find?_map]
  have hfind : (fun f : Field => !f.isId && f.isText) ∘ Field.undocumented = fun f => !f.isId && f.isText := rfl
  rw [hfind]
  cases fs.find? fun f => !f.isId && f.isText <;> rfl

private theorem Record.ofDecl_undocumented (s : Structure) (m : ModelDecl) :
    Record.ofDecl s.undocumented m.undocumented = (Record.ofDecl s m).undocumented := by
  have hfields : m.undocumented.fields.map (Field.ofDecl s.undocumented m.undocumented) =
      (m.fields.map (Field.ofDecl s m)).map Field.undocumented := by
    show (m.fields.map FieldDecl.undocumented).map _ = _
    rw [List.map_map, List.map_map]
    exact List.map_congr_left fun f _ => Field.ofDecl_undocumented s m f
  unfold Record.ofDecl
  rw [hfields]
  unfold Record.ofFields Record.undocumented
  rw [primaryFieldOf_undocumented]
  rfl

/-- The records of a structure without documentation are its records without documentation. -/
private theorem Record.ofStructure_undocumented (s : Structure) :
    Record.ofStructure s.undocumented = (Record.ofStructure s).map Record.undocumented := by
  have hdecl : Record.ofDecl? s.undocumented ∘ ModelDecl.undocumented =
      fun m => (Record.ofDecl? s m).map Record.undocumented := by
    funext m
    have hempty : m.undocumented.fields.isEmpty = m.fields.isEmpty := List.isEmpty_map ..
    rw [Function.comp_apply, Record.ofDecl?, Record.ofDecl?, hempty, Record.ofDecl_undocumented]
    split <;> rfl
  show (s.models.map ModelDecl.undocumented).filterMap (Record.ofDecl? s.undocumented) = _
  rw [List.filterMap_map, hdecl, Record.ofStructure, List.map_filterMap]

/-- Documentation does not decide what can be generated from a structure. -/
theorem recordsOf_undocumented (x : Except Fault Structure) :
    recordsOf (Schema.undocumented x) = (recordsOf x).map (List.map Record.undocumented) := by
  cases x with
  | error e =>
    show Except.error (GenerationFault.schemaUnreadable e.erase.message) = _
    rw [Fault.message_erase]
    rfl
  | ok s =>
    show recordsOf (.ok s.undocumented) = _
    unfold recordsOf
    dsimp only
    rw [Record.ofStructure_undocumented, List.isEmpty_map, findCollision_map (f := Record.undocumented) fun _ => rfl]
    split
    · rfl
    · cases findCollision [] (Record.ofStructure s) <;> rfl

end GuardedCrud
