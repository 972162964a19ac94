import GuardedCrud.Proofs.LayoutIndependence
import GuardedCrud.Proofs.Schema.Fragments

/-!
# Schemas split into files

Splitting a schema into fragments does not matter (`ofText?_intercalate`): the fragments with line ends between them give
the blocks of all fragments, and the records of a fragment are the same in every order of the fragments.  Types are looked
up by their names among the models and enums of all fragments, and no order shows in that (`ofType_congr`).
-/

namespace GuardedCrud

open GuardedCrud.Schema

/-! ### Looking up types -/

theorem ofType_eq_object_iff {st : Structure} {type : String} :
    FieldKind.ofType st type = .object ↔ ∃ m ∈ st.models, m.name = type := by
  unfold FieldKind.ofType
  by_cases hm : ∃ m ∈ st.models, m.name = type
  · have hany : (st.models.any fun m => m.name == type) = true := by simpa using hm
    rw [hany]
    simp [hm]
  · have hany : (st.models.any fun m => m.name == type) = false := by simpa using hm
    rw [hany]
    simp only [hm, Bool.false_eq_true, if_false, iff_false]
    split <;> simp

private theorem ofType_eq_enum_iff {st : Structure} {type : String} :
    FieldKind.ofType st type = .enum ↔ (¬ ∃ m ∈ st.models, m.name = type) ∧ type ∈ st.enums := by
  unfold FieldKind.ofType
  by_cases hm : ∃ m ∈ st.models, m.name = type
  · have hany : (st.models.any fun m => m.name == type) = true := by simpa using hm
    rw [hany]
    simp [hm]
  · have hany : (st.models.any fun m => m.name == type) = false := by simpa using hm
    rw [hany]
    by_cases he : type ∈ st.enums <;> simp [hm, he]

/-- The order of models and enums does not show in what a type refers to. -/
theorem ofType_congr {st st' : Structure} (hmodels : ∀ m, m ∈ st.models ↔ m ∈ st'.models)
    (henums : ∀ name, name ∈ st.enums ↔ name ∈ st'.enums) : FieldKind.ofType st = FieldKind.ofType st' := by
  funext type
  cases hk : FieldKind.ofType st' type with
  | object =>
    rw [ofType_eq_object_iff] at hk ⊢
    simpa only [hmodels] using hk
  | enum =>
    rw [ofType_eq_enum_iff] at hk ⊢
    simpa only [hmodels, henums] using hk
  | scalar =>
    have hobject : FieldKind.ofType st type ≠ .object := by
      intro h
      rw [ofType_eq_object_iff] at h
      simp only [hmodels] at h
      rw [ofType_eq_object_iff.2 h] at hk
      cases hk
    have henum : FieldKind.ofType st type ≠ .enum := by
      intro h
      rw [ofType_eq_enum_iff] at h
      simp only [hmodels, henums] at h
      rw [ofType_eq_enum_iff.2 h] at hk
      cases hk
    cases h : FieldKind.ofType st type with
    | object => exact absurd h hobject
    | enum => exact absurd h henum
    | scalar => rfl

/-- A record shows of the other models and enums only what types refer to. -/
private theorem Record.ofDecl?_congr {st st' : Structure} (h : FieldKind.ofType st = FieldKind.ofType st') :
    Record.ofDecl? st = Record.ofDecl? st' := by
  funext m
  have hfield : Field.ofDecl st m = Field.ofDecl st' m := by
    funext f
    unfold Field.ofDecl
    rw [h]
  unfold Record.ofDecl? Record.ofDecl
  rw [hfield]

/-! ### Fragments -/

/-- The type of a field is looked up in all the structures, and the field has a relation just if that is a model. -/
structure Field.ResolvedIn (sts : List Structure) (f : Field) : Prop where
  object : f.kind = .object ↔ ∃ st ∈ sts, ∃ m ∈ st.models, m.name = f.type
  enum : f.kind = .enum ↔ (¬ ∃ st ∈ sts, ∃ m ∈ st.models, m.name = f.type) ∧ ∃ st ∈ sts, f.type ∈ st.enums
  relation : f.relation.isSome ↔ ∃ st ∈ sts, ∃ m ∈ st.models, m.name = f.type

private theorem Field.resolvedIn_ofDecl (sts : List Structure) (m : ModelDecl) (f : FieldDecl) :
    (Field.ofDecl (.concat sts) m f).ResolvedIn sts := by
  have hobject : FieldKind.ofType (.concat sts) f.type = .object ↔ ∃ st ∈ sts, ∃ m ∈ st.models, m.name = f.type := by
    rw [ofType_eq_object_iff]
    simp only [Structure.concat, List.mem_flatMap]
    grind
  have henum : FieldKind.ofType (.concat sts) f.type = .enum ↔
      (¬ ∃ st ∈ sts, ∃ m ∈ st.models, m.name = f.type) ∧ ∃ st ∈ sts, f.type ∈ st.enums := by
    rw [ofType_eq_enum_iff, ← ofType_eq_object_iff, hobject]
    simp only [Structure.concat, List.mem_flatMap]
  refine ⟨hobject, henum, Iff.trans ?_ hobject⟩
  unfold Field.ofDecl
  by_cases hk : FieldKind.ofType (.concat sts) f.type = .object <;> simp [hk]

/-- The records of one structure among several, whose models and enums are all looked up. -/
def Record.ofStructureIn (sts : List Structure) (st : Structure) : List Record :=
  st.models.filterMap (Record.ofDecl? (.concat sts))

private theorem Record.resolvedIn_of_mem {sts : List Structure} {st : Structure} {r : Record}
    (hr : r ∈ Record.ofStructureIn sts st) : ∀ f ∈ r.fields, f.ResolvedIn sts := by
  obtain ⟨m, -, hm⟩ := List.mem_filterMap.1 hr
  unfold Record.ofDecl? at hm
  split at hm
  · cases hm
  · cases hm
    intro f hf
    obtain ⟨d, -, rfl⟩ := List.mem_map.1 hf
    exact Field.resolvedIn_ofDecl sts m d

private theorem Record.ofStructure_concat (sts : List Structure) :
    Record.ofStructure (.concat sts) = sts.flatMap (Record.ofStructureIn sts) := by
  unfold Record.ofStructure
  show (sts.flatMap (·.models)).filterMap _ = _
  rw [List.filterMap_flatMap]
  rfl

/-- Structures in another order give the records of each structure unchanged. -/
private theorem Record.ofStructureIn_perm {sts sts' : List Structure} (h : sts'.Perm sts) :
    Record.ofStructureIn sts' = Record.ofStructureIn sts := by
  have htype : FieldKind.ofType (.concat sts') = FieldKind.ofType (.concat sts) :=
    ofType_congr (fun _ => (h.flatMap_right _).mem_iff) fun _ => (h.flatMap_right _).mem_iff
  funext st
  unfold Record.ofStructureIn
  rw [Record.ofDecl?_congr htype]

/-- Splitting a schema into fragments does not matter.  The fragments with line ends between them are accepted and give the
models and enums of the fragments one after the other, and only the lines of models differ.  In every order of the
fragments the records of the whole are those of each fragment, unchanged, and the types of their fields are looked up in
all fragments. -/
theorem ofText?_intercalate {fs : List String} {st : String → Structure} (h : ∀ f ∈ fs, IsFragment f (st f)) :
    (∃ s, Structure.ofText ("\n".intercalate fs) = .ok s ∧
      s.models.map ModelDecl.unnumbered = fs.flatMap (fun f => (st f).models.map ModelDecl.unnumbered) ∧
      s.enums = fs.flatMap fun f => (st f).enums) ∧
    (∀ fs', fs'.Perm fs → Record.ofText? Structure.ofText ("\n".intercalate fs') =
      .ok (fs'.flatMap fun f => Record.ofStructureIn (fs.map st) (st f))) ∧
    ∀ f ∈ fs, ∀ r ∈ Record.ofStructureIn (fs.map st) (st f), ∀ field ∈ r.fields, field.ResolvedIn (fs.map st) := by
  refine ⟨?_, fun fs' hperm => ?_, fun f _ r hr => Record.resolvedIn_of_mem hr⟩
  · obtain ⟨s, hs, hconcat⟩ := ofText_intercalate h
    obtain ⟨hmodels, henums⟩ := Structure.mk.inj hconcat
    refine ⟨s, hs, ?_, ?_⟩
    · rw [hmodels, Structure.concat, List.map_flatMap, List.flatMap_map]
    · rw [show s.enums = ((fs.map st).flatMap (·.enums)) from henums, List.flatMap_map]
  · obtain ⟨s, hs, hconcat⟩ := ofText_intercalate fun f hf => h f (hperm.mem_iff.1 hf)
    have hrecords : Record.ofStructure s = Record.ofStructure (.concat (fs'.map st)) := by
      rw [← Record.ofStructure_unnumbered s, hconcat, Record.ofStructure_unnumbered]
    rw [Record.ofText?, hs]
    show Except.ok (Record.ofStructure s) = _
    rw [hrecords, Record.ofStructure_concat, Record.ofStructureIn_perm (hperm.map st), List.flatMap_map]

/-- A fragment whose fields refer to the model and the enum of another one; its last line is a comment with a quote. -/
def postFragment : String :=
  "model Post \x7b\n  id Int @id\n  author User @relation(fields: [id])\n  state State\n\x7d\n// the \"author"

/-- The fragment that the posts refer to. -/
def userFragment : String := "/// Someone.\nmodel User \x7b\n  name String\n\x7d\nenum State \x7b DRAFT \x7d"

/-- The structure of a text that is read. -/
def structureOf (text : String) : Structure := (Structure.ofText text).toOption.getD ⟨[], []⟩

private theorem isFragment_structureOf {text : String} (haccepted : (Structure.ofText text).toOption.isSome = true)
    (hclosed : (scan text).toOption.any endsInDoc = false) : IsFragment text (structureOf text) := by
  refine ⟨?_, hclosed⟩
  unfold structureOf
  cases h : Structure.ofText text with
  | error e => rw [h] at haccepted; cases haccepted
  | ok s => rfl

/-- Users before posts or after them, the author of a post is an object and its state is an enum. -/
theorem ofText?_postFragment :
    ∃ post user, Record.ofText? Structure.ofText (postFragment ++ "\n" ++ userFragment) = .ok [post, user] ∧
      Record.ofText? Structure.ofText (userFragment ++ "\n" ++ postFragment) = .ok [user, post] ∧
      post.fields.map (fun f => (f.type, f.kind)) = [("Int", .scalar), ("User", .object), ("State", .enum)] ∧
      user.documentation = some "Someone." := by
  have hfragments : ∀ f ∈ [postFragment, userFragment], IsFragment f (structureOf f) := by
    intro f hf
    obtain rfl | rfl : f = postFragment ∨ f = userFragment := by simpa using hf
    · exact isFragment_structureOf (by decide +kernel) (by decide +kernel)
    · exact isFragment_structureOf (by decide +kernel) (by decide +kernel)
  obtain ⟨-, hrecords, -⟩ := ofText?_intercalate hfragments
  obtain ⟨post, hpost, hfields⟩ := List.map_eq_singleton_iff.1 (show
    (Record.ofStructureIn [structureOf postFragment, structureOf userFragment] (structureOf postFragment)).map
      (fun r => r.fields.map fun f => (f.type, f.kind)) =
        [[("Int", .scalar), ("User", .object), ("State", .enum)]] by decide +kernel)
  obtain ⟨user, huser, hdocumentation⟩ := List.map_eq_singleton_iff.1 (show
    (Record.ofStructureIn [structureOf postFragment, structureOf userFragment] (structureOf userFragment)).map
      (·.documentation) = [some "Someone."] by decide +kernel)
  refine ⟨post, user, ?_, ?_, hfields, hdocumentation⟩
  · simpa [hpost, huser] using hrecords _ (.refl _)
  · simpa [hpost, huser] using hrecords _ (.swap _ _ _)

end GuardedCrud
