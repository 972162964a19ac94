import GuardedCrud.Proofs.Record.OperationNames
import GuardedCrud.Proofs.Schema.EditedDocs

/-!
# What becomes of the models of a schema

Whatever reads the schema, four things are checked one after the other: that there is a text, that it can be read, that
some model has fields, and that no two models with fields have the same files.  The first check that fails decides
(`models_outcome`); if none does, every model with fields has its record, in the order of declaration, and only the
policy is added to it.
-/

namespace GuardedCrud

open GuardedCrud.Access GuardedCrud.Naming GuardedCrud.Schema GuardedCrud.Text

/-- The models that have fields, in the order of declaration. -/
def Schema.Structure.fieldModels (st : Structure) : List ModelDecl := st.models.filter fun m => !m.fields.isEmpty

/-- The names of the models that have fields. -/
def Schema.Structure.fieldModelNames (st : Structure) : List String := st.fieldModels.map (·.name)

/-- The second name is the first in the row whose kebab name has occurred before it, and the first name is the only one
before it with that kebab name. -/
def FirstCollision (names : List String) (c : Collision) : Prop :=
  ∃ earlier later, names = earlier ++ c.second :: later ∧ (earlier.map kebabCase).Nodup ∧
    c.stem = kebabCase c.second ∧ c.first ∈ earlier ∧ kebabCase c.first = c.stem ∧
      ∀ name ∈ earlier, kebabCase name = c.stem → name = c.first

/-! ### The search for a collision -/

/-- What the search has seen after some names. -/
def seenAfter (names : List String) : List (String × String) := (names.map fun name => (kebabCase name, name)).reverse

private theorem seenAfter_concat (names : List String) (name : String) :
    seenAfter (names ++ [name]) = (kebabCase name, name) :: seenAfter names := by
  simp [seenAfter]

private theorem mem_seenAfter {names : List String} {stem name : String} :
    (stem, name) ∈ seenAfter names ↔ name ∈ names ∧ kebabCase name = stem := by
  simp only [seenAfter, List.mem_reverse, List.mem_map, Prod.mk.injEq]
  constructor
  · rintro ⟨name', hmem, hstem, rfl⟩
    exact ⟨hmem, hstem⟩
  · rintro ⟨hmem, hstem⟩
    exact ⟨name, hmem, hstem, rfl⟩

/-- A collision that is found is the first one. -/
private theorem firstCollision_of_findCollision {earlier : List String} {rs : List Record} {c : Collision}
    (hearlier : (earlier.map kebabCase).Nodup) (h : findCollision (seenAfter earlier) rs = some c) :
    FirstCollision (earlier ++ rs.map (·.name)) c := by
  induction rs generalizing earlier with
  | nil => cases h
  | cons r rs ih =>
    rw [findCollision] at h
    split at h
    · rename_i first hfirst
      cases h
      obtain ⟨l₁, l₂, hsplit, -⟩ := List.lookup_eq_some_iff.1 hfirst
      have hmem : (r.kebabName, first) ∈ seenAfter earlier := by
        rw [hsplit]
        simp
      obtain ⟨hfirst, hstem⟩ := mem_seenAfter.1 hmem
      refine ⟨earlier, rs.map (·.name), rfl, hearlier, rfl, hfirst, hstem, ?_⟩
      intro name hname hkebab
      exact List.inj_on_of_nodup_map hearlier hname hfirst (hkebab.trans hstem.symm)
    · rename_i hnone
      have hnew : kebabCase r.name ∉ earlier.map kebabCase := by
        intro hmem
        obtain ⟨name, hname, hkebab⟩ := List.mem_map.1 hmem
        have hseen := mem_seenAfter.2 ⟨hname, hkebab⟩
        have hne := List.lookup_eq_none_iff.1 hnone _ hseen
        exact absurd hne (by simp [Record.kebabName])
      have hnodup : ((earlier ++ [r.name]).map kebabCase).Nodup := by
        rw [List.map_append, List.nodup_append]
        refine ⟨hearlier, by simp, ?_⟩
        intro stem hstem stem' hstem'
        simp only [List.map_cons, List.map_nil, List.mem_singleton] at hstem'
        rintro rfl
        exact hnew (hstem' ▸ hstem)
      have hcons : findCollision (seenAfter (earlier ++ [r.name])) rs = some c := by
        rw [seenAfter_concat]
        exact h
      have := ih hnodup hcons
      rwa [List.append_assoc, List.singleton_append] at this

private theorem firstCollision_of_findCollision_nil {rs : List Record} {c : Collision}
    (h : findCollision [] rs = some c) : FirstCollision (rs.map (·.name)) c := by
  have hfirst : FirstCollision ([] ++ rs.map (·.name)) c := firstCollision_of_findCollision List.nodup_nil h
  rwa [List.nil_append] at hfirst

private theorem FirstCollision.not_nodup {names : List String} {c : Collision} (h : FirstCollision names c) :
    ¬ (names.map kebabCase).Nodup := by
  obtain ⟨earlier, later, rfl, -, hstem, hfirst, hkebab, -⟩ := h
  rw [List.map_append, List.map_cons, List.nodup_append]
  rintro ⟨-, -, hapart⟩
  exact hapart _ (List.mem_map_of_mem hfirst) _ List.mem_cons_self (hkebab.trans hstem)

/-- The search finds nothing just if all kebab names are distinct. -/
private theorem findCollision_eq_none_iff {rs : List Record} :
    findCollision [] rs = none ↔ (rs.map Record.kebabName).Nodup := by
  constructor
  · exact nodup_kebabName_of_findCollision
  · intro hnodup
    cases h : findCollision [] rs with
    | none => rfl
    | some c =>
      have hfirst := firstCollision_of_findCollision_nil h
      have hmap : (rs.map (·.name)).map kebabCase = rs.map Record.kebabName := by
        rw [List.map_map]
        rfl
      exact absurd (hmap ▸ hnodup) hfirst.not_nodup

/-! ### The checks one after the other -/

private theorem Record.ofStructure_eq_map (st : Structure) :
    Record.ofStructure st = st.fieldModels.map (Record.ofDecl st) := by
  have hdecl : ∀ ms : List ModelDecl, ms.filterMap (Record.ofDecl? st) =
      (ms.filter fun m => !m.fields.isEmpty).map (Record.ofDecl st) := by
    intro ms
    induction ms with
    | nil => rfl
    | cons m ms ih =>
      by_cases hm : m.fields.isEmpty = true
      · simp [Record.ofDecl?, hm, ih]
      · simp [Record.ofDecl?, hm, ih]
  exact hdecl st.models

private theorem fieldModels_eq_nil_iff {st : Structure} : st.fieldModels = [] ↔ ∀ m ∈ st.models, m.fields = [] := by
  simp [Structure.fieldModels, List.filter_eq_nil_iff]

private theorem map_kebabName_ofStructure (st : Structure) :
    (Record.ofStructure st).map Record.kebabName = st.fieldModelNames.map kebabCase := by
  rw [Record.ofStructure_eq_map, Structure.fieldModelNames, List.map_map, List.map_map]
  rfl

private theorem map_name_ofStructure (st : Structure) :
    (Record.ofStructure st).map Record.name = st.fieldModelNames := by
  rw [Record.ofStructure_eq_map, Structure.fieldModelNames, List.map_map]
  rfl

private theorem isBlankText_iff {source : String} :
    isBlankText source = true ↔ ∀ c ∈ source.toList, isBlank c = true := by
  rw [isBlankText, List.isEmpty_iff, trim_eq_nil_iff]

section

variable {s : Settings} {read : SchemaReader} {source : String} {st : Structure}

private theorem models_of_blank (h : isBlankText source = true) :
    models s read source = .error (.schemaUnreadable "schema text is empty") := by
  rw [models, rawModels_eq, if_pos h]

private theorem models_of_unread (h : isBlankText source = false) {fault : Fault} (hread : read source = .error fault) :
    models s read source = .error (.schemaUnreadable fault.message) := by
  rw [models, rawModels_eq, if_neg (by simp [h]), hread]
  rfl

private theorem models_of_no_fields (h : isBlankText source = false) (hread : read source = .ok st)
    (hfields : st.fieldModels = []) : models s read source = .error .nothingToGenerate := by
  have hempty : (Record.ofStructure st).isEmpty = true := by rw [Record.ofStructure_eq_map, hfields]; rfl
  rw [models, rawModels_eq, if_neg (by simp [h]), hread, recordsOf, if_pos hempty]

private theorem models_of_fields (h : isBlankText source = false) (hread : read source = .ok st)
    (hfields : st.fieldModels ≠ []) : models s read source =
      match findCollision [] (Record.ofStructure st) with
      | some c => .error (.nameCollision c.stem c.first c.second)
      | none => .ok ((Record.ofStructure st).map (Record.withPolicy s.basePolicy source)) := by
  have hempty : ¬ (Record.ofStructure st).isEmpty = true := by
    rw [Record.ofStructure_eq_map, List.isEmpty_map, List.isEmpty_iff]
    exact hfields
  rw [models, rawModels_eq, if_neg (by simp [h]), hread, recordsOf, if_neg hempty]
  cases findCollision [] (Record.ofStructure st) <;> rfl

end

/-- The record without its policy. -/
def Record.withoutPolicy (r : Record) : Record := { r with policy? := none }

/-- The records `rs` are those of the models, in their order, and `raw` is what they are without their policies. -/
structure HasRecords (ms : List ModelDecl) (raw rs : List Record) : Prop where
  names : rs.map Record.name = ms.map (·.name)
  without_policies : rs.map Record.withoutPolicy = raw
  fields : ∀ r ∈ rs, r.fields ≠ []
  policies : ∀ r ∈ rs, r.policy?.isSome = true
  nodup_names : (rs.map Record.name).Nodup
  nodup_kebabNames : (rs.map Record.kebabName).Nodup

private theorem hasRecords_withPolicy {st : Structure} (h : (st.fieldModelNames.map kebabCase).Nodup) (base : Policy)
    (source : String) :
    HasRecords st.fieldModels (Record.ofStructure st) ((Record.ofStructure st).map (Record.withPolicy base source)) := by
  have hnames : ((Record.ofStructure st).map (Record.withPolicy base source)).map Record.name = st.fieldModelNames := by
    rw [List.map_map, ← map_name_ofStructure]
    rfl
  have hkebab : ((Record.ofStructure st).map (Record.withPolicy base source)).map Record.kebabName =
      st.fieldModelNames.map kebabCase := by
    rw [List.map_map, ← map_kebabName_ofStructure]
    rfl
  refine ⟨hnames, ?_, ?_, ?_, hnames ▸ h.of_map, hkebab ▸ h⟩
  · rw [List.map_map, Record.ofStructure_eq_map, List.map_map]
    rfl
  · intro r hr
    rw [Record.ofStructure_eq_map, List.map_map] at hr
    obtain ⟨m, hm, rfl⟩ := List.mem_map.1 hr
    have hfields : m.fields ≠ [] := by simpa using (List.mem_filter.1 hm).2
    intro hnil
    exact hfields (List.map_eq_nil_iff.1 hnil)
  · intro r hr
    obtain ⟨r', -, rfl⟩ := List.mem_map.1 hr
    rfl

/-- The first of four checks that fails decides: a text that is blank or cannot be read, no model with fields, and models
with fields that share a kebab name, where the first one to meet an earlier one is named with it.  If none fails, the
models with fields have their records. -/
theorem models_outcome (s : Settings) (read : SchemaReader) (source : String) :
    ((∃ reason, models s read source = .error (.schemaUnreadable reason)) ↔
      (∀ c ∈ source.toList, isBlank c = true) ∨ ∃ fault, read source = .error fault) ∧
    ∀ st, ¬ (∀ c ∈ source.toList, isBlank c = true) → read source = .ok st →
      (models s read source = .error .nothingToGenerate ↔ ∀ m ∈ st.models, m.fields = []) ∧
      ((∃ m ∈ st.models, m.fields ≠ []) →
        ((∃ stem first second, models s read source = .error (.nameCollision stem first second)) ↔
          ¬ (st.fieldModelNames.map kebabCase).Nodup) ∧
        (∀ stem first second, models s read source = .error (.nameCollision stem first second) →
          FirstCollision st.fieldModelNames ⟨stem, first, second⟩) ∧
        ((st.fieldModelNames.map kebabCase).Nodup → ∃ raw rs, Record.ofText? read source = .ok raw ∧
          models s read source = .ok rs ∧ HasRecords st.fieldModels raw rs)) := by
  constructor
  · constructor
    · rintro ⟨reason, h⟩
      by_cases hb : isBlankText source = true
      · exact Or.inl (isBlankText_iff.1 hb)
      · have hb' : isBlankText source = false := by simpa using hb
        right
        cases hread : read source with
        | error fault => exact ⟨fault, rfl⟩
        | ok st =>
          -- the checks behind the reader give other faults
          by_cases hf : st.fieldModels = []
          · rw [models_of_no_fields hb' hread hf] at h
            cases h
          · rw [models_of_fields hb' hread hf] at h
            split at h <;> cases h
    · intro h
      by_cases hb : isBlankText source = true
      · exact ⟨_, models_of_blank hb⟩
      · rcases h with h | ⟨fault, hread⟩
        · exact absurd (isBlankText_iff.2 h) hb
        · exact ⟨_, models_of_unread (by simpa using hb) hread⟩
  · intro st hblank hread
    have hb : isBlankText source = false := by
      rw [← Bool.not_eq_true, isBlankText_iff]
      exact hblank
    constructor
    · rw [← fieldModels_eq_nil_iff]
      constructor
      · intro h
        by_contra hf
        rw [models_of_fields hb hread hf] at h
        split at h <;> cases h
      · exact models_of_no_fields hb hread
    · rintro ⟨m, hm, hfields⟩
      have hf : st.fieldModels ≠ [] := fun h => hfields (fieldModels_eq_nil_iff.1 h m hm)
      rw [← map_kebabName_ofStructure, ← findCollision_eq_none_iff, models_of_fields hb hread hf]
      cases hc : findCollision [] (Record.ofStructure st) with
      | some c =>
        have hfirst := firstCollision_of_findCollision_nil hc
        rw [map_name_ofStructure] at hfirst
        refine ⟨by simp, ?_, by simp⟩
        intro stem first second h
        cases h
        exact hfirst
      | none =>
        have hnodup := findCollision_eq_none_iff.1 hc
        rw [map_kebabName_ofStructure] at hnodup
        refine ⟨by simp, by simp, fun _ => ⟨_, _, ?_, rfl, hasRecords_withPolicy hnodup s.basePolicy source⟩⟩
        rw [Record.ofText?, hread]
        rfl

/-- A declared model with some fields of the type `Int`. -/
def intModel (name : String) (fields : List String) : ModelDecl :=
  ⟨name, 1, none, fields.map fun field => ⟨field, "Int", false, false, [], none⟩⟩

/-- A model without fields has no files, so the model that meets an earlier one first is `post`. -/
def meetingModels : Structure :=
  ⟨[intModel "UserProfile" [], intModel "Post" ["id"], intModel "User_Profile" ["id"], intModel "post" ["id"],
    intModel "userProfile" ["id"]], []⟩

/-- Models of which none meets another. -/
def apartModels : Structure := ⟨[intModel "UserProfile" [], intModel "User_Profile" ["id"]], []⟩

/-- With readers of their own, `meetingModels` are refused for the right pair, and `apartModels` have a record. -/
theorem models_outcome_meetingModels :
    (∃ stem first second, models {} (fun _ => .ok meetingModels) "x" = .error (.nameCollision stem first second) ∧
      FirstCollision ["Post", "User_Profile", "post", "userProfile"] ⟨stem, first, second⟩) ∧
    models {} (fun _ => .ok meetingModels) "x" = .error (.nameCollision "post" "Post" "post") ∧
    ∃ raw rs, models {} (fun _ => .ok apartModels) "x" = .ok rs ∧ HasRecords apartModels.fieldModels raw rs := by
  have htext : ¬ ∀ c ∈ "x".toList, isBlank c = true := fun h => absurd (h 'x' (by decide)) (by decide)
  refine ⟨?_, by decide, ?_⟩
  · obtain ⟨-, hfields⟩ := (models_outcome {} (fun _ => .ok meetingModels) "x").2 meetingModels htext rfl
    obtain ⟨hcollision, hfirst, -⟩ := hfields ⟨intModel "Post" ["id"], by decide, by decide⟩
    obtain ⟨stem, first, second, h⟩ := hcollision.2 (by decide)
    exact ⟨stem, first, second, h, hfirst stem first second h⟩
  · obtain ⟨-, hfields⟩ := (models_outcome {} (fun _ => .ok apartModels) "x").2 apartModels htext rfl
    obtain ⟨-, -, hrecords⟩ := hfields ⟨intModel "User_Profile" ["id"], by decide, by decide⟩
    obtain ⟨raw, rs, -, h, hrs⟩ := hrecords (by decide)
    exact ⟨raw, rs, h, hrs⟩

end GuardedCrud
