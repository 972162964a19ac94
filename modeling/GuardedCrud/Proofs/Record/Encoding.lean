import GuardedCrud.Proofs.Access.Levels
import GuardedCrud.Proofs.FailClosed
import GuardedCrud.Record.Encoding
import GuardedCrud.Settings.File

/-!
# Records read back from JSON

A record reads back from its JSON value with each level of its policy read again (`Record.ofJson?_toJson`), so it reads back
unchanged just if its levels are named.  The levels of a schema's models are, if those of the settings are.
-/

namespace GuardedCrud

open GuardedCrud.Access GuardedCrud.Json GuardedCrud.Schema

/-! ### Relations and fields -/

private theorem FieldKind.ofJson?_name (k : FieldKind) : FieldKind.ofJson? (.string k.name) = some k := by
  cases k <;> decide

@[simp] theorem last?_textsMember (name key : String) (ts : List String) :
    Value.last? (textsMember name ts) key =
      if key = name ∧ ts ≠ [] then some (.array (ts.map .string)) else none := by
  cases ts with
  | nil => simp [textsMember]
  | cons t ts => simp [textsMember]

private theorem texts?_array (ts : List String) : Value.texts? (.array (ts.map .string)) = some ts := by
  have htext : ∀ t : String, Value.text? (.string t) = some t := fun _ => rfl
  exact mapM_map_encode htext ts

/-- A list that is left out when it is empty is read back. -/
private theorem defaulted_texts {ms : List (String × Value)} {name : String} {ts : List String}
    (h : Value.last? ms name = if ts ≠ [] then some (.array (ts.map .string)) else none) :
    defaulted ms name [] Value.texts? = some ts := by
  rw [defaulted, h]
  cases ts with
  | nil => rfl
  | cons t ts => exact texts?_array (t :: ts)

private theorem optional_text {ms : List (String × Value)} {name : String} {t? : Option String}
    (h : Value.last? ms name = t?.map .string) : optional ms name Value.text? = some t? :=
  optional_eq_of_last? h (fun _ hv => by cases hv) fun _ => rfl

private theorem required_text {ms : List (String × Value)} {name t : String}
    (h : Value.last? ms name = some (.string t)) : required ms name Value.text? = some t := by
  rw [required, h]
  rfl

private theorem required_bool {ms : List (String × Value)} {name : String} {b : Bool}
    (h : Value.last? ms name = some (.bool b)) : required ms name Value.bool? = some b := by
  rw [required, h]
  rfl

theorem Relation.ofJson?_toJson (r : Relation) : Relation.ofJson? r.toJson = some r := by
  obtain ⟨ms, hms⟩ : ∃ ms, r.toJson = .object ms := ⟨_, rfl⟩
  have hmembers := (Value.object.inj hms).symm
  have hname : required ms "name" Value.text? = some r.name := required_text (by simp [hmembers])
  have hfrom : defaulted ms "fromFields" [] Value.texts? = some r.fromFields := defaulted_texts (by simp [hmembers])
  have hto : defaulted ms "toFields" [] Value.texts? = some r.toFields := defaulted_texts (by simp [hmembers])
  have hdelete : optional ms "onDelete" Value.text? = some r.onDelete := optional_text (by simp [hmembers])
  rw [hms, ofJson?, Value.fields?, Option.bind_eq_bind, Option.bind_some, hname, hfrom, hto, hdelete]
  rfl

theorem Field.ofJson?_toJson (f : Field) : Field.ofJson? f.toJson = some f := by
  obtain ⟨ms, hms⟩ : ∃ ms, f.toJson = .object ms := ⟨_, rfl⟩
  have hmembers := (Value.object.inj hms).symm
  have hname : required ms "name" Value.text? = some f.name := required_text (by simp [hmembers])
  have htype : required ms "type" Value.text? = some f.type := required_text (by simp [hmembers])
  have hkind : required ms "kind" FieldKind.ofJson? = some f.kind := by
    have hlast : Value.last? ms "kind" = some (.string f.kind.name) := by simp [hmembers]
    rw [required, hlast, Option.bind_some, FieldKind.ofJson?_name]
  have hid : required ms "isId" Value.bool? = some f.isId := required_bool (by simp [hmembers])
  have hrequired : required ms "isRequired" Value.bool? = some f.isRequired := required_bool (by simp [hmembers])
  have hlist : required ms "isList" Value.bool? = some f.isList := required_bool (by simp [hmembers])
  have hunique : required ms "isUnique" Value.bool? = some f.isUnique := required_bool (by simp [hmembers])
  have hreadOnly : required ms "isReadOnly" Value.bool? = some f.isReadOnly := required_bool (by simp [hmembers])
  have hgenerated : required ms "isGenerated" Value.bool? = some f.isGenerated := required_bool (by simp [hmembers])
  have hupdatedAt : required ms "isUpdatedAt" Value.bool? = some f.isUpdatedAt := required_bool (by simp [hmembers])
  have hdoc : optional ms "documentation" Value.text? = some f.documentation := optional_text (by simp [hmembers])
  have hdefault : optional ms "default" Value.text? = some f.default := optional_text (by simp [hmembers])
  have hrelation : optional ms "relation" Relation.ofJson? = some f.relation :=
    optional_eq_of_last? (by simp [hmembers]) (fun _ hv => by cases hv) Relation.ofJson?_toJson
  rw [hms, ofJson?, Value.fields?, Option.bind_eq_bind, Option.bind_some, hname, htype, hkind, hid, hrequired, hlist,
    hunique, hreadOnly, hgenerated, hupdatedAt, hdoc, hdefault, hrelation]
  rfl

/-! ### Records -/

/-- All levels of the policy are named. -/
def Record.HasNamedLevels (r : Record) : Prop := ∀ p, r.policy? = some p → ∀ op, (p.get op).IsNamed

/-- All levels of the default policy are named. -/
def Settings.HasNamedLevels (s : Settings) : Prop := ∀ o, s.defaultPolicy = some o → o.IsNamed

/-- The record with each level of its policy read from its text. -/
def Record.reread (r : Record) : Record := { r with policy? := r.policy?.map Policy.reread }

theorem Record.ofJson?_toJson (r : Record) : Record.ofJson? r.toJson = some r.reread := by
  have hname : required r.members "name" Value.text? = some r.name := required_text (by simp [members])
  have hplural : required r.members "pluralName" Value.text? = some r.pluralName := required_text (by simp [members])
  have hproperty : required r.members "modelPropertyName" Value.text? = some r.propertyName :=
    required_text (by simp [members])
  have hpluralProperty : required r.members "pluralModelPropertyName" Value.text? = some r.pluralPropertyName :=
    required_text (by simp [members])
  have hfields : required r.members "fields" (fun v => v.items?.bind (List.mapM Field.ofJson?)) = some r.fields := by
    have hlast : Value.last? r.members "fields" = some (.array (r.fields.map Field.toJson)) := by simp [members]
    rw [required, hlast]
    exact mapM_map_encode Field.ofJson?_toJson r.fields
  have hprimary : required r.members "primaryField" Value.text? = some r.primaryField := required_text (by simp [members])
  have hdoc : optional r.members "documentation" Value.text? = some r.documentation := optional_text (by simp [members])
  have hauth : optional r.members "auth" Policy.ofJson? = some (r.policy?.map Policy.reread) :=
    optional_of_last? (by simp [members]) (fun _ hv => by cases hv) Policy.ofJson?_toJson
  rw [toJson, ofJson?, Value.fields?, Option.bind_eq_bind, Option.bind_some, hname, hplural, hproperty, hpluralProperty,
    hfields, hprimary, hdoc, hauth]
  rfl

theorem Record.reread_eq_iff {r : Record} : r.reread = r ↔ r.HasNamedLevels := by
  have hpolicy : r.reread = r ↔ r.policy?.map Policy.reread = r.policy? := by
    constructor
    · intro h
      exact congrArg Record.policy? h
    · intro h
      rw [reread, h]
  rw [hpolicy, HasNamedLevels]
  cases r.policy? with
  | none => simp
  | some p => simp [Policy.reread_eq_iff]

private theorem Record.ofJson?_toJson_eq_self_iff (r : Record) :
    Record.ofJson? r.toJson = some r ↔ r.HasNamedLevels := by
  rw [ofJson?_toJson, Option.some.injEq]
  exact reread_eq_iff

private theorem Record.get_policy_reread (r : Record) (op : Operation) :
    r.reread.policy.get op = .ofText (r.policy.get op).text := by
  unfold reread policy
  cases r.policy? with
  | none =>
    show Policy.adminOnly.get op = .ofText (Policy.adminOnly.get op).text
    cases op <;> decide
  | some p =>
    show p.reread.get op = .ofText (p.get op).text
    rw [Policy.reread, PerOperation.get_ofFn]

/-! ### Records of a schema -/

theorem Settings.HasNamedLevels.configuredLevel {s : Settings} (h : s.HasNamedLevels) (op : Operation) :
    (configuredLevel s op).IsNamed := by
  unfold GuardedCrud.configuredLevel
  cases hl : s.defaultPolicy.bind fun o => o.get op with
  | none => exact Level.isNamed_admin
  | some l =>
    obtain ⟨o, ho, hget⟩ := Option.bind_eq_some_iff.1 hl
    exact h o ho op l hget

theorem Settings.HasNamedLevels.resolvePolicy {s : Settings} (h : s.HasNamedLevels) (source model : String)
    (op : Operation) : ((resolvePolicy s.basePolicy source model).get op).IsNamed := by
  by_cases hw : ∃ text, Writes source model op text
  · obtain ⟨text, hw⟩ := hw
    exact ⟨text, get_resolvePolicy_of_writes hw⟩
  · rw [get_resolvePolicy_of_not_writes (not_exists.1 hw)]
    exact h.configuredLevel op

private theorem Settings.HasNamedLevels.of_mem_models {s : Settings} {read : SchemaReader} {source : String}
    {rs : List Record} (hs : s.HasNamedLevels) (h : models s read source = .ok rs) {r : Record} (hr : r ∈ rs) :
    r.HasNamedLevels := by
  obtain ⟨st, m, -, -, rfl⟩ := exists_decl_of_mem_models h hr
  intro p hp op
  have hpolicy : Access.resolvePolicy s.basePolicy source (Record.ofDecl st m).name = p := Option.some.inj hp
  rw [← hpolicy]
  exact hs.resolvePolicy source _ op

/-- Settings that are read from a value have named levels. -/
private theorem Settings.hasNamedLevels_of_ofJson? {surplus : Bool} {v : Value} {s : Settings}
    (h : Settings.ofJson? surplus v = some s) : s.HasNamedLevels := by
  simp only [ofJson?, Option.bind_eq_bind, Option.bind_eq_some_iff, Option.pure_def, Option.some.injEq] at h
  obtain ⟨members, -, _, -, _, -, _, -, _, -, _, -, _, -, default?, hdefault, rfl⟩ := h
  rintro o rfl
  unfold Json.optional at hdefault
  split at hdefault
  · cases hdefault
  · cases hdefault
  · obtain ⟨o', ho, heq⟩ := Option.map_eq_some_iff.1 hdefault
    rw [← Option.some.inj heq]
    exact Overrides.isNamed_of_ofJson? ho

/-- A record reads back from its JSON value just if its levels are named.  The models of a schema do, if the levels of the
settings are named, as they are in settings without default levels and in all that are read from a value. -/
theorem Record.ofJson?_toJson_eq_iff :
    (∀ r : Record, Record.ofJson? r.toJson = some r ↔ r.HasNamedLevels) ∧
    (∀ (s : Settings) (read : SchemaReader) (source : String) (rs : List Record), s.HasNamedLevels →
      models s read source = .ok rs → ∀ r ∈ rs, Record.ofJson? r.toJson = some r) ∧
    (∀ s : Settings, s.defaultPolicy = none → s.HasNamedLevels) ∧
    ∀ surplus v s, Settings.ofJson? surplus v = some s → s.HasNamedLevels := by
  refine ⟨ofJson?_toJson_eq_self_iff, fun s read source rs hs h r hr => ?_, fun s hs o ho => ?_, fun surplus v s h => ?_⟩
  · exact (ofJson?_toJson_eq_self_iff r).2 (hs.of_mem_models h hr)
  · rw [hs] at ho
    cases ho
  · exact Settings.hasNamedLevels_of_ofJson? h

/-- Two models with a relation, one with a role of its own. -/
def editedNotes : String :=
  "///@crudAuth: \x7b\"count\": \" Editor \"\x7d\nmodel Note \x7b\n  id Int\n" ++
  "  tag Tag @relation(fields: [id], references: [id], onDelete: Cascade)\n\x7d\nmodel Tag \x7b\n  id Int\n\x7d\n"

/-- Settings that leave reading a record to a role. -/
def readerSettings : Settings := { defaultPolicy := some { Overrides.unset with readOne := some (.ofText "Reader ") } }

theorem ofJson?_toJson_editedNotes : ∃ rs, models readerSettings Structure.ofText editedNotes = .ok rs ∧
    rs.map (fun r => (r.policy.get .count, r.policy.get .readOne)) =
      [(.role "Editor", .role "Reader"), (.admin, .role "Reader")] ∧
    ∀ r ∈ rs, Record.ofJson? r.toJson = some r := by
  have hnamed : readerSettings.HasNamedLevels := by
    rintro o ho op l hl
    cases ho
    cases op <;> cases hl
    exact ⟨"Reader ", rfl⟩
  have hlevels : (models readerSettings Structure.ofText editedNotes).toOption.map
      (List.map fun r => (r.policy.get .count, r.policy.get .readOne)) =
      some [(.role "Editor", .role "Reader"), (.admin, .role "Reader")] := by decide +kernel
  cases hm : models readerSettings Structure.ofText editedNotes with
  | error e =>
    rw [hm] at hlevels
    cases hlevels
  | ok rs =>
    rw [hm] at hlevels
    obtain ⟨-, hmodels, -⟩ := Record.ofJson?_toJson_eq_iff
    exact ⟨rs, rfl, Option.some.inj hlevels, hmodels readerSettings _ _ rs hnamed hm⟩

/-- Settings that leave reading a record to a role which is called as the administrators are. -/
def adminRoleSettings : Settings := { defaultPolicy := some { Overrides.unset with readOne := some (.role "admin") } }

/-- Settings may hold a role that no text names.  A record with it does not read back unchanged: the role becomes the level
of administrators. -/
theorem ofJson?_toJson_ne_adminRole :
    ∃ rs, models adminRoleSettings Structure.ofText "model A \x7b id Int @id \x7d" = .ok rs ∧
      ∃ r ∈ rs, r.policy.get .readOne = .role "admin" ∧ Record.ofJson? r.toJson ≠ some r ∧
        (Record.ofJson? r.toJson).map (fun r => r.policy.get .readOne) = some .admin := by
  have hlevels : (models adminRoleSettings Structure.ofText "model A \x7b id Int @id \x7d").toOption.map
      (List.map fun r => r.policy.get .readOne) = some [.role "admin"] := by decide +kernel
  cases hm : models adminRoleSettings Structure.ofText "model A \x7b id Int @id \x7d" with
  | error e =>
    rw [hm] at hlevels
    cases hlevels
  | ok rs =>
    rw [hm] at hlevels
    obtain ⟨r, rfl, hlevel⟩ := List.map_eq_singleton_iff.1 (Option.some.inj hlevels)
    have hread : (Record.ofJson? r.toJson).map (fun r => r.policy.get .readOne) = some .admin := by
      rw [Record.ofJson?_toJson, Option.map_some, Record.get_policy_reread, hlevel]
      decide
    refine ⟨[r], rfl, r, List.mem_singleton_self r, hlevel, fun hself => ?_, hread⟩
    rw [hself, Option.map_some, hlevel] at hread
    cases hread

end GuardedCrud
