import GuardedCrud.Proofs.Record.Encoding
import GuardedCrud.Proofs.Toml.Document
import GuardedCrud.Settings.File

/-!
# Settings read back from their file

The document of settings has fixed keys, so it is read back (`Settings.hasBareKeys_toDocument`), and its table is the JSON
value of the settings (`Settings.toJson_toDocument`).  Settings read back from it with the levels of the default policy read
again (`Settings.ofToml?_toToml`), so unchanged just if these levels are named.
-/

namespace GuardedCrud

open GuardedCrud.Access GuardedCrud.Json

/-! ### The document of settings -/

private theorem Access.Overrides.keys_sublist (o : Overrides) : (o.members.map (·.1)).Sublist storedKeys := by
  unfold Overrides.members storedKeys
  induction Operation.stored with
  | nil => exact .slnil
  | cons op ops ih =>
    rw [List.filterMap_cons]
    cases o.get op with
    | none => exact ih.cons op.key
    | some l => exact ih.cons_cons op.key

private theorem isBare_of_mem_members {o : Overrides} {pair : String × String} (h : pair ∈ o.members) :
    Toml.IsBare pair.1 := by
  have hkey : ∀ key ∈ storedKeys, Toml.IsBare key := by decide
  exact hkey pair.1 (o.keys_sublist.subset (List.mem_map_of_mem h))

/-- The keys of settings need no quotes, and none stands twice. -/
theorem Settings.hasBareKeys_toDocument (s : Settings) : s.toDocument.HasBareKeys where
  bare := by
    have hkeys : s.toDocument.pairs.map (·.1) =
        ["module_name", "module_file", "guards_import", "types_import", "prisma_import"] := rfl
    have hbare : ∀ key ∈ s.toDocument.pairs.map (·.1), Toml.IsBare key := by rw [hkeys]; decide
    exact fun pair hp => hbare pair.1 (List.mem_map_of_mem hp)
  tables := by
    have hkeys : s.guards.members.map (·.1) = ["user", "admin", "custom_prefix", "custom_suffix"] := rfl
    have hbare : ∀ key ∈ s.guards.members.map (·.1), Toml.IsBare key := by rw [hkeys]; decide
    have hguards : Toml.IsBare "guards" ∧ (∀ pair ∈ s.guards.members, Toml.IsBare pair.1) ∧
        (s.guards.members.map (·.1)).Nodup :=
      ⟨by decide, fun pair hp => hbare pair.1 (List.mem_map_of_mem hp), by rw [hkeys]; decide⟩
    have hpolicy : ∀ o : Overrides, Toml.IsBare "default_policy" ∧ (∀ pair ∈ o.members, Toml.IsBare pair.1) ∧
        (o.members.map (·.1)).Nodup :=
      fun o => ⟨by decide, fun _ => isBare_of_mem_members,
        o.keys_sublist.nodup (show storedKeys.Nodup by decide)⟩
    unfold toDocument
    cases s.defaultPolicy with
    | none => exact List.forall_mem_singleton.2 hguards
    | some o => exact List.forall_mem_cons.2 ⟨hguards, List.forall_mem_singleton.2 (hpolicy o)⟩
  nodup := by
    unfold toDocument
    cases s.defaultPolicy with
    | none => exact (show ["module_name", "module_file", "guards_import", "types_import", "prisma_import", "guards"].Nodup
        by decide)
    | some o => exact (show ["module_name", "module_file", "guards_import", "types_import", "prisma_import", "guards",
        "default_policy"].Nodup by decide)

/-- Members with texts as values. -/
def textValues (members : List (String × String)) : List (String × Value) :=
  members.map fun (key, text) => (key, .string text)

private theorem entriesToJson_entries (pairs : List (String × String)) :
    Toml.entriesToJson (Toml.Document.entries pairs) = textValues pairs := by
  induction pairs with
  | nil => rfl
  | cons pair pairs ih => exact congrArg ((pair.1, Value.string pair.2) :: ·) ih

private theorem entriesToJson_append (entries more : Toml.Entries) :
    Toml.entriesToJson (entries ++ more) = Toml.entriesToJson entries ++ Toml.entriesToJson more := by
  induction entries with
  | nil => rfl
  | cons entry entries ih => exact congrArg ((entry.1, entry.2.toJson) :: ·) ih

private theorem Access.Overrides.toJson_eq (o : Overrides) : o.toJson = .object (textValues o.members) := by
  unfold Overrides.toJson Overrides.members textValues
  congr 1
  induction Operation.stored with
  | nil => rfl
  | cons op ops ih =>
    rw [List.flatMap_cons, List.filterMap_cons, ih]
    cases o.get op <;> rfl

/-- The table of the settings file is the JSON value of the settings. -/
theorem Settings.toJson_toDocument (s : Settings) : s.toDocument.toNode.toJson = s.toJson := by
  have htable : ∀ pairs : List (String × String), (Toml.Node.table .header (Toml.Document.entries pairs)).toJson =
      .object (textValues pairs) := fun pairs => congrArg Value.object (entriesToJson_entries pairs)
  have htables : s.toJson = .object (textValues s.textMembers ++ ([("guards", .object (textValues s.guards.members))] ++
      optionalMember "default_policy" Overrides.toJson s.defaultPolicy)) :=
    congrArg Value.object (List.append_assoc ..)
  rw [htables, Toml.Document.toNode, Toml.Node.toJson, entriesToJson_append, entriesToJson_entries, toDocument]
  congr 2
  cases s.defaultPolicy with
  | none => exact congrArg (fun v => [("guards", v)]) (htable _)
  | some o =>
    simp only [List.map_cons, List.map_nil, Toml.entriesToJson, htable, optionalMember, Overrides.toJson_eq]
    rfl

/-! ### Reading settings back -/

/-- The overrides with each level read from its text. -/
def Access.Overrides.reread (o : Overrides) : Overrides :=
  PerOperation.ofFn fun op => (o.get op).map fun l => .ofText l.text

theorem Access.Overrides.reread_eq_iff {o : Overrides} : o.reread = o ↔ o.IsNamed := by
  have hget : ∀ op, o.reread.get op = (o.get op).map fun l => .ofText l.text := fun op => PerOperation.get_ofFn _ op
  constructor
  · intro h op l hl
    have hread := hget op
    rw [h, hl] at hread
    exact ⟨l.text, Option.some.inj hread⟩
  · intro h
    apply PerOperation.ext_get
    intro op
    rw [hget]
    cases hl : o.get op with
    | none => rfl
    | some l => exact congrArg some (Level.isNamed_iff.1 (h op l hl))

theorem Access.Overrides.ofJson?_toJson (surplus : Bool) (o : Overrides) :
    Overrides.ofJson? surplus o.toJson = some o.reread := by
  have hlast : ∀ op, Value.last? (Operation.stored.flatMap fun op => optionalMember op.key Level.toJson (o.get op)) op.key =
      (o.get op).map Level.toJson := by
    intro op
    cases op <;> simp [Operation.stored, Operation.key]
  rw [ofJson?, toJson, Value.fields?, Option.bind_some, ofFn?_eq_some_iff]
  intro op
  rw [reread, PerOperation.get_ofFn]
  exact optional_of_last? (hlast op) (fun _ hv => by cases hv) fun l => rfl

private theorem defaulted_text {ms : List (String × Value)} {name default t : String}
    (h : Value.last? ms name = some (.string t)) : defaulted ms name default Value.text? = some t := by
  rw [defaulted, h]
  rfl

/-- The settings with each level of the default policy read from its text. -/
def Settings.reread (s : Settings) : Settings := { s with defaultPolicy := s.defaultPolicy.map Overrides.reread }

theorem Settings.reread_eq_iff {s : Settings} : s.reread = s ↔ s.HasNamedLevels := by
  have hpolicy : s.reread = s ↔ s.defaultPolicy.map Overrides.reread = s.defaultPolicy := by
    constructor
    · intro h
      exact congrArg Settings.defaultPolicy h
    · intro h
      rw [reread, h]
  rw [hpolicy, HasNamedLevels]
  cases s.defaultPolicy with
  | none => simp
  | some o => simp [Overrides.reread_eq_iff]

private theorem Access.Conventions.ofJson?_members (surplus : Bool) (c : Conventions) :
    Conventions.ofJson? surplus (.object (textValues c.members)) = some c := by
  have huser : defaulted (textValues c.members) "user" ({} : Conventions).user Value.text? = some c.user :=
    defaulted_text (by simp [textValues, members])
  have hadmin : defaulted (textValues c.members) "admin" ({} : Conventions).admin Value.text? = some c.admin :=
    defaulted_text (by simp [textValues, members])
  have hstart : defaulted (textValues c.members) "custom_prefix" ({} : Conventions).roleStart Value.text? =
      some c.roleStart := defaulted_text (by simp [textValues, members])
  have hend : defaulted (textValues c.members) "custom_suffix" ({} : Conventions).roleEnd Value.text? =
      some c.roleEnd := defaulted_text (by simp [textValues, members])
  rw [ofJson?, Value.fields?, Option.bind_eq_bind, Option.bind_some]
  dsimp only
  rw [huser, hadmin, hstart, hend]
  rfl

/-- Settings read back from their JSON value with the levels of the default policy read again. -/
theorem Settings.ofJson?_toJson (surplus : Bool) (s : Settings) : Settings.ofJson? surplus s.toJson = some s.reread := by
  obtain ⟨ms, hms⟩ : ∃ ms, s.toJson = .object ms := ⟨_, rfl⟩
  have hmembers : ms = textValues s.textMembers ++ [("guards", .object (textValues s.guards.members))] ++
      optionalMember "default_policy" Overrides.toJson s.defaultPolicy := (Value.object.inj hms).symm
  have hname : defaulted ms "module_name" ({} : Settings).moduleName Value.text? = some s.moduleName :=
    defaulted_text (by simp [hmembers, textValues, textMembers])
  have hfile : defaulted ms "module_file" ({} : Settings).moduleFile Value.text? = some s.moduleFile :=
    defaulted_text (by simp [hmembers, textValues, textMembers])
  have hguardsImport : defaulted ms "guards_import" ({} : Settings).guardsImport Value.text? = some s.guardsImport :=
    defaulted_text (by simp [hmembers, textValues, textMembers])
  have htypes : defaulted ms "types_import" ({} : Settings).typesImport Value.text? = some s.typesImport :=
    defaulted_text (by simp [hmembers, textValues, textMembers])
  have hprisma : defaulted ms "prisma_import" ({} : Settings).prismaImport Value.text? = some s.prismaImport :=
    defaulted_text (by simp [hmembers, textValues, textMembers])
  have hguards : defaulted ms "guards" ({} : Settings).guards (Conventions.ofJson? surplus) = some s.guards := by
    have hlast : Value.last? ms "guards" = some (.object (textValues s.guards.members)) := by
      simp [hmembers, textValues, textMembers]
    rw [defaulted, hlast]
    exact s.guards.ofJson?_members surplus
  have hpolicy : Json.optional ms "default_policy" (Overrides.ofJson? surplus) =
      some (s.defaultPolicy.map Overrides.reread) :=
    optional_of_last? (by simp [hmembers, textValues, textMembers]) (fun _ hv => by cases hv)
      (Overrides.ofJson?_toJson surplus)
  rw [hms, ofJson?, Value.fields?, Option.bind_eq_bind, Option.bind_some]
  dsimp only
  rw [hname, hfile, hguardsImport, htypes, hprisma, hguards, hpolicy]
  rfl

/-- Settings read back from the text of their file with the levels of the default policy read again. -/
theorem Settings.ofToml?_toToml (s : Settings) : Settings.ofToml? s.toToml = some s.reread := by
  rw [ofToml?, toToml, Toml.Document.ofText?_render s.hasBareKeys_toDocument, Option.bind_some, ofNode?,
    toJson_toDocument, ofJson?_toJson]

end GuardedCrud
