import GuardedCrud.Proofs.CommandLine.Effects
import GuardedCrud.Proofs.Settings.File
import GuardedCrud.Proofs.Storage.Tree

/-!
# Saved settings load unchanged

Saving ends with a write of the settings (`exists_write_of_save`), and the file system reads it back.  The text of the
settings gives them again, with the levels of the default policy read from their texts, so settings load unchanged just if
these levels are named (`loadSettings_of_saveSettings`).
-/

namespace GuardedCrud.CommandLine

open GuardedCrud.Access GuardedCrud.Storage

variable {σ : Type} {fs : FileSystem (StateM σ)}

/-- A step that never succeeds after a failed first part goes on from a first part that succeeded. -/
private theorem exists_run_of_bind {ε δ : Type} {x : StateM σ (Except ε Unit)}
    {f : Except ε Unit → StateM σ (Except δ Unit)} {s s' : σ} (h : (x >>= f).run s = (.ok (), s'))
    (hf : ∀ e s, ((f (.error e)).run s).1 ≠ .ok ()) :
    ∃ s₁, x.run s = (.ok (), s₁) ∧ (f (.ok ())).run s₁ = (.ok (), s') := by
  rcases hx : x.run s with ⟨answer, s₁⟩
  rw [run_bind_of_eq hx] at h
  cases answer with
  | error e => exact absurd (congrArg Prod.fst h) (hf e s₁)
  | ok _ => exact ⟨s₁, rfl, h⟩

/-- What is saved is written last. -/
theorem exists_write_of_save {path text : String} {s s' : σ} (h : (fs.save path text).run s = (.ok (), s')) :
    ∃ s₁, (fs.writeText path text).run s₁ = (.ok (), s') := by
  unfold FileSystem.save at h
  cases hparent : Path.parent? path with
  | none =>
    rw [hparent] at h
    obtain ⟨s₁, hwrite, hdone⟩ := exists_run_of_bind h fun _ _ hok => nomatch hok
    cases hdone
    exact ⟨s, hwrite⟩
  | some parent =>
    rw [hparent] at h
    obtain ⟨s₁, -, hwritten⟩ := exists_run_of_bind h fun _ _ hok => nomatch hok
    obtain ⟨s₂, hwrite, hdone⟩ := exists_run_of_bind hwritten fun _ _ hok => nomatch hok
    cases hdone
    exact ⟨s₁, hwrite⟩

/-- Settings that were saved to a path load from there, with the same module path, and unchanged just if the levels of their
default policy are named; then their policy is the same too. -/
theorem loadSettings_of_saveSettings (hfs : fs.ReadsBack) {path : String} {settings : Settings} {s s' : σ}
    (h : (saveSettings fs path settings).run.run s = (.ok (), s')) :
    ∃ loaded, (loadSettings fs path).run.run s' = (.ok loaded, s') ∧
      (loaded = settings ↔ settings.HasNamedLevels) ∧ loaded.modulePath = settings.modulePath ∧
      (settings.HasNamedLevels → loaded.basePolicy = settings.basePolicy) := by
  have hsave : ∃ s₁, (fs.writeText path settings.toToml).run s₁ = (.ok (), s') := by
    rcases hs : (fs.save path settings.toToml).run s with ⟨answer, s₁⟩
    replace h := (run_bind_of_ok (run_liftM hs) _).symm.trans h
    cases answer with
    | error fault => cases h
    | ok _ =>
      cases h
      exact exists_write_of_save hs
  obtain ⟨s₁, hwrite⟩ := hsave
  have hload : (loadSettings fs path).run.run s' = (.ok settings.reread, s') := by
    rw [loadSettings, run_bind_of_ok (run_liftM (hfs.pathExists hwrite)), if_pos rfl,
      run_bind_of_ok (run_bind_of_ok (run_liftM (hfs.readText hwrite)) _), settings.ofToml?_toToml]
    rfl
  refine ⟨settings.reread, hload, Settings.reread_eq_iff, rfl, fun hnamed => ?_⟩
  rw [Settings.reread_eq_iff.2 hnamed]

/-- Settings with texts that need all kinds of quotes, and a role with quotes in its name. -/
def oddSettings : Settings where
  moduleName := "\"\"\"\"\n'''\x07\\"
  moduleFile := ""
  guardsImport := "\\'' \"\"\""
  typesImport := "it's \"\"\n\n\""
  prismaImport := "\t\r\x7f\"'"
  guards := { user := "''\"", roleEnd := "\n" }
  defaultPolicy := some { Overrides.unset with count := some (.ofText " it's \n\"Me\" ") }

/-- Settings with a table of the default policy without keys. -/
def unsetSettings : Settings := { defaultPolicy := some Overrides.unset }

/-- What it does to save settings into a new directory. -/
def savedTo (settings : Settings) : Except Failure Unit × Tree :=
  (saveSettings FileSystem.ofTree "a/crudgen.toml" settings).run.run ⟨.directory [], []⟩

private theorem savedTo_eq_ok {settings : Settings} (h : (savedTo settings).1.toOption = some ()) :
    savedTo settings = (.ok (), (savedTo settings).2) := by
  refine Prod.ext ?_ rfl
  cases hsaved : (savedTo settings).1 with
  | error f =>
    rw [hsaved] at h
    cases h
  | ok _ => rfl

private theorem hasNamedLevels_oddSettings : oddSettings.HasNamedLevels := by
  intro o ho op l hl
  cases ho
  cases op <;> cases hl
  exact ⟨_, rfl⟩

private theorem hasNamedLevels_unsetSettings : unsetSettings.HasNamedLevels := by
  intro o ho op l hl
  cases ho
  cases op <;> cases hl

/-- The odd settings, and those with an empty table, load as they were saved. -/
theorem loadSettings_of_saveSettings_odd :
    (∃ t', savedTo oddSettings = (.ok (), t') ∧
      (loadSettings FileSystem.ofTree "a/crudgen.toml").run.run t' = (.ok oddSettings, t')) ∧
    ∃ t', savedTo unsetSettings = (.ok (), t') ∧
      (loadSettings FileSystem.ofTree "a/crudgen.toml").run.run t' = (.ok unsetSettings, t') := by
  have hodd := @savedTo_eq_ok oddSettings (by decide)
  have hunset := @savedTo_eq_ok unsetSettings (by decide)
  obtain ⟨loaded, hload, hiff, -⟩ := loadSettings_of_saveSettings FileSystem.readsBack_ofTree hodd
  obtain ⟨loaded', hload', hiff', -⟩ := loadSettings_of_saveSettings FileSystem.readsBack_ofTree hunset
  rw [hiff.2 hasNamedLevels_oddSettings] at hload
  rw [hiff'.2 hasNamedLevels_unsetSettings] at hload'
  exact ⟨⟨_, hodd, hload⟩, _, hunset, hload'⟩

end GuardedCrud.CommandLine
