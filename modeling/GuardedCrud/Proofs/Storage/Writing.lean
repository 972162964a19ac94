import Mathlib.Logic.Function.Basic
import GuardedCrud.Storage.Writing

/-!
# What writing leaves in a store

The store is any state of which a map from paths to texts can be read off: asking for a path leaves the map as it is,
and a write either puts the text under the path or is refused and leaves the map as it is.  When a write is refused may
depend on anything that happened before.  The main result is `writeFiles_outcome`.
-/

namespace GuardedCrud.Storage

open GuardedCrud.Source

/-! ### Stores that keep a map -/

/-- The text under each path. -/
abbrev Texts := String → Option String

/-- The store keeps a map: it has the paths of the map, and a write puts its text there or changes nothing. -/
structure Store.KeepsMap {σ : Type} (store : Store (StateM σ)) (texts : σ → Texts) : Prop where
  has_fst (path : String) (s : σ) : ((store.has path).run s).1 = (texts s path).isSome
  has_snd (path : String) (s : σ) : texts ((store.has path).run s).2 = texts s
  written {path text : String} {s s' : σ} (h : (store.write path text).run s = (.ok (), s')) :
    texts s' = Function.update (texts s) path (some text)
  refused {path text : String} {s s' : σ} {fault : StorageFault} (h : (store.write path text).run s = (.error fault, s')) :
    texts s' = texts s

private theorem TextMap.get?_cons (key old : String) (rest : TextMap) (path : String) :
    TextMap.get? ((key, old) :: rest) path = if path = key then some old else TextMap.get? rest path := by
  rw [TextMap.get?, TextMap.get?, List.lookup_cons]
  by_cases h : path = key
  · rw [if_pos h, beq_iff_eq.2 h]
  · rw [if_neg h, beq_false_of_ne h]

private theorem TextMap.get?_insert (path text : String) (texts : TextMap) :
    (TextMap.insert path text texts).get? = Function.update texts.get? path (some text) := by
  funext other
  induction texts with
  | nil =>
    rw [TextMap.insert, TextMap.get?_cons]
    by_cases h : other = path
    · rw [if_pos h, h, Function.update_self]
    · rw [if_neg h, Function.update_of_ne h]
  | cons entry rest ih =>
    obtain ⟨key, old⟩ := entry
    rw [TextMap.insert]
    by_cases hk : key = path
    · subst hk
      rw [if_pos rfl, TextMap.get?_cons]
      by_cases h : other = key
      · rw [if_pos h, h, Function.update_self]
      · rw [if_neg h, Function.update_of_ne h, TextMap.get?_cons, if_neg h]
    · rw [if_neg hk, TextMap.get?_cons, ih]
      by_cases h : other = path
      · rw [h, if_neg (Ne.symm hk), Function.update_self, Function.update_self]
      · rw [Function.update_of_ne h, Function.update_of_ne h, TextMap.get?_cons]

private theorem keepsMap_ofTextMap (refusal : String → Option Cause) :
    (Store.ofTextMap refusal).KeepsMap TextMap.get? where
  has_fst _ _ := rfl
  has_snd _ _ := rfl
  written {path text s s'} h := by
    cases hr : refusal path with
    | some cause =>
      simp only [Store.ofTextMap, StateT.run, hr] at h
      cases h
    | none =>
      simp only [Store.ofTextMap, StateT.run, hr] at h
      cases h
      exact TextMap.get?_insert path text s
  refused {path text s s' fault} h := by
    cases hr : refusal path with
    | some cause =>
      simp only [Store.ofTextMap, StateT.run, hr] at h
      cases h
      rfl
    | none =>
      simp only [Store.ofTextMap, StateT.run, hr] at h
      cases h

/-! ### Runs -/

section Runs

variable {σ : Type} {store : Store (StateM σ)} {policy : WritePolicy} {texts : σ → Texts}
variable {files : FileSet} {s s' : σ} {p : Progress}

/-- Whether a file is skipped. -/
def skips (store : Store (StateM σ)) (policy : WritePolicy) (file : SourceFile) : StateM σ Bool :=
  if policy = .skipExisting then store.has file.path else pure false

/-- Writing files takes a state of the store to another one, with some progress. -/
inductive Runs (store : Store (StateM σ)) (policy : WritePolicy) : FileSet → σ → Progress → σ → Prop
  | nil {s : σ} : Runs store policy [] s ⟨[], none⟩ s
  | skip {file : SourceFile} {files : FileSet} {s s₁ s' : σ} {p : Progress}
      (check : (skips store policy file).run s = (true, s₁)) (rest : Runs store policy files s₁ p s') :
      Runs store policy (file :: files) s (p.cons file .skipped) s'
  | write {file : SourceFile} {files : FileSet} {s s₁ s₂ s' : σ} {p : Progress}
      (check : (skips store policy file).run s = (false, s₁))
      (access : (store.write file.path file.content).run s₁ = (.ok (), s₂)) (rest : Runs store policy files s₂ p s') :
      Runs store policy (file :: files) s (p.cons file .written) s'
  | refuse {file : SourceFile} {files : FileSet} {s s₁ s' : σ} {fault : StorageFault}
      (check : (skips store policy file).run s = (false, s₁))
      (access : (store.write file.path file.content).run s₁ = (.error fault, s')) :
      Runs store policy (file :: files) s ⟨[], some fault⟩ s'

private theorem writeFiles_cons (store : Store (StateM σ)) (policy : WritePolicy) (file : SourceFile)
    (files : FileSet) : writeFiles store policy (file :: files) = do
      if ← skips store policy file then
        return (← writeFiles store policy files).cons file .skipped
      else
        match ← store.write file.path file.content with
        | .ok () => return (← writeFiles store policy files).cons file .written
        | .error fault => return ⟨[], some fault⟩ := by
  cases policy <;> rfl

theorem run_bind_of_eq {α β : Type} {x : StateM σ α} {s s₁ : σ} {a : α} (h : x.run s = (a, s₁)) (f : α → StateM σ β) :
    (x >>= f).run s = (f a).run s₁ := by
  rw [StateT.run_bind, h]
  rfl

private theorem runs_writeFiles (store : Store (StateM σ)) (policy : WritePolicy) (files : FileSet) (s : σ) :
    Runs store policy files s ((writeFiles store policy files).run s).1 ((writeFiles store policy files).run s).2 := by
  induction files generalizing s with
  | nil => exact .nil
  | cons file files ih =>
    rcases hc : (skips store policy file).run s with ⟨skip, s₁⟩
    rw [writeFiles_cons, run_bind_of_eq hc]
    cases skip with
    | true => exact .skip hc (ih s₁)
    | false =>
      rcases ha : (store.write file.path file.content).run s₁ with ⟨answer, s₂⟩
      rw [if_neg Bool.false_ne_true, run_bind_of_eq ha]
      cases answer with
      | ok _ => exact .write hc ha (ih s₂)
      | error fault => exact .refuse hc ha

theorem Runs.run_eq (h : Runs store policy files s p s') : (writeFiles store policy files).run s = (p, s') := by
  induction h with
  | nil => rfl
  | skip check _ ih => rw [writeFiles_cons, run_bind_of_eq check, if_pos rfl, run_bind_of_eq ih]; rfl
  | write check access _ ih =>
    rw [writeFiles_cons, run_bind_of_eq check, if_neg Bool.false_ne_true, run_bind_of_eq access]
    exact run_bind_of_eq ih _
  | refuse check access =>
    rw [writeFiles_cons, run_bind_of_eq check, if_neg Bool.false_ne_true, run_bind_of_eq access]
    rfl

private theorem Store.KeepsMap.snd_skips (hm : store.KeepsMap texts) {file : SourceFile} {skip : Bool} {s₁ : σ}
    (check : (skips store policy file).run s = (skip, s₁)) : texts s₁ = texts s := by
  have h := hm.has_snd file.path s
  cases policy with
  | skipExisting => rwa [show (store.has file.path).run s = (skip, s₁) from check] at h
  | overwrite =>
    cases check
    rfl

private theorem Store.KeepsMap.fst_skips (hm : store.KeepsMap texts) {file : SourceFile} {skip : Bool} {s₁ : σ}
    (check : (skips store policy file).run s = (skip, s₁)) :
    skip = (policy = .skipExisting && (texts s file.path).isSome) := by
  have h := hm.has_fst file.path s
  cases policy with
  | skipExisting =>
    rw [show (store.has file.path).run s = (skip, s₁) from check] at h
    simpa using h
  | overwrite =>
    cases check
    rfl

/-- What one file does to the map if its write is not refused. -/
def put (policy : WritePolicy) (before : Texts) (file : SourceFile) : Texts :=
  if policy = .skipExisting && (before file.path).isSome then before
  else Function.update before file.path (some file.content)

/-- A run puts the files that it did into the map, one after the other. -/
private theorem Runs.texts_eq (hm : store.KeepsMap texts) (h : Runs store policy files s p s') :
    texts s' = (p.done.map (·.1)).foldl (put policy) (texts s) := by
  induction h with
  | nil => rfl
  | skip check _ ih =>
    rw [ih, hm.snd_skips check]
    simp [Progress.cons, put, ← hm.fst_skips check]
  | write check access _ ih =>
    rw [ih, hm.written access, hm.snd_skips check]
    simp [Progress.cons, put, ← hm.fst_skips check]
  | refuse check access => exact (hm.refused access).trans (hm.snd_skips check)

/-- Unless a write is refused, every file is done. -/
private theorem Runs.map_done (h : Runs store policy files s p s') (hp : p.refused = none) :
    p.done.map (·.1) = files := by
  induction h with
  | nil => rfl
  | skip _ _ ih => rw [Progress.cons, List.map_cons, ih hp]
  | write _ _ _ ih => rw [Progress.cons, List.map_cons, ih hp]
  | refuse => cases hp

/-- Where a write is refused, the files before it were done by a run of their own. -/
private theorem Runs.exists_of_refused (h : Runs store policy files s p s') {fault : StorageFault}
    (hp : p.refused = some fault) : ∃ before file after s₁ s₂, files = before ++ file :: after ∧
      Runs store policy before s { p with refused := none } s₁ ∧ (skips store policy file).run s₁ = (false, s₂) ∧
      (store.write file.path file.content).run s₂ = (.error fault, s') := by
  induction h with
  | nil => cases hp
  | @skip file _ _ _ _ _ check _ ih =>
    obtain ⟨before, last, after, s₁, s₂, rfl, hrun, hend⟩ := ih hp
    exact ⟨file :: before, last, after, s₁, s₂, rfl, .skip check hrun, hend⟩
  | @write file _ _ _ _ _ _ check access _ ih =>
    obtain ⟨before, last, after, s₁, s₂, rfl, hrun, hend⟩ := ih hp
    exact ⟨file :: before, last, after, s₁, s₂, rfl, .write check access hrun, hend⟩
  | @refuse file files _ _ _ _ check access =>
    cases hp
    exact ⟨[], file, files, _, _, rfl, .nil, check, access⟩

/-- Under the policy that overwrites, no file is skipped. -/
private theorem Runs.paths_skipped (h : Runs store .overwrite files s p s') : p.paths .skipped = [] := by
  generalize hpolicy : WritePolicy.overwrite = policy at h
  induction h with
  | nil => rfl
  | skip check _ _ =>
    subst hpolicy
    cases check
  | write _ _ _ ih => exact ih
  | refuse => rfl

/-- If the store has every path, the run that keeps what exists skips every file. -/
private theorem exists_runs_of_has (hm : store.KeepsMap texts) (h : ∀ file ∈ files, (texts s file.path).isSome) :
    ∃ s', Runs store .skipExisting files s ⟨files.map (·, .skipped), none⟩ s' ∧ texts s' = texts s := by
  induction files generalizing s with
  | nil => exact ⟨s, .nil, rfl⟩
  | cons file files ih =>
    rcases check : (skips store .skipExisting file).run s with ⟨skip, s₁⟩
    have htexts := hm.snd_skips check
    obtain rfl : skip = true := by rw [hm.fst_skips check, h file List.mem_cons_self]; rfl
    obtain ⟨s', hrun, hs'⟩ := ih (s := s₁) fun f hf => htexts ▸ h f (List.mem_cons_of_mem _ hf)
    exact ⟨s', .skip check hrun, hs'.trans htexts⟩

end Runs

/-! ### The map that is left -/

private theorem put_of_ne (policy : WritePolicy) (before : Texts) {file : SourceFile} {path : String}
    (h : file.path ≠ path) : put policy before file path = before path := by
  unfold put
  split
  · rfl
  · exact Function.update_of_ne h.symm _ _

/-- Where files are kept, the first file of a path counts, and only if there is nothing under the path. -/
private theorem foldl_put_skipExisting (files : FileSet) (before : Texts) (path : String) :
    files.foldl (put .skipExisting) before path =
      (before path).or ((FileSet.get? files path).map (·.content)) := by
  induction files generalizing before with
  | nil => simp [FileSet.get?]
  | cons file files ih =>
    rw [List.foldl_cons, ih]
    by_cases hp : file.path = path
    · subst hp
      cases hb : before file.path <;> simp [put, FileSet.get?, hb]
    · have hget : FileSet.get? (file :: files) path = FileSet.get? files path := by simp [FileSet.get?, hp]
      rw [hget, put_of_ne _ _ hp]

private theorem get?_reverse_cons (file : SourceFile) (files : FileSet) (path : String) :
    FileSet.get? (file :: files).reverse path =
      (FileSet.get? files.reverse path).or (if file.path = path then some file else none) := by
  simp [FileSet.get?, List.find?_append, List.find?_singleton]

/-- Where files are overwritten, the last file of a path counts. -/
private theorem foldl_put_overwrite (files : FileSet) (before : Texts) (path : String) :
    files.foldl (put .overwrite) before path =
      ((FileSet.get? files.reverse path).map (·.content)).or (before path) := by
  induction files generalizing before with
  | nil => simp [FileSet.get?]
  | cons file files ih =>
    rw [List.foldl_cons, ih, get?_reverse_cons]
    by_cases hp : file.path = path
    · subst hp
      cases FileSet.get? files.reverse file.path <;> simp [put]
    · rw [if_neg hp, Option.or_none, put_of_ne _ _ hp]

private theorem exists_get?_of_mem {files : FileSet} {file : SourceFile} (h : file ∈ files) :
    ∃ found, FileSet.get? files file.path = some found := by
  cases hf : FileSet.get? files file.path with
  | some found => exact ⟨found, rfl⟩
  | none => exact absurd (List.find?_eq_none.1 hf file h) (by simp)

private theorem get?_eq_none {files : FileSet} {path : String} (h : path ∉ files.map (·.path)) :
    FileSet.get? files path = none :=
  List.find?_eq_none.2 fun file hf hp => h (List.mem_map.2 ⟨file, hf, beq_iff_eq.1 hp⟩)

/-- Two lists, each in its order, make up a third one. -/
inductive Interleaves {α : Type} : List α → List α → List α → Prop
  | nil : Interleaves [] [] []
  | left {a : α} {xs ys zs : List α} (h : Interleaves xs ys zs) : Interleaves (a :: xs) ys (a :: zs)
  | right {a : α} {xs ys zs : List α} (h : Interleaves xs ys zs) : Interleaves xs (a :: ys) (a :: zs)

private theorem Interleaves.perm {xs ys zs : List α} (h : Interleaves xs ys zs) : (xs ++ ys).Perm zs := by
  induction h with
  | nil => exact .nil
  | left _ ih => exact ih.cons _
  | right _ ih => exact List.perm_middle.trans (ih.cons _)

/-- The files of one fate. -/
def Progress.files (p : Progress) (fate : Fate) : FileSet := (p.done.filter fun d => d.2 = fate).map (·.1)

private theorem map_path_files (p : Progress) (fate : Fate) : (p.files fate).map (·.path) = p.paths fate := by
  simp [Progress.files, Progress.paths]

private theorem interleaves_files (done : List (SourceFile × Fate)) (refused : Option StorageFault) :
    Interleaves (Progress.files ⟨done, refused⟩ .written) (Progress.files ⟨done, refused⟩ .skipped)
      (done.map (·.1)) := by
  induction done with
  | nil => exact .nil
  | cons d done ih =>
    obtain ⟨file, fate⟩ := d
    cases fate with
    | written => exact .left ih
    | skipped => exact .right ih

private theorem paths_map (files : FileSet) (refused : Option StorageFault) (fate fate' : Fate) :
    Progress.paths ⟨files.map (·, fate), refused⟩ fate' = if fate = fate' then files.map (·.path) else [] := by
  induction files with
  | nil => simp [Progress.paths]
  | cons file files ih =>
    unfold Progress.paths at ih ⊢
    by_cases h : fate = fate' <;> simp_all

private theorem report_eq_ok_iff {p : Progress} {report : Report} :
    p.report = .ok report ↔ p.refused = none ∧ report = ⟨p.paths .written, p.paths .skipped⟩ := by
  unfold Progress.report
  cases p.refused with
  | none => simp [eq_comm]
  | some fault => simp

private theorem report_eq_error_iff {p : Progress} {fault : StorageFault} :
    p.report = .error fault ↔ p.refused = some fault := by
  unfold Progress.report
  cases p.refused <;> simp

/-- What the writing of files that ends with a report makes of a map. -/
structure Completed (policy : WritePolicy) (files : FileSet) (before after : Texts) (report : Report) : Prop where
  /-- Every file is written or skipped, in the order of the files. -/
  interleaves : ∃ written skipped, Interleaves written skipped files ∧
    report = ⟨written.map (·.path), skipped.map (·.path)⟩
  /-- What exists is kept. -/
  kept (hp : policy = .skipExisting) (path : String) (h : (before path).isSome) : after path = before path
  /-- What did not exist holds what the files give for it. -/
  added (hp : policy = .skipExisting) (file : SourceFile) (hf : file ∈ files) (h : before file.path = none) :
    ∃ first, FileSet.get? files file.path = some first ∧ after file.path = some first.content
  none_skipped (hp : policy = .overwrite) : report.skipped = []
  /-- The last file of a path is the one that stays. -/
  overwritten (hp : policy = .overwrite) (file : SourceFile) (hf : file ∈ files) :
    ∃ last, FileSet.get? files.reverse file.path = some last ∧ after file.path = some last.content
  /-- Paths of no file are left alone. -/
  others (path : String) (h : path ∉ files.map (·.path)) : after path = before path

section Outcome

variable {σ : Type} {store : Store (StateM σ)} {policy : WritePolicy} {texts : σ → Texts}
variable {files : FileSet} {s s' : σ} {p : Progress}

private theorem Runs.completed (hm : store.KeepsMap texts) (h : Runs store policy files s p s')
    (hp : p.refused = none) : Completed policy files (texts s) (texts s') ⟨p.paths .written, p.paths .skipped⟩ := by
  have hdone : p.done.map (·.1) = files := h.map_done hp
  have htexts : texts s' = files.foldl (put policy) (texts s) := hdone ▸ h.texts_eq hm
  exact {
    interleaves := ⟨p.files .written, p.files .skipped, hdone ▸ interleaves_files p.done p.refused, by
      simp only [map_path_files]⟩
    kept := by
      rintro rfl path hb
      obtain ⟨text, hb⟩ := Option.isSome_iff_exists.1 hb
      rw [htexts, foldl_put_skipExisting, hb]
      rfl
    added := by
      rintro rfl file hf hb
      obtain ⟨first, hfirst⟩ := exists_get?_of_mem hf
      refine ⟨first, hfirst, ?_⟩
      rw [htexts, foldl_put_skipExisting, hb, hfirst]
      rfl
    none_skipped := by
      rintro rfl
      exact h.paths_skipped
    overwritten := by
      rintro rfl file hf
      obtain ⟨last, hlast⟩ := exists_get?_of_mem (List.mem_reverse.2 hf)
      refine ⟨last, hlast, ?_⟩
      rw [htexts, foldl_put_overwrite, hlast]
      rfl
    others := by
      intro path hpath
      rw [htexts]
      cases policy with
      | skipExisting => simp [foldl_put_skipExisting, get?_eq_none hpath]
      | overwrite =>
        have hpath : path ∉ files.reverse.map (·.path) := by simpa using hpath
        simp [foldl_put_overwrite, get?_eq_none hpath] }

/-- A report lists the paths of all files. -/
theorem report_perm {report : Report} (h : (writeFiles store policy files).run s = (p, s'))
    (hreport : p.report = .ok report) : (report.written ++ report.skipped).Perm (files.map (·.path)) := by
  have hrun := runs_writeFiles store policy files s
  rw [h] at hrun
  obtain ⟨hp, rfl⟩ := report_eq_ok_iff.1 hreport
  have hfiles : Interleaves (p.files .written) (p.files .skipped) files := by
    rw [← hrun.map_done hp]
    exact interleaves_files p.done p.refused
  simpa only [map_path_files, List.map_append] using hfiles.perm.map (·.path)

/-- After a completed run the store has every path of the files. -/
theorem Completed.isSome {before after : Texts} {report : Report} (h : Completed policy files before after report)
    {file : SourceFile} (hf : file ∈ files) : (after file.path).isSome := by
  cases policy with
  | skipExisting =>
    cases hb : before file.path with
    | none =>
      obtain ⟨first, -, hfirst⟩ := h.added rfl file hf hb
      rw [hfirst]; rfl
    | some text => rw [h.kept rfl file.path (by rw [hb]; rfl), hb]; rfl
  | overwrite =>
    obtain ⟨last, -, hlast⟩ := h.overwritten rfl file hf
    rw [hlast]; rfl

/-- Writing files to a store that keeps a map, whatever files it has and whenever it refuses a write.  A report says what
became of every file and describes the map that is left, and to keep what exists then skips every file.  Where the write
of a file is refused, the map is the one that a completed run over the files before it leaves. -/
theorem writeFiles_outcome (hm : store.KeepsMap texts) (h : (writeFiles store policy files).run s = (p, s')) :
    (∀ report, p.report = .ok report →
      Completed policy files (texts s) (texts s') report ∧
      ∃ q s'', (writeFiles store .skipExisting files).run s' = (q, s'') ∧
        q.report = .ok ⟨[], files.map (·.path)⟩ ∧ texts s'' = texts s') ∧
    (∀ fault, p.report = .error fault →
      ∃ before file after, files = before ++ file :: after ∧
      ∃ q report s₁, (writeFiles store policy before).run s = (q, s₁) ∧ q.report = .ok report ∧
      ∃ s₂, texts s₂ = texts s₁ ∧ (store.write file.path file.content).run s₂ = (.error fault, s') ∧
        texts s' = texts s₁) := by
  have hrun : Runs store policy files s p s' := by
    have hrun := runs_writeFiles store policy files s
    rwa [h] at hrun
  constructor
  · intro report hreport
    obtain ⟨hp, rfl⟩ := report_eq_ok_iff.1 hreport
    have hcompleted := hrun.completed hm hp
    obtain ⟨s'', hagain, hs''⟩ := exists_runs_of_has hm (s := s') fun file hf => hcompleted.isSome hf
    refine ⟨hcompleted, _, s'', hagain.run_eq, ?_, hs''⟩
    simp [report_eq_ok_iff, paths_map]
  · intro fault hfault
    obtain ⟨before, file, after, s₁, s₂, hfiles, hbefore, check, access⟩ :=
      hrun.exists_of_refused (report_eq_error_iff.1 hfault)
    have hs₂ : texts s₂ = texts s₁ := hm.snd_skips check
    exact ⟨before, file, after, hfiles, _, _, s₁, hbefore.run_eq, report_eq_ok_iff.2 ⟨rfl, rfl⟩, s₂, hs₂, access,
      (hm.refused access).trans hs₂⟩

end Outcome

/-- Three files, two of them of one path. -/
def drafts : FileSet := [⟨"note.ts", "one"⟩, ⟨"user.ts", "two"⟩, ⟨"note.ts", "three"⟩]

/-- To a map that has the second path the first file alone is written; where the write of the second one is refused, the
map is the one that the first file leaves. -/
theorem writeFiles_outcome_drafts :
    Completed .skipExisting drafts (TextMap.get? [("user.ts", "old")])
      (TextMap.get? [("user.ts", "old"), ("note.ts", "one")]) ⟨["note.ts"], ["user.ts", "note.ts"]⟩ ∧
    ∃ before file after, drafts = before ++ file :: after ∧
      ∃ q report s₁, (writeFiles (Store.ofTextMap fun path => if path = "user.ts" then some .noSpace else none)
        .overwrite before).run [] = (q, s₁) ∧ q.report = .ok report ∧ TextMap.get? [("note.ts", "one")] = s₁.get? := by
  constructor
  · have h : (writeFiles (Store.ofTextMap fun _ => none) .skipExisting drafts).run [("user.ts", "old")] =
        (⟨[(⟨"note.ts", "one"⟩, .written), (⟨"user.ts", "two"⟩, .skipped), (⟨"note.ts", "three"⟩, .skipped)], none⟩,
          [("user.ts", "old"), ("note.ts", "one")]) := rfl
    exact ((writeFiles_outcome (keepsMap_ofTextMap _) h).1 _ rfl).1
  · have h : (writeFiles (Store.ofTextMap fun path => if path = "user.ts" then some .noSpace else none)
        .overwrite drafts).run [] =
        (⟨[(⟨"note.ts", "one"⟩, .written)], some ⟨"user.ts", .noSpace⟩⟩, [("note.ts", "one")]) := rfl
    obtain ⟨before, file, after, hfiles, q, report, s₁, hq, hreport, -, -, -, hs⟩ :=
      (writeFiles_outcome (keepsMap_ofTextMap _) h).2 _ rfl
    exact ⟨before, file, after, hfiles, q, report, s₁, hq, hreport, hs⟩

end GuardedCrud.Storage
