import GuardedCrud.Proofs.Record.Models
import GuardedCrud.Proofs.Schema.LineLayout

/-!
# The layout of lines does not matter

Two texts whose lines say the same give the same models with the same documentation and policies, or none at all
(`models_of_sameContent`).  The records of a structure do not show the lines of its models, and a policy hangs only on the
documentation that the line pass finds.
-/

namespace GuardedCrud

open GuardedCrud.Access GuardedCrud.Schema GuardedCrud.Text

private theorem ofType_unnumbered (st : Structure) (type : String) :
    FieldKind.ofType st.unnumbered type = FieldKind.ofType st type := by
  have hmodels : (st.unnumbered.models.any fun m => m.name == type) = st.models.any fun m => m.name == type := by
    rw [Structure.unnumbered, List.any_map]
    rfl
  unfold FieldKind.ofType
  rw [hmodels]
  rfl

private theorem Record.ofDecl?_unnumbered (st : Structure) (m : ModelDecl) :
    Record.ofDecl? st.unnumbered m.unnumbered = Record.ofDecl? st m := by
  have hfield : ∀ f, Field.ofDecl st.unnumbered m.unnumbered f = Field.ofDecl st m f := by
    intro f
    unfold Field.ofDecl
    rw [ofType_unnumbered]
    rfl
  unfold Record.ofDecl? Record.ofDecl
  rw [funext hfield]
  rfl

/-- Records do not show the lines of models. -/
theorem Record.ofStructure_unnumbered (st : Structure) : Record.ofStructure st.unnumbered = Record.ofStructure st := by
  unfold Record.ofStructure
  show (st.models.map ModelDecl.unnumbered).filterMap (Record.ofDecl? st.unnumbered) = _
  rw [List.filterMap_map]
  exact congrArg (fun f => st.models.filterMap f) (funext fun m => Record.ofDecl?_unnumbered st m)

private theorem recordsOf_of_unnumbered {st st' : Structure} (h : st'.unnumbered = st.unnumbered) :
    recordsOf (.ok st') = recordsOf (.ok st) := by
  have hrecords : Record.ofStructure st' = Record.ofStructure st := by
    rw [← Record.ofStructure_unnumbered st', h, Record.ofStructure_unnumbered]
  unfold recordsOf
  dsimp only
  rw [hrecords]

/-- A text without content declares nothing. -/
private theorem ofText_of_no_content {source : String} (hb : ∀ l ∈ lines source.toList, (trim l).getLast? ≠ some '\\')
    (h : contentOf (lines source.toList) = []) : Structure.ofText source = .ok ⟨[], []⟩ := by
  have htokens : tokens? (scan source) = some [] := by
    rw [tokens?_scan hb 1, h]
    rfl
  unfold Structure.ofText
  cases hs : scan source with
  | error e => rw [hs] at htokens; cases htokens
  | ok ts =>
    rw [hs] at htokens
    obtain rfl : ts = [] := List.map_eq_nil_iff.1 (Option.some.inj htokens)
    dsimp only
    rw [readBlocks]

/-- A text that gives records says something. -/
private theorem not_isBlankText_of_sameContent {source source' : String} (h : SameContent source source')
    {rs : List Record} (hrs : recordsOf (Structure.ofText source) = .ok rs) : isBlankText source' = false := by
  rw [← Bool.not_eq_true]
  intro hblank
  have hnone : contentOf (lines source.toList) = [] := by
    rw [h.content]
    exact contentOf_lines_of_blank (List.isEmpty_iff.1 hblank)
  rw [ofText_of_no_content h.noBackslash hnone] at hrs
  cases hrs

private theorem resolvePolicy_of_sameContent {source source' : String} (h : SameContent source source') (base : Policy)
    (model : String) : resolvePolicy base source model = resolvePolicy base source' model := by
  show (Finding.ofDocs? model (documentationOf source model)).policy base = _
  rw [h.documentationOf_eq]
  rfl

private theorem models_eq_ok_of_sameContent {source source' : String} (h : SameContent source source') {s : Settings}
    {rs : List Record} (hrs : models s Structure.ofText source = .ok rs) : models s Structure.ofText source' = .ok rs := by
  obtain ⟨-, raw, hraw, rfl⟩ := models_eq_ok_iff.1 hrs
  obtain ⟨st, hst, -⟩ := recordsOf_eq_ok_iff.1 hraw
  obtain ⟨st', hst', hunnumbered⟩ := h.ofText_eq hst
  have hraw' : recordsOf (Structure.ofText source') = .ok raw := by
    rw [hst', recordsOf_of_unnumbered hunnumbered, ← hst, hraw]
  refine models_eq_ok_iff.2 ⟨not_isBlankText_of_sameContent h hraw, raw, hraw', List.map_congr_left fun r _ => ?_⟩
  show { r with policy? := some (resolvePolicy s.basePolicy source r.name) } =
    { r with policy? := some (resolvePolicy s.basePolicy source' r.name) }
  rw [resolvePolicy_of_sameContent h]

/-- The layout of lines matters to neither pass: texts whose lines say the same give the same models, documentation and
policies included, or both give none; and the line pass finds the same documentation of every name. -/
theorem models_of_sameContent {source source' : String} (h : SameContent source source') (s : Settings) :
    (∀ rs, models s Structure.ofText source = .ok rs ↔ models s Structure.ofText source' = .ok rs) ∧
      ∀ model, documentationOf source model = documentationOf source' model :=
  ⟨fun _ => ⟨models_eq_ok_of_sameContent h, models_eq_ok_of_sameContent h.symm⟩, h.documentationOf_eq⟩

/-- A note that anyone may list. -/
def tidyNote : String :=
  "/// @crudAuth: \x7b \"readMany\": \"public\" \x7d\nmodel Note \x7b\n  id Int @id\n  /// The text.\n  text String\n\x7d"

/-- The note with carriage returns, other indentation, blank lines, and comments that hold a brace and a quote. -/
def scatteredNote : String :=
  "// Notes \x7b\r\n\t/// @crudAuth: \x7b \"readMany\": \"public\" \x7d  \r\n\r\n  // anyone\r\n model Note \x7b\r\n" ++
  "// \x7d\r\nid Int @id \r\n/// The text.\r\n\r\n  // \"\r\n\ttext String\r\n\x7d\r\n\r\n"

private theorem sameContent_scatteredNote : SameContent tidyNote scatteredNote where
  noBackslash := by decide +kernel
  noBackslash' := by decide +kernel
  content := by decide +kernel

/-- The scattered note is the tidy one: its text has a comment, and anyone may list it. -/
theorem models_of_scatteredNote : ∃ r, models {} Structure.ofText tidyNote = .ok [r] ∧
    models {} Structure.ofText scatteredNote = .ok [r] ∧
    r.fields.map (·.documentation) = [none, some "The text."] ∧ r.policy.get .readMany = .everyone := by
  have hshown : (models {} Structure.ofText tidyNote).toOption.map (fun rs => rs.map fun r =>
      (r.fields.map (·.documentation), r.policy.get .readMany)) = some [([none, some "The text."], .everyone)] := by
    decide +kernel
  cases hm : models {} Structure.ofText tidyNote with
  | error e =>
    rw [hm] at hshown
    cases hshown
  | ok rs =>
    rw [hm] at hshown
    obtain ⟨r, rfl, hr⟩ := List.map_eq_singleton_iff.1 (Option.some.inj hshown)
    obtain ⟨hdocs, hpolicy⟩ := Prod.mk.inj hr
    exact ⟨r, rfl, ((models_of_sameContent sameContent_scatteredNote {}).1 [r]).1 hm, hdocs, hpolicy⟩

end GuardedCrud
