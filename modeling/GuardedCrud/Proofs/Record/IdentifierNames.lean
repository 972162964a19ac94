import GuardedCrud.Proofs.Naming.Identifiers
import GuardedCrud.Proofs.Record.OperationNames

/-!
# Names of operations as identifiers

A source of ASCII gives its models names of ASCII.  The name of a mutation is then an identifier, since a verb stands
before the name of the model; the names of queries are written in camel case, so they are not if a digit leads the name
of the model, or if it has neither letters nor digits (`isIdentifier_operationName_iff`).  Such names exist, since a name
may begin with `_` (`queryNames_underscoreNames`).
-/

namespace GuardedCrud

open GuardedCrud.Access GuardedCrud.Naming GuardedCrud.Schema GuardedCrud.Text

/-- The models of a source of ASCII have names of ASCII, written in letters, digits and underscores. -/
private theorem name_of_isAscii {source : String} {st : Structure} (h : Structure.ofText source = .ok st)
    {m : ModelDecl} (hm : m ∈ st.models) (hsource : source.toList.all isAscii = true) :
    m.name.toList.all isAscii = true ∧ m.name.toList.all continuesIdentifier = true := by
  obtain ⟨ts, line, hs, hmem⟩ := exists_ident_of_mem_models h hm
  have hascii : ∀ c ∈ m.name.toList, isAscii c = true :=
    fun c hc => List.all_eq_true.1 hsource c ((scans_of_scanFrom hs).mem_of_mem_name hmem hc)
  refine ⟨List.all_eq_true.2 hascii, List.all_eq_true.2 fun c hc => ?_⟩
  have hname := (name_of_mem_models h hm).2 c hc
  rw [continuesName, isAlphanumeric_of_isAscii (hascii c hc)] at hname
  rw [continuesIdentifier, hname, Bool.true_or]

private theorem isIdentifier_of_isMutation {r : Record} {op : Operation} (hop : op.isMutation = true)
    (h : r.name.toList.all continuesIdentifier = true) : isIdentifier (r.operationName op) = true := by
  have hverb : op.key ≠ "" ∧ isIdentifier op.key = true := by
    cases op with
    | readMany | count | readOne => cases hop
    | create | update | delete => decide
  rw [operationName_of_isMutation r hop, isIdentifier_append hverb.1 h]
  exact hverb.2

/-- The name of an operation of a model from a source of ASCII is an identifier just if it is the name of a mutation, or
no digit leads the name of the model and, for a single record, the name has a letter at all. -/
theorem isIdentifier_operationName_iff {s : Settings} {source : String} {rs : List Record}
    (hsource : source.toList.all isAscii = true) (h : models s Structure.ofText source = .ok rs) {r : Record}
    (hr : r ∈ rs) (op : Operation) : isIdentifier (r.operationName op) = true ↔
      op.isMutation = true ∨ leadsWithDigit r.name.toList = false ∧
        (op = .readOne → r.name.toList.any Char.isAlphanum = true) := by
  obtain ⟨st, m, hst, hm, rfl⟩ := exists_decl_of_mem_models h hr
  obtain ⟨hascii, hcontinues⟩ := name_of_isAscii hst hm hsource
  have hne : m.name ≠ "" := by
    intro hnil
    exact (name_of_mem_models hst hm).1 (by rw [hnil]; rfl)
  have hplural := isIdentifier_camelCase_plural_iff hne hascii
  cases op with
  | readMany =>
    show isIdentifier (camelCase (plural m.name)) = true ↔ false = true ∨ leadsWithDigit m.name.toList = false ∧ _
    rw [hplural]
    simp
  | count =>
    show isIdentifier (camelCase (plural m.name) ++ "Count") = true ↔
      false = true ∨ leadsWithDigit m.name.toList = false ∧ _
    rw [isIdentifier_append (camelCase_plural_ne_empty hne hascii) (by decide), hplural]
    simp
  | readOne =>
    show isIdentifier (camelCase m.name) = true ↔ false = true ∨ leadsWithDigit m.name.toList = false ∧
      (Operation.readOne = .readOne → m.name.toList.any Char.isAlphanum = true)
    rw [isIdentifier_camelCase_iff hascii]
    simp
  | create | update | delete => exact iff_of_true (isIdentifier_of_isMutation rfl hcontinues) (Or.inl rfl)

/-- A schema with names that begin with an underscore. -/
def underscoreNames : String :=
  "model _1 \x7b id Int @id \x7d\nmodel _a \x7b id Int @id \x7d\nmodel __ \x7b id Int @id \x7d\n"

/-- Three models are read from names of ASCII.  The queries of `_1` are named by texts that a digit begins, and the single
record of `__` by the empty text. -/
theorem queryNames_underscoreNames : underscoreNames.toList.all isAscii = true ∧
    (models {} Structure.ofText underscoreNames).map (List.map fun r =>
      [Operation.readMany, .count, .readOne].map r.operationName) =
        .ok [["1s", "1sCount", "1"], ["as", "asCount", "a"], ["s", "sCount", ""]] ∧
      isIdentifier "1s" = false ∧ isIdentifier "1sCount" = false ∧ isIdentifier "1" = false ∧
      isIdentifier "" = false := by
  refine ⟨by decide +kernel, by decide +kernel, by decide⟩

/-- Of the models of that schema `_a` alone has only identifiers. -/
theorem identifiers_underscoreNames : ∃ r₁ ra r₂, models {} Structure.ofText underscoreNames = .ok [r₁, ra, r₂] ∧
    (∀ op, isIdentifier (r₁.operationName op) = op.isMutation) ∧ (∀ op, isIdentifier (ra.operationName op) = true) ∧
      ∀ op, isIdentifier (r₂.operationName op) = (op != .readOne) := by
  have hascii : underscoreNames.toList.all isAscii = true := by decide +kernel
  have hnames : (models {} Structure.ofText underscoreNames).map (List.map (·.name)) = .ok ["_1", "_a", "__"] := by
    decide +kernel
  obtain ⟨rs, hm, hrs⟩ := exists_of_map_eq_ok hnames
  obtain ⟨r₁, rs', rfl, h₁, hrs'⟩ := List.map_eq_cons_iff.1 hrs
  obtain ⟨ra, rs', rfl, ha, hrs'⟩ := List.map_eq_cons_iff.1 hrs'
  obtain ⟨r₂, rs', rfl, h₂, hrs'⟩ := List.map_eq_cons_iff.1 hrs'
  obtain rfl := List.map_eq_nil_iff.1 hrs'
  refine ⟨r₁, ra, r₂, hm, fun op => ?_, fun op => ?_, fun op => ?_⟩
  · rw [Bool.eq_iff_iff, isIdentifier_operationName_iff hascii hm (by simp), h₁]
    cases op <;> decide
  · rw [isIdentifier_operationName_iff hascii hm (by simp), ha]
    cases op <;> decide
  · rw [Bool.eq_iff_iff, isIdentifier_operationName_iff hascii hm (by simp), h₂]
    cases op <;> decide

end GuardedCrud
