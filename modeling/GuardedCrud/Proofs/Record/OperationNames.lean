import Mathlib.Data.List.Nodup
import Mathlib.Data.List.Pairwise
import GuardedCrud.Proofs.Naming.Plurals
import GuardedCrud.Proofs.Record.Models
import GuardedCrud.Proofs.Schema.Outline

/-!
# Names of operations

The six operations of a model have six names (`operationName_injective`): seen through `letters`, the singular, the
plural and their prefixes and suffixes cannot meet.  Across the models of a schema the names of mutations are distinct
too, while a query of one model may share its name with a query of another.  How that can happen is told exactly
(`operationNames_of_models`), and models named `User` and `Users` show that it does (`queryNames_userAndUsers`).
-/

namespace GuardedCrud

open GuardedCrud.Access GuardedCrud.Naming GuardedCrud.Schema GuardedCrud.Text

/-! ### The names of one model -/

/-- The names in camel case are those of the model and of its plural. -/
structure Record.NamedAfter (r : Record) (name : String) : Prop where
  name_eq : r.name = name
  property_eq : r.propertyName = camelCase name
  plural_eq : r.pluralPropertyName = camelCase (plural name)

private theorem Record.namedAfter_ofFields (name : String) (fields : List Field) :
    (ofFields name fields).NamedAfter name :=
  ⟨rfl, rfl, rfl⟩

theorem operationName_of_isMutation (r : Record) {op : Operation} (h : op.isMutation = true) :
    r.operationName op = op.key ++ r.name := by
  cases op with
  | readMany | count | readOne => cases h
  | create | update | delete => rfl

private theorem length_key_of_isMutation {op : Operation} (h : op.isMutation = true) : op.key.toList.length = 6 := by
  cases op with
  | readMany | count | readOne => cases h
  | create | update | delete => rfl

private theorem key_injective : Function.Injective Operation.key := by
  intro op op' h
  cases op <;> cases op' <;> simp_all [Operation.key]

/-- The name of a mutation tells the operation and the model. -/
private theorem mutation_inj {r r' : Record} {op op' : Operation} (hop : op.isMutation = true)
    (hop' : op'.isMutation = true) (h : r.operationName op = r'.operationName op') : op = op' ∧ r.name = r'.name := by
  rw [operationName_of_isMutation r hop, operationName_of_isMutation r' hop'] at h
  have hchars := congrArg String.toList h
  rw [String.toList_append, String.toList_append] at hchars
  have hlen := (length_key_of_isMutation hop).trans (length_key_of_isMutation hop').symm
  obtain ⟨hkey, hname⟩ := List.append_inj hchars hlen
  exact ⟨key_injective (String.toList_injective hkey), String.toList_injective hname⟩

/-- The letters in front of the name of a mutation are six, with no `O` among them. -/
private theorem letters_key_of_isMutation {op : Operation} (h : op.isMutation = true) :
    (letters op.key.toList).length = 6 ∧ (letters op.key.toList).count 'O' = 0 := by
  cases op with
  | readMany | count | readOne => cases h
  | create | update | delete => decide

section

variable {r : Record} {name : String} (hr : r.NamedAfter name)

include hr

private theorem Record.NamedAfter.letters_readOne :
    letters (r.operationName .readOne).toList = letters name.toList := by
  rw [Record.operationName, hr.property_eq, letters_camelCase]

private theorem Record.NamedAfter.letters_readMany :
    letters (r.operationName .readMany).toList = letters (plural name).toList := by
  rw [Record.operationName, hr.plural_eq, letters_camelCase]

private theorem Record.NamedAfter.letters_count :
    letters (r.operationName .count).toList = letters (plural name).toList ++ letters "Count".toList := by
  rw [Record.operationName, hr.plural_eq, String.toList_append, letters_append, letters_camelCase]

private theorem Record.NamedAfter.letters_mutation {op : Operation} (h : op.isMutation = true) :
    letters (r.operationName op).toList = letters op.key.toList ++ letters name.toList := by
  rw [operationName_of_isMutation r h, String.toList_append, letters_append, hr.name_eq]

variable (hne : name ≠ "")

include hne

private theorem Record.NamedAfter.readMany_ne_readOne : r.operationName .readMany ≠ r.operationName .readOne := by
  intro h
  have hl := congrArg (fun s => letters s.toList) h
  rw [hr.letters_readMany, hr.letters_readOne] at hl
  exact (inflects_plural hne).ne hl

private theorem Record.NamedAfter.count_ne_readOne : r.operationName .count ≠ r.operationName .readOne := by
  intro h
  have hl := congrArg (fun s => (letters s.toList).length) h
  rw [hr.letters_count, hr.letters_readOne, List.length_append] at hl
  have hcount : (letters "Count".toList).length = 5 := by decide
  have := (inflects_plural hne).length_le
  omega

/-- A plural is too short to be the name of a mutation, and with `Count` after it has an `O` too many. -/
private theorem Record.NamedAfter.query_ne_mutation {op op' : Operation} (hq : op.isMutation = false)
    (hm : op'.isMutation = true) : r.operationName op ≠ r.operationName op' := by
  intro h
  have hl := congrArg (fun s => letters s.toList) h
  rw [hr.letters_mutation hm] at hl
  have hlen := congrArg List.length hl
  obtain ⟨hsix, hnone⟩ := letters_key_of_isMutation hm
  obtain ⟨-, hmore⟩ := (inflects_plural hne).length_le
  rw [List.length_append, hsix] at hlen
  cases op with
  | readMany =>
    rw [hr.letters_readMany] at hlen
    omega
  | readOne =>
    rw [hr.letters_readOne] at hlen
    omega
  | count =>
    rw [hr.letters_count] at hl hlen
    have hfive : (letters "Count".toList).length = 5 := by decide
    have hone : (letters "Count".toList).count 'O' = 1 := by decide
    rw [List.length_append, hfive] at hlen
    have hcount := congrArg (List.count 'O') hl
    rw [List.count_append, List.count_append, hone, hnone] at hcount
    have := (inflects_plural hne).count_eq (by omega)
    omega
  | create | update | delete => cases hq

private theorem Record.NamedAfter.query_inj {op op' : Operation} (hq : op.isMutation = false)
    (hq' : op'.isMutation = false) (h : r.operationName op = r.operationName op') : op = op' := by
  have hcount : r.operationName .readMany ≠ r.operationName .count := by
    intro h
    have hl := congrArg String.length h
    rw [Record.operationName, Record.operationName, String.length_append] at hl
    have hfive : "Count".length = 5 := by decide
    omega
  have hmany := hr.readMany_ne_readOne hne
  have hone := hr.count_ne_readOne hne
  cases op <;> cases op' <;> simp_all [Operation.isMutation]

private theorem Record.NamedAfter.operationName_inj {op op' : Operation}
    (h : r.operationName op = r.operationName op') : op = op' := by
  cases hm : op.isMutation <;> cases hm' : op'.isMutation
  · exact hr.query_inj hne hm hm' h
  · exact absurd h (hr.query_ne_mutation hne hm hm')
  · exact absurd h.symm (hr.query_ne_mutation hne hm' hm)
  · exact (mutation_inj hm hm' h).1

end

/-- The six operations of a model have six names, whatever the model is called. -/
theorem Record.operationName_injective {name : String} (hne : name ≠ "") (fields : List Field) :
    Function.Injective (Record.ofFields name fields).operationName :=
  fun _ _ h => (namedAfter_ofFields name fields).operationName_inj hne h

/-- In camel case the plural of `ANALYSIS` is cut into other words than the singular. -/
theorem Record.operationName_injective_analysis :
    "ANALYSIS" ≠ "" ∧ Function.Injective (Record.ofFields "ANALYSIS" []).operationName ∧
      Operation.all.map (Record.ofFields "ANALYSIS" []).operationName =
        ["analySes", "analySesCount", "analysis", "createANALYSIS", "updateANALYSIS", "deleteANALYSIS"] :=
  ⟨by decide, Record.operationName_injective (by decide) [], by decide⟩

/-! ### The names of all models -/

/-- The names of the queries of a model. -/
def Record.queryNames (r : Record) : List String :=
  (Operation.all.filter fun op => !op.isMutation).map r.operationName

/-- The names of the mutations of a model. -/
def Record.mutationNames (r : Record) : List String := (Operation.all.filter Operation.isMutation).map r.operationName

private theorem mem_queryNames {r : Record} {name : String} :
    name ∈ r.queryNames ↔ ∃ op : Operation, op.isMutation = false ∧ r.operationName op = name := by
  simp [Record.queryNames, List.mem_map, List.mem_filter, Operation.mem_all]

private theorem mem_mutationNames {r : Record} {name : String} :
    name ∈ r.mutationNames ↔ ∃ op : Operation, op.isMutation = true ∧ r.operationName op = name := by
  simp [Record.mutationNames, List.mem_map, List.mem_filter, Operation.mem_all]

private theorem lookup_kebabName_of_findCollision {seen : List (String × String)} {rs : List Record}
    (h : findCollision seen rs = none) : ∀ r ∈ rs, seen.lookup r.kebabName = none := by
  induction rs generalizing seen with
  | nil => simp
  | cons r rs ih =>
    rw [findCollision] at h
    split at h
    · cases h
    · rename_i hr
      refine List.forall_mem_cons.2 ⟨hr, fun r' hr' => ?_⟩
      have := ih h r' hr'
      rw [List.lookup_cons] at this
      split at this
      · cases this
      · exact this

theorem nodup_kebabName_of_findCollision {seen : List (String × String)} {rs : List Record}
    (h : findCollision seen rs = none) : (rs.map Record.kebabName).Nodup := by
  induction rs generalizing seen with
  | nil => exact List.nodup_nil
  | cons r rs ih =>
    rw [findCollision] at h
    split at h
    · cases h
    · rw [List.map_cons, List.nodup_cons]
      refine ⟨fun hmem => ?_, ih h⟩
      obtain ⟨r', hr', heq⟩ := List.mem_map.1 hmem
      have := lookup_kebabName_of_findCollision h r' hr'
      rw [heq, List.lookup_cons_self] at this
      cases this

/-- The models of a schema have distinct names. -/
private theorem nodup_name_of_models {s : Settings} {read : SchemaReader} {source : String} {rs : List Record}
    (h : models s read source = .ok rs) : (rs.map Record.name).Nodup := by
  have hkebab := nodup_kebabName_of_findCollision (findCollision_of_models h)
  have hmap : rs.map Record.kebabName = (rs.map Record.name).map kebabCase := by
    rw [List.map_map]
    rfl
  rw [hmap] at hkebab
  exact hkebab.of_map _

/-- A record of a schema is named after its model, which has a name. -/
private theorem namedAfter_of_mem_models {s : Settings} {source : String} {rs : List Record}
    (h : models s Structure.ofText source = .ok rs) {r : Record} (hr : r ∈ rs) : r.NamedAfter r.name ∧ r.name ≠ "" := by
  obtain ⟨st, m, hst, hm, rfl⟩ := exists_decl_of_mem_models h hr
  refine ⟨⟨rfl, rfl, rfl⟩, fun hempty => ?_⟩
  have hname : m.name = "" := hempty
  exact (name_of_mem_models hst hm).1 (by rw [hname]; rfl)

/-- Mutations of models with distinct names have distinct names. -/
private theorem nodup_mutationNames {rs : List Record} (h : (rs.map Record.name).Nodup) :
    (rs.flatMap Record.mutationNames).Nodup := by
  rw [List.nodup_flatMap]
  constructor
  · intro r _
    refine List.Nodup.map_on (fun op hop op' hop' heq => ?_) (by decide)
    exact (mutation_inj (List.mem_filter.1 hop).2 (List.mem_filter.1 hop').2 heq).1
  · refine (List.pairwise_map.1 h).imp fun {r r'} hne => ?_
    intro name hr hr'
    obtain ⟨op, hop, rfl⟩ := mem_mutationNames.1 hr
    obtain ⟨op', hop', heq⟩ := mem_mutationNames.1 hr'
    exact hne (mutation_inj hop' hop heq).2.symm

private theorem Record.NamedAfter.nodup_queryNames {r : Record} {name : String} (hr : r.NamedAfter name)
    (hne : name ≠ "") : r.queryNames.Nodup :=
  List.Nodup.map_on (fun _ _ _ _ heq => hr.operationName_inj hne heq) (by decide)

/-- A plural is no plural with `Count` after it, not even of another model. -/
private theorem Record.NamedAfter.readMany_ne_count {r r' : Record} {name name' : String} (hr : r.NamedAfter name)
    (hne : name ≠ "") (hr' : r'.NamedAfter name') : r.operationName .readMany ≠ r'.operationName .count := by
  intro h
  have hl := congrArg (fun s => letters s.toList) h
  rw [hr.letters_readMany, hr'.letters_count] at hl
  exact (inflects_plural hne).not_count ⟨_, hl.symm⟩

/-- The queries of one model take no name of another in any of the ways in which they could. -/
structure Record.Apart (r r' : Record) : Prop where
  readOne : r.operationName .readOne ≠ r'.operationName .readOne
  readMany : r.operationName .readMany ≠ r'.operationName .readMany
  readOne_readMany : r.operationName .readOne ≠ r'.operationName .readMany
  readOne_count : r.operationName .readOne ≠ r'.operationName .count

private theorem Record.apart_of_disjoint {r r' : Record} (h : List.Disjoint r.queryNames r'.queryNames) :
    r.Apart r' := by
  have hne : ∀ op op' : Operation, op.isMutation = false → op'.isMutation = false →
      r.operationName op ≠ r'.operationName op' := by
    intro op op' hop hop' heq
    exact h (mem_queryNames.2 ⟨op, hop, rfl⟩) (mem_queryNames.2 ⟨op', hop', heq.symm⟩)
  exact ⟨hne _ _ rfl rfl, hne _ _ rfl rfl, hne _ _ rfl rfl, hne _ _ rfl rfl⟩

private theorem Record.disjoint_queryNames {r r' : Record} {name name' : String} (hr : r.NamedAfter name)
    (hne : name ≠ "") (hr' : r'.NamedAfter name') (hne' : name' ≠ "") (h : r.Apart r') (h' : r'.Apart r) :
    List.Disjoint r.queryNames r'.queryNames := by
  intro query hq hq'
  obtain ⟨op, hop, rfl⟩ := mem_queryNames.1 hq
  obtain ⟨op', hop', heq⟩ := mem_queryNames.1 hq'
  cases op with
  | create | update | delete => cases hop
  | readMany =>
    cases op' with
    | create | update | delete => cases hop'
    | readMany => exact h.readMany heq.symm
    | count => exact hr.readMany_ne_count hne hr' heq.symm
    | readOne => exact h'.readOne_readMany heq
  | count =>
    cases op' with
    | create | update | delete => cases hop'
    | readMany => exact hr'.readMany_ne_count hne' hr heq
    | count => exact h'.readMany (String.append_left_inj _ |>.1 heq)
    | readOne => exact h'.readOne_count heq
  | readOne =>
    cases op' with
    | create | update | delete => cases hop'
    | readMany => exact h.readOne_readMany heq.symm
    | count => exact h.readOne_count heq.symm
    | readOne => exact h.readOne heq.symm

/-- The names of the mutations of a schema are distinct, and so are the names of the queries of each model.  The names of
all queries are distinct just if no model has the singular or the plural of another, no singular is the plural of
another model, and no singular is such a plural with `Count` after it; a plural is never a plural with `Count` after it. -/
theorem operationNames_of_models {s : Settings} {source : String} {rs : List Record}
    (h : models s Structure.ofText source = .ok rs) :
    (rs.flatMap Record.mutationNames).Nodup ∧ (∀ r ∈ rs, r.queryNames.Nodup) ∧
    (∀ r ∈ rs, ∀ r' ∈ rs, r.operationName .readMany ≠ r'.operationName .count) ∧
    ((rs.flatMap Record.queryNames).Nodup ↔ ∀ r ∈ rs, ∀ r' ∈ rs, r ≠ r' → r.Apart r') := by
  have hnames := nodup_name_of_models h
  have hqueries : ∀ r ∈ rs, r.queryNames.Nodup := by
    intro r hr
    obtain ⟨hnamed, hne⟩ := namedAfter_of_mem_models h hr
    exact hnamed.nodup_queryNames hne
  refine ⟨nodup_mutationNames hnames, hqueries, ?_, ?_⟩
  · intro r hr r' hr'
    obtain ⟨hnamed, hne⟩ := namedAfter_of_mem_models h hr
    exact hnamed.readMany_ne_count hne (namedAfter_of_mem_models h hr').1
  · rw [List.nodup_flatMap]
    constructor
    · rintro ⟨-, hpairs⟩ r hr r' hr' hne
      have : Std.Symm (Function.onFun List.Disjoint Record.queryNames) := ⟨fun _ _ hd => List.disjoint_symm hd⟩
      exact Record.apart_of_disjoint (hpairs.forall hr hr' hne)
    · intro hapart
      refine ⟨hqueries, hnames.of_map.pairwise_of_forall_ne fun r hr r' hr' hne => ?_⟩
      obtain ⟨hnamed, hr₀⟩ := namedAfter_of_mem_models h hr
      obtain ⟨hnamed', hr₀'⟩ := namedAfter_of_mem_models h hr'
      exact Record.disjoint_queryNames hnamed hr₀ hnamed' hr₀' (hapart r hr r' hr' hne) (hapart r' hr' r hr hne.symm)

/-- Models of one field each. -/
def namedModels (names : List String) : String :=
  String.join (names.map fun name => "model " ++ name ++ " \x7b id Int @id \x7d\n")

/-- Models that meet in every way in which names of queries can meet. -/
theorem operationNames_of_models_meeting : ∃ rs,
    models {} Structure.ofText (namedModels ["Tag", "Tags", "TagsCount", "Key1", "Key_1"]) = .ok rs ∧
    (rs.flatMap Record.mutationNames).Nodup ∧ (∀ r ∈ rs, r.queryNames.Nodup) ∧
    rs.map Record.queryNames = [
      ["tags", "tagsCount", "tag"], ["tagsList", "tagsListCount", "tags"], ["tagsCounts", "tagsCountsCount", "tagsCount"],
      ["key1s", "key1sCount", "key1"], ["key1s", "key1sCount", "key1"]] := by
  have hnames : (models {} Structure.ofText (namedModels ["Tag", "Tags", "TagsCount", "Key1", "Key_1"])).toOption.map
      (List.map Record.queryNames) = some [
      ["tags", "tagsCount", "tag"], ["tagsList", "tagsListCount", "tags"], ["tagsCounts", "tagsCountsCount", "tagsCount"],
      ["key1s", "key1sCount", "key1"], ["key1s", "key1sCount", "key1"]] := by decide +kernel
  cases hm : models {} Structure.ofText (namedModels ["Tag", "Tags", "TagsCount", "Key1", "Key_1"]) with
  | error e =>
    rw [hm] at hnames
    cases hnames
  | ok rs =>
    rw [hm] at hnames
    obtain ⟨hmutations, hqueries, -⟩ := operationNames_of_models hm
    exact ⟨rs, rfl, hmutations, hqueries, Option.some.inj hnames⟩

/-- The list of the model `User` and the single record of the model `Users` would be one query. -/
theorem queryNames_userAndUsers : ∃ rs, models {} Structure.ofText (namedModels ["User", "Users"]) = .ok rs ∧
    ¬ (rs.flatMap Record.queryNames).Nodup := by
  have hnames : (models {} Structure.ofText (namedModels ["User", "Users"])).toOption.map
      (List.flatMap Record.queryNames) =
      some ["users", "usersCount", "user", "usersList", "usersListCount", "users"] := by decide +kernel
  cases hm : models {} Structure.ofText (namedModels ["User", "Users"]) with
  | error e =>
    rw [hm] at hnames
    cases hnames
  | ok rs =>
    rw [hm] at hnames
    have hqueries : rs.flatMap Record.queryNames =
        ["users", "usersCount", "user", "usersList", "usersListCount", "users"] := Option.some.inj hnames
    refine ⟨rs, rfl, ?_⟩
    rw [hqueries]
    decide

end GuardedCrud
