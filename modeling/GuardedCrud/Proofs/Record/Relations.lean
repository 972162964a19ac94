import GuardedCrud.Proofs.FragmentedSchemas
import GuardedCrud.Proofs.Schema.WrittenLists

/-!
# Relations of records

What the relations of a schema become in its records, in terms of the tokens of its `@relation` attributes
(`relations_of_ofText`): which fields are relations, which fields hold the key and which it refers to, which fields are
read-only, and that the two sides of a relation without a name of its own have one name.

The arguments go through a text on the way, and that keeps the names in a list.  But a comment before the colon of an
argument hides its name, and one that stands for an argument is an argument without a name (`IsObscured`); such comments
change the relation (`relations_of_hiddenKey`).
-/

namespace GuardedCrud

open GuardedCrud.Schema

/-! ### What is written about a relation -/

/-- The first `@relation` attribute of a field. -/
def Schema.WrittenField.relation? (f : WrittenField) : Option WrittenAttribute :=
  f.attributes.find? fun a => a.name == "relation"

/-- The names in the first argument of a name; none where it is not written. -/
def Schema.WrittenField.listed (f : WrittenField) (name : String) : List String :=
  ((f.relation?.bind fun a => a.value? name).map identifiers).getD []

/-- The relation has a name of its own: a `name:` argument, or one without a name. -/
def Schema.WrittenField.NamesRelation (f : WrittenField) : Prop :=
  ∃ a ∈ f.relation?, ∃ arg ∈ a.args, withoutDocs arg ≠ [] ∧
    ∀ name value, namedValue? arg = some (name, value) → name = "name"

/-- The values of `fields:` and `references:` are lists of names. -/
def Schema.WrittenField.ListsNames (f : WrittenField) : Prop :=
  ∀ a ∈ f.relation?, ∀ arg ∈ a.args, ∀ name value, namedValue? arg = some (name, value) →
    name = "fields" ∨ name = "references" → IsNameList value

/-- No comment hides an argument. -/
def Schema.WrittenField.ShowsArguments (f : WrittenField) : Prop :=
  ∀ a ∈ f.relation?, ∀ arg ∈ a.args, ¬ IsObscured arg

/-- The field of a record says about relations what is written in the field `f` of the model `w`. -/
structure Field.RelatesAs (ws : List WrittenModel) (w : WrittenModel) (f : WrittenField) (x : Field) : Prop where
  name : x.name = f.name
  type : x.type = f.type
  relation_iff : x.relation.isSome = true ↔ ∃ w' ∈ ws, w'.name = f.type
  object : x.relation.isSome = true → x.kind = .object
  lists : f.ListsNames → f.ShowsArguments →
    ∀ r ∈ x.relation, r.fromFields = f.listed "fields" ∧ r.toFields = f.listed "references"
  readOnly : (∀ g ∈ w.fields, g.ListsNames ∧ g.ShowsArguments) →
    (x.isReadOnly = true ↔ ∃ g ∈ w.fields, f.name ∈ g.listed "fields")
  unnamed : f.ShowsArguments → ¬ f.NamesRelation →
    ∀ r ∈ x.relation, r.name = defaultRelationName w.name f.type

/-- The record says about relations what is written in the model `w`, field by field. -/
structure Record.RelatesAs (ws : List WrittenModel) (w : WrittenModel) (r : Record) : Prop where
  name : r.name = w.name
  fields : List.Forall₂ (Field.RelatesAs ws w) w.fields r.fields

/-! ### One attribute -/

section

variable {f : WrittenField} {d : FieldDecl}

private theorem Schema.FieldDecl.Spells.attribute?_eq (h : d.Spells f) :
    d.attribute? "relation" = f.relation?.map WrittenAttribute.spelled := by
  rw [FieldDecl.attribute?, h.attributes, List.find?_map]
  rfl

/-- The names in the text of an argument are the names in its tokens. -/
private theorem elements_find? {args : List (List Token)} {key : String}
    (hlists : ∀ arg ∈ args, ∀ value, namedValue? arg = some (key, value) → IsNameList value)
    (hshows : ∀ arg ∈ args, ¬ IsObscured arg)
    (hnames : ∀ arg ∈ args, ∀ name, .ident name ∈ arg → IsNameText name) :
    ((args.map Argument.ofTokens).find? fun x => x.name == some key).map Argument.elements =
      ((args.filterMap namedValue?).lookup key).map identifiers := by
  induction args with
  | nil => rfl
  | cons arg args ih =>
    have hmore := ih (fun arg h => hlists arg (by simp [h])) (fun arg h => hshows arg (by simp [h]))
      fun arg h => hnames arg (by simp [h])
    rw [List.map_cons, List.find?_cons, List.filterMap_cons]
    cases hvalue : namedValue? arg with
    | none =>
      rw [ofTokens_name_of_none hvalue]
      exact hmore
    | some named =>
      obtain ⟨name, value⟩ := named
      rw [ofTokens_of_namedValue? hvalue (hshows arg (by simp))]
      dsimp only
      rw [List.lookup_cons]
      by_cases hname : name = key
      · subst hname
        have hids : ∀ name ∈ identifiers value, IsNameText name := by
          intro n hn
          exact hnames arg (by simp) n (ident_mem_of_namedValue? hvalue hn)
        simp only [beq_self_eq_true, Option.map_some]
        rw [elements_spell (hlists arg (by simp) value hvalue) hids]
      · have hne : (some name == some key) = false := by simpa using hname
        have hne' : (key == name) = false := by simpa using Ne.symm hname
        simp only [hne, hne']
        exact hmore

/-- The names that the structure gives for an argument are those written in it. -/
private theorem namedElements_eq (h : d.Spells f) (hlists : f.ListsNames) (hshows : f.ShowsArguments)
    (hnames : ∀ name, StandsIn (.ident name) f.attributes → IsNameText name) {key : String}
    (hkey : key = "fields" ∨ key = "references") : namedElements (d.attribute? "relation") key = f.listed key := by
  rw [h.attribute?_eq, WrittenField.listed]
  cases ha : f.relation? with
  | none => rfl
  | some a =>
    have hmem : a ∈ f.attributes := List.mem_of_find?_eq_some ha
    have helements : (a.spelled.named? key).map Argument.elements = (a.value? key).map identifiers :=
      elements_find? (fun arg harg value hv => hlists a ha arg harg key value hv hkey) (hshows a ha)
        fun arg harg name ht => hnames name ⟨a, hmem, arg, harg, ht⟩
    rw [namedElements, Option.map_some, Option.bind_some, Option.bind_some, ← helements]
    cases a.spelled.named? key <;> rfl

/-- A relation without a name of its own is named after the two models. -/
private theorem name_of_not_namesRelation (h : d.Spells f) (hshows : f.ShowsArguments) (hname : ¬ f.NamesRelation)
    (model : String) : (Relation.ofDecl model d).name = defaultRelationName model f.type := by
  have hnone : ((d.attribute? "relation").bind fun a => (a.named? "name").or a.positional?) = none := by
    rw [h.attribute?_eq]
    cases ha : f.relation? with
    | none => rfl
    | some a =>
      -- every argument has a name, which is another one
      have hother : ∀ x ∈ a.spelled.args, ∃ name, x.name = some name ∧ name ≠ "name" := by
        intro x hx
        obtain ⟨arg, harg, rfl⟩ := List.mem_map.1 hx
        have hplain := hshows a ha arg harg
        by_contra hno
        refine hname ⟨a, ha, arg, harg, fun hdocs => hplain (Or.inl hdocs), fun name value hv => ?_⟩
        by_contra hne
        exact hno ⟨name, by rw [ofTokens_of_namedValue? hv hplain], hne⟩
      rw [Option.map_some, Option.bind_some, Option.or_eq_none_iff]
      constructor
      · apply List.find?_eq_none.2
        intro x hx
        obtain ⟨name, hn, hne⟩ := hother x hx
        simpa [hn] using hne
      · apply List.find?_eq_none.2
        intro x hx
        obtain ⟨name, hn, -⟩ := hother x hx
        simp [hn]
  rw [Relation.ofDecl]
  dsimp only
  rw [hnone, h.type]

end

/-- Both sides of a relation give it the same name. -/
private theorem defaultRelationName_comm (a b : String) : defaultRelationName a b = defaultRelationName b a := by
  unfold defaultRelationName
  by_cases hab : a ≤ b
  · by_cases hba : b ≤ a
    · rw [String.le_antisymm hab hba]
    · rw [if_pos hab, if_neg hba]
  · have hba : b ≤ a := (String.le_total a b).resolve_left hab
    rw [if_neg hab, if_pos hba]

/-! ### Records -/

section

variable {s : Structure} {ws : List WrittenModel}

private theorem mem_foreignKeys {ds : List FieldDecl} {fs : List WrittenField} (h : List.Forall₂ FieldDecl.Spells ds fs)
    (hfs : ∀ g ∈ fs, g.ListsNames ∧ g.ShowsArguments)
    (hnames : ∀ g ∈ fs, ∀ name, StandsIn (.ident name) g.attributes → IsNameText name) (name : String) :
    name ∈ foreignKeys ds ↔ ∃ g ∈ fs, name ∈ g.listed "fields" := by
  induction h with
  | nil => simp [foreignKeys]
  | @cons d f ds fs hd _ ih =>
    obtain ⟨hlists, hshows⟩ := hfs f (by simp)
    have hmore := ih (fun g hg => hfs g (by simp [hg])) fun g hg => hnames g (by simp [hg])
    have hcons : foreignKeys (d :: ds) = f.listed "fields" ++ foreignKeys ds := by
      rw [foreignKeys, List.flatMap_cons, namedElements_eq hd hlists hshows (hnames f (by simp)) (Or.inl rfl)]
      rfl
    rw [hcons, List.mem_append, hmore]
    simp

private theorem exists_model_iff {ms : List ModelDecl} (h : List.Forall₂ ModelDecl.Spells ms ws) (type : String) :
    (∃ m ∈ ms, m.name = type) ↔ ∃ w ∈ ws, w.name = type := by
  induction h with
  | nil => simp
  | cons hm _ ih => simp only [List.exists_mem_cons_iff, ih, hm.name]

private theorem relatesAs_ofDecl (h : List.Forall₂ ModelDecl.Spells s.models ws) {m : ModelDecl} {w : WrittenModel}
    (hm : m.Spells w) (hnames : ∀ g ∈ w.fields, ∀ name, StandsIn (.ident name) g.attributes → IsNameText name)
    {d : FieldDecl} {f : WrittenField} (hd : d.Spells f) (hf : f ∈ w.fields) :
    Field.RelatesAs ws w f (Field.ofDecl s m d) := by
  have hobject : FieldKind.ofType s d.type = .object ↔ ∃ w' ∈ ws, w'.name = f.type := by
    rw [ofType_eq_object_iff, exists_model_iff h, hd.type]
  have hrelation : ∀ r ∈ (Field.ofDecl s m d).relation,
      FieldKind.ofType s d.type = .object ∧ r = Relation.ofDecl m.name d := by
    intro r hr
    by_cases hk : FieldKind.ofType s d.type = .object
    · simp only [Field.ofDecl, hk, if_true, Option.mem_def, Option.some.injEq] at hr
      exact ⟨hk, hr.symm⟩
    · simp [Field.ofDecl, hk] at hr
  constructor
  · exact hd.name
  · exact hd.type
  · rw [← hobject]
    by_cases hk : FieldKind.ofType s d.type = .object <;> simp [Field.ofDecl, hk]
  · intro hsome
    obtain ⟨r, hr⟩ := Option.isSome_iff_exists.1 hsome
    exact (hrelation r hr).1
  · intro hlists hshows r hr
    obtain ⟨-, rfl⟩ := hrelation r hr
    exact ⟨namedElements_eq hd hlists hshows (hnames f hf) (Or.inl rfl),
      namedElements_eq hd hlists hshows (hnames f hf) (Or.inr rfl)⟩
  · intro hfields
    rw [← hd.name, ← mem_foreignKeys hm.fields hfields hnames]
    exact List.contains_iff_mem
  · intro hshows hname r hr
    obtain ⟨-, rfl⟩ := hrelation r hr
    rw [name_of_not_namesRelation hd hshows hname, hm.name]

/-- The models with fields become records, in their order. -/
private theorem forall₂_ofStructure {ms : List ModelDecl} {vs : List WrittenModel}
    (h : List.Forall₂ ModelDecl.Spells ms vs) {R : WrittenModel → Record → Prop}
    (hR : ∀ m, ∀ v ∈ vs, m.Spells v → R v (Record.ofDecl s m)) :
    List.Forall₂ R (vs.filter fun w => !w.fields.isEmpty) (ms.filterMap (Record.ofDecl? s)) := by
  induction h with
  | nil => exact .nil
  | @cons m v ms vs hm _ ih =>
    have hmore := ih fun m v hv => hR m v (by simp [hv])
    have hempty : m.fields.isEmpty = v.fields.isEmpty := by
      have hlength := hm.fields.length_eq
      cases hfields : m.fields <;> cases hfields' : v.fields <;> simp_all
    rw [List.filter_cons, List.filterMap_cons, Record.ofDecl?, hempty]
    cases v.fields.isEmpty with
    | true => exact hmore
    | false => exact .cons (hR m v (by simp) hm) hmore

private theorem record_relatesAs_ofDecl (h : List.Forall₂ ModelDecl.Spells s.models ws) {m : ModelDecl}
    {w : WrittenModel} (hm : m.Spells w)
    (hnames : ∀ g ∈ w.fields, ∀ name, StandsIn (.ident name) g.attributes → IsNameText name) :
    Record.RelatesAs ws w (Record.ofDecl s m) := by
  refine ⟨hm.name, ?_⟩
  have hfields : ∀ {ds : List FieldDecl} {fs : List WrittenField}, List.Forall₂ FieldDecl.Spells ds fs → fs ⊆ w.fields →
      List.Forall₂ (Field.RelatesAs ws w) fs (ds.map (Field.ofDecl s m)) := by
    intro ds fs hds hsub
    induction hds with
    | nil => exact .nil
    | cons hd _ ih =>
      exact .cons (relatesAs_ofDecl h hm hnames hd (hsub (by simp))) (ih fun f hf => hsub (by simp [hf]))
  exact hfields hm.fields (List.Subset.refl _)

end

/-- The fields of the records, each with the model and the field that are written. -/
def fieldPairs (ws : List WrittenModel) (rs : List Record) : List (WrittenModel × WrittenField × Field) :=
  ((ws.filter fun w => !w.fields.isEmpty).zip rs).flatMap fun (w, r) =>
    (w.fields.zip r.fields).map fun (f, x) => (w, f, x)

private theorem mem_fieldPairs {ws : List WrittenModel} {rs : List Record} {w : WrittenModel} {r : Record}
    {f : WrittenField} {x : Field} (hr : (w, r) ∈ (ws.filter fun w => !w.fields.isEmpty).zip rs)
    (hx : (f, x) ∈ w.fields.zip r.fields) :
    (w, f, x) ∈ fieldPairs ws rs := List.mem_flatMap.2 ⟨(w, r), hr, List.mem_map.2 ⟨(f, x), hx, rfl⟩⟩

private theorem relatesAs_of_mem_fieldPairs {ws : List WrittenModel} {rs : List Record}
    (h : List.Forall₂ (Record.RelatesAs ws) (ws.filter fun w => !w.fields.isEmpty) rs) {w : WrittenModel}
    {f : WrittenField} {x : Field} (hx : (w, f, x) ∈ fieldPairs ws rs) : w ∈ ws ∧ Field.RelatesAs ws w f x := by
  obtain ⟨⟨w', r⟩, hr, hmap⟩ := List.mem_flatMap.1 hx
  obtain ⟨⟨f', x'⟩, hfx, heq⟩ := List.mem_map.1 hmap
  cases heq
  have hrecord := List.forall₂_zip h hr
  exact ⟨(List.mem_filter.1 (List.of_mem_zip hr).1).1, List.forall₂_zip hrecord.fields hfx⟩

/-- The relations of the records of an accepted schema are those that it writes: a field is a relation just if its type
names a model, it holds and refers to the fields that are listed, the fields that some field of a model lists are its
read-only fields, and two fields between two models that give the relation no name give it the same one.  The values of
`fields:` and `references:` must be lists of names for that, and no comment may hide an argument. -/
theorem relations_of_ofText {source : String} {rs : List Record}
    (h : Record.ofText? Structure.ofText source = .ok rs) :
    ∃ ws, (∀ ws', WritesModels source ws' ↔ ws' = ws) ∧
      List.Forall₂ (Record.RelatesAs ws) (ws.filter fun w => !w.fields.isEmpty) rs ∧
      ∀ w f x, (w, f, x) ∈ fieldPairs ws rs → ∀ w' f' x', (w', f', x') ∈ fieldPairs ws rs →
        f.type = w'.name → f'.type = w.name → f.ShowsArguments → f'.ShowsArguments →
          ¬ f.NamesRelation → ¬ f'.NamesRelation →
            ∃ r r', x.relation = some r ∧ x'.relation = some r' ∧ r.name = r'.name := by
  obtain ⟨s, hs, rfl⟩ := exists_of_map_eq_ok h
  obtain ⟨ws, hws, hspells⟩ := exists_writesModels hs
  have hrecords : List.Forall₂ (Record.RelatesAs ws) (ws.filter fun w => !w.fields.isEmpty) (Record.ofStructure s) :=
    forall₂_ofStructure hspells fun m w hw hm =>
      record_relatesAs_ofDecl hspells hm fun f hf name hname => hws.name_chars hs hw hf hname
  refine ⟨ws, fun ws' => ⟨fun h => h.unique hws, fun h => h ▸ hws⟩, hrecords, ?_⟩
  intro w f x hx w' f' x' hx' htype htype' hshows hshows' hname hname'
  obtain ⟨hw, hfx⟩ := relatesAs_of_mem_fieldPairs hrecords hx
  obtain ⟨hw', hfx'⟩ := relatesAs_of_mem_fieldPairs hrecords hx'
  obtain ⟨r, hr⟩ := Option.isSome_iff_exists.1 (hfx.relation_iff.2 ⟨w', hw', htype.symm⟩)
  obtain ⟨r', hr'⟩ := Option.isSome_iff_exists.1 (hfx'.relation_iff.2 ⟨w, hw, htype'.symm⟩)
  refine ⟨r, r', hr, hr', ?_⟩
  rw [hfx.unnamed hshows hname r hr, hfx'.unnamed hshows' hname' r' hr', htype, htype', defaultRelationName_comm]

/-! ### Schemas with relations -/

/-- The lines of two relations.  A comment stands in front of the arguments of the second one. -/
def linkedLines : List String := [
  "model User \x7b posts Post[] \x7d\n",
  "model Post \x7b author User @relation(",
  "fields: [key], references: [id]) ",
  "key Int notes Note[] \x7d\n",
  "model Note \x7b post Post @relation(/// the key\n",
  "fields: [key], references: [id]) ",
  "key Int \x7d\n"]

/-- A schema with two relations. -/
def linkedNotes : String := String.join linkedLines

/-- The tokens of `fields: [key]`. -/
def keyArgument : List Token :=
  [.ident "fields", .mark .colon, .opening .square, .ident "key", .closing .square]

/-- The tokens of `references: [id]`. -/
def idArgument : List Token := [.ident "references", .mark .colon, .opening .square, .ident "id", .closing .square]

def userPosts : WrittenField := ⟨"posts", "Post", []⟩

def postAuthor : WrittenField := ⟨"author", "User", [⟨"relation", [keyArgument, idArgument]⟩]⟩

def notePost : WrittenField := ⟨"post", "Post", [⟨"relation", [.doc "the key" :: keyArgument, idArgument]⟩]⟩

def postKey : WrittenField := ⟨"key", "Int", []⟩

def linkedUser : WrittenModel := ⟨"User", [userPosts]⟩

def linkedPost : WrittenModel := ⟨"Post", [postAuthor, postKey, ⟨"notes", "Note", []⟩]⟩

def linkedNote : WrittenModel := ⟨"Note", [notePost, ⟨"key", "Int", []⟩]⟩

/-- The models of `linkedNotes`. -/
def linkedModels : List WrittenModel := [linkedUser, linkedPost, linkedNote]

/-- The tokens on one line. -/
def placedOn (line : Nat) (ts : List Token) : List Placed := ts.map fun t => ⟨t, line⟩

/-- The tokens of a field whose `@relation` attribute begins with `lead`, on one line and the rest of them on another. -/
def relationTokens (line line' : Nat) (field type : String) (lead : List Token) : List Placed :=
  placedOn line [.ident field, .ident type, .mark .at, .ident "relation", .opening .paren] ++
    (placedOn line lead ++ placedOn line' (keyArgument ++ .mark .comma :: idArgument) ++ placedOn line' [.closing .paren])

/-- The blocks of `linkedNotes`. -/
def linkedBlocks : List Block := [
  ⟨.model, ⟨.ident "model", 1⟩, "User", 1, 1,
    placedOn 1 [.ident "posts", .ident "Post", .opening .square, .closing .square], 1⟩,
  ⟨.model, ⟨.ident "model", 2⟩, "Post", 2, 2, relationTokens 2 2 "author" "User" [] ++
    placedOn 2 [.ident "key", .ident "Int", .ident "notes", .ident "Note", .opening .square, .closing .square], 2⟩,
  ⟨.model, ⟨.ident "model", 3⟩, "Note", 3, 3, relationTokens 3 4 "post" "Post" [.doc "the key"] ++
    placedOn 4 [.ident "key", .ident "Int"], 4⟩]

private theorem scan_linkedNotes : scan linkedNotes = .ok (tokensOf (linkedBlocks.map .block)) := by
  rw [scan, linkedNotes, String.toList_join]
  decide +kernel

private theorem map_token_placedOn (line : Nat) (ts : List Token) : (placedOn line ts).map (·.token) = ts := by
  rw [placedOn, List.map_map]
  exact List.map_id ts

private theorem writesDetails_relation (line line' : Nat) (field type : String) (lead : List Token)
    (hlead : countOpen 0 lead = some 0) (hcomma : .mark .comma ∉ lead) :
    ∃ ts, relationTokens line line' field type lead = ⟨.ident field, line⟩ :: ts ∧
      WritesDetails ts type [⟨"relation", [lead ++ keyArgument, idArgument]⟩] := by
  have hfirst : IsOneArgument (lead ++ keyArgument) := by
    apply IsOneArgument.of_comma_notMem
    · rw [countOpen_append, hlead]
      rfl
    · simp [hcomma, keyArgument]
  have hlast : IsOneArgument idArgument := .of_comma_notMem (by decide) (by decide)
  have hcut : CutsArguments ((placedOn line lead ++ placedOn line' (keyArgument ++ .mark .comma :: idArgument)).map
      (·.token)) [lead ++ keyArgument, idArgument] := by
    have hargs := CutsArguments.cons hfirst (.last (by simp [idArgument]) hlast)
    rw [List.map_append, map_token_placedOn, map_token_placedOn]
    rwa [List.append_assoc] at hargs
  have hattribute : WritesAttribute ([⟨.ident "relation", line⟩] ++ ⟨.opening .paren, line⟩ ::
      (placedOn line lead ++ placedOn line' (keyArgument ++ .mark .comma :: idArgument) ++ [⟨.closing .paren, line'⟩]))
        ⟨"relation", [lead ++ keyArgument, idArgument]⟩ := .mk (.name rfl) (.parens rfl hcut rfl)
  have hattributes : WritesAttributes (⟨.mark .at, line⟩ :: (_ ++ [])) _ := .cons rfl hattribute .nil
  rw [List.append_nil] at hattributes
  exact ⟨_, rfl, .mk (t := ⟨.ident type, line⟩) rfl .none .absent .absent hattributes⟩

private theorem writesDetails_bare (line : Nat) (type : String) : WritesDetails [⟨.ident type, line⟩] type [] :=
  .mk rfl .none .absent .absent .nil

private theorem writesDetails_list (line : Nat) (type : String) :
    WritesDetails [⟨.ident type, line⟩, ⟨.opening .square, line⟩, ⟨.closing .square, line⟩] type [] :=
  .mk rfl .none (.present rfl rfl) .absent .nil

/-- What `linkedNotes` writes. -/
private theorem writesModels_linkedNotes : WritesModels linkedNotes linkedModels := by
  have houtline : outlineOf linkedNotes = some (linkedBlocks.map .block) := by
    rw [outlineOf, scan_linkedNotes]
    decide +kernel
  refine ⟨_, houtline, .cons ⟨rfl, ?_⟩ (.cons ⟨rfl, ?_⟩ (.cons ⟨rfl, ?_⟩ .nil))⟩
  · exact .field rfl (writesDetails_list 1 "Post") .nil
  · obtain ⟨ts, hts, hdetails⟩ := writesDetails_relation 2 2 "author" "User" [] rfl (by simp)
    rw [hts]
    exact .field rfl hdetails (.field rfl (writesDetails_bare 2 "Int") (.field rfl (writesDetails_list 2 "Note") .nil))
  · obtain ⟨ts, hts, hdetails⟩ := writesDetails_relation 3 4 "post" "Post" [.doc "the key"] rfl (by simp)
    rw [hts]
    exact .field rfl hdetails (.field rfl (writesDetails_bare 4 "Int") .nil)

/-- A relation between the arguments of `linkedNotes`, with comments before the first one. -/
def LinksKey (f : WrittenField) (lead : List Token) : Prop :=
  f.relation? = some ⟨"relation", [lead ++ keyArgument, idArgument]⟩ ∧ withoutDocs lead = []

theorem LinksKey.namedValue? {f : WrittenField} {lead : List Token} (h : LinksKey f lead) :
    namedValue? (lead ++ keyArgument) = some ("fields", [.opening .square, .ident "key", .closing .square]) := by
  have hdocs : withoutDocs (lead ++ keyArgument) = withoutDocs lead ++ withoutDocs keyArgument := List.filter_append ..
  rw [Schema.namedValue?, hdocs, h.2]
  rfl

private theorem LinksKey.listsNames {f : WrittenField} {lead : List Token} (h : LinksKey f lead) : f.ListsNames := by
  intro a ha arg harg name value hv _
  rw [h.1] at ha
  cases ha
  rcases List.mem_pair.1 harg with rfl | rfl
  · rw [h.namedValue?] at hv
    cases hv
    exact .mk .last
  · cases hv
    exact .mk .last

private theorem LinksKey.not_namesRelation {f : WrittenField} {lead : List Token} (h : LinksKey f lead) :
    ¬ f.NamesRelation := by
  rintro ⟨a, ha, arg, harg, -, hname⟩
  rw [h.1] at ha
  cases ha
  rcases List.mem_pair.1 harg with rfl | rfl
  · exact absurd (hname _ _ h.namedValue?) (by decide)
  · exact absurd (hname "references" _ rfl) (by decide)

/-- The relation between posts and their authors is as it is written. -/
theorem relations_of_linkedNotes : ∃ rs, Record.ofText? Structure.ofText linkedNotes = .ok rs ∧
    ∃ posts author key, (linkedUser, userPosts, posts) ∈ fieldPairs linkedModels rs ∧
      (linkedPost, postAuthor, author) ∈ fieldPairs linkedModels rs ∧
      (linkedPost, postKey, key) ∈ fieldPairs linkedModels rs ∧
      (∃ r r', posts.relation = some r ∧ author.relation = some r' ∧ r.name = r'.name) ∧
      (∀ r ∈ author.relation, r.fromFields = ["key"] ∧ r.toFields = ["id"]) ∧ key.isReadOnly = true := by
  have hread : (Record.ofText? Structure.ofText linkedNotes).toOption.isSome = true := by
    rw [Record.ofText?, Structure.ofText, scan_linkedNotes]
    decide +kernel
  obtain ⟨rs, hrs⟩ : ∃ rs, Record.ofText? Structure.ofText linkedNotes = .ok rs := by
    cases h : Record.ofText? Structure.ofText linkedNotes with
    | error e => rw [h] at hread; cases hread
    | ok rs => exact ⟨rs, rfl⟩
  obtain ⟨ws, hws, hrecords, hnames⟩ := relations_of_ofText hrs
  obtain rfl := (hws _).1 writesModels_linkedNotes
  -- the three records, and the fields of the first two
  obtain ⟨user, others, huser, hrecords', rfl⟩ := List.forall₂_cons_left_iff.1 hrecords
  obtain ⟨post, rest, hpost, -, rfl⟩ := List.forall₂_cons_left_iff.1 hrecords'
  obtain ⟨posts, _, -, -, huserFields⟩ := List.forall₂_cons_left_iff.1 huser.fields
  obtain ⟨author, _, hauthor, hfields, hpostFields⟩ := List.forall₂_cons_left_iff.1 hpost.fields
  obtain ⟨key, _, hkey, -, rfl⟩ := List.forall₂_cons_left_iff.1 hfields
  have hposts : (linkedUser, userPosts, posts) ∈ fieldPairs linkedModels (user :: post :: rest) :=
    mem_fieldPairs List.mem_cons_self (huserFields ▸ List.mem_cons_self)
  have hauthorPair : (linkedPost, postAuthor, author) ∈ fieldPairs linkedModels (user :: post :: rest) :=
    mem_fieldPairs (List.mem_cons_of_mem _ List.mem_cons_self) (hpostFields ▸ List.mem_cons_self)
  have hkeyPair : (linkedPost, postKey, key) ∈ fieldPairs linkedModels (user :: post :: rest) :=
    mem_fieldPairs (List.mem_cons_of_mem _ List.mem_cons_self)
      (hpostFields ▸ List.mem_cons_of_mem _ List.mem_cons_self)
  have hlinks : LinksKey postAuthor [] := ⟨rfl, rfl⟩
  have hshows : postAuthor.ShowsArguments := by
    intro a ha arg harg
    cases ha
    rcases List.mem_pair.1 harg with rfl | rfl <;> decide
  have hbare : ∀ f : WrittenField, f.attributes = [] → f.ListsNames ∧ f.ShowsArguments ∧ ¬ f.NamesRelation := by
    rintro ⟨name, type, attributes⟩ rfl
    refine ⟨?_, ?_, ?_⟩
    · intro a ha
      cases ha
    · intro a ha
      cases ha
    · rintro ⟨a, ha, -⟩
      cases ha
  have hposts' := hbare userPosts rfl
  refine ⟨_, hrs, posts, author, key, hposts, hauthorPair, hkeyPair, ?_, hauthor.lists hlinks.listsNames hshows, ?_⟩
  · exact hnames _ _ _ hposts _ _ _ hauthorPair rfl rfl hposts'.2.1 hshows hposts'.2.2 hlinks.not_namesRelation
  · apply (hkey.readOnly ?_).2 ⟨postAuthor, List.mem_cons_self, List.mem_cons_self⟩
    intro g hg
    simp only [linkedPost, List.mem_cons, List.not_mem_nil, or_false] at hg
    rcases hg with rfl | rfl | rfl
    · exact ⟨hlinks.listsNames, hshows⟩
    · exact ⟨(hbare _ rfl).1, (hbare _ rfl).2.1⟩
    · exact ⟨(hbare _ rfl).1, (hbare _ rfl).2.1⟩

/-- The comment hides the list of the second relation, so it is taken for the name of the relation. -/
theorem relations_of_hiddenKey :
    WritesModels linkedNotes linkedModels ∧ notePost.ListsNames ∧
      notePost.listed "fields" = ["key"] ∧ ¬ notePost.NamesRelation ∧
      (Record.ofText? Structure.ofText linkedNotes).map (fun rs => rs.map fun r => r.fields.map fun x =>
          (x.isReadOnly, x.relation)) = .ok
        [[(false, some ⟨"PostToUser", [], [], none⟩)],
          [(false, some ⟨"PostToUser", ["key"], ["id"], none⟩), (true, none), (false, some ⟨"NoteToPost", [], [], none⟩)],
          [(false, some ⟨"fields: [key]", [], ["id"], none⟩), (false, none)]] := by
  have hlinks : LinksKey notePost [.doc "the key"] := ⟨rfl, rfl⟩
  refine ⟨writesModels_linkedNotes, hlinks.listsNames, rfl, hlinks.not_namesRelation, ?_⟩
  rw [Record.ofText?, Structure.ofText, scan_linkedNotes]
  decide +kernel

end GuardedCrud
