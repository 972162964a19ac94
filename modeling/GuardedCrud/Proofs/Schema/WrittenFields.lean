import Mathlib.Data.List.Forall2
import GuardedCrud.Proofs.Schema.Brackets
import GuardedCrud.Proofs.Schema.Grammar

/-!
# Fields as they are written

The structure of a schema keeps the values of arguments as texts.  Here are the tokens they come from: the fields of a
model with the tokens of their attributes (`WritesMembers`), for every schema that is accepted.  Unlike the grammar, it
takes any arguments that the reader takes, with brackets that do not fit and comments anywhere.

* every block of fields that is read is written, and what is read says what is written (`exists_of_readFields`);
* so the models of an accepted schema are its written models (`exists_writesModels`).
-/

namespace GuardedCrud.Schema

/-! ### What is written -/

/-- An attribute with the tokens of its arguments. -/
structure WrittenAttribute where
  name : String
  args : List (List Token)
  deriving DecidableEq, Repr

/-- A field with its attributes. -/
structure WrittenField where
  name : String
  type : String
  attributes : List WrittenAttribute
  deriving DecidableEq, Repr

/-- A model with its fields. -/
structure WrittenModel where
  name : String
  fields : List WrittenField
  deriving DecidableEq, Repr

/-- The tokens of one argument: a comma in it stands inside brackets, as the reader counts them. -/
structure IsOneArgument (ts : List Token) : Prop where
  closed : countOpen 0 ts = some 0
  inner : ∀ before after, ts = before ++ .mark .comma :: after → countOpen 0 before ≠ some 0

theorem IsOneArgument.of_comma_notMem {ts : List Token} (h : countOpen 0 ts = some 0) (hcomma : .mark .comma ∉ ts) :
    IsOneArgument ts := by
  refine ⟨h, fun before after hts => ?_⟩
  exact absurd (by rw [hts]; simp) hcomma

/-- Arguments between commas.  Nothing behind the last comma is no argument, and nothing elsewhere is one. -/
inductive CutsArguments : List Token → List (List Token) → Prop
  | nil : CutsArguments [] []
  | last {ts : List Token} (hne : ts ≠ []) (h : IsOneArgument ts) : CutsArguments ts [ts]
  | cons {ts rest : List Token} {args : List (List Token)} (h : IsOneArgument ts) (hr : CutsArguments rest args) :
      CutsArguments (ts ++ .mark .comma :: rest) (ts :: args)

/-- Arguments in parentheses, or none. -/
inductive WritesArguments : List Placed → List (List Token) → Prop
  | none : WritesArguments [] []
  | parens {o c : Placed} {ts : List Placed} {args : List (List Token)} (ho : o.token = .opening .paren)
      (h : CutsArguments (ts.map (·.token)) args) (hc : c.token = .closing .paren) :
      WritesArguments (o :: (ts ++ [c])) args

/-- An attribute without its `@`. -/
inductive WritesAttribute : List Placed → WrittenAttribute → Prop
  | mk {path ts : List Placed} {name : String} {args : List (List Token)} (hp : IsPath path name)
      (ha : WritesArguments ts args) : WritesAttribute (path ++ ts) ⟨name, args⟩

/-- The attributes of a field. -/
inductive WritesAttributes : List Placed → List WrittenAttribute → Prop
  | nil : WritesAttributes [] []
  | cons {t : Placed} {ts rest : List Placed} {a : WrittenAttribute} {as : List WrittenAttribute}
      (ht : t.token = .mark .at) (ha : WritesAttribute ts a) (hr : WritesAttributes rest as) :
      WritesAttributes (t :: (ts ++ rest)) (a :: as)

/-- What follows the name of a field: a type with arguments, modifiers and attributes. -/
inductive WritesDetails : List Placed → String → List WrittenAttribute → Prop
  | mk {t : Placed} {args ls os ts : List Placed} {type : String} {dropped : List (List Token)}
      {isList isOptional : Bool} {attributes : List WrittenAttribute} (ht : t.token = .ident type)
      (ha : WritesArguments args dropped) (hl : IsListModifier ls isList) (ho : IsOptionalModifier os isOptional)
      (has : WritesAttributes ts attributes) : WritesDetails (t :: (args ++ (ls ++ (os ++ ts)))) type attributes

/-- What stands in the braces of a model: comments, attributes of the model and fields. -/
inductive WritesMembers : List Placed → List WrittenField → Prop
  | nil : WritesMembers [] []
  | comment {t : Placed} {text : String} {ts : List Placed} {fs : List WrittenField} (ht : t.token = .doc text)
      (h : WritesMembers ts fs) : WritesMembers (t :: ts) fs
  | blockAttribute {t : Placed} {ts rest : List Placed} {a : WrittenAttribute} {fs : List WrittenField}
      (ht : t.token = .mark .doubleAt) (ha : WritesAttribute ts a) (hr : WritesMembers rest fs) :
      WritesMembers (t :: (ts ++ rest)) fs
  | field {t : Placed} {ts rest : List Placed} {name type : String} {attributes : List WrittenAttribute}
      {fs : List WrittenField} (ht : t.token = .ident name) (hd : WritesDetails ts type attributes)
      (hr : WritesMembers rest fs) : WritesMembers (t :: (ts ++ rest)) (⟨name, type, attributes⟩ :: fs)

/-- The text writes the models: those of its blocks that are models, in their order. -/
def WritesModels (source : String) (ws : List WrittenModel) : Prop :=
  ∃ pieces, outlineOf source = some pieces ∧
    List.Forall₂ (fun b w => w.name = b.name ∧ WritesMembers b.body w.fields)
      ((blocksOf pieces).filter (·.kind = .model)) ws

/-! ### What the structure keeps of it -/

/-- The attribute with its arguments as texts. -/
def WrittenAttribute.spelled (a : WrittenAttribute) : Attribute := ⟨a.name, a.args.map Argument.ofTokens⟩

/-- The declared field says what is written. -/
structure FieldDecl.Spells (f : FieldDecl) (w : WrittenField) : Prop where
  name : f.name = w.name
  type : f.type = w.type
  attributes : f.attributes = w.attributes.map WrittenAttribute.spelled

/-- The declared model says what is written. -/
structure ModelDecl.Spells (m : ModelDecl) (w : WrittenModel) : Prop where
  name : m.name = w.name
  fields : List.Forall₂ FieldDecl.Spells m.fields w.fields

/-! ### Arguments -/

section

variable {ts rest : List Placed}

/-- The arguments that are read are those between the commas.  Before the reader stand the tokens of the argument that has
begun. -/
private theorem exists_cut_of_readArguments {depth : Nat} {current : List Token} {args : List Argument}
    (h : readArguments depth current ts = .ok (args, rest)) (hdepth : countOpen 0 current = some depth)
    (hinner : ∀ before after, current = before ++ .mark .comma :: after → countOpen 0 before ≠ some 0) :
    ∃ list c pieces, ts = list ++ c :: rest ∧ c.token = .closing .paren ∧
      CutsArguments (current ++ list.map (·.token)) pieces ∧ args = pieces.map Argument.ofTokens := by
  induction ts generalizing depth current args with
  | nil => cases h
  | cons t ts ih =>
    by_cases hend : t.token = .closing .paren ∧ depth = 0
    · obtain ⟨ht, rfl⟩ := hend
      rw [readArguments_eq, if_pos ⟨ht, rfl⟩] at h
      cases h
      by_cases hcurrent : current = []
      · subst hcurrent
        exact ⟨[], t, [], rfl, ht, .nil, rfl⟩
      · refine ⟨[], t, [current], rfl, ht, ?_, by simp [hcurrent]⟩
        rw [List.map_nil, List.append_nil]
        exact .last hcurrent ⟨hdepth, hinner⟩
    by_cases hcomma : t.token = .mark .comma ∧ depth = 0
    · obtain ⟨ht, rfl⟩ := hcomma
      rw [readArguments_eq, if_neg hend, if_pos ⟨ht, rfl⟩] at h
      obtain ⟨args', rest', hread, hok⟩ := Reading.andThen_eq_ok h
      cases hok
      obtain ⟨list, c, pieces, rfl, hc, hcut, rfl⟩ := ih hread rfl (by simp)
      refine ⟨t :: list, c, current :: pieces, rfl, hc, ?_, rfl⟩
      rw [List.map_cons, ht]
      exact .cons ⟨hdepth, hinner⟩ hcut
    · obtain ⟨depth', hstate⟩ : ∃ depth', t.token.argumentState (some depth) = some depth' := by
        cases hs : t.token.argumentState (some depth) with
        | none => exact absurd (argumentState_eq_none_iff.1 hs) hend
        | some depth' => exact ⟨depth', rfl⟩
      rw [readArguments_step hstate hcomma] at h
      have hdepth' : countOpen 0 (current ++ [t.token]) = some depth' := by
        rw [countOpen_append, hdepth, Option.bind_some, countOpen_cons, hstate]
        rfl
      have hinner' : ∀ before after, current ++ [t.token] = before ++ .mark .comma :: after →
          countOpen 0 before ≠ some 0 := by
        intro before after heq
        rcases List.eq_nil_or_concat after with rfl | ⟨after, d, rfl⟩
        · obtain ⟨rfl, ht⟩ := List.append_inj' heq rfl
          intro hzero
          rw [hdepth] at hzero
          exact hcomma ⟨(List.cons.inj ht).1, Option.some.inj hzero⟩
        · rw [List.concat_eq_append, ← List.cons_append, ← List.append_assoc] at heq
          exact hinner before after (List.append_inj' heq rfl).1
      obtain ⟨list, c, pieces, rfl, hc, hcut, rfl⟩ := ih h hdepth' hinner'
      refine ⟨t :: list, c, pieces, rfl, hc, ?_, rfl⟩
      rw [List.append_assoc, List.singleton_append] at hcut
      exact hcut

private theorem exists_of_readOptionalArguments {args : List Argument}
    (h : readOptionalArguments ts = .ok (args, rest)) :
    ∃ used pieces, ts = used ++ rest ∧ WritesArguments used pieces ∧ args = pieces.map Argument.ofTokens := by
  unfold readOptionalArguments at h
  split at h
  · cases h
    exact ⟨[], [], rfl, .none, rfl⟩
  · rename_i t ts
    split at h
    · rename_i ht
      obtain ⟨list, c, pieces, rfl, hc, hcut, hargs⟩ := exists_cut_of_readArguments h rfl (by simp)
      exact ⟨t :: (list ++ [c]), pieces, by simp, .parens ht hcut hc, hargs⟩
    · cases h
      exact ⟨[], [], rfl, .none, rfl⟩

/-! ### Attributes -/

private theorem exists_of_readPath {first name : String} (h : readPath first ts = .ok (name, rest)) {path : List Placed}
    (hp : IsPath path first) : ∃ used, ts = used ++ rest ∧ IsPath (path ++ used) name := by
  fun_induction readPath first ts generalizing path with
  | case1 | case3 | case6 =>
    cases h
    exact ⟨[], rfl, by rwa [List.append_nil]⟩
  | case2 | case5 => cases h
  | case4 first t part ts ht next hpart ih =>
    obtain ⟨used, rfl, hused⟩ := ih h (.dot hp ht hpart)
    exact ⟨t :: part :: used, rfl, by rwa [List.append_assoc] at hused⟩

private theorem exists_of_readAttribute {a : Attribute} (h : readAttribute ts = .ok (a, rest)) :
    ∃ used w, ts = used ++ rest ∧ WritesAttribute used w ∧ a = w.spelled := by
  rw [readAttribute_eq] at h
  obtain ⟨first, ts₁, hname, h⟩ := Reading.andThen_eq_ok h
  obtain ⟨name, ts₂, hpath, h⟩ := Reading.andThen_eq_ok h
  obtain ⟨args, ts₃, hargs, h⟩ := Reading.andThen_eq_ok h
  cases h
  obtain ⟨line, rfl⟩ := readName_eq_ok hname
  obtain ⟨used, rfl, hused⟩ := exists_of_readPath hpath (.name (t := ⟨.ident first, line⟩) rfl)
  obtain ⟨list, pieces, rfl, hlist, rfl⟩ := exists_of_readOptionalArguments hargs
  exact ⟨_ ++ list, ⟨name, pieces⟩, by simp, .mk hused hlist, rfl⟩

private theorem exists_of_readAttributes {as : List Attribute} (h : readAttributes ts = .ok (as, rest)) :
    ∃ used ws, ts = used ++ rest ∧ WritesAttributes used ws ∧ as = ws.map WrittenAttribute.spelled := by
  fun_induction readAttributes ts generalizing as rest with
  | case1 | case5 =>
    cases h
    exact ⟨[], [], rfl, .nil, rfl⟩
  | case2 | case3 => cases h
  | case4 t ts ht a rest₁ ha _ as' rest₂ hr ih =>
    cases h
    obtain ⟨used, w, rfl, hw, rfl⟩ := exists_of_readAttribute ha
    obtain ⟨more, ws, rfl, hws, rfl⟩ := ih hr
    exact ⟨t :: (used ++ more), w :: ws, by simp, .cons ht hw hws, rfl⟩

/-! ### Fields -/

private theorem exists_of_readListModifier {isList : Bool} (h : readListModifier ts = .ok (isList, rest)) :
    ∃ used, ts = used ++ rest ∧ IsListModifier used isList := by
  unfold readListModifier at h
  split at h
  · cases h
    exact ⟨[], rfl, .absent⟩
  · rename_i t ts
    split at h
    · rename_i ht
      split at h
      · cases h
      · rename_i hr
        cases h
        obtain ⟨line, rfl⟩ := readToken_eq_ok hr
        exact ⟨[t, _], rfl, .present ht rfl⟩
    · cases h
      exact ⟨[], rfl, .absent⟩

private theorem exists_of_readOptionalModifier (ts : List Placed) :
    ∃ used, ts = used ++ (readOptionalModifier ts).2 ∧ IsOptionalModifier used (readOptionalModifier ts).1 := by
  unfold readOptionalModifier
  split
  · exact ⟨[], rfl, .absent⟩
  · rename_i t ts
    split
    · rename_i ht
      exact ⟨[t], rfl, .present ht⟩
    · exact ⟨[], rfl, .absent⟩

private theorem exists_of_readField {name : String} {line : Nat} {documentation : Option String} {f : FieldDecl}
    (h : readField name line documentation ts = .ok (f, rest)) :
    ∃ used type attributes, ts = used ++ rest ∧ WritesDetails used type attributes ∧
      f.Spells ⟨name, type, attributes⟩ := by
  rw [readField_eq] at h
  split at h
  · cases h
  · rename_i type ts₁ hname
    obtain ⟨dropped, ts₂, hargs, h⟩ := Reading.andThen_eq_ok h
    obtain ⟨isList, ts₃, hlist, h⟩ := Reading.andThen_eq_ok h
    rw [Reading.andThen_ok] at h
    obtain ⟨attributes, ts₄, hattributes, h⟩ := Reading.andThen_eq_ok h
    cases h
    obtain ⟨line, rfl⟩ := readName_eq_ok hname
    obtain ⟨args, pieces, rfl, ha, -⟩ := exists_of_readOptionalArguments hargs
    obtain ⟨ls, rfl, hl⟩ := exists_of_readListModifier hlist
    obtain ⟨os, hos, ho⟩ := exists_of_readOptionalModifier ts₃
    obtain ⟨used, ws, hused, hws, rfl⟩ := exists_of_readAttributes hattributes
    refine ⟨⟨.ident type, line⟩ :: (args ++ (ls ++ (os ++ used))), type, ws, ?_, .mk rfl ha hl ho hws, rfl, rfl, rfl⟩
    rw [hos, hused]
    simp

/-- The fields that are read are those that are written before the closing brace. -/
theorem exists_of_readFields {name : String} {line : Nat} {docs : List String} {fs : List FieldDecl}
    (h : readFields name line docs ts = .ok (fs, rest)) :
    ∃ used closing ws, ts = used ++ ⟨.closing .brace, closing⟩ :: rest ∧ WritesMembers used ws ∧
      List.Forall₂ FieldDecl.Spells fs ws := by
  fun_induction readFields name line docs ts generalizing fs rest with
  | case1 | case4 | case6 | case7 | case9 => cases h
  | case2 docs t ts ht =>
    cases h
    exact ⟨[], t.line, [], by rw [← ht]; rfl, .nil, .nil⟩
  | case3 docs t ts text ht ih =>
    obtain ⟨used, closing, ws, rfl, hw, hspells⟩ := ih h
    exact ⟨t :: used, closing, ws, rfl, .comment ht hw, hspells⟩
  | case5 docs t ts ht a rest₁ ha _ ih =>
    obtain ⟨used, w, rfl, hw, -⟩ := exists_of_readAttribute ha
    obtain ⟨more, closing, ws, rfl, hws, hspells⟩ := ih h
    exact ⟨t :: (used ++ more), closing, ws, by simp, .blockAttribute ht hw hws, hspells⟩
  | case8 docs t ts field ht f rest₁ hf _ fs' rest₂ hr ih =>
    cases h
    obtain ⟨used, type, attributes, rfl, hd, hspelled⟩ := exists_of_readField hf
    obtain ⟨more, closing, ws, rfl, hws, hspells⟩ := ih hr
    exact ⟨t :: (used ++ more), closing, _ :: ws, by simp, .field ht hd hws, .cons hspelled hspells⟩

/-! ### Models -/

private theorem exists_of_readModel {t : Placed} {line : Nat} {documentation : Option String} {m : ModelDecl}
    (ht : t.token.block? = some .model) (h : readModel line documentation ts = .ok (m, rest)) :
    ∃ b w, cutBlock .model t ts = some (b, rest) ∧ b.kind = .model ∧
      (w.name = b.name ∧ WritesMembers b.body w.fields) ∧ m.Spells w := by
  obtain ⟨b, hcut, hb, -, hk, hname, -⟩ := cutBlock_of_readModel ht h
  rw [readModel_eq] at h
  obtain ⟨name, ts₁, hreadName, h⟩ := Reading.andThen_eq_ok h
  obtain ⟨u, ts₂, hopening, h⟩ := Reading.andThen_eq_ok h
  obtain ⟨fields, ts₃, hfields, h⟩ := Reading.andThen_eq_ok h
  cases h
  obtain ⟨nameLine, rfl⟩ := readName_eq_ok hreadName
  obtain ⟨openingLine, rfl⟩ := readToken_eq_ok hopening
  obtain ⟨used, closing, ws, rfl, hws, hspells⟩ := exists_of_readFields hfields
  have hbody : used = b.body := by
    have htokens : used ++ [⟨.closing .brace, closing⟩] ++ rest =
        b.body ++ [⟨.closing .brace, b.closingLine⟩] ++ rest := by
      simpa [Block.tokens] using (List.cons.inj (List.cons.inj (List.cons.inj hb).2).2).2
    exact (List.append_inj' (List.append_cancel_right htokens) rfl).1
  exact ⟨b, ⟨name, ws⟩, hcut, hk, ⟨hname, hbody ▸ hws⟩, rfl, hspells⟩

private theorem exists_of_readBlocks {docs : List String} {s : Structure} (h : readBlocks docs ts = .ok s) :
    ∃ pieces ws, outline ts = some pieces ∧
      List.Forall₂ (fun b w => w.name = b.name ∧ WritesMembers b.body w.fields)
        ((blocksOf pieces).filter (·.kind = .model)) ws ∧
      List.Forall₂ ModelDecl.Spells s.models ws := by
  fun_induction readBlocks docs ts generalizing s with
  | case1 =>
    cases h
    exact ⟨[], [], outline_nil, .nil, .nil⟩
  | case2 docs t ts text ht ih =>
    obtain ⟨pieces, ws, ho, hw, hspells⟩ := ih h
    exact ⟨.comment text t.line :: pieces, ws, by rw [outline_comment ht, ho]; rfl, hw, hspells⟩
  | case3 | case5 | case7 | case9 => cases h
  | case4 docs t ts m rest hr _ _ ht ih =>
    obtain ⟨s', hs', rfl⟩ := exists_of_map_eq_ok h
    obtain ⟨b, w, hcut, hk, hb, hm⟩ := exists_of_readModel ht hr
    obtain ⟨pieces, ws, ho, hw, hspells⟩ := ih hs'
    refine ⟨.block b :: pieces, w :: ws, by rw [outline_block ht hcut, ho]; rfl, ?_, .cons hm hspells⟩
    rw [blocksOf_cons_block, List.filter_cons_of_pos (by simp [hk])]
    exact .cons hb hw
  | case6 docs t ts name rest hr _ _ ht ih =>
    obtain ⟨s', hs', rfl⟩ := exists_of_map_eq_ok h
    obtain ⟨b, hcut, -, -, hk⟩ := cutBlock_of_readOtherBlock ht (by simp) hr
    obtain ⟨pieces, ws, ho, hw, hspells⟩ := ih hs'
    refine ⟨.block b :: pieces, ws, by rw [outline_block ht hcut, ho]; rfl, ?_, hspells⟩
    rwa [blocksOf_cons_block, List.filter_cons_of_neg (by simp [hk])]
  | case8 docs t ts name rest hr _ _ ht ih =>
    obtain ⟨b, hcut, -, -, hk⟩ := cutBlock_of_readOtherBlock ht (by simp) hr
    obtain ⟨pieces, ws, ho, hw, hspells⟩ := ih h
    refine ⟨.block b :: pieces, ws, by rw [outline_block ht hcut, ho]; rfl, ?_, hspells⟩
    rwa [blocksOf_cons_block, List.filter_cons_of_neg (by simp [hk])]

/-- The models of an accepted schema are those that its text writes. -/
theorem exists_writesModels {source : String} {s : Structure} (h : Structure.ofText source = .ok s) :
    ∃ ws, WritesModels source ws ∧ List.Forall₂ ModelDecl.Spells s.models ws := by
  unfold Structure.ofText at h
  split at h
  · cases h
  · rename_i ts hs
    obtain ⟨pieces, ws, ho, hw, hspells⟩ := exists_of_readBlocks h
    exact ⟨ws, ⟨pieces, by rw [outlineOf, hs]; exact ho, hw⟩, hspells⟩

end

/-! ### One way of writing -/

/-- Tokens in front of a rest that cannot continue them are cut off in one way, and mean one thing. -/
def CutOffOnce {β : Type} (R : List Placed → β → Prop) (p : Token → Prop) : Prop :=
  ∀ ts ts' rest rest' b b', R ts b → R ts' b' → ts ++ rest = ts' ++ rest' → Ahead p rest → Ahead p rest' →
    ts = ts' ∧ b = b' ∧ rest = rest'

/-- Two ways to cut a list agree if neither of the fronts goes on past the cut of the other. -/
private theorem append_cons_inj {α : Type} {xs xs' rest rest' : List α} {c c' : α}
    (heq : xs ++ c :: rest = xs' ++ c' :: rest') (h : ∀ after, xs' ≠ xs ++ c :: after)
    (h' : ∀ after, xs ≠ xs' ++ c' :: after) : xs = xs' ∧ c = c' ∧ rest = rest' := by
  rcases List.append_eq_append_iff.1 heq with ⟨a, hxs, hrest⟩ | ⟨a, hxs, hrest⟩
  · cases a with
    | nil =>
      obtain ⟨hc, hrest⟩ := List.cons.inj hrest
      exact ⟨by rw [hxs, List.append_nil], hc, hrest⟩
    | cons t a =>
      obtain rfl : c = t := (List.cons.inj hrest).1
      exact absurd hxs (h a)
  · cases a with
    | nil =>
      obtain ⟨hc, hrest⟩ := List.cons.inj hrest
      exact ⟨by rw [hxs, List.append_nil], hc.symm, hrest.symm⟩
    | cons t a =>
      obtain rfl : c' = t := (List.cons.inj hrest).1
      exact absurd hxs (h' a)

private theorem IsOneArgument.comma_inj {ts ts' rest rest' : List Token} (h : IsOneArgument ts) (h' : IsOneArgument ts')
    (heq : ts ++ .mark .comma :: rest = ts' ++ .mark .comma :: rest') : ts = ts' ∧ rest = rest' := by
  obtain ⟨hts, -, hrest⟩ := append_cons_inj heq (fun _ hts => h'.inner _ _ hts h.closed)
    fun _ hts => h.inner _ _ hts h'.closed
  exact ⟨hts, hrest⟩

theorem CutsArguments.closed {ts : List Token} {args : List (List Token)} (h : CutsArguments ts args) :
    countOpen 0 ts = some 0 := by
  induction h with
  | nil => rfl
  | last _ h => exact h.closed
  | cons h _ ih =>
    rw [countOpen_append, h.closed, Option.bind_some, countOpen_cons]
    exact ih

theorem CutsArguments.unique {ts : List Token} {args args' : List (List Token)} (h : CutsArguments ts args)
    (h' : CutsArguments ts args') : args = args' := by
  induction h generalizing args' with
  | nil =>
    generalize hts : ([] : List Token) = ts' at h'
    cases h' with
    | nil => rfl
    | last hne => exact absurd hts.symm hne
    | cons => simp at hts
  | @last ts hne h =>
    generalize hts : ts = ts' at h'
    cases h' with
    | nil => exact absurd hts hne
    | last => rfl
    | cons h₁ => exact absurd h₁.closed (h.inner _ _ hts)
  | @cons ts rest args h _ ih =>
    generalize hts : ts ++ .mark .comma :: rest = ts' at h'
    cases h' with
    | nil => simp at hts
    | last _ h₁ => exact absurd h.closed (h₁.inner _ _ hts.symm)
    | cons h₁ hr₁ =>
      obtain ⟨rfl, rfl⟩ := h.comma_inj h₁ hts
      rw [ih hr₁]

/-- An argument list ends at the first closing parenthesis with the count at zero. -/
private theorem closing_inj {list list' rest rest' : List Placed} {c c' : Placed}
    (h : countOpen 0 (list.map (·.token)) = some 0) (h' : countOpen 0 (list'.map (·.token)) = some 0)
    (hc : c.token = .closing .paren) (hc' : c'.token = .closing .paren)
    (heq : list ++ c :: rest = list' ++ c' :: rest') : list = list' ∧ c = c' ∧ rest = rest' := by
  have hno : ∀ {list after : List Placed} {c : Placed}, c.token = .closing .paren →
      countOpen 0 (list.map (·.token)) = some 0 → countOpen 0 ((list ++ c :: after).map (·.token)) ≠ some 0 := by
    intro list after c hc h hzero
    rw [List.map_append, countOpen_append, h, Option.bind_some, List.map_cons, countOpen_cons, hc] at hzero
    cases hzero
  refine append_cons_inj heq ?_ ?_
  · rintro after rfl
    exact hno hc h h'
  · rintro after rfl
    exact hno hc' h' h

private theorem cutOffOnce_arguments : CutOffOnce WritesArguments (· ≠ .opening .paren) := by
  intro ts ts' rest rest' args args' h h' heq hr hr'
  cases h with
  | none =>
    cases h' with
    | none => exact ⟨rfl, rfl, heq⟩
    | parens ho =>
      rw [List.nil_append, List.cons_append] at heq
      subst heq
      exact absurd ho (ahead_cons.1 hr)
  | parens ho h hc =>
    cases h' with
    | none =>
      rw [List.nil_append, List.cons_append] at heq
      subst heq
      exact absurd ho (ahead_cons.1 hr')
    | parens ho' h' hc' =>
      simp only [List.cons_append, List.append_assoc, List.nil_append] at heq
      obtain ⟨rfl, hlist⟩ := List.cons.inj heq
      obtain ⟨rfl, rfl, rfl⟩ := closing_inj h.closed h'.closed hc hc' hlist
      exact ⟨rfl, h.unique h', rfl⟩

private theorem cutOffOnce_path : CutOffOnce IsPath (· ≠ .mark .dot) := by
  intro ts ts' rest rest' name name' h h' heq hr hr'
  obtain ⟨t, us, first, rfl, ht, hread⟩ := h.exists_cons
  obtain ⟨t', us', first', rfl, ht', hread'⟩ := h'.exists_cons
  rw [List.cons_append, List.cons_append] at heq
  obtain ⟨rfl, hus⟩ := List.cons.inj heq
  obtain rfl : first = first' := Token.ident.inj (ht.symm.trans ht')
  have hname : Except.ok (name, rest) = (Except.ok (name', rest') : Reading String) := by
    rw [← readPath_end hr, ← readPath_end hr', ← hread rest, ← hread' rest', hus]
  obtain ⟨rfl, rfl⟩ := Prod.mk.inj (Except.ok.inj hname)
  exact ⟨by rw [List.append_cancel_right hus], rfl, rfl⟩

private theorem cutOffOnce_listModifier : CutOffOnce IsListModifier (· ≠ .opening .square) := by
  intro ts ts' rest rest' b b' h h' heq hr hr'
  have hread : Except.ok (b, rest) = (Except.ok (b', rest') : Reading Bool) := by
    rw [← readListModifier_append h hr, ← readListModifier_append h' hr', heq]
  obtain ⟨rfl, rfl⟩ := Prod.mk.inj (Except.ok.inj hread)
  exact ⟨List.append_cancel_right heq, rfl, rfl⟩

private theorem cutOffOnce_optionalModifier : CutOffOnce IsOptionalModifier (· ≠ .mark .question) := by
  intro ts ts' rest rest' b b' h h' heq hr hr'
  have hread : (b, rest) = (b', rest') := by
    rw [← readOptionalModifier_append h hr, ← readOptionalModifier_append h' hr', heq]
  obtain ⟨rfl, rfl⟩ := Prod.mk.inj hread
  exact ⟨List.append_cancel_right heq, rfl, rfl⟩

section

variable {p : Token → Prop} {ts rest : List Placed}

theorem WritesArguments.ahead {args : List (List Token)} (h : WritesArguments ts args) (hp : p (.opening .paren)) :
    Ahead p ts := by
  cases h with
  | none => exact ahead_nil
  | parens ho => rwa [ahead_cons, ho]

theorem WritesAttributes.ahead {as : List WrittenAttribute} (h : WritesAttributes ts as) (hp : p (.mark .at)) :
    Ahead p ts := by
  cases h with
  | nil => exact ahead_nil
  | cons ht => rwa [ahead_cons, ht]

theorem WritesMembers.ahead {fs : List WrittenField} (h : WritesMembers ts fs) :
    Ahead (fun t => t.startsMember = true) ts := by
  cases h with
  | nil => exact ahead_nil
  | comment ht | blockAttribute ht | field ht => rw [ahead_cons, ht]; rfl

end

private theorem cutOffOnce_attribute :
    CutOffOnce WritesAttribute (fun t => t ≠ .mark .dot ∧ t ≠ .opening .paren) := by
  rintro ts ts' rest rest' a a' ⟨hp, ha⟩ ⟨hp', ha'⟩ heq hr hr'
  have hdot : ∀ {ts rest : List Placed} {args : List (List Token)}, WritesArguments ts args →
      Ahead (fun t => t ≠ .mark .dot ∧ t ≠ .opening .paren) rest → Ahead (· ≠ .mark .dot) (ts ++ rest) :=
    fun ha hr => (ha.ahead (by simp)).append fun t ht => (hr t ht).1
  rw [List.append_assoc, List.append_assoc] at heq
  obtain ⟨rfl, rfl, heq⟩ := cutOffOnce_path _ _ _ _ _ _ hp hp' heq (hdot ha hr) (hdot ha' hr')
  obtain ⟨rfl, rfl, rfl⟩ := cutOffOnce_arguments _ _ _ _ _ _ ha ha' heq (fun t ht => (hr t ht).2)
    fun t ht => (hr' t ht).2
  exact ⟨rfl, rfl, rfl⟩

private theorem cutOffOnce_attributes :
    CutOffOnce WritesAttributes (fun t => t ≠ .mark .dot ∧ t ≠ .opening .paren ∧ t ≠ .mark .at) := by
  intro ts ts' rest rest' as as' h h' heq hr hr'
  induction h generalizing ts' as' with
  | nil =>
    cases h' with
    | nil => exact ⟨rfl, rfl, heq⟩
    | cons ht =>
      rw [List.nil_append, List.cons_append] at heq
      subst heq
      exact absurd ht (ahead_cons.1 hr).2.2
  | cons ht ha hmore ih =>
    cases h' with
    | nil =>
      rw [List.nil_append, List.cons_append] at heq
      subst heq
      exact absurd ht (ahead_cons.1 hr').2.2
    | cons ht' ha' hmore' =>
      have hnext : ∀ {ts rest : List Placed} {as : List WrittenAttribute}, WritesAttributes ts as →
          Ahead (fun t => t ≠ .mark .dot ∧ t ≠ .opening .paren ∧ t ≠ .mark .at) rest →
          Ahead (fun t => t ≠ .mark .dot ∧ t ≠ .opening .paren) (ts ++ rest) :=
        fun h hr => (h.ahead (by simp)).append fun t ht => ⟨(hr t ht).1, (hr t ht).2.1⟩
      simp only [List.cons_append, List.append_assoc] at heq
      obtain ⟨rfl, htail⟩ := List.cons.inj heq
      obtain ⟨rfl, rfl, hrest⟩ :=
        cutOffOnce_attribute _ _ _ _ _ _ ha ha' htail (hnext hmore hr) (hnext hmore' hr')
      obtain ⟨rfl, rfl, rfl⟩ := ih _ _ hmore' hrest
      exact ⟨rfl, rfl, rfl⟩

private theorem cutOffOnce_details :
    CutOffOnce (fun ts (d : String × List WrittenAttribute) => WritesDetails ts d.1 d.2)
    (fun t => t.startsMember = true) := by
  rintro ts ts' rest rest' ⟨type, attributes⟩ ⟨type', attributes'⟩ ⟨ht, ha, hl, ho, has⟩ ⟨ht', ha', hl', ho', has'⟩ heq
    hr hr'
  -- what stands after each part cannot continue it
  have hattributes : ∀ {rest : List Placed}, Ahead (fun t => t.startsMember = true) rest →
      Ahead (fun t => t ≠ .mark .dot ∧ t ≠ .opening .paren ∧ t ≠ .mark .at) rest :=
    fun hr t ht => ⟨hr.ne rfl t ht, hr.ne rfl t ht, hr.ne rfl t ht⟩
  simp only [List.cons_append, List.append_assoc] at heq
  obtain ⟨rfl, htail⟩ := List.cons.inj heq
  obtain rfl : type = type' := Token.ident.inj (ht.symm.trans ht')
  obtain ⟨rfl, rfl, hmodifiers⟩ := cutOffOnce_arguments _ _ _ _ _ _ ha ha' htail
    ((hl.ahead (by simp)).append ((ho.ahead (by simp)).append ((has.ahead (by simp)).append (hr.ne rfl))))
    ((hl'.ahead (by simp)).append ((ho'.ahead (by simp)).append ((has'.ahead (by simp)).append (hr'.ne rfl))))
  obtain ⟨rfl, rfl, hmodifier⟩ := cutOffOnce_listModifier _ _ _ _ _ _ hl hl' hmodifiers
    ((ho.ahead (by simp)).append ((has.ahead (by simp)).append (hr.ne rfl)))
    ((ho'.ahead (by simp)).append ((has'.ahead (by simp)).append (hr'.ne rfl)))
  obtain ⟨rfl, rfl, hrest⟩ := cutOffOnce_optionalModifier _ _ _ _ _ _ ho ho' hmodifier
    ((has.ahead (by simp)).append (hr.ne rfl)) ((has'.ahead (by simp)).append (hr'.ne rfl))
  obtain ⟨rfl, rfl, rfl⟩ := cutOffOnce_attributes _ _ _ _ _ _ has has' hrest (hattributes hr) (hattributes hr')
  exact ⟨rfl, rfl, rfl⟩

theorem WritesMembers.unique {ts : List Placed} {fs fs' : List WrittenField} (h : WritesMembers ts fs)
    (h' : WritesMembers ts fs') : fs = fs' := by
  induction h generalizing fs' with
  | nil =>
    cases h' with
    | nil => rfl
  | comment ht _ ih =>
    generalize hts : _ :: _ = ts' at h'
    cases h' with
    | nil => cases hts
    | comment _ h' =>
      obtain ⟨-, rfl⟩ := List.cons.inj hts
      exact ih h'
    | blockAttribute ht' | field ht' =>
      obtain ⟨rfl, -⟩ := List.cons.inj hts
      rw [ht] at ht'
      cases ht'
  | blockAttribute ht ha hr ih =>
    generalize hts : _ :: _ = ts' at h'
    cases h' with
    | nil => cases hts
    | blockAttribute _ ha' hr' =>
      obtain ⟨-, heq⟩ := List.cons.inj hts
      obtain ⟨-, -, rfl⟩ := cutOffOnce_attribute _ _ _ _ _ _ ha ha' heq
        (fun t ht => ⟨hr.ahead.ne rfl t ht, hr.ahead.ne rfl t ht⟩)
        (fun t ht => ⟨hr'.ahead.ne rfl t ht, hr'.ahead.ne rfl t ht⟩)
      exact ih hr'
    | comment ht' | field ht' =>
      obtain ⟨rfl, -⟩ := List.cons.inj hts
      rw [ht] at ht'
      cases ht'
  | field ht hd hr ih =>
    generalize hts : _ :: _ = ts' at h'
    cases h' with
    | nil => cases hts
    | field ht' hd' hr' =>
      obtain ⟨rfl, heq⟩ := List.cons.inj hts
      obtain rfl := Token.ident.inj (ht.symm.trans ht')
      obtain ⟨-, hdetails, rfl⟩ := cutOffOnce_details _ _ _ _ (_, _) (_, _) hd hd' heq hr.ahead hr'.ahead
      cases hdetails
      rw [ih hr']
    | comment ht' | blockAttribute ht' =>
      obtain ⟨rfl, -⟩ := List.cons.inj hts
      rw [ht] at ht'
      cases ht'

/-- A text writes its models in one way. -/
theorem WritesModels.unique {source : String} {ws ws' : List WrittenModel} (h : WritesModels source ws)
    (h' : WritesModels source ws') : ws = ws' := by
  obtain ⟨pieces, ho, hw⟩ := h
  obtain ⟨pieces', ho', hw'⟩ := h'
  obtain rfl : pieces = pieces' := Option.some.inj (ho.symm.trans ho')
  refine Relator.RightUnique.forall₂ ?_ hw hw'
  rintro b ⟨name, fields⟩ ⟨name', fields'⟩ ⟨hname, hfields⟩ ⟨hname', hfields'⟩
  obtain rfl : name = name' := hname.trans hname'.symm
  obtain rfl : fields = fields' := hfields.unique hfields'
  rfl

/-! ### The tokens of arguments -/

section

variable {ts : List Placed} {t : Token}

theorem CutsArguments.mem {list arg : List Token} {args : List (List Token)} (h : CutsArguments list args)
    (harg : arg ∈ args) (ht : t ∈ arg) : t ∈ list := by
  induction h with
  | nil => cases harg
  | last =>
    obtain rfl := List.mem_singleton.1 harg
    exact ht
  | cons _ _ ih =>
    rcases List.mem_cons.1 harg with rfl | harg
    · exact List.mem_append_left _ ht
    · exact List.mem_append_right _ (List.mem_cons_of_mem _ (ih harg))

/-- The token stands in an argument of one of the attributes. -/
def StandsIn (t : Token) (as : List WrittenAttribute) : Prop := ∃ a ∈ as, ∃ arg ∈ a.args, t ∈ arg

theorem WritesAttribute.mem {a : WrittenAttribute} (h : WritesAttribute ts a) (ht : StandsIn t [a]) :
    t ∈ ts.map (·.token) := by
  obtain ⟨a', ha', arg, harg, ht⟩ := ht
  obtain rfl := List.mem_singleton.1 ha'
  obtain ⟨hp, hargs⟩ := h
  rw [List.map_append]
  apply List.mem_append_right
  cases hargs with
  | none => cases harg
  | parens ho hcut hc =>
    have hmem := hcut.mem harg ht
    simp only [List.map_cons, List.map_append, List.mem_cons, List.mem_append]
    exact Or.inr (Or.inl hmem)

theorem WritesAttributes.mem {as : List WrittenAttribute} (h : WritesAttributes ts as) (ht : StandsIn t as) :
    t ∈ ts.map (·.token) := by
  induction h with
  | nil =>
    obtain ⟨a, ha, -⟩ := ht
    cases ha
  | cons _ ha _ ih =>
    simp only [List.map_cons, List.map_append, List.mem_cons, List.mem_append]
    obtain ⟨a', hmem, harg⟩ := ht
    rcases List.mem_cons.1 hmem with rfl | hmem
    · exact Or.inr (Or.inl (ha.mem ⟨_, List.mem_singleton_self _, harg⟩))
    · exact Or.inr (Or.inr (ih ⟨a', hmem, harg⟩))

theorem WritesMembers.mem {fs : List WrittenField} (h : WritesMembers ts fs) {f : WrittenField} (hf : f ∈ fs)
    (ht : StandsIn t f.attributes) : t ∈ ts.map (·.token) := by
  induction h with
  | nil => cases hf
  | comment _ _ ih => exact List.mem_cons_of_mem _ (ih hf)
  | blockAttribute _ _ _ ih =>
    rw [List.map_cons, List.map_append]
    exact List.mem_cons_of_mem _ (List.mem_append_right _ (ih hf))
  | field _ hd _ ih =>
    rw [List.map_cons, List.map_append]
    apply List.mem_cons_of_mem
    rcases List.mem_cons.1 hf with rfl | hf
    · apply List.mem_append_left
      obtain ⟨-, -, -, -, has⟩ := hd
      have hmem := has.mem ht
      simp only [List.map_cons, List.map_append, List.mem_cons, List.mem_append]
      exact Or.inr (Or.inr (Or.inr (Or.inr hmem)))
    · exact List.mem_append_right _ (ih hf)

private theorem exists_of_mem_forall₂ {α β : Type} {R : α → β → Prop} {as : List α} {bs : List β}
    (h : List.Forall₂ R as bs) {b : β} (hb : b ∈ bs) : ∃ a ∈ as, R a b := by
  induction h with
  | nil => cases hb
  | cons hab _ ih =>
    rcases List.mem_cons.1 hb with rfl | hb
    · exact ⟨_, List.mem_cons_self, hab⟩
    · obtain ⟨a, ha, hab⟩ := ih hb
      exact ⟨a, List.mem_cons_of_mem _ ha, hab⟩

private theorem body_subset_tokensOf {pieces : List Piece} {b : Block} (hb : b ∈ blocksOf pieces) :
    b.body ⊆ tokensOf pieces := by
  intro t ht
  obtain ⟨p, hp, hpb⟩ := List.mem_filterMap.1 hb
  cases p with
  | comment text line => cases hpb
  | block b' =>
    cases hpb
    exact List.mem_flatMap.2 ⟨.block b, hp, by simp [Piece.tokens, Block.tokens, ht]⟩

/-- A name in an argument is written in characters of names. -/
theorem WritesModels.name_chars {source : String} {s : Structure} {ws : List WrittenModel}
    (hws : WritesModels source ws) (h : Structure.ofText source = .ok s) {w : WrittenModel} (hw : w ∈ ws)
    {f : WrittenField} (hf : f ∈ w.fields) {name : String} (hname : StandsIn (.ident name) f.attributes) :
    name.toList ≠ [] ∧ ∀ c ∈ name.toList, continuesName c = true := by
  obtain ⟨pieces, ho, hmodels⟩ := hws
  obtain ⟨ts, pieces', hscan, ho', htokens, -⟩ := exists_outline h
  obtain rfl : pieces' = pieces := Option.some.inj (ho'.symm.trans ho)
  obtain ⟨b, hb, -, hmembers⟩ := exists_of_mem_forall₂ hmodels hw
  obtain ⟨p, hp, hptoken⟩ := List.mem_map.1 (hmembers.mem hf hname)
  have hmem : p ∈ ts := by
    rw [← htokens]
    exact body_subset_tokensOf (List.mem_filter.1 hb).1 hp
  exact continuesName_of_scanFrom hscan p hmem name hptoken

end

end GuardedCrud.Schema
