import GuardedCrud.Proofs.Schema.Changes

/-!
# Erasing documentation

The readers of the grammar do not look into documentation comments.  What a reader gives for tokens without the texts of
their comments is what it gives for the tokens themselves, up to the documentation of models and fields: erasing is a change of
the texts of comments (`Change.erasing`), which the readers of a field commute with, and the others do so as far as
`undocumented` values go (`readFields_erase` to `readBlocks_erase`).  So tokens that differ in comments alone give the same
structure without its documentation, or faults with the same message (`readBlocks_congr`).
-/

namespace GuardedCrud.Schema

/-! ### Tokens -/

/-- The token without the text of a comment. -/
def Token.erase : Token → Token
  | .doc _ => .doc ""
  | t => t

/-- The token in its place, without the text of a comment. -/
def Placed.erase (t : Placed) : Placed := ⟨t.token.erase, t.line⟩

/-- Tokens without the texts of their comments. -/
def eraseDocs (ts : List Placed) : List Placed := ts.map Placed.erase

/-- The fault without the text of a comment that stands in it. -/
def Fault.erase : Fault → Fault
  | .unexpected line found expected => .unexpected line found.erase expected
  | e => e

/-- What a reader gives, with its value seen through a function and without the texts of comments. -/
def Reading.view {α β : Type} (f : α → β) : Reading α → Reading β
  | .ok (a, rest) => .ok (f a, eraseDocs rest)
  | .error e => .error e.erase

@[simp] theorem eraseDocs_nil : eraseDocs [] = [] := rfl

@[simp] theorem eraseDocs_cons (t : Placed) (ts : List Placed) : eraseDocs (t :: ts) = t.erase :: eraseDocs ts := rfl

@[simp] theorem Placed.erase_line (t : Placed) : t.erase.line = t.line := rfl

@[simp] theorem Placed.erase_token (t : Placed) : t.erase.token = t.token.erase := rfl

@[simp] theorem Reading.view_ok {α β : Type} (f : α → β) (a : α) (rest : List Placed) :
    Reading.view f (.ok (a, rest)) = .ok (f a, eraseDocs rest) := rfl

private theorem Token.describe_erase (t : Token) : t.erase.describe = t.describe := by
  cases t <;> rfl

private theorem Token.block?_erase (t : Token) : t.erase.block? = t.block? := by
  cases t <;> rfl

private theorem Placed.erase_ne_doc {t : Placed} (h : ∀ text, t.token ≠ .doc text) (text : String) :
    t.erase.token ≠ .doc text := by
  obtain ⟨t, line⟩ := t
  cases t with
  | doc text' => exact absurd rfl (h text')
  | _ => nofun

/-- Erasing is the change that leaves comments without a text and everything on its line. -/
def Change.erasing : Change := ⟨fun _ => "", id⟩

private theorem Placed.erase_eq (t : Placed) : t.erase = Change.erasing.placed t := by
  obtain ⟨t, line⟩ := t
  cases t <;> rfl

private theorem eraseDocs_eq (ts : List Placed) : eraseDocs ts = ts.map Change.erasing.placed :=
  List.map_congr_left fun t _ => t.erase_eq

private theorem Reading.view_eq {α β : Type} (f : α → β) (x : Reading α) : x.view f = Change.erasing.reading f x := by
  cases x with
  | ok p =>
    obtain ⟨a, rest⟩ := p
    rw [Reading.view_ok, eraseDocs_eq]
    rfl
  | error e =>
    refine congrArg Except.error ?_
    cases e with
    | unexpected line found expected => cases found <;> rfl
    | _ => rfl

/-- Erasing makes no token equal to one that is no comment. -/
private theorem Token.erase_eq_iff {t u : Token} (hu : ∀ text, u ≠ .doc text) : t.erase = u ↔ t = u := by
  have herase : t.erase = Change.erasing.token t := by cases t <;> rfl
  rw [herase]
  exact Change.erasing.token_eq_iff hu

@[simp] theorem Token.erase_eq_ident (t : Token) (name : String) : t.erase = .ident name ↔ t = .ident name :=
  erase_eq_iff fun _ h => by cases h

@[simp] theorem Token.erase_eq_closing (t : Token) (b : Bracket) : t.erase = .closing b ↔ t = .closing b :=
  erase_eq_iff fun _ h => by cases h

@[simp] theorem Token.erase_eq_mark (t : Token) (m : Mark) : t.erase = .mark m ↔ t = .mark m :=
  erase_eq_iff fun _ h => by cases h

/-- The wording of a fault does not depend on comments. -/
theorem Fault.message_erase (e : Fault) : e.erase.message = e.message := by
  cases e with
  | unexpected line found expected =>
    unfold Fault.erase Fault.message
    dsimp only
    rw [Token.describe_erase]
  | _ => rfl

/-! ### Readers without documentation -/

section

variable (ts : List Placed)

private theorem readName_erase (expected : String) :
    readName expected (eraseDocs ts) = (readName expected ts).view id := by
  rw [eraseDocs_eq, Reading.view_eq, readName_change]

private theorem readToken_erase {token : Token} (h : ∀ text, token ≠ .doc text) (expected : String) :
    readToken token expected (eraseDocs ts) = (readToken token expected ts).view id := by
  rw [eraseDocs_eq, Reading.view_eq, readToken_change _ ts h]

private theorem readAttribute_erase : readAttribute (eraseDocs ts) = (readAttribute ts).view id := by
  rw [eraseDocs_eq, Reading.view_eq, readAttribute_change]

/-- The documentation of a field is handed on, whatever the tokens are. -/
private theorem readField_erase (name : String) (line : Nat) (documentation documentation' : Option String) :
    readField name line documentation' (eraseDocs ts) =
      (readField name line documentation ts).view fun f => { f with documentation := documentation' } := by
  rw [eraseDocs_eq, Reading.view_eq]
  exact readField_change Change.erasing ts (fun _ _ _ _ => rfl) line

private theorem readOtherBlock_erase (line : Nat) (expected : String) :
    readOtherBlock line expected (eraseDocs ts) = (readOtherBlock line expected ts).view id := by
  rw [eraseDocs_eq, Reading.view_eq]
  exact readOtherBlock_change Change.erasing ts line expected

end

/-! ### Values without documentation -/

/-- The field without its documentation. -/
def FieldDecl.undocumented (f : FieldDecl) : FieldDecl := { f with documentation := none }

/-- The model without its documentation and that of its fields. -/
def ModelDecl.undocumented (m : ModelDecl) : ModelDecl :=
  { m with documentation := none, fields := m.fields.map FieldDecl.undocumented }

/-- The structure without documentation. -/
def Structure.undocumented (s : Structure) : Structure := { s with models := s.models.map ModelDecl.undocumented }

/-- What the reader of a schema gives, without documentation and the texts of comments. -/
def undocumented : Except Fault Structure → Except Fault Structure
  | .ok s => .ok s.undocumented
  | .error e => .error e.erase

/-! ### Readers of documented values -/

/-- A reader without comments gives what another one gives, as far as a view of its value goes. -/
def Reading.Matches {α β : Type} (f : α → β) (x y : Reading α) : Prop := x.map (Prod.map f id) = y.view f

section

variable {α β : Type} {f : α → β} {x y : Reading α}

theorem Reading.Matches.ok {a a' : α} (h : f a' = f a) (rest : List Placed) :
    Reading.Matches f (.ok (a', eraseDocs rest)) (.ok (a, rest)) := by
  show Except.ok (f a', eraseDocs rest) = Except.ok (f a, eraseDocs rest)
  rw [h]

private theorem Reading.Matches.of_ok {a : α} {rest : List Placed} (h : Reading.Matches f x (.ok (a, rest))) :
    ∃ a', x = .ok (a', eraseDocs rest) ∧ f a' = f a := by
  cases x with
  | error e => cases h
  | ok p =>
    obtain ⟨a', rest'⟩ := p
    have h : (f a', rest') = (f a, eraseDocs rest) := Except.ok.inj h
    obtain ⟨ha, rfl⟩ := Prod.mk.inj h
    exact ⟨a', rfl, ha⟩

private theorem Reading.Matches.of_error {e : Fault} (h : Reading.Matches f x (.error e)) : x = .error e.erase := by
  cases x with
  | error e' => exact congrArg _ (Except.error.inj h)
  | ok p => cases h

end

/-- The fields of a model, seen without their documentation. -/
theorem readFields_erase (name : String) (line : Nat) (docs docs' : List String) (ts : List Placed) :
    Reading.Matches (List.map FieldDecl.undocumented) (readFields name line docs' (eraseDocs ts))
      (readFields name line docs ts) := by
  fun_induction readFields name line docs ts generalizing docs' with
  | case1 docs =>
    rw [eraseDocs_nil, readFields]
    rfl
  | case2 docs t ts ht =>
    rw [eraseDocs_cons, readFields_brace _ _ _ _ ((Token.erase_eq_closing _ _).2 ht)]
    rfl
  | case3 docs t ts text ht ih =>
    have ht : t.erase.token = .doc "" := by rw [Placed.erase_token, ht]; rfl
    rw [eraseDocs_cons, readFields_doc _ _ _ _ ht]
    exact ih (docs' ++ [""])
  | case4 docs t ts ht e ha =>
    rw [eraseDocs_cons, readFields_attribute _ _ _ _ ((Token.erase_eq_mark _ _).2 ht), readAttribute_erase, ha]
    rfl
  | case5 docs t ts ht a rest ha hlen ih =>
    rw [eraseDocs_cons, readFields_attribute _ _ _ _ ((Token.erase_eq_mark _ _).2 ht), readAttribute_erase, ha]
    exact ih []
  | case6 docs t ts field ht e hf =>
    rw [eraseDocs_cons, readFields_field _ _ _ _ ((Token.erase_eq_ident _ _).2 ht),
      readField_erase ts field _ (joinDocs docs), Placed.erase_line, hf]
    rfl
  | case7 docs t ts field ht f rest hf hlen e hr ih =>
    rw [hr] at ih
    rw [eraseDocs_cons, readFields_field _ _ _ _ ((Token.erase_eq_ident _ _).2 ht),
      readField_erase ts field _ (joinDocs docs), Placed.erase_line, hf, Reading.view_ok]
    dsimp only
    rw [(ih []).of_error]
    rfl
  | case8 docs t ts field ht f rest hf hlen fs rest' hr ih =>
    rw [hr] at ih
    obtain ⟨fs', hfs, hview⟩ := (ih []).of_ok
    rw [eraseDocs_cons, readFields_field _ _ _ _ ((Token.erase_eq_ident _ _).2 ht),
      readField_erase ts field _ (joinDocs docs), Placed.erase_line, hf, Reading.view_ok]
    dsimp only
    rw [hfs]
    refine .ok ?_ rest'
    rw [List.map_cons, List.map_cons, hview]
    rfl
  | case9 docs t ts hbrace hdoc hattribute hfield =>
    rw [eraseDocs_cons, readFields_unexpected _ _ _ (mt (Token.erase_eq_closing _ _).1 hbrace) (Placed.erase_ne_doc hdoc)
      (mt (Token.erase_eq_mark _ _).1 hattribute) fun field => mt (Token.erase_eq_ident _ _).1 (hfield field)]
    rfl

/-- A model, seen without its documentation. -/
private theorem readModel_erase (line : Nat) (documentation documentation' : Option String) (ts : List Placed) :
    Reading.Matches ModelDecl.undocumented (readModel line documentation' (eraseDocs ts))
      (readModel line documentation ts) := by
  unfold readModel
  rw [readName_erase]
  cases readName "model name" ts with
  | error e => rfl
  | ok p =>
    obtain ⟨name, ts⟩ := p
    dsimp only [Reading.view_ok, id]
    rw [readToken_erase ts (fun _ h => by cases h)]
    cases readToken (.opening .brace) "'\x7b'" ts with
    | error e => rfl
    | ok p =>
      obtain ⟨-, ts⟩ := p
      dsimp only [Reading.view_ok]
      -- the comments gathered inside the model start empty in both
      have hfields := readFields_erase name line [] [] ts
      cases h : readFields name line [] ts with
      | error e =>
        rw [h] at hfields
        rw [hfields.of_error]
        rfl
      | ok p =>
        obtain ⟨fields, rest⟩ := p
        rw [h] at hfields
        obtain ⟨fields', hfields', hview⟩ := hfields.of_ok
        rw [hfields']
        refine .ok ?_ rest
        unfold ModelDecl.undocumented
        dsimp only
        rw [hview]

/-! ### The blocks of a schema -/

private theorem map_undocumented {f g : Structure → Structure}
    (hfg : ∀ s s' : Structure, s'.undocumented = s.undocumented → (g s').undocumented = (f s).undocumented)
    {x y : Except Fault Structure} (h : x.map Structure.undocumented = undocumented y) :
    (x.map g).map Structure.undocumented = undocumented (y.map f) := by
  cases x with
  | error e =>
    cases y with
    | error e' => exact h
    | ok s => cases h
  | ok s' =>
    cases y with
    | error e' => cases h
    | ok s => exact congrArg _ (hfg s s' (Except.ok.inj h))

private theorem undocumented_consModel {m m' : ModelDecl} (hm : m'.undocumented = m.undocumented) {s s' : Structure}
    (h : s'.undocumented = s.undocumented) :
    (Structure.consModel m' s').undocumented = (Structure.consModel m s).undocumented := by
  show Structure.consModel m'.undocumented s'.undocumented = Structure.consModel m.undocumented s.undocumented
  rw [hm, h]

private theorem undocumented_consEnum (name : String) {s s' : Structure} (h : s'.undocumented = s.undocumented) :
    (Structure.consEnum name s').undocumented = (Structure.consEnum name s).undocumented := by
  show Structure.consEnum name s'.undocumented = Structure.consEnum name s.undocumented
  rw [h]

/-- A schema, seen without its documentation. -/
theorem readBlocks_erase (docs docs' : List String) (ts : List Placed) :
    (readBlocks docs' (eraseDocs ts)).map Structure.undocumented = undocumented (readBlocks docs ts) := by
  have hblock : ∀ t : Placed, t.erase.token.block? = t.token.block? := fun t => Token.block?_erase t.token
  fun_induction readBlocks docs ts generalizing docs' with
  | case1 docs =>
    rw [eraseDocs_nil, readBlocks]
    rfl
  | case2 docs t ts text ht ih =>
    have ht : t.erase.token = .doc "" := by rw [Placed.erase_token, ht]; rfl
    rw [eraseDocs_cons, readBlocks_doc _ _ ht]
    -- the comments gathered differ in their texts, which the view does not show
    exact ih (docs' ++ [""])
  | case3 docs t ts e hr _ hk =>
    have hm := readModel_erase t.line (joinDocs docs) (joinDocs docs') ts
    rw [hr] at hm
    rw [eraseDocs_cons, readBlocks_block _ _ ((hblock t).trans hk)]
    dsimp only [Placed.erase_line]
    rw [hm.of_error]
    rfl
  | case4 docs t ts m rest hr _ _ hk ih =>
    have hm := readModel_erase t.line (joinDocs docs) (joinDocs docs') ts
    rw [hr] at hm
    obtain ⟨m', hr', hview⟩ := hm.of_ok
    rw [eraseDocs_cons, readBlocks_block _ _ ((hblock t).trans hk)]
    dsimp only [Placed.erase_line]
    rw [hr']
    exact map_undocumented (fun _ _ => undocumented_consModel hview) (ih [])
  | case5 docs t ts e hr _ hk =>
    rw [eraseDocs_cons, readBlocks_block _ _ ((hblock t).trans hk)]
    dsimp only [Placed.erase_line]
    rw [readOtherBlock_erase, hr]
    rfl
  | case6 docs t ts name rest hr _ _ hk ih =>
    rw [eraseDocs_cons, readBlocks_block _ _ ((hblock t).trans hk)]
    dsimp only [Placed.erase_line]
    rw [readOtherBlock_erase, hr]
    exact map_undocumented (fun _ _ => undocumented_consEnum name) (ih [])
  | case7 docs t ts e hr _ hk =>
    rw [eraseDocs_cons, readBlocks_block _ _ ((hblock t).trans hk)]
    dsimp only [Placed.erase_line]
    rw [readOtherBlock_erase, hr]
    rfl
  | case8 docs t ts name rest hr _ _ hk ih =>
    rw [eraseDocs_cons, readBlocks_block _ _ ((hblock t).trans hk)]
    dsimp only [Placed.erase_line]
    rw [readOtherBlock_erase, hr]
    exact ih []
  | case9 docs t ts hdoc hk =>
    rw [eraseDocs_cons, readBlocks_unexpected _ _ ((hblock t).trans hk) (Placed.erase_ne_doc hdoc)]
    rfl

/-- Tokens that differ in the texts of comments give the same structure without its documentation, or faults of the same
wording. -/
theorem readBlocks_congr {ts us : List Placed} (h : eraseDocs ts = eraseDocs us) (docs docs' : List String) :
    undocumented (readBlocks docs ts) = undocumented (readBlocks docs' us) := by
  rw [← readBlocks_erase docs [] ts, ← readBlocks_erase docs' [] us, h]

end GuardedCrud.Schema
