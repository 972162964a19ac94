import GuardedCrud.Proofs.Schema.Sequences

/-!
# What the readers do not look at

The texts of comments and the lines of tokens are handed on, and nothing depends on them.  A `Change` rewrites both:

* the readers of parts of a field and of blocks without fields commute with every change (`readName_change` to
  `readOtherBlock_change`);
* the readers of models and of schemas, which keep the texts of comments, commute with changes of lines
  (`readFields_relined` to `readBlocks_relined`).
-/

namespace GuardedCrud.Schema

/-! ### Changes -/

/-- Other texts for comments, and other lines for tokens. -/
structure Change where
  text : String → String
  line : Nat → Nat

namespace Change

/-- The token with the other text, if it is a comment. -/
def token (c : Change) : Token → Token
  | .doc text => .doc (c.text text)
  | t => t

/-- The token with its other text on its other line. -/
def placed (c : Change) (t : Placed) : Placed := ⟨c.token t.token, c.line t.line⟩

/-- The fault about the changed tokens. -/
def fault (c : Change) : Fault → Fault
  | .unexpectedChar line char => .unexpectedChar (c.line line) char
  | .unterminatedText line => .unterminatedText (c.line line)
  | .unexpected line found expected => .unexpected (c.line line) (c.token found) expected
  | .missingType line field => .missingType (c.line line) field
  | .unterminatedBlock line name => .unterminatedBlock (c.line line) name
  | .unexpectedEnd expected => .unexpectedEnd expected

/-- What a reader gives for changed tokens, if its value changes by a function. -/
def reading (c : Change) {α β : Type} (f : α → β) : Reading α → Reading β
  | .ok (a, rest) => .ok (f a, rest.map c.placed)
  | .error e => .error (c.fault e)

variable (c : Change)

@[simp] theorem placed_token (t : Placed) : (c.placed t).token = c.token t.token := rfl

@[simp] theorem placed_line (t : Placed) : (c.placed t).line = c.line t.line := rfl

section

variable {α β γ δ : Type} (f : α → β)

@[simp] theorem reading_ok (a : α) (rest : List Placed) :
    c.reading f (.ok (a, rest)) = .ok (f a, rest.map c.placed) := rfl

@[simp] theorem reading_error (e : Fault) : c.reading f (.error e) = .error (c.fault e) := rfl

/-- Readers that commute with a change do so one after the other. -/
private theorem reading_andThen {g : γ → δ} {next : α → List Placed → Reading γ} {next' : β → List Placed → Reading δ}
    (h : ∀ a rest, next' (f a) (rest.map c.placed) = c.reading g (next a rest)) (x : Reading α) :
    (c.reading f x).andThen next' = c.reading g (x.andThen next) := by
  cases x with
  | error e => rfl
  | ok p => exact h p.1 p.2

end

/-- No token becomes equal to one that is no comment. -/
theorem token_eq_iff {t u : Token} (hu : ∀ text, u ≠ .doc text) : c.token t = u ↔ t = u := by
  cases t with
  | doc text =>
    constructor
    · intro h
      exact absurd h.symm (hu _)
    · intro h
      exact absurd h.symm (hu _)
  | _ => exact Iff.rfl

@[simp] theorem token_eq_ident (t : Token) (name : String) : c.token t = .ident name ↔ t = .ident name :=
  c.token_eq_iff fun _ h => by cases h

@[simp] theorem token_eq_opening (t : Token) (b : Bracket) : c.token t = .opening b ↔ t = .opening b :=
  c.token_eq_iff fun _ h => by cases h

@[simp] theorem token_eq_closing (t : Token) (b : Bracket) : c.token t = .closing b ↔ t = .closing b :=
  c.token_eq_iff fun _ h => by cases h

@[simp] theorem token_eq_mark (t : Token) (m : Mark) : c.token t = .mark m ↔ t = .mark m :=
  c.token_eq_iff fun _ h => by cases h

private theorem spell_token (ts : List Token) : spell (ts.map c.token) = spell ts := by
  unfold spell
  rw [List.map_map]
  congr 1
  refine List.map_congr_left fun t _ => ?_
  cases t <;> rfl

end Change

theorem Argument.ofTokens_of_not_named {ts : List Token} (h : ∀ name value, ts ≠ .ident name :: .mark .colon :: value) :
    Argument.ofTokens ts = ⟨none, spell ts⟩ := by
  unfold Argument.ofTokens
  split
  · exact absurd rfl (h _ _)
  · rfl

/-- The value of an argument is written out without the comments in it. -/
private theorem Argument.ofTokens_change (c : Change) (ts : List Token) :
    Argument.ofTokens (ts.map c.token) = Argument.ofTokens ts := by
  by_cases h : ∃ name value, ts = .ident name :: .mark .colon :: value
  · obtain ⟨name, value, rfl⟩ := h
    show Argument.mk (some name) (spell (value.map c.token)) = Argument.mk (some name) (spell value)
    rw [c.spell_token]
  · have hts : ∀ name value, ts ≠ .ident name :: .mark .colon :: value := fun name value e => h ⟨name, value, e⟩
    have hchange : ∀ name value, ts.map c.token ≠ .ident name :: .mark .colon :: value := by
      intro name value e
      obtain ⟨t, us, rfl, ht, hus⟩ := List.map_eq_cons_iff.1 e
      obtain ⟨u, vs, rfl, hu, -⟩ := List.map_eq_cons_iff.1 hus
      rw [c.token_eq_ident] at ht
      rw [c.token_eq_mark] at hu
      exact hts name vs (by rw [ht, hu])
    rw [Argument.ofTokens_of_not_named hts, Argument.ofTokens_of_not_named hchange, c.spell_token]

/-! ### Readers of parts of a field -/

section

variable (c : Change) (ts : List Placed)

theorem readName_change (expected : String) :
    readName expected (ts.map c.placed) = c.reading id (readName expected ts) := by
  cases ts with
  | nil => rfl
  | cons t ts =>
    obtain ⟨t, line⟩ := t
    cases t <;> rfl

theorem readToken_change {token : Token} (h : ∀ text, token ≠ .doc text) (expected : String) :
    readToken token expected (ts.map c.placed) = c.reading id (readToken token expected ts) := by
  cases ts with
  | nil => rfl
  | cons t ts =>
    simp only [List.map_cons, readToken, Change.placed_token, c.token_eq_iff h]
    split <;> rfl

private theorem readArguments_change (depth : Nat) (current : List Token) :
    readArguments depth (current.map c.token) (ts.map c.placed) = c.reading id (readArguments depth current ts) := by
  induction ts generalizing depth current with
  | nil => rfl
  | cons t ts ih =>
    have hcurrent : current.map c.token ++ [c.token t.token] = (current ++ [t.token]).map c.token := by
      rw [List.map_append, List.map_singleton]
    simp only [List.map_cons, readArguments, Change.placed_token, Change.token_eq_closing, Change.token_eq_mark,
      hcurrent, ih]
    split
    · rw [List.isEmpty_map, Argument.ofTokens_change]
      rfl
    · split
      · have hrest := ih 0 []
        rw [List.map_nil] at hrest
        rw [hrest, Argument.ofTokens_change]
        cases readArguments 0 [] ts <;> rfl
      · obtain ⟨t, line⟩ := t
        cases t <;> rfl

private theorem readPath_change (name : String) :
    readPath name (ts.map c.placed) = c.reading id (readPath name ts) := by
  have hdot : ∀ t : Placed, (c.placed t).token = .mark .dot ↔ t.token = .mark .dot := fun t => c.token_eq_mark _ _
  fun_induction readPath name ts with
  | case1 => rfl
  | case2 name t ht =>
    rw [List.map_singleton, readPath, if_pos ((hdot t).2 ht)]
    rfl
  | case3 name t ht =>
    rw [List.map_singleton, readPath, if_neg (mt (hdot t).1 ht)]
    rfl
  | case4 name t part ts ht next hnext ih =>
    rw [List.map_cons, List.map_cons, readPath, if_pos ((hdot t).2 ht), Change.placed_token, hnext]
    exact ih
  | case5 name t part ts ht hnext =>
    rw [List.map_cons, List.map_cons, readPath, if_pos ((hdot t).2 ht)]
    obtain ⟨part, line⟩ := part
    cases part with
    | ident next => exact absurd rfl (hnext next)
    | _ => rfl
  | case6 name t part ts ht =>
    rw [List.map_cons, List.map_cons, readPath, if_neg (mt (hdot t).1 ht)]
    rfl

private theorem readOptionalArguments_change :
    readOptionalArguments (ts.map c.placed) = c.reading id (readOptionalArguments ts) := by
  cases ts with
  | nil => rfl
  | cons t ts =>
    simp only [List.map_cons, readOptionalArguments, Change.placed_token, Change.token_eq_opening]
    split
    · exact readArguments_change c ts 0 []
    · rfl

theorem readAttribute_change : readAttribute (ts.map c.placed) = c.reading id (readAttribute ts) := by
  rw [readAttribute_eq, readAttribute_eq, readName_change]
  refine c.reading_andThen id (fun first ts => ?_) _
  rw [readPath_change]
  refine c.reading_andThen id (fun name ts => ?_) _
  rw [readOptionalArguments_change]
  exact c.reading_andThen id (fun args ts => rfl) _

private theorem readAttributes_change : readAttributes (ts.map c.placed) = c.reading id (readAttributes ts) := by
  have hat : ∀ t : Placed, (c.placed t).token = .mark .at ↔ t.token = .mark .at := fun t => c.token_eq_mark _ _
  fun_induction readAttributes ts with
  | case1 => rw [List.map_nil, readAttributes]; rfl
  | case2 t ts ht e ha =>
    rw [List.map_cons, readAttributes_cons, if_pos ((hat t).2 ht), readAttribute_change, ha]
    rfl
  | case3 t ts ht a rest ha hlen e hr ih =>
    rw [List.map_cons, readAttributes_cons, if_pos ((hat t).2 ht), readAttribute_change, ha, Change.reading_ok]
    dsimp only
    rw [ih, hr]
    rfl
  | case4 t ts ht a rest ha hlen as rest' hr ih =>
    rw [List.map_cons, readAttributes_cons, if_pos ((hat t).2 ht), readAttribute_change, ha, Change.reading_ok]
    dsimp only
    rw [ih, hr]
    rfl
  | case5 t ts ht =>
    rw [List.map_cons, readAttributes_cons, if_neg (mt (hat t).1 ht)]
    rfl

private theorem readListModifier_change : readListModifier (ts.map c.placed) = c.reading id (readListModifier ts) := by
  cases ts with
  | nil => rfl
  | cons t ts =>
    simp only [List.map_cons, readListModifier, Change.placed_token, Change.token_eq_opening]
    split
    · rw [readToken_change c ts (fun _ h => by cases h)]
      cases readToken (.closing .square) "']'" ts <;> rfl
    · rfl

private theorem readOptionalModifier_change : readOptionalModifier (ts.map c.placed) =
    ((readOptionalModifier ts).1, (readOptionalModifier ts).2.map c.placed) := by
  cases ts with
  | nil => rfl
  | cons t ts =>
    simp only [List.map_cons, readOptionalModifier, Change.placed_token, Change.token_eq_mark]
    split <;> rfl

/-- The documentation of a field is handed on, whatever the tokens are. -/
theorem readField_change {documentation documentation' : Option String} {name : String} {g : FieldDecl → FieldDecl}
    (hg : ∀ type isOptional isList attributes, g ⟨name, type, isOptional, isList, attributes, documentation⟩ =
      ⟨name, type, isOptional, isList, attributes, documentation'⟩) (line : Nat) :
    readField name (c.line line) documentation' (ts.map c.placed) =
      c.reading g (readField name line documentation ts) := by
  rw [readField_eq, readField_eq, readName_change]
  cases readName "" ts with
  | error e => rfl
  | ok p =>
    obtain ⟨type, ts⟩ := p
    dsimp only [Change.reading_ok, id]
    unfold readDetails
    rw [readOptionalArguments_change]
    refine c.reading_andThen id (fun _ ts => ?_) _
    rw [readListModifier_change]
    refine c.reading_andThen id (fun isList ts => ?_) _
    rw [readOptionalModifier_change]
    refine c.reading_andThen id (fun isOptional ts => ?_) (.ok (readOptionalModifier ts))
    rw [readAttributes_change]
    refine c.reading_andThen id (fun attributes ts => ?_) _
    rw [Change.reading_ok, hg]
    rfl

/-! ### Blocks that are passed over -/

private theorem skipBraces_change (name : String) (line depth : Nat) :
    skipBraces name (c.line line) depth (ts.map c.placed) = c.reading id (skipBraces name line depth ts) := by
  induction ts generalizing depth with
  | nil => rfl
  | cons t ts ih =>
    obtain ⟨t, n⟩ := t
    rw [List.map_cons]
    unfold skipBraces
    cases t with
    | opening b => cases b <;> exact ih _
    | closing b =>
      cases b with
      | brace =>
        cases depth with
        | zero => rfl
        | succ depth => exact ih depth
      | _ => exact ih depth
    | _ => exact ih depth

theorem readOtherBlock_change (line : Nat) (expected : String) :
    readOtherBlock (c.line line) expected (ts.map c.placed) = c.reading id (readOtherBlock line expected ts) := by
  rw [readOtherBlock_eq, readOtherBlock_eq, readName_change]
  refine c.reading_andThen id (fun name ts => ?_) _
  rw [readToken_change c ts (fun _ h => by cases h)]
  refine c.reading_andThen id (fun _ ts => ?_) _
  rw [skipBraces_change]
  exact c.reading_andThen id (fun _ ts => rfl) _

end

/-! ### Models and schemas on other lines -/

/-- The change of lines alone. -/
def Change.lines (f : Nat → Nat) : Change := ⟨id, f⟩

/-- The model with its keyword on another line. -/
def ModelDecl.relined (f : Nat → Nat) (m : ModelDecl) : ModelDecl := { m with line := f m.line }

/-- The structure with the keywords of its models on other lines. -/
def Structure.relined (f : Nat → Nat) (s : Structure) : Structure := { s with models := s.models.map (.relined f) }

/-- What the reader of a schema gives for tokens on other lines. -/
def relined (f : Nat → Nat) : Except Fault Structure → Except Fault Structure
  | .ok s => .ok (s.relined f)
  | .error e => .error ((Change.lines f).fault e)

section

variable (f : Nat → Nat)

@[simp] theorem Change.lines_line (n : Nat) : (Change.lines f).line n = f n := rfl

theorem Change.lines_token (t : Token) : (Change.lines f).token t = t := by cases t <;> rfl

theorem Change.lines_placed (t : Placed) : (Change.lines f).placed t = ⟨t.token, f t.line⟩ := by
  unfold Change.placed
  rw [Change.lines_token]
  rfl

private theorem readField_relined (name : String) (line : Nat) (documentation : Option String) (ts : List Placed) :
    readField name (f line) documentation (ts.map (Change.lines f).placed) =
      (Change.lines f).reading id (readField name line documentation ts) :=
  readField_change _ ts (fun _ _ _ _ => rfl) line

/-- The line of its keyword stands in the faults of a model, and not in its fields. -/
theorem readFields_relined (name : String) (line : Nat) (docs : List String) (ts : List Placed) :
    readFields name (f line) docs (ts.map (Change.lines f).placed) =
      (Change.lines f).reading id (readFields name line docs ts) := by
  have htoken : ∀ t : Placed, ((Change.lines f).placed t).token = t.token := fun t => Change.lines_token f t.token
  fun_induction readFields name line docs ts with
  | case1 =>
    rw [List.map_nil, readFields]
    rfl
  | case2 docs t ts ht =>
    rw [List.map_cons, readFields_brace _ _ _ _ ((htoken t).trans ht)]
    rfl
  | case3 docs t ts text ht ih =>
    rw [List.map_cons, readFields_doc _ _ _ _ ((htoken t).trans ht)]
    exact ih
  | case4 docs t ts ht e ha =>
    rw [List.map_cons, readFields_attribute _ _ _ _ ((htoken t).trans ht), readAttribute_change, ha]
    rfl
  | case5 docs t ts ht a rest ha _ ih =>
    rw [List.map_cons, readFields_attribute _ _ _ _ ((htoken t).trans ht), readAttribute_change, ha]
    exact ih
  | case6 docs t ts field ht e hf =>
    rw [List.map_cons, readFields_field _ _ _ _ ((htoken t).trans ht), Change.placed_line,
      Change.lines_line, readField_relined, hf]
    rfl
  | case7 docs t ts field ht fd rest hf _ e hr ih =>
    rw [List.map_cons, readFields_field _ _ _ _ ((htoken t).trans ht), Change.placed_line,
      Change.lines_line, readField_relined, hf, Change.reading_ok]
    dsimp only
    rw [ih, hr]
    rfl
  | case8 docs t ts field ht fd rest hf _ fs rest' hr ih =>
    rw [List.map_cons, readFields_field _ _ _ _ ((htoken t).trans ht), Change.placed_line,
      Change.lines_line, readField_relined, hf, Change.reading_ok]
    dsimp only
    rw [ih, hr]
    rfl
  | case9 docs t ts hbrace hdoc hattribute hfield =>
    rw [List.map_cons, readFields_unexpected _ _ _ ((htoken t).trans_ne hbrace)
      (fun text => (htoken t).trans_ne (hdoc text)) ((htoken t).trans_ne hattribute)
      (fun field => (htoken t).trans_ne (hfield field))]
    rfl

private theorem readModel_relined (line : Nat) (documentation : Option String) (ts : List Placed) :
    readModel (f line) documentation (ts.map (Change.lines f).placed) =
      (Change.lines f).reading (.relined f) (readModel line documentation ts) := by
  rw [readModel_eq, readModel_eq, readName_change]
  refine Change.reading_andThen _ id (fun name ts => ?_) _
  rw [readToken_change _ ts (fun _ h => by cases h)]
  refine Change.reading_andThen _ id (fun _ ts => ?_) _
  dsimp only [id]
  rw [readFields_relined]
  exact Change.reading_andThen _ id (fun fields ts => rfl) _

/-- A schema shows lines in its models and in its faults, and nowhere else. -/
theorem readBlocks_relined (docs : List String) (ts : List Placed) :
    readBlocks docs (ts.map (Change.lines f).placed) = relined f (readBlocks docs ts) := by
  have htoken : ∀ t : Placed, ((Change.lines f).placed t).token = t.token := fun t => Change.lines_token f t.token
  have hblock : ∀ t : Placed, ((Change.lines f).placed t).token.block? = t.token.block? := fun t => by rw [htoken]
  have hmap : ∀ {g h : Structure → Structure} (x : Except Fault Structure),
      (∀ s, g (s.relined f) = (h s).relined f) → (relined f x).map g = relined f (x.map h) := by
    intro g h x hgh
    cases x with
    | error e => rfl
    | ok s => exact congrArg _ (hgh s)
  fun_induction readBlocks docs ts with
  | case1 docs =>
    rw [List.map_nil, readBlocks]
    rfl
  | case2 docs t ts text ht ih =>
    rw [List.map_cons, readBlocks_doc _ _ ((htoken t).trans ht)]
    exact ih
  | case3 docs t ts e hr _ hk =>
    rw [List.map_cons, readBlocks_block _ _ ((hblock t).trans hk)]
    dsimp only [Change.placed_line, Change.lines_line]
    rw [readModel_relined, hr]
    rfl
  | case4 docs t ts m rest hr _ _ hk ih =>
    rw [List.map_cons, readBlocks_block _ _ ((hblock t).trans hk)]
    dsimp only [Change.placed_line, Change.lines_line]
    rw [readModel_relined, hr]
    dsimp only [Change.reading_ok]
    rw [ih]
    exact hmap _ fun _ => rfl
  | case5 docs t ts e hr _ hk =>
    rw [List.map_cons, readBlocks_block _ _ ((hblock t).trans hk)]
    dsimp only [Change.placed_line]
    rw [readOtherBlock_change, hr]
    rfl
  | case6 docs t ts name rest hr _ _ hk ih =>
    rw [List.map_cons, readBlocks_block _ _ ((hblock t).trans hk)]
    dsimp only [Change.placed_line]
    rw [readOtherBlock_change, hr]
    dsimp only [Change.reading_ok]
    rw [ih]
    exact hmap _ fun _ => rfl
  | case7 docs t ts e hr _ hk =>
    rw [List.map_cons, readBlocks_block _ _ ((hblock t).trans hk)]
    dsimp only [Change.placed_line]
    rw [readOtherBlock_change, hr]
    rfl
  | case8 docs t ts name rest hr _ _ hk ih =>
    rw [List.map_cons, readBlocks_block _ _ ((hblock t).trans hk)]
    dsimp only [Change.placed_line]
    rw [readOtherBlock_change, hr]
    exact ih
  | case9 docs t ts hdoc hk =>
    rw [List.map_cons, readBlocks_unexpected _ _ ((hblock t).trans hk)
      (fun text h => hdoc text ((htoken t).symm.trans h))]
    rfl

end

end GuardedCrud.Schema
