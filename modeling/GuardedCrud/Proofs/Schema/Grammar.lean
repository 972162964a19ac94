import GuardedCrud.Proofs.Schema.Erasure

/-!
# The grammar of schemas

The grammar as relations between tokens and what they mean, one constructor for each way to write a thing:

* a schema is a row of blocks, each after its comments, and comments at the end (`IsSchema`);
* a model or view has a name and, in braces, fields and attributes of its own, each after its comments (`IsMembers`);
* a field has a name, a type with arguments that count for nothing, the modifiers `[]` and `?`, and attributes (`IsField`);
* an attribute has a dotted name and arguments (`IsAttribute`), and the tokens of an argument are properly nested.

Every token sequence of the grammar is read as what it means (`ofText_eq_of_isSchema`): one lemma for each reader says so,
where the tokens after what it reads cannot continue it.  So a token sequence has one meaning (`IsSchema.unique`).
-/

namespace GuardedCrud.Schema

/-! ### The grammar -/

/-- Documentation comments with the given texts. -/
def IsDocs (ts : List Placed) (texts : List String) : Prop := ts.map (·.token) = texts.map Token.doc

/-- The token is no bracket and no comment. -/
def Token.isPlain : Token → Bool
  | .doc _ | .opening _ | .closing _ => false
  | _ => true

/-- Properly nested tokens without comments; outside their brackets commas may be left out. -/
inductive Nested : Bool → List Placed → Prop
  | nil {commas : Bool} : Nested commas []
  | plain {commas : Bool} {t : Placed} {ts : List Placed} (ht : t.token.isPlain = true)
      (hc : t.token = .mark .comma → commas = true) (h : Nested commas ts) : Nested commas (t :: ts)
  | group {commas : Bool} {b : Bracket} {o c : Placed} {inner ts : List Placed} (ho : o.token = .opening b)
      (hi : Nested true inner) (hc : c.token = .closing b) (h : Nested commas ts) :
      Nested commas (o :: (inner ++ c :: ts))

/-- One argument; a name with a colon in front of the value names it. -/
inductive IsArgument : List Placed → Argument → Prop
  | named {name : String} {n colon : Placed} {value : List Placed} (hn : n.token = .ident name)
      (hc : colon.token = .mark .colon) (h : Nested false value) :
      IsArgument (n :: colon :: value) ⟨some name, spell (value.map (·.token))⟩
  | positional {value : List Placed} (hne : value ≠ []) (h : Nested false value)
      (hu : ∀ name rest, value.map (·.token) ≠ .ident name :: .mark .colon :: rest) :
      IsArgument value ⟨none, spell (value.map (·.token))⟩

/-- Arguments between commas, also one comma at the end. -/
inductive IsArgumentList : List Placed → List Argument → Prop
  | nil : IsArgumentList [] []
  | last {ts : List Placed} {a : Argument} (h : IsArgument ts a) : IsArgumentList ts [a]
  | cons {ts rest : List Placed} {comma : Placed} {a : Argument} {args : List Argument} (h : IsArgument ts a)
      (hc : comma.token = .mark .comma) (hr : IsArgumentList rest args) :
      IsArgumentList (ts ++ comma :: rest) (a :: args)

/-- Arguments in parentheses, or none. -/
inductive IsOptionalArguments : List Placed → List Argument → Prop
  | none : IsOptionalArguments [] []
  | parens {o c : Placed} {ts : List Placed} {args : List Argument} (ho : o.token = .opening .paren)
      (h : IsArgumentList ts args) (hc : c.token = .closing .paren) : IsOptionalArguments (o :: (ts ++ [c])) args

/-- A dotted name. -/
inductive IsPath : List Placed → String → Prop
  | name {t : Placed} {name : String} (h : t.token = .ident name) : IsPath [t] name
  | dot {ts : List Placed} {dot t : Placed} {path name : String} (h : IsPath ts path) (hd : dot.token = .mark .dot)
      (hn : t.token = .ident name) : IsPath (ts ++ [dot, t]) (path ++ "." ++ name)

/-- An attribute without its `@`. -/
inductive IsAttribute : List Placed → Attribute → Prop
  | mk {path ts : List Placed} {name : String} {args : List Argument} (hp : IsPath path name)
      (ha : IsOptionalArguments ts args) : IsAttribute (path ++ ts) ⟨name, args⟩

/-- The attributes of a field. -/
inductive IsAttributes : List Placed → List Attribute → Prop
  | nil : IsAttributes [] []
  | cons {t : Placed} {ts rest : List Placed} {a : Attribute} {as : List Attribute} (ht : t.token = .mark .at)
      (ha : IsAttribute ts a) (hr : IsAttributes rest as) : IsAttributes (t :: (ts ++ rest)) (a :: as)

/-- The modifier `[]`, or nothing. -/
inductive IsListModifier : List Placed → Bool → Prop
  | absent : IsListModifier [] false
  | present {o c : Placed} (ho : o.token = .opening .square) (hc : c.token = .closing .square) :
      IsListModifier [o, c] true

/-- The modifier `?`, or nothing. -/
inductive IsOptionalModifier : List Placed → Bool → Prop
  | absent : IsOptionalModifier [] false
  | present {t : Placed} (ht : t.token = .mark .question) : IsOptionalModifier [t] true

/-- A field, with the documentation from the comments before it. -/
inductive IsField (documentation : Option String) : List Placed → FieldDecl → Prop
  | mk {n t : Placed} {args ls os ts : List Placed} {name type : String} {dropped : List Argument}
      {isList isOptional : Bool} {attributes : List Attribute} (hn : n.token = .ident name)
      (ht : t.token = .ident type) (ha : IsOptionalArguments args dropped) (hl : IsListModifier ls isList)
      (ho : IsOptionalModifier os isOptional) (has : IsAttributes ts attributes) :
      IsField documentation (n :: t :: (args ++ (ls ++ (os ++ ts))))
        ⟨name, type, isOptional, isList, attributes, documentation⟩

/-- What stands in the braces of a model. -/
inductive IsMembers : List Placed → List FieldDecl → Prop
  | docs {ds : List Placed} {texts : List String} (hd : IsDocs ds texts) : IsMembers ds []
  | field {ds ts rest : List Placed} {texts : List String} {f : FieldDecl} {fs : List FieldDecl} (hd : IsDocs ds texts)
      (hf : IsField (joinDocs texts) ts f) (hr : IsMembers rest fs) : IsMembers (ds ++ (ts ++ rest)) (f :: fs)
  | blockAttribute {t : Placed} {ds ts rest : List Placed} {texts : List String} {a : Attribute} {fs : List FieldDecl}
      (hd : IsDocs ds texts) (ht : t.token = .mark .doubleAt) (ha : IsAttribute ts a) (hr : IsMembers rest fs) :
      IsMembers (ds ++ (t :: (ts ++ rest))) fs

/-- A model or view, with the documentation from the comments before it. -/
inductive IsModel (documentation : Option String) : List Placed → ModelDecl → Prop
  | mk {keyword n o c : Placed} {body : List Placed} {name : String} {fields : List FieldDecl}
      (hk : keyword.token = .ident "model" ∨ keyword.token = .ident "view") (hn : n.token = .ident name)
      (ho : o.token = .opening .brace) (hb : IsMembers body fields) (hc : c.token = .closing .brace) :
      IsModel documentation (keyword :: n :: o :: (body ++ [c])) ⟨name, keyword.line, documentation, fields⟩

/-- Tokens whose braces are balanced. -/
inductive Balanced : List Placed → Prop
  | nil : Balanced []
  | single {t : Placed} {ts : List Placed} (ht : t.token.isBrace = false) (h : Balanced ts) : Balanced (t :: ts)
  | group {o c : Placed} {inner ts : List Placed} (ho : o.token = .opening .brace) (hi : Balanced inner)
      (hc : c.token = .closing .brace) (h : Balanced ts) : Balanced (o :: (inner ++ c :: ts))

/-- A block that is no model, with its keyword and its name. -/
inductive IsOtherBlock (word : String) : List Placed → String → Prop
  | mk {keyword n o c : Placed} {body : List Placed} {name : String} (hk : keyword.token = .ident word)
      (hn : n.token = .ident name) (ho : o.token = .opening .brace) (hb : Balanced body)
      (hc : c.token = .closing .brace) : IsOtherBlock word (keyword :: n :: o :: (body ++ [c])) name

/-- A schema. -/
inductive IsSchema : List Placed → Structure → Prop
  | docs {ds : List Placed} {texts : List String} (hd : IsDocs ds texts) : IsSchema ds ⟨[], []⟩
  | model {ds ts rest : List Placed} {texts : List String} {m : ModelDecl} {models : List ModelDecl}
      {enums : List String} (hd : IsDocs ds texts) (hm : IsModel (joinDocs texts) ts m)
      (hr : IsSchema rest ⟨models, enums⟩) : IsSchema (ds ++ (ts ++ rest)) ⟨m :: models, enums⟩
  | enum {ds ts rest : List Placed} {texts : List String} {name : String} {models : List ModelDecl}
      {enums : List String} (hd : IsDocs ds texts) (hb : IsOtherBlock "enum" ts name)
      (hr : IsSchema rest ⟨models, enums⟩) : IsSchema (ds ++ (ts ++ rest)) ⟨models, name :: enums⟩
  | other {ds ts rest : List Placed} {texts : List String} {word name : String} {s : Structure} (hd : IsDocs ds texts)
      (hw : word ∈ ["type", "datasource", "generator"]) (hb : IsOtherBlock word ts name) (hr : IsSchema rest s) :
      IsSchema (ds ++ (ts ++ rest)) s

/-! ### Arguments -/

section

variable {depth : Nat} {current : List Token} {t : Placed} {ts rest : List Placed}

private theorem readArguments_plain (ht : t.token.isPlain = true) (hc : t.token = .mark .comma → depth ≠ 0) :
    readArguments depth current (t :: ts) = readArguments depth (current ++ [t.token]) ts := by
  obtain ⟨t, n⟩ := t
  cases t with
  | doc _ | opening _ | closing _ => cases ht
  | mark m =>
    have hcomma : m = .comma → depth ≠ 0 := fun hm => hc (by rw [hm])
    simp only [readArguments, reduceCtorEq, false_and, if_false, Token.mark.injEq]
    rw [if_neg fun h => hcomma h.1 h.2]
  | _ => simp [readArguments]

private theorem readArguments_opening {b : Bracket} (ht : t.token = .opening b) :
    readArguments depth current (t :: ts) = readArguments (depth + 1) (current ++ [t.token]) ts := by
  simp [readArguments, ht]

private theorem readArguments_closing {b : Bracket} (ht : t.token = .closing b) :
    readArguments (depth + 1) current (t :: ts) = readArguments depth (current ++ [t.token]) ts := by
  simp [readArguments, ht]

/-- Nested tokens go to the argument that has begun, and leave the depth as it is. -/
private theorem readArguments_nested {commas : Bool} (h : Nested commas ts) (hd : commas = true → depth ≠ 0) :
    readArguments depth current (ts ++ rest) = readArguments depth (current ++ ts.map (·.token)) rest := by
  induction h generalizing depth current rest with
  | nil => simp
  | @plain commas t ts ht hc _ ih =>
    rw [List.cons_append, readArguments_plain ht fun h => hd (hc h), ih hd]
    simp
  | @group commas b o c inner ts ho _ hc _ ihi ih =>
    -- the depth is one more between the brackets
    rw [List.cons_append, List.append_assoc, readArguments_opening ho, ihi fun _ => Nat.succ_ne_zero depth,
      List.cons_append, readArguments_closing hc, ih hd]
    simp

theorem IsArgument.nested {a : Argument} (h : IsArgument ts a) : Nested false ts := by
  cases h with
  | named hn hc h => exact .plain (by rw [hn]; rfl) (by simp [hn]) (.plain (by rw [hc]; rfl) (by simp [hc]) h)
  | positional _ h _ => exact h

theorem IsArgument.ofTokens {a : Argument} (h : IsArgument ts a) : Argument.ofTokens (ts.map (·.token)) = a := by
  cases h with
  | named hn hc h =>
    rw [List.map_cons, List.map_cons, hn, hc]
    rfl
  | positional _ _ hu => exact Argument.ofTokens_of_not_named hu

theorem IsArgument.ne_nil {a : Argument} (h : IsArgument ts a) : ts ≠ [] := by
  cases h with
  | named => simp
  | positional hne => exact hne

private theorem readArguments_argument {a : Argument} (h : IsArgument ts a) :
    readArguments 0 [] (ts ++ rest) = readArguments 0 (ts.map (·.token)) rest := by
  rw [readArguments_nested h.nested (by simp), List.nil_append]

private theorem readArguments_list {c : Placed} {args : List Argument} (h : IsArgumentList ts args)
    (hc : c.token = .closing .paren) : readArguments 0 [] (ts ++ c :: rest) = .ok (args, rest) := by
  induction h with
  | nil => simp [readArguments, hc]
  | last h =>
    rw [readArguments_argument h]
    simp [readArguments, hc, h.ne_nil, h.ofTokens]
  | cons h hcomma _ ih =>
    rw [List.append_assoc, readArguments_argument h]
    simp [readArguments, hcomma, ih, h.ofTokens]

end

/-! ### What comes next -/

section

variable {p : Token → Prop} {t : Placed} {ts rest : List Placed}

/-- The next token, if there is one, has a property. -/
def Ahead (p : Token → Prop) (ts : List Placed) : Prop := ∀ t ∈ ts.head?, p t.token

theorem ahead_nil : Ahead p [] := by simp [Ahead]

theorem ahead_cons : Ahead p (t :: ts) ↔ p t.token := by simp [Ahead]

theorem Ahead.append (h : Ahead p ts) (hr : Ahead p rest) : Ahead p (ts ++ rest) := by
  cases ts with
  | nil => exact hr
  | cons t ts => exact h

/-- What may stand after a field or an attribute of a model. -/
def Token.startsMember : Token → Bool
  | .doc _ | .ident _ | .mark .doubleAt | .closing .brace => true
  | _ => false

theorem Ahead.ne (h : Ahead (fun t => t.startsMember = true) ts) {token : Token} (ht : token.startsMember = false) :
    Ahead (· ≠ token) ts := by
  rintro t hm rfl
  exact Bool.false_ne_true (ht.symm.trans (h t hm))

theorem IsDocs.ahead {texts : List String} (h : IsDocs ts texts) (hp : ∀ text, p (.doc text)) : Ahead p ts := by
  cases ts with
  | nil => exact ahead_nil
  | cons t ts =>
    cases texts with
    | nil => cases h
    | cons text texts =>
      have ht : t.token = .doc text := (List.cons.inj h).1
      rw [ahead_cons, ht]
      exact hp text

theorem IsOptionalArguments.ahead {args : List Argument} (h : IsOptionalArguments ts args) (hp : p (.opening .paren)) :
    Ahead p ts := by
  cases h with
  | none => exact ahead_nil
  | parens ho => rwa [ahead_cons, ho]

theorem IsAttributes.ahead {as : List Attribute} (h : IsAttributes ts as) (hp : p (.mark .at)) : Ahead p ts := by
  cases h with
  | nil => exact ahead_nil
  | cons ht => rwa [ahead_cons, ht]

theorem IsListModifier.ahead {isList : Bool} (h : IsListModifier ts isList) (hp : p (.opening .square)) :
    Ahead p ts := by
  cases h with
  | absent => exact ahead_nil
  | present ho => rwa [ahead_cons, ho]

theorem IsOptionalModifier.ahead {isOptional : Bool} (h : IsOptionalModifier ts isOptional) (hp : p (.mark .question)) :
    Ahead p ts := by
  cases h with
  | absent => exact ahead_nil
  | present ht => rwa [ahead_cons, ht]

theorem IsMembers.ahead {fs : List FieldDecl} (h : IsMembers ts fs) (ht : t.token = .closing .brace) :
    Ahead (fun t => t.startsMember = true) (ts ++ t :: rest) := by
  cases h with
  | docs hd => exact (hd.ahead fun _ => rfl).append (ahead_cons.2 (by rw [ht]; rfl))
  | field hd hf =>
    rw [List.append_assoc]
    refine (hd.ahead fun _ => rfl).append ?_
    cases hf with
    | mk hn => exact ahead_cons.2 (by rw [hn]; rfl)
  | blockAttribute hd hat =>
    rw [List.append_assoc]
    exact (hd.ahead fun _ => rfl).append (ahead_cons.2 (by rw [hat]; rfl))

end

/-! ### Attributes -/

section

variable {t : Placed} {ts rest : List Placed}

private theorem readName_cons {name : String} (h : t.token = .ident name) (expected : String) :
    readName expected (t :: ts) = .ok (name, ts) := by
  simp [readName, h]

private theorem readToken_cons {token : Token} (h : t.token = token) (expected : String) :
    readToken token expected (t :: ts) = .ok ((), ts) := by
  simp [readToken, h]

private theorem readOptionalArguments_append {args : List Argument} (h : IsOptionalArguments ts args)
    (hr : Ahead (· ≠ .opening .paren) rest) : readOptionalArguments (ts ++ rest) = .ok (args, rest) := by
  cases h with
  | none =>
    cases rest with
    | nil => rfl
    | cons t rest =>
      rw [ahead_cons] at hr
      simp [readOptionalArguments, hr]
  | parens ho h hc =>
    rw [List.cons_append, List.append_assoc, readOptionalArguments, if_pos ho]
    exact readArguments_list h hc

theorem readPath_end {path : String} (hr : Ahead (· ≠ .mark .dot) rest) : readPath path rest = .ok (path, rest) := by
  cases rest with
  | nil => rfl
  | cons t rest =>
    rw [ahead_cons] at hr
    cases rest <;> simp [readPath, hr]

/-- A dotted name is its first part, and the rest takes the reader from that part to the whole name. -/
theorem IsPath.exists_cons {path : String} (h : IsPath ts path) : ∃ t us first, ts = t :: us ∧ t.token = .ident first ∧
    ∀ rest, readPath first (us ++ rest) = readPath path rest := by
  induction h with
  | name h => exact ⟨_, [], _, rfl, h, fun _ => rfl⟩
  | @dot _ d n _ name _ hd hn ih =>
    obtain ⟨t, us, first, rfl, ht, hread⟩ := ih
    refine ⟨t, us ++ [d, n], first, rfl, ht, fun rest => ?_⟩
    rw [List.append_assoc, hread]
    simp [readPath, hd, hn]

private theorem readAttribute_append {a : Attribute} (h : IsAttribute ts a) (hdot : Ahead (· ≠ .mark .dot) rest)
    (hparen : Ahead (· ≠ .opening .paren) rest) : readAttribute (ts ++ rest) = .ok (a, rest) := by
  obtain ⟨hp, ha⟩ := h
  obtain ⟨t, us, first, rfl, ht, hread⟩ := hp.exists_cons
  have hnext : Ahead (· ≠ .mark .dot) (_ ++ rest) := (ha.ahead (by simp)).append hdot
  rw [List.append_assoc, List.cons_append]
  simp [readAttribute, readName_cons ht, hread, readPath_end hnext, readOptionalArguments_append ha hparen]

private theorem readAttributes_append {as : List Attribute} (h : IsAttributes ts as)
    (hdot : Ahead (· ≠ .mark .dot) rest) (hparen : Ahead (· ≠ .opening .paren) rest)
    (hat : Ahead (· ≠ .mark .at) rest) :
    readAttributes (ts ++ rest) = .ok (as, rest) := by
  induction h with
  | nil =>
    cases rest with
    | nil => rw [List.nil_append, readAttributes]
    | cons t rest => rw [List.nil_append, readAttributes_cons, if_neg (ahead_cons.1 hat)]
  | cons ht ha hr ih =>
    have hattribute := readAttribute_append ha ((hr.ahead (by simp)).append hdot) ((hr.ahead (by simp)).append hparen)
    rw [List.cons_append, List.append_assoc, readAttributes_cons, if_pos ht, hattribute]
    dsimp only
    rw [ih]
    rfl

/-! ### Fields -/

theorem readListModifier_append {isList : Bool} (h : IsListModifier ts isList)
    (hr : Ahead (· ≠ .opening .square) rest) : readListModifier (ts ++ rest) = .ok (isList, rest) := by
  cases h with
  | absent =>
    cases rest with
    | nil => rfl
    | cons t rest =>
      rw [ahead_cons] at hr
      simp [readListModifier, hr]
  | present ho hc => simp [readListModifier, ho, readToken_cons hc]

theorem readOptionalModifier_append {isOptional : Bool} (h : IsOptionalModifier ts isOptional)
    (hr : Ahead (· ≠ .mark .question) rest) : readOptionalModifier (ts ++ rest) = (isOptional, rest) := by
  cases h with
  | absent =>
    cases rest with
    | nil => rfl
    | cons t rest =>
      rw [ahead_cons] at hr
      simp [readOptionalModifier, hr]
  | present ht => simp [readOptionalModifier, ht]

theorem IsField.exists_cons {documentation : Option String} {f : FieldDecl} (h : IsField documentation ts f) :
    ∃ n us, ts = n :: us ∧ n.token = .ident f.name ∧ ∀ line rest, Ahead (fun t => t.startsMember = true) rest →
      readField f.name line documentation (us ++ rest) = .ok (f, rest) := by
  cases h with
  | @mk n t args ls os ts name type dropped isList isOptional attributes hn ht ha hl ho has =>
    refine ⟨n, _, rfl, hn, fun line rest hr => ?_⟩
    -- what stands after each part cannot continue it
    have hparen : Ahead (· ≠ .opening .paren) (ls ++ (os ++ (ts ++ rest))) :=
      (hl.ahead (by simp)).append ((ho.ahead (by simp)).append ((has.ahead (by simp)).append (hr.ne rfl)))
    have hsquare : Ahead (· ≠ .opening .square) (os ++ (ts ++ rest)) :=
      (ho.ahead (by simp)).append ((has.ahead (by simp)).append (hr.ne rfl))
    have hquestion : Ahead (· ≠ .mark .question) (ts ++ rest) := (has.ahead (by simp)).append (hr.ne rfl)
    have hattributes := readAttributes_append has (hr.ne rfl) (hr.ne rfl) (hr.ne rfl)
    simp [readField, readName_cons ht, readOptionalArguments_append ha hparen, readListModifier_append hl hsquare,
      readOptionalModifier_append ho hquestion, hattributes]

/-! ### Models -/

/-- A reader that gathers comments one by one gathers those of a run. -/
private theorem IsDocs.gather {α : Type} {read : List String → List Placed → α}
    (hread : ∀ docs t ts text, t.token = .doc text → read docs (t :: ts) = read (docs ++ [text]) ts)
    {texts : List String} (h : IsDocs ts texts) (docs : List String) :
    read docs (ts ++ rest) = read (docs ++ texts) rest := by
  induction ts generalizing docs texts with
  | nil =>
    cases texts with
    | nil => rw [List.nil_append, List.append_nil]
    | cons text texts => cases h
  | cons t ts ih =>
    cases texts with
    | nil => cases h
    | cons text texts =>
      obtain ⟨ht, hts⟩ := List.cons.inj h
      rw [List.cons_append, hread _ _ _ _ ht, ih hts, List.append_assoc, List.singleton_append]

private theorem readFields_docs {texts : List String} (h : IsDocs ts texts) (name : String) (line : Nat)
    (docs : List String) : readFields name line docs (ts ++ rest) = readFields name line (docs ++ texts) rest :=
  h.gather (fun docs _ ts _ => readFields_doc name line docs ts) docs

/-- The comments gathered before a member are the ones that stand before it. -/
private theorem readFields_append {c : Placed} {fs : List FieldDecl} (h : IsMembers ts fs)
    (hc : c.token = .closing .brace) (name : String) (line : Nat) :
    readFields name line [] (ts ++ c :: rest) = .ok (fs, rest) := by
  induction h with
  | docs hd => rw [readFields_docs hd, readFields_brace _ _ _ _ hc]
  | field hd hf hr ih =>
    obtain ⟨n, us, rfl, hn, hread⟩ := hf.exists_cons
    rw [List.append_assoc, List.append_assoc, readFields_docs hd, List.cons_append, readFields_field _ _ _ _ hn,
      List.nil_append, hread _ _ (hr.ahead hc)]
    dsimp only
    rw [ih]
    rfl
  | blockAttribute hd ht ha hr ih =>
    have hnext : Ahead _ (_ ++ c :: rest) := hr.ahead hc
    rw [List.append_assoc, readFields_docs hd, List.cons_append, List.append_assoc, readFields_attribute _ _ _ _ ht,
      readAttribute_append ha (hnext.ne rfl) (hnext.ne rfl)]
    exact ih

theorem IsModel.exists_cons {documentation : Option String} {m : ModelDecl} (h : IsModel documentation ts m) :
    ∃ keyword us, ts = keyword :: us ∧ keyword.token.block? = some .model ∧
      ∀ rest, readModel keyword.line documentation (us ++ rest) = .ok (m, rest) := by
  cases h with
  | @mk keyword n o c body name fields hk hn ho hb hc =>
    refine ⟨keyword, _, rfl, ?_, fun rest => ?_⟩
    · rcases hk with hk | hk <;> rw [hk] <;> rfl
    · simp [readModel, readName_cons hn, readToken_cons ho, readFields_append hb hc]

/-! ### Schemas -/

private theorem skipBraces_single (h : t.token.isBrace = false) (name : String) (line depth : Nat) :
    skipBraces name line depth (t :: ts) = skipBraces name line depth ts := by
  obtain ⟨t, n⟩ := t
  cases t with
  | opening b | closing b =>
    cases b with
    | brace => cases h
    | _ => rfl
  | _ => rfl

private theorem skipBraces_opening (h : t.token = .opening .brace) (name : String) (line depth : Nat) :
    skipBraces name line depth (t :: ts) = skipBraces name line (depth + 1) ts := by
  rw [skipBraces.eq_def]
  simp only [h]

private theorem skipBraces_closing (h : t.token = .closing .brace) (name : String) (line depth : Nat) :
    skipBraces name line (depth + 1) (t :: ts) = skipBraces name line depth ts := by
  rw [skipBraces.eq_def]
  simp only [h]

private theorem skipBraces_end (h : t.token = .closing .brace) (name : String) (line : Nat) :
    skipBraces name line 0 (t :: ts) = .ok ((), ts) := by
  rw [skipBraces.eq_def]
  simp only [h]

private theorem skipBraces_append (h : Balanced ts) (name : String) (line depth : Nat) :
    skipBraces name line depth (ts ++ rest) = skipBraces name line depth rest := by
  induction h generalizing depth rest with
  | nil => rfl
  | single ht _ ih => rw [List.cons_append, skipBraces_single ht, ih]
  | group ho _ hc _ ihi ih =>
    rw [List.cons_append, List.append_assoc, skipBraces_opening ho, ihi, List.cons_append, skipBraces_closing hc, ih]

theorem IsOtherBlock.exists_cons {word name : String} (h : IsOtherBlock word ts name) :
    ∃ keyword us, ts = keyword :: us ∧ keyword.token = .ident word ∧
      ∀ line expected rest, readOtherBlock line expected (us ++ rest) = .ok (name, rest) := by
  cases h with
  | @mk keyword n o c body name hk hn ho hb hc =>
    refine ⟨keyword, _, rfl, hk, fun line expected rest => ?_⟩
    simp [readOtherBlock, readName_cons hn, readToken_cons ho, skipBraces_append hb, skipBraces_end hc]

private theorem readBlocks_docs {texts : List String} (h : IsDocs ts texts) (docs : List String) :
    readBlocks docs (ts ++ rest) = readBlocks (docs ++ texts) rest :=
  h.gather (fun docs _ ts _ => readBlocks_doc docs ts) docs

/-- Tokens of the grammar are read as the structure that they mean. -/
private theorem readBlocks_of_isSchema {s : Structure} (h : IsSchema ts s) : readBlocks [] ts = .ok s := by
  induction h with
  | @docs ds texts hd =>
    have hread : readBlocks [] (ds ++ []) = readBlocks texts [] := readBlocks_docs hd []
    rw [List.append_nil] at hread
    rw [hread, readBlocks]
  | model hd hm hr ih =>
    obtain ⟨keyword, us, rfl, hk, hread⟩ := hm.exists_cons
    rw [readBlocks_docs hd, List.cons_append, readBlocks_block _ _ hk, List.nil_append]
    dsimp only
    rw [hread]
    dsimp only
    rw [ih]
    rfl
  | enum hd hb hr ih =>
    obtain ⟨keyword, us, rfl, hk, hread⟩ := hb.exists_cons
    have hkind : keyword.token.block? = some .enum := by rw [hk]; rfl
    rw [readBlocks_docs hd, List.cons_append, readBlocks_block _ _ hkind]
    dsimp only
    rw [hread]
    dsimp only
    rw [ih]
    rfl
  | other hd hw hb hr ih =>
    obtain ⟨keyword, us, rfl, hk, hread⟩ := hb.exists_cons
    have hkind : keyword.token.block? = some .other := by
      rw [hk]
      simp only [List.mem_cons, List.not_mem_nil, or_false] at hw
      rcases hw with rfl | rfl | rfl <;> rfl
    rw [readBlocks_docs hd, List.cons_append, readBlocks_block _ _ hkind]
    dsimp only
    rw [hread]
    exact ih

/-- Tokens have at most one meaning. -/
theorem IsSchema.unique {s s' : Structure} (h : IsSchema ts s) (h' : IsSchema ts s') : s = s' :=
  Except.ok.inj ((readBlocks_of_isSchema h).symm.trans (readBlocks_of_isSchema h'))

end

end GuardedCrud.Schema
