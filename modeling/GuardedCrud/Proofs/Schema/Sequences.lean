import GuardedCrud.Proofs.Schema.Outline

/-!
# Readers one after the other

`Reading.andThen` hands what one reader left to the next one.  The readers of the grammar are written with it here
(`readAttribute_eq` to `readOtherBlock_eq`), and the ones that go on by themselves have an equation for each kind of first
token (`readAttributes_cons` to `readBlocks_unexpected`), so a property of readers is proved for `andThen` once.
-/

namespace GuardedCrud.Schema

/-- What the next reader makes of the tokens that a reader left; the first fault counts. -/
def Reading.andThen {α β : Type} (x : Reading α) (next : α → List Placed → Reading β) : Reading β :=
  match x with
  | .error e => .error e
  | .ok (a, ts) => next a ts

section

variable {α β : Type} (next : α → List Placed → Reading β)

@[simp] theorem Reading.andThen_ok (a : α) (ts : List Placed) : Reading.andThen (.ok (a, ts)) next = next a ts := rfl

@[simp] theorem Reading.andThen_error (e : Fault) : Reading.andThen (.error e) next = .error e := rfl

variable {next}

theorem Reading.andThen_eq_ok {x : Reading α} {p : β × List Placed} (h : x.andThen next = .ok p) :
    ∃ a ts, x = .ok (a, ts) ∧ next a ts = .ok p := by
  cases x with
  | error e => cases h
  | ok q => exact ⟨q.1, q.2, rfl, h⟩

end

/-! ### Readers that read one thing after the other -/

/-- What follows the type of a field: modifiers and attributes. -/
def readDetails (name type : String) (documentation : Option String) (ts : List Placed) : Reading FieldDecl :=
  (readOptionalArguments ts).andThen fun _ ts =>
    (readListModifier ts).andThen fun isList ts =>
      Reading.andThen (.ok (readOptionalModifier ts)) fun isOptional ts =>
        (readAttributes ts).andThen fun attributes ts =>
          .ok (⟨name, type, isOptional, isList, attributes, documentation⟩, ts)

theorem readAttribute_eq (ts : List Placed) : readAttribute ts =
    (readName "attribute name" ts).andThen fun first ts =>
      (readPath first ts).andThen fun name ts =>
        (readOptionalArguments ts).andThen fun args ts => .ok (⟨name, args⟩, ts) := by
  unfold readAttribute
  cases readName "attribute name" ts with
  | error e => rfl
  | ok p =>
    obtain ⟨first, ts⟩ := p
    dsimp only [Reading.andThen_ok]
    cases readPath first ts with
    | error e => rfl
    | ok p =>
      obtain ⟨name, ts⟩ := p
      dsimp only [Reading.andThen_ok]
      cases readOptionalArguments ts <;> rfl

theorem readField_eq (name : String) (line : Nat) (documentation : Option String) (ts : List Placed) :
    readField name line documentation ts =
      match readName "" ts with
      | .error _ => .error (.missingType line name)
      | .ok (type, ts) => readDetails name type documentation ts := by
  unfold readField readDetails
  cases readName "" ts with
  | error e => rfl
  | ok p =>
    obtain ⟨type, ts⟩ := p
    dsimp only
    cases readOptionalArguments ts with
    | error e => rfl
    | ok p =>
      obtain ⟨args, ts⟩ := p
      dsimp only [Reading.andThen_ok]
      cases readListModifier ts with
      | error e => rfl
      | ok p =>
        obtain ⟨isList, ts⟩ := p
        show _ = (readAttributes (readOptionalModifier ts).2).andThen _
        dsimp only
        cases readAttributes (readOptionalModifier ts).2 <;> rfl

theorem readModel_eq (line : Nat) (documentation : Option String) (ts : List Placed) :
    readModel line documentation ts =
      (readName "model name" ts).andThen fun name ts =>
        (readToken (.opening .brace) "'\x7b'" ts).andThen fun _ ts =>
          (readFields name line [] ts).andThen fun fields ts => .ok (⟨name, line, documentation, fields⟩, ts) := by
  unfold readModel
  cases readName "model name" ts with
  | error e => rfl
  | ok p =>
    obtain ⟨name, ts⟩ := p
    dsimp only [Reading.andThen_ok]
    cases readToken (.opening .brace) "'\x7b'" ts with
    | error e => rfl
    | ok p =>
      obtain ⟨-, ts⟩ := p
      dsimp only [Reading.andThen_ok]
      cases readFields name line [] ts <;> rfl

theorem readOtherBlock_eq (line : Nat) (expected : String) (ts : List Placed) :
    readOtherBlock line expected ts =
      (readName expected ts).andThen fun name ts =>
        (readToken (.opening .brace) "'\x7b'" ts).andThen fun _ ts =>
          (skipBraces name line 0 ts).andThen fun _ ts => .ok (name, ts) := by
  unfold readOtherBlock
  cases readName expected ts with
  | error e => rfl
  | ok p =>
    obtain ⟨name, ts⟩ := p
    dsimp only [Reading.andThen_ok]
    cases readToken (.opening .brace) "'\x7b'" ts with
    | error e => rfl
    | ok p =>
      obtain ⟨-, ts⟩ := p
      dsimp only [Reading.andThen_ok]
      cases skipBraces name line 0 ts <;> rfl

/-! ### Readers that go on by themselves -/

theorem readArguments_eq (depth : Nat) (current : List Token) (t : Placed) (ts : List Placed) :
    readArguments depth current (t :: ts) =
      if t.token = .closing .paren ∧ depth = 0 then
        .ok (if current.isEmpty then [] else [Argument.ofTokens current], ts)
      else if t.token = .mark .comma ∧ depth = 0 then
        (readArguments 0 [] ts).andThen fun args ts => .ok (Argument.ofTokens current :: args, ts)
      else
        readArguments (match t.token with | .opening _ => depth + 1 | .closing _ => depth - 1 | _ => depth)
          (current ++ [t.token]) ts := by
  rw [readArguments]
  dsimp only
  split
  · rfl
  · split
    · cases readArguments 0 [] ts <;> rfl
    · rfl

theorem readPath_dot (name : String) {t : Placed} (ht : t.token = .mark .dot) (ts : List Placed) :
    readPath name (t :: ts) =
      (readName "attribute name" ts).andThen fun next ts => readPath (name ++ "." ++ next) ts := by
  cases ts with
  | nil => rw [readPath, if_pos ht]; rfl
  | cons part ts =>
    rw [readPath, if_pos ht]
    obtain ⟨part, line⟩ := part
    cases part <;> rfl

theorem readPath_of_not_dot (name : String) {t : Placed} (ht : t.token ≠ .mark .dot) (ts : List Placed) :
    readPath name (t :: ts) = .ok (name, t :: ts) := by
  cases ts with
  | nil => rw [readPath, if_neg ht]
  | cons part ts => rw [readPath, if_neg ht]

theorem readAttributes_cons (t : Placed) (ts : List Placed) : readAttributes (t :: ts) =
    if t.token = .mark .at then
      match readAttribute ts with
      | .error e => .error e
      | .ok (a, rest) => (readAttributes rest).map fun p => (a :: p.1, p.2)
    else .ok ([], t :: ts) := by
  rw [readAttributes]
  split
  · split
    · rename_i h
      rw [h]
    · rename_i a rest h
      simp only [h]
      cases readAttributes rest <;> rfl
  · rfl

theorem readAttributes_at {t : Placed} (ht : t.token = .mark .at) (ts : List Placed) : readAttributes (t :: ts) =
    (readAttribute ts).andThen fun a ts => (readAttributes ts).andThen fun as ts => .ok (a :: as, ts) := by
  rw [readAttributes_cons, if_pos ht]
  cases readAttribute ts with
  | error e => rfl
  | ok p =>
    obtain ⟨a, ts⟩ := p
    dsimp only [Reading.andThen_ok]
    cases readAttributes ts <;> rfl

section

variable (name : String) (line : Nat) (docs : List String) {t : Placed} (ts : List Placed)

theorem readFields_brace (h : t.token = .closing .brace) : readFields name line docs (t :: ts) = .ok ([], ts) := by
  obtain ⟨t, n⟩ := t
  obtain rfl : t = .closing .brace := h
  rw [readFields]

theorem readFields_doc {text : String} (h : t.token = .doc text) :
    readFields name line docs (t :: ts) = readFields name line (docs ++ [text]) ts := by
  obtain ⟨t, n⟩ := t
  obtain rfl : t = .doc text := h
  rw [readFields]

theorem readFields_attribute (h : t.token = .mark .doubleAt) : readFields name line docs (t :: ts) =
    match readAttribute ts with
    | .error e => .error e
    | .ok (_, rest) => readFields name line [] rest := by
  obtain ⟨t, n⟩ := t
  obtain rfl : t = .mark .doubleAt := h
  rw [readFields]
  dsimp only
  split
  · rename_i h
    simp only [h]
  · rename_i h
    simp only [h]

theorem readFields_field {field : String} (h : t.token = .ident field) : readFields name line docs (t :: ts) =
    match readField field t.line (joinDocs docs) ts with
    | .error e => .error e
    | .ok (f, rest) => (readFields name line [] rest).map fun p => (f :: p.1, p.2) := by
  obtain ⟨t, n⟩ := t
  obtain rfl : t = .ident field := h
  rw [readFields]
  dsimp only
  split
  · rename_i h
    simp only [h]
  · rename_i f rest h
    simp only [h]
    cases readFields name line [] rest <;> rfl

end

theorem readFields_doubleAt (name : String) (line : Nat) (docs : List String) {t : Placed}
    (ht : t.token = .mark .doubleAt) (ts : List Placed) :
    readFields name line docs (t :: ts) = (readAttribute ts).andThen fun _ ts => readFields name line [] ts := by
  rw [readFields_attribute _ _ _ _ ht]
  cases readAttribute ts <;> rfl

theorem readFields_field_named (name : String) (line : Nat) (docs : List String) {t u : Placed} {field type : String}
    (ht : t.token = .ident field) (hu : u.token = .ident type) (ts : List Placed) :
    readFields name line docs (t :: u :: ts) =
      (readDetails field type (joinDocs docs) ts).andThen fun f ts =>
        (readFields name line [] ts).andThen fun fs ts => .ok (f :: fs, ts) := by
  have hname : readName "" (u :: ts) = .ok (type, ts) := by rw [readName, hu]
  rw [readFields_field _ _ _ _ ht, readField_eq, hname]
  dsimp only
  cases readDetails field type (joinDocs docs) ts with
  | error e => rfl
  | ok p =>
    obtain ⟨f, ts⟩ := p
    dsimp only [Reading.andThen_ok]
    cases readFields name line [] ts <;> rfl

theorem readFields_field_unnamed (name : String) (line : Nat) (docs : List String) {t : Placed} {field : String}
    (ht : t.token = .ident field) {ts : List Placed} (hts : ∀ u ∈ ts.head?, ∀ type, u.token ≠ .ident type) :
    readFields name line docs (t :: ts) = .error (.missingType t.line field) := by
  have hname : ∃ e, readName "" ts = .error e := by
    cases ts with
    | nil => exact ⟨_, rfl⟩
    | cons u ts =>
      obtain ⟨u, n⟩ := u
      cases u with
      | ident type => exact absurd rfl (hts _ rfl type)
      | _ => exact ⟨_, rfl⟩
  obtain ⟨e, hname⟩ := hname
  rw [readFields_field _ _ _ _ ht, readField_eq, hname]

/-- The token at the front of a block is none that a field or the end of the block begins with. -/
theorem readFields_unexpected (name : String) (line : Nat) (docs : List String) {t : Placed}
    (hbrace : t.token ≠ .closing .brace) (hdoc : ∀ text, t.token ≠ .doc text) (hattribute : t.token ≠ .mark .doubleAt)
    (hfield : ∀ field, t.token ≠ .ident field) (ts : List Placed) :
    readFields name line docs (t :: ts) = .error (t.unexpected "a field or '\x7d'") := by
  obtain ⟨t, n⟩ := t
  rw [readFields]
  cases t with
  | closing b =>
    cases b with
    | brace => exact absurd rfl hbrace
    | _ => rfl
  | mark m =>
    cases m with
    | doubleAt => exact absurd rfl hattribute
    | _ => rfl
  | doc text => exact absurd rfl (hdoc text)
  | ident field => exact absurd rfl (hfield field)
  | _ => rfl

section

variable (docs : List String) {t : Placed} (ts : List Placed)

theorem readBlocks_doc {text : String} (h : t.token = .doc text) :
    readBlocks docs (t :: ts) = readBlocks (docs ++ [text]) ts := by
  obtain ⟨t, n⟩ := t
  obtain rfl : t = .doc text := h
  rw [readBlocks]

theorem readBlocks_block {kind : BlockKind} (h : t.token.block? = some kind) : readBlocks docs (t :: ts) =
    match kind with
    | .model =>
      match readModel t.line (joinDocs docs) ts with
      | .error e => .error e
      | .ok (m, rest) => (readBlocks [] rest).map (Structure.consModel m)
    | .enum =>
      match readOtherBlock t.line "enum name" ts with
      | .error e => .error e
      | .ok (name, rest) => (readBlocks [] rest).map (Structure.consEnum name)
    | .other =>
      match readOtherBlock t.line "block name" ts with
      | .error e => .error e
      | .ok (_, rest) => readBlocks [] rest := by
  obtain ⟨t, n⟩ := t
  cases t with
  | ident keyword =>
    cases kind with
    | _ =>
      rw [readBlocks]
      dsimp only at h ⊢
      rw [h]
      dsimp only
      split
      · rename_i hr
        simp only [hr]
      · rename_i hr
        simp only [hr]
  | _ => cases h

theorem readBlocks_unexpected (h : t.token.block? = none) (hdoc : ∀ text, t.token ≠ .doc text) :
    readBlocks docs (t :: ts) = .error (t.unexpected "a top-level block") := by
  obtain ⟨t, n⟩ := t
  cases t with
  | doc text => exact absurd rfl (hdoc text)
  | ident keyword =>
    rw [readBlocks]
    dsimp only at h ⊢
    rw [h]
  | _ => rw [readBlocks]; rfl

end

end GuardedCrud.Schema
