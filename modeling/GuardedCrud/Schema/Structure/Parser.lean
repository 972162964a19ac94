import GuardedCrud.Schema.Structure
import GuardedCrud.Schema.Token.Lexer

/-!
# From tokens to the structure of a schema

The grammar does not see line ends.  Each reader takes the tokens that are left and gives what it read and the
tokens after it; the lemmas `…_length` say that a reader leaves fewer tokens than it was given.  Blocks other than
models, views and enums are passed over.
-/

namespace GuardedCrud.Schema

/-- The fault of a token that stands where something else was expected. -/
def Placed.unexpected (t : Placed) (expected : String) : Fault := .unexpected t.line t.token expected

/-- What a reader gives: a value and the tokens after it. -/
abbrev Reading (α : Type) := Except Fault (α × List Placed)

/-- The next token must be a name. -/
def readName (expected : String) : List Placed → Reading String
  | [] => .error (.unexpectedEnd expected)
  | t :: ts =>
    match t.token with
    | .ident name => .ok (name, ts)
    | _ => .error (t.unexpected expected)

/-- The next token must be the given one. -/
def readToken (token : Token) (expected : String) : List Placed → Reading Unit
  | [] => .error (.unexpectedEnd expected)
  | t :: ts => if t.token = token then .ok ((), ts) else .error (t.unexpected expected)

/-- Arguments up to the closing parenthesis, inside `depth` brackets and after the tokens `current` of an argument
that has begun.  Commas inside brackets belong to their argument, and the last argument may be left out. -/
def readArguments (depth : Nat) (current : List Token) : List Placed → Reading (List Argument)
  | [] => .error (.unexpectedEnd "')'")
  | t :: ts =>
    let ending := t.token = .closing .paren ∧ depth = 0
    let separating := t.token = .mark .comma ∧ depth = 0
    if ending then .ok (if current.isEmpty then [] else [Argument.ofTokens current], ts)
    else if separating then
      match readArguments 0 [] ts with
      | .ok (args, rest) => .ok (Argument.ofTokens current :: args, rest)
      | .error e => .error e
    else
      let depth := match t.token with
        | .opening _ => depth + 1
        | .closing _ => depth - 1
        | _ => depth
      readArguments depth (current ++ [t.token]) ts

/-- The parts of a dotted name after its first one. -/
def readPath (name : String) : List Placed → Reading String
  | [] => .ok (name, [])
  | [t] => if t.token = .mark .dot then .error (.unexpectedEnd "attribute name") else .ok (name, [t])
  | t :: part :: ts =>
    if t.token = .mark .dot then
      match part.token with
      | .ident next => readPath (name ++ "." ++ next) ts
      | _ => .error (part.unexpected "attribute name")
    else .ok (name, t :: part :: ts)

/-- Arguments in parentheses, if there are any. -/
def readOptionalArguments : List Placed → Reading (List Argument)
  | [] => .ok ([], [])
  | t :: ts => if t.token = .opening .paren then readArguments 0 [] ts else .ok ([], t :: ts)

/-- What follows the `@` of an attribute: a dotted name, and arguments if there are any. -/
def readAttribute (ts : List Placed) : Reading Attribute :=
  match readName "attribute name" ts with
  | .error e => .error e
  | .ok (first, ts) =>
    match readPath first ts with
    | .error e => .error e
    | .ok (name, ts) =>
      match readOptionalArguments ts with
      | .error e => .error e
      | .ok (args, ts) => .ok (⟨name, args⟩, ts)

theorem readName_length {expected : String} {ts rest : List Placed} {name : String}
    (h : readName expected ts = .ok (name, rest)) : rest.length < ts.length := by
  unfold readName at h
  grind

theorem readArguments_length {depth : Nat} {current : List Token} {ts rest : List Placed}
    {args : List Argument} (h : readArguments depth current ts = .ok (args, rest)) :
    rest.length < ts.length := by
  induction ts generalizing depth current args rest with
  | nil => simp [readArguments] at h
  | cons t ts ih =>
    unfold readArguments at h
    grind

theorem readPath_length {first name : String} {ts rest : List Placed}
    (h : readPath first ts = .ok (name, rest)) : rest.length ≤ ts.length := by
  fun_induction readPath first ts <;> grind

theorem readOptionalArguments_length {ts rest : List Placed} {args : List Argument}
    (h : readOptionalArguments ts = .ok (args, rest)) : rest.length ≤ ts.length := by
  cases ts with
  | nil => simp_all [readOptionalArguments]
  | cons t ts =>
    by_cases ht : t.token = .opening .paren
    · simp only [readOptionalArguments, ht, ↓reduceIte] at h
      have := readArguments_length h
      grind
    · simp only [readOptionalArguments, ht, ↓reduceIte] at h
      grind

theorem readAttribute_length {ts rest : List Placed} {a : Attribute}
    (h : readAttribute ts = .ok (a, rest)) : rest.length < ts.length := by
  unfold readAttribute at h
  split at h
  · simp at h
  rename_i h₁
  split at h
  · simp at h
  rename_i h₂
  split at h
  · simp at h
  rename_i h₃
  have := readName_length h₁
  have := readPath_length h₂
  have := readOptionalArguments_length h₃
  grind

/-- The attributes of a field, each after its `@`. -/
def readAttributes (ts : List Placed) : Reading (List Attribute) :=
  match ts with
  | [] => .ok ([], [])
  | t :: ts =>
    if t.token = .mark .at then
      match h : readAttribute ts with
      | .error e => .error e
      | .ok (a, rest) =>
        have := readAttribute_length h
        match readAttributes rest with
        | .error e => .error e
        | .ok (as, rest) => .ok (a :: as, rest)
    else .ok ([], t :: ts)
termination_by ts.length

theorem readAttributes_length {ts rest : List Placed} {as : List Attribute}
    (h : readAttributes ts = .ok (as, rest)) : rest.length ≤ ts.length := by
  fun_induction readAttributes ts generalizing as rest with
  | case1 => grind
  | case2 => simp at h
  | case3 => simp at h
  | case4 => grind
  | case5 => grind

/-- The modifier `[]`, if it stands there. -/
def readListModifier : List Placed → Reading Bool
  | [] => .ok (false, [])
  | t :: ts =>
    if t.token = .opening .square then
      match readToken (.closing .square) "']'" ts with
      | .error e => .error e
      | .ok (_, rest) => .ok (true, rest)
    else .ok (false, t :: ts)

/-- The modifier `?`, if it stands there. -/
def readOptionalModifier : List Placed → Bool × List Placed
  | [] => (false, [])
  | t :: ts => if t.token = .mark .question then (true, ts) else (false, t :: ts)

/-- What follows the name of a field: its type, modifiers and attributes. -/
def readField (name : String) (line : Nat) (documentation : Option String) (ts : List Placed) :
    Reading FieldDecl :=
  match readName "" ts with
  | .error _ => .error (.missingType line name)
  | .ok (type, ts) =>
    match readOptionalArguments ts with
    | .error e => .error e
    | .ok (_, ts) =>
      match readListModifier ts with
      | .error e => .error e
      | .ok (isList, ts) =>
        let modifier := readOptionalModifier ts
        match readAttributes modifier.2 with
        | .error e => .error e
        | .ok (attributes, ts) => .ok (⟨name, type, modifier.1, isList, attributes, documentation⟩, ts)

theorem readListModifier_length {ts rest : List Placed} {b : Bool}
    (h : readListModifier ts = .ok (b, rest)) : rest.length ≤ ts.length := by
  unfold readListModifier readToken at h
  grind

theorem readOptionalModifier_length (ts : List Placed) : (readOptionalModifier ts).2.length ≤ ts.length := by
  unfold readOptionalModifier
  grind

theorem readField_length {name : String} {line : Nat} {documentation : Option String}
    {ts rest : List Placed} {f : FieldDecl} (h : readField name line documentation ts = .ok (f, rest)) :
    rest.length < ts.length := by
  unfold readField at h
  split at h
  · simp at h
  rename_i h₁
  split at h
  · simp at h
  rename_i h₂
  split at h
  · simp at h
  rename_i ts₃ h₃
  simp only at h
  split at h
  · simp at h
  rename_i h₄
  have := readName_length h₁
  have := readOptionalArguments_length h₂
  have := readListModifier_length h₃
  have := readOptionalModifier_length ts₃
  have := readAttributes_length h₄
  grind

/-- The fields of the model `name`, whose keyword stands on `line`, up to its closing brace, after the
documentation comments `docs`.  Attributes of the whole model carry no field and take the comments before them. -/
def readFields (name : String) (line : Nat) (docs : List String) (ts : List Placed) :
    Reading (List FieldDecl) :=
  match ts with
  | [] => .error (.unterminatedBlock line name)
  | t :: ts =>
    match t.token with
    | .closing .brace => .ok ([], ts)
    | .doc text => readFields name line (docs ++ [text]) ts
    | .mark .doubleAt =>
      match h : readAttribute ts with
      | .error e => .error e
      | .ok (_, rest) =>
        have := readAttribute_length h
        readFields name line [] rest
    | .ident field =>
      match h : readField field t.line (joinDocs docs) ts with
      | .error e => .error e
      | .ok (f, rest) =>
        have := readField_length h
        match readFields name line [] rest with
        | .error e => .error e
        | .ok (fs, rest) => .ok (f :: fs, rest)
    | _ => .error (t.unexpected "a field or '\x7d'")
termination_by ts.length

theorem readFields_length {name : String} {line : Nat} {docs : List String} {ts rest : List Placed}
    {fs : List FieldDecl} (h : readFields name line docs ts = .ok (fs, rest)) :
    rest.length < ts.length := by
  fun_induction readFields name line docs ts generalizing fs rest <;> grind

/-- What follows the keyword of a model: its name and its block. -/
def readModel (line : Nat) (documentation : Option String) (ts : List Placed) : Reading ModelDecl :=
  match readName "model name" ts with
  | .error e => .error e
  | .ok (name, ts) =>
    match readToken (.opening .brace) "'\x7b'" ts with
    | .error e => .error e
    | .ok (_, ts) =>
      match readFields name line [] ts with
      | .error e => .error e
      | .ok (fields, ts) => .ok (⟨name, line, documentation, fields⟩, ts)

/-- Pass over a block that is open `depth + 1` times, up to its last closing brace. -/
def skipBraces (name : String) (line : Nat) (depth : Nat) : List Placed → Reading Unit
  | [] => .error (.unterminatedBlock line name)
  | t :: ts =>
    match t.token with
    | .opening .brace => skipBraces name line (depth + 1) ts
    | .closing .brace =>
      match depth with
      | 0 => .ok ((), ts)
      | depth + 1 => skipBraces name line depth ts
    | _ => skipBraces name line depth ts

/-- What follows the keyword of a block without fields: its name, and its braces passed over. -/
def readOtherBlock (line : Nat) (expected : String) (ts : List Placed) : Reading String :=
  match readName expected ts with
  | .error e => .error e
  | .ok (name, ts) =>
    match readToken (.opening .brace) "'\x7b'" ts with
    | .error e => .error e
    | .ok (_, ts) =>
      match skipBraces name line 0 ts with
      | .error e => .error e
      | .ok (_, ts) => .ok (name, ts)

theorem readToken_length {token : Token} {expected : String} {ts rest : List Placed} {u : Unit}
    (h : readToken token expected ts = .ok (u, rest)) : rest.length < ts.length := by
  unfold readToken at h
  grind

theorem skipBraces_length {name : String} {line depth : Nat} {ts rest : List Placed} {u : Unit}
    (h : skipBraces name line depth ts = .ok (u, rest)) : rest.length < ts.length := by
  fun_induction skipBraces name line depth ts <;> grind

theorem readModel_length {line : Nat} {documentation : Option String} {ts rest : List Placed}
    {m : ModelDecl} (h : readModel line documentation ts = .ok (m, rest)) : rest.length < ts.length := by
  unfold readModel at h
  split at h
  · simp at h
  rename_i h₁
  split at h
  · simp at h
  rename_i h₂
  split at h
  · simp at h
  rename_i h₃
  have := readName_length h₁
  have := readToken_length h₂
  have := readFields_length h₃
  grind

theorem readOtherBlock_length {line : Nat} {expected : String} {ts rest : List Placed} {name : String}
    (h : readOtherBlock line expected ts = .ok (name, rest)) : rest.length < ts.length := by
  unfold readOtherBlock at h
  split at h
  · simp at h
  rename_i h₁
  split at h
  · simp at h
  rename_i h₂
  split at h
  · simp at h
  rename_i h₃
  have := readName_length h₁
  have := readToken_length h₂
  have := skipBraces_length h₃
  grind

/-- The blocks that a top-level keyword opens. -/
inductive BlockKind
  /-- `model` or `view`. -/
  | model
  | enum
  /-- `type`, `datasource` or `generator`. -/
  | other
  deriving DecidableEq, Repr

/-- The block that a keyword opens. -/
def BlockKind.ofKeyword? (keyword : String) : Option BlockKind :=
  if keyword = "model" ∨ keyword = "view" then some .model
  else if keyword = "enum" then some .enum
  else if keyword = "type" ∨ keyword = "datasource" ∨ keyword = "generator" then some .other
  else none

/-- The block that a token opens. -/
def Token.block? : Token → Option BlockKind
  | .ident keyword => BlockKind.ofKeyword? keyword
  | _ => none

/-- A schema with one more model in front. -/
def Structure.consModel (m : ModelDecl) (s : Structure) : Structure := { s with models := m :: s.models }

/-- A schema with one more enum in front. -/
def Structure.consEnum (name : String) (s : Structure) : Structure := { s with enums := name :: s.enums }

/-- The blocks of a schema, after the documentation comments `docs`. -/
def readBlocks (docs : List String) (ts : List Placed) : Except Fault Structure :=
  match ts with
  | [] => .ok ⟨[], []⟩
  | t :: ts =>
    match t.token with
    | .doc text => readBlocks (docs ++ [text]) ts
    | token =>
      match token.block? with
      | some .model =>
        match h : readModel t.line (joinDocs docs) ts with
        | .error e => .error e
        | .ok (m, rest) =>
          have := readModel_length h
          (readBlocks [] rest).map (Structure.consModel m)
      | some .enum =>
        match h : readOtherBlock t.line "enum name" ts with
        | .error e => .error e
        | .ok (name, rest) =>
          have := readOtherBlock_length h
          (readBlocks [] rest).map (Structure.consEnum name)
      | some .other =>
        match h : readOtherBlock t.line "block name" ts with
        | .error e => .error e
        | .ok (_, rest) =>
          have := readOtherBlock_length h
          readBlocks [] rest
      | none => .error (t.unexpected "a top-level block")
termination_by ts.length

/-- The structure of a schema text. -/
def Structure.ofText (source : String) : Except Fault Structure :=
  match scan source with
  | .error e => .error e
  | .ok tokens => readBlocks [] tokens

end GuardedCrud.Schema
