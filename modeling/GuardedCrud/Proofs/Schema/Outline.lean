import GuardedCrud.Proofs.Schema.LineTokens
import GuardedCrud.Schema.Structure.Parser

/-!
# The outline of a schema

A schema is a row of comments and blocks.  `outline` cuts its tokens into these pieces without reading fields: a model
ends at the first closing brace outside argument lists, and every other block where its braces are balanced.

* every accepted schema has an outline, which leaves out no token (`readBlocks_outline`);
* its models and their documentation are those of the outline (`documented`);
* in a model of an accepted schema, braces stand only inside argument lists (`Block.WellFormed`).
-/

namespace GuardedCrud.Schema

/-! ### Pieces -/

/-- An opening or a closing brace. -/
def Token.isBrace : Token → Bool
  | .opening .brace | .closing .brace => true
  | _ => false

/-- Where a reader stands after a token: outside argument lists, or in one and inside some brackets more. -/
def Token.argumentState (state : Option Nat) (t : Token) : Option Nat :=
  match state, t with
  | none, .opening .paren => some 0
  | none, _ => none
  | some 0, .closing .paren => none
  | some depth, .opening _ => some (depth + 1)
  | some depth, .closing _ => some (depth - 1)
  | some depth, _ => some depth

/-- The tokens that are read inside argument lists. -/
def argumentTokens (state : Option Nat) : List Placed → List Placed
  | [] => []
  | t :: ts =>
    if state.isSome then t :: argumentTokens (t.token.argumentState state) ts
    else argumentTokens (t.token.argumentState state) ts

/-- A block: its keyword, its name and its braces, with the tokens between them. -/
structure Block where
  kind : BlockKind
  keyword : Placed
  name : String
  nameLine : Nat
  openingLine : Nat
  body : List Placed
  closingLine : Nat
  deriving DecidableEq, Repr

/-- The tokens of a block. -/
def Block.tokens (b : Block) : List Placed :=
  b.keyword :: ⟨.ident b.name, b.nameLine⟩ :: ⟨.opening .brace, b.openingLine⟩ ::
    (b.body ++ [⟨.closing .brace, b.closingLine⟩])

/-- A comment outside blocks, or a block. -/
inductive Piece
  | comment (text : String) (line : Nat)
  | block (b : Block)
  deriving DecidableEq, Repr

namespace Piece

/-- The tokens of a piece. -/
def tokens : Piece → List Placed
  | comment text line => [⟨.doc text, line⟩]
  | block b => b.tokens

/-- The line on which a piece begins. -/
def line : Piece → Nat
  | comment _ line => line
  | block b => b.keyword.line

/-- The block of a piece. -/
def block? : Piece → Option Block
  | comment .. => none
  | block b => some b

end Piece

/-- The tokens of some pieces. -/
def tokensOf (pieces : List Piece) : List Placed := pieces.flatMap Piece.tokens

/-- The blocks among some pieces. -/
def blocksOf (pieces : List Piece) : List Block := pieces.filterMap Piece.block?

/-- The names of the models among some pieces. -/
def modelNames (pieces : List Piece) : List String := ((blocksOf pieces).filter (·.kind = .model)).map (·.name)

/-! ### Cutting tokens into pieces -/

/-- The tokens up to the first closing brace in the state `outside`, the line of the brace, and the tokens after it. -/
def cutBody {σ : Type} [DecidableEq σ] (after : σ → Token → σ) (outside state : σ) :
    List Placed → Option (List Placed × Nat × List Placed)
  | [] => none
  | t :: ts =>
    if state = outside ∧ t.token = .closing .brace then some ([], t.line, ts)
    else (cutBody after outside (after state t.token) ts).map fun (body, rest) => (t :: body, rest)

/-- What follows the opening brace of a block, up to its closing brace. -/
def BlockKind.cutBody : BlockKind → List Placed → Option (List Placed × Nat × List Placed)
  | .model => Schema.cutBody Token.argumentState none none
  | .enum | .other => Schema.cutBody Token.depthAfter 0 0

/-- The block after a keyword, and the tokens after it. -/
def cutBlock (kind : BlockKind) (keyword : Placed) : List Placed → Option (Block × List Placed)
  | ⟨.ident name, nameLine⟩ :: ⟨.opening .brace, openingLine⟩ :: ts =>
    (kind.cutBody ts).map fun (body, closingLine, rest) =>
      (⟨kind, keyword, name, nameLine, openingLine, body, closingLine⟩, rest)
  | _ => none

private theorem cutBody_length {σ : Type} [DecidableEq σ] {after : σ → Token → σ} {outside state : σ}
    {ts body rest : List Placed} {line : Nat} (h : cutBody after outside state ts = some (body, line, rest)) :
    rest.length < ts.length := by
  induction ts generalizing state body with
  | nil => cases h
  | cons t ts ih =>
    rw [cutBody] at h
    split at h
    · cases h
      simp
    · obtain ⟨⟨body', line', rest'⟩, h', e⟩ := Option.map_eq_some_iff.1 h
      cases e
      have := ih h'
      simp only [List.length_cons]
      omega

private theorem cutBlock_length {kind : BlockKind} {keyword : Placed} {ts rest : List Placed} {b : Block}
    (h : cutBlock kind keyword ts = some (b, rest)) : rest.length < ts.length := by
  unfold cutBlock at h
  split at h
  · rename_i ts
    obtain ⟨⟨body, line, rest'⟩, h', e⟩ := Option.map_eq_some_iff.1 h
    cases e
    have hlen : rest.length < ts.length := by
      cases kind with
      | model => exact cutBody_length h'
      | enum | other => exact cutBody_length h'
    simp only [List.length_cons]
    omega
  · cases h

/-- The pieces that tokens are cut into, if they are the tokens of comments and blocks. -/
def outline (ts : List Placed) : Option (List Piece) :=
  match ts with
  | [] => some []
  | t :: ts =>
    match t.token with
    | .doc text => (outline ts).map (.comment text t.line :: ·)
    | token =>
      match token.block? with
      | none => none
      | some kind =>
        match h : cutBlock kind t ts with
        | none => none
        | some (b, rest) =>
          have := cutBlock_length h
          (outline rest).map (.block b :: ·)
termination_by ts.length

/-- The pieces of a schema text. -/
def outlineOf (source : String) : Option (List Piece) := (scan source).toOption.bind outline

/-- The models among some pieces with their documentation, after the comments `docs`. -/
def documented (docs : List String) : List Piece → List (String × Option String)
  | [] => []
  | .comment text _ :: pieces => documented (docs ++ [text]) pieces
  | .block b :: pieces =>
    if b.kind = .model then (b.name, joinDocs docs) :: documented [] pieces else documented [] pieces

section

variable {t : Placed} {ts : List Placed}

theorem outline_nil : outline [] = some [] := by rw [outline]

theorem outline_comment {text : String} (h : t.token = .doc text) :
    outline (t :: ts) = (outline ts).map (.comment text t.line :: ·) := by
  rw [outline]
  split
  · rename_i text' h'
    rw [h] at h'
    cases h'
    rfl
  · rename_i h'
    exact absurd h (h' text)

theorem outline_block {kind : BlockKind} {b : Block} {rest : List Placed} (h : t.token.block? = some kind)
    (hb : cutBlock kind t ts = some (b, rest)) : outline (t :: ts) = (outline rest).map (.block b :: ·) := by
  rw [outline]
  split
  · rename_i text h'
    rw [h'] at h
    cases h
  · split
    · rename_i h'
      rw [h] at h'
      cases h'
    · rename_i kind' h'
      rw [h] at h'
      cases h'
      split
      · rename_i hb'
        rw [hb] at hb'
        cases hb'
      · rename_i b' rest' hb'
        rw [hb] at hb'
        cases hb'
        rfl

end

/-! ### What the readers pass over -/

/-- Tokens lead from one state to another, and braces among them stand inside argument lists. -/
inductive Passes : Option Nat → List Placed → Option Nat → Prop
  | nil (state) : Passes state [] state
  | cons {state state' t ts} : (state = none → t.token.isBrace = false) →
    Passes (t.token.argumentState state) ts state' → Passes state (t :: ts) state'

theorem Passes.append {s₁ s₂ s₃ : Option Nat} {ts us : List Placed} (h : Passes s₁ ts s₂) (h' : Passes s₂ us s₃) :
    Passes s₁ (ts ++ us) s₃ := by
  induction h with
  | nil => exact h'
  | cons ht _ ih => exact .cons ht (ih h')

/-- From the tokens `ts` a reader goes on to `rest`, with whole argument lists between them. -/
def PassesTo (ts rest : List Placed) : Prop := ∃ used, ts = used ++ rest ∧ Passes none used none

theorem PassesTo.refl (ts : List Placed) : PassesTo ts ts := ⟨[], rfl, .nil none⟩

theorem PassesTo.trans {ts us vs : List Placed} (h : PassesTo ts us) (h' : PassesTo us vs) : PassesTo ts vs := by
  obtain ⟨used, rfl, hp⟩ := h
  obtain ⟨used', rfl, hp'⟩ := h'
  exact ⟨used ++ used', by simp, hp.append hp'⟩

/-- A token that is no brace and opens no argument list. -/
theorem PassesTo.single {t : Placed} (hb : t.token.isBrace = false) (ho : t.token ≠ .opening .paren)
    (ts : List Placed) : PassesTo (t :: ts) ts := by
  have hs : t.token.argumentState none = none := by
    unfold Token.argumentState
    split <;> simp_all
  refine ⟨[t], rfl, .cons (fun _ => hb) ?_⟩
  rw [hs]
  exact .nil none

theorem readName_eq_ok {expected name : String} {ts rest : List Placed} (h : readName expected ts = .ok (name, rest)) :
    ∃ line, ts = ⟨.ident name, line⟩ :: rest := by
  unfold readName at h
  split at h
  · cases h
  · rename_i t ts
    split at h
    · rename_i name' ht
      cases h
      exact ⟨t.line, by rw [← ht]⟩
    · cases h

theorem readToken_eq_ok {token : Token} {expected : String} {ts rest : List Placed} {u : Unit}
    (h : readToken token expected ts = .ok (u, rest)) : ∃ line, ts = ⟨token, line⟩ :: rest := by
  unfold readToken at h
  split at h
  · cases h
  · rename_i t ts
    split at h
    · rename_i ht
      cases h
      exact ⟨t.line, by rw [← ht]⟩
    · cases h

private theorem readName_passes {expected name : String} {ts rest : List Placed}
    (h : readName expected ts = .ok (name, rest)) : PassesTo ts rest := by
  obtain ⟨line, rfl⟩ := readName_eq_ok h
  exact .single rfl (by simp) rest

/-- The state of `readArguments` is that of `argumentTokens`. -/
private theorem readArguments_passes {depth : Nat} {current : List Token} {ts rest : List Placed} {args : List Argument}
    (h : readArguments depth current ts = .ok (args, rest)) :
    ∃ used, ts = used ++ rest ∧ Passes (some depth) used none := by
  induction ts generalizing depth current args with
  | nil => cases h
  | cons t ts ih =>
    rw [readArguments] at h
    split at h
    · rename_i ht
      cases h
      refine ⟨[t], rfl, .cons (fun e => by cases e) ?_⟩
      rw [ht.1, ht.2]
      exact .nil none
    · rename_i hend
      split at h
      · rename_i ht
        split at h
        · rename_i hr
          cases h
          obtain ⟨used, rfl, hp⟩ := ih hr
          refine ⟨t :: used, rfl, .cons (fun e => by cases e) ?_⟩
          rw [ht.1, ht.2]
          exact hp
        · cases h
      · obtain ⟨used, rfl, hp⟩ := ih h
        refine ⟨t :: used, rfl, .cons (fun e => by cases e) ?_⟩
        obtain ⟨t, n⟩ := t
        -- only parentheses change the state, and the one that ends the list is excluded
        cases t with
        | closing b =>
          cases depth with
          | zero =>
            cases b with
            | paren => exact absurd ⟨rfl, rfl⟩ hend
            | _ => exact hp
          | succ depth => exact hp
        | _ => cases depth <;> exact hp

private theorem readPath_passes {first name : String} {ts rest : List Placed}
    (h : readPath first ts = .ok (name, rest)) : PassesTo ts rest := by
  fun_induction readPath first ts with
  | case1 => cases h; exact .refl _
  | case2 => cases h
  | case3 => cases h; exact .refl _
  | case4 name t part ts ht next hp ih =>
    have hdot : PassesTo (t :: part :: ts) (part :: ts) := .single (by rw [ht]; rfl) (by rw [ht]; simp) _
    have hpart : PassesTo (part :: ts) ts := .single (by rw [hp]; rfl) (by rw [hp]; simp) _
    exact (hdot.trans hpart).trans (ih h)
  | case5 => cases h
  | case6 => cases h; exact .refl _

private theorem readOptionalArguments_passes {ts rest : List Placed} {args : List Argument}
    (h : readOptionalArguments ts = .ok (args, rest)) : PassesTo ts rest := by
  unfold readOptionalArguments at h
  split at h
  · cases h
    exact .refl _
  · rename_i t ts
    split at h
    · rename_i ht
      obtain ⟨used, rfl, hp⟩ := readArguments_passes h
      refine ⟨t :: used, rfl, .cons (fun _ => by rw [ht]; rfl) ?_⟩
      rw [ht]
      exact hp
    · cases h
      exact .refl _

private theorem readAttribute_passes {ts rest : List Placed} {a : Attribute} (h : readAttribute ts = .ok (a, rest)) :
    PassesTo ts rest := by
  unfold readAttribute at h
  split at h
  · cases h
  rename_i h₁
  split at h
  · cases h
  rename_i h₂
  split at h
  · cases h
  rename_i h₃
  cases h
  exact ((readName_passes h₁).trans (readPath_passes h₂)).trans (readOptionalArguments_passes h₃)

private theorem readAttributes_passes {ts rest : List Placed} {as : List Attribute}
    (h : readAttributes ts = .ok (as, rest)) : PassesTo ts rest := by
  fun_induction readAttributes ts generalizing as rest with
  | case1 => cases h; exact .refl _
  | case2 => cases h
  | case3 => cases h
  | case4 t ts ht a rest₁ ha _ as' rest₂ hr ih =>
    cases h
    have hat : PassesTo (t :: ts) ts := .single (by rw [ht]; rfl) (by rw [ht]; simp) _
    exact (hat.trans (readAttribute_passes ha)).trans (ih hr)
  | case5 => cases h; exact .refl _

private theorem readListModifier_passes {ts rest : List Placed} {b : Bool} (h : readListModifier ts = .ok (b, rest)) :
    PassesTo ts rest := by
  unfold readListModifier at h
  split at h
  · cases h
    exact .refl _
  · rename_i t ts
    split at h
    · rename_i ht
      split at h
      · cases h
      · rename_i u rest' hr
        cases h
        obtain ⟨line, rfl⟩ := readToken_eq_ok hr
        have hopen : PassesTo (t :: ⟨.closing .square, line⟩ :: rest) (⟨.closing .square, line⟩ :: rest) :=
          .single (by rw [ht]; rfl) (by rw [ht]; simp) _
        exact hopen.trans (.single rfl (by simp) _)
    · cases h
      exact .refl _

private theorem readOptionalModifier_passes (ts : List Placed) : PassesTo ts (readOptionalModifier ts).2 := by
  unfold readOptionalModifier
  split
  · exact .refl _
  · split
    · rename_i ht
      exact .single (by rw [ht]; rfl) (by rw [ht]; simp) _
    · exact .refl _

private theorem readField_passes {name : String} {line : Nat} {documentation : Option String} {ts rest : List Placed}
    {f : FieldDecl} (h : readField name line documentation ts = .ok (f, rest)) : PassesTo ts rest := by
  unfold readField at h
  split at h
  · cases h
  rename_i h₁
  split at h
  · cases h
  rename_i h₂
  split at h
  · cases h
  rename_i ts₃ h₃
  simp only at h
  split at h
  · cases h
  rename_i h₄
  cases h
  have hmodifiers := (readListModifier_passes h₃).trans (readOptionalModifier_passes ts₃)
  exact (((readName_passes h₁).trans (readOptionalArguments_passes h₂)).trans hmodifiers).trans
    (readAttributes_passes h₄)

/-- The fields of a model end at the first closing brace outside argument lists. -/
private theorem readFields_passes {name : String} {line : Nat} {docs : List String} {ts rest : List Placed}
    {fs : List FieldDecl} (h : readFields name line docs ts = .ok (fs, rest)) :
    ∃ closing, PassesTo ts (⟨.closing .brace, closing⟩ :: rest) := by
  -- documentation, attributes and fields are passed over, a closing brace ends them
  fun_induction readFields name line docs ts generalizing fs rest with
  | case1 => cases h
  | case2 docs t ts ht =>
    cases h
    exact ⟨t.line, by rw [← ht]; exact .refl _⟩
  | case3 docs t ts text ht ih =>
    obtain ⟨closing, hp⟩ := ih h
    have hdoc : PassesTo (t :: ts) ts := .single (by rw [ht]; rfl) (by rw [ht]; simp) _
    exact ⟨closing, hdoc.trans hp⟩
  | case4 => cases h
  | case5 docs t ts ht a rest₁ ha _ ih =>
    obtain ⟨closing, hp⟩ := ih h
    have hat : PassesTo (t :: ts) ts := .single (by rw [ht]; rfl) (by rw [ht]; simp) _
    exact ⟨closing, (hat.trans (readAttribute_passes ha)).trans hp⟩
  | case6 => cases h
  | case7 => cases h
  | case8 docs t ts field ht f rest₁ hf _ fs' rest₂ hr ih =>
    cases h
    obtain ⟨closing, hp⟩ := ih hr
    have hname : PassesTo (t :: ts) ts := .single (by rw [ht]; rfl) (by rw [ht]; simp) _
    exact ⟨closing, (hname.trans (readField_passes hf)).trans hp⟩
  | case9 => cases h

/-! ### Every accepted schema has an outline -/

private theorem cutBody_of_passes {state : Option Nat} {body : List Placed} (h : Passes state body none) (line : Nat)
    (rest : List Placed) :
    cutBody Token.argumentState none state (body ++ ⟨.closing .brace, line⟩ :: rest) = some (body, line, rest) := by
  generalize hs : (none : Option Nat) = outside at h
  induction h with
  | nil =>
    subst hs
    rw [List.nil_append, cutBody, if_pos ⟨rfl, rfl⟩]
  | @cons state state' t ts ht _ ih =>
    subst hs
    rw [List.cons_append, cutBody, if_neg, ih rfl]
    · rfl
    · rintro ⟨hs, he⟩
      have := ht hs
      rw [he] at this
      cases this

/-- Braces that are passed over are cut where they are balanced. -/
private theorem cutBody_of_skipBraces {name : String} {line depth : Nat} {ts rest : List Placed} {u : Unit}
    (h : skipBraces name line depth ts = .ok (u, rest)) :
    ∃ body closing, ts = body ++ ⟨.closing .brace, closing⟩ :: rest ∧
      ∀ rest', cutBody Token.depthAfter 0 depth (body ++ ⟨.closing .brace, closing⟩ :: rest') =
        some (body, closing, rest') := by
  -- a token in front changes the depth alike in both
  have hcons : ∀ (t : Placed) (ts : List Placed) (depth depth' : Nat), Token.depthAfter depth t.token = depth' →
      ¬ (depth = 0 ∧ t.token = .closing .brace) →
      (∃ body closing, ts = body ++ ⟨.closing .brace, closing⟩ :: rest ∧
        ∀ rest', cutBody Token.depthAfter 0 depth' (body ++ ⟨.closing .brace, closing⟩ :: rest') =
          some (body, closing, rest')) →
      ∃ body closing, t :: ts = body ++ ⟨.closing .brace, closing⟩ :: rest ∧
        ∀ rest', cutBody Token.depthAfter 0 depth (body ++ ⟨.closing .brace, closing⟩ :: rest') =
          some (body, closing, rest') := by
    rintro t ts depth depth' hd hc ⟨body, closing, rfl, hcut⟩
    refine ⟨t :: body, closing, rfl, fun rest' => ?_⟩
    rw [List.cons_append, cutBody, if_neg hc, hd, hcut]
    rfl
  fun_induction skipBraces name line depth ts with
  | case1 => cases h
  | case2 depth t ts ht ih => exact hcons t ts _ _ (by rw [ht]; rfl) (by rw [ht]; simp) (ih h)
  | case3 t ts ht =>
    cases h
    refine ⟨[], t.line, by rw [← ht]; rfl, fun rest' => ?_⟩
    rw [List.nil_append, cutBody, if_pos ⟨rfl, rfl⟩]
  | case4 t ts ht depth ih => exact hcons t ts _ _ (by rw [ht]; rfl) (by simp) (ih h)
  | case5 depth t ts ho hc ih =>
    refine hcons t ts _ _ ?_ (fun e => hc e.2) (ih h)
    unfold Token.depthAfter
    split
    · exact absurd ‹_› ho
    · exact absurd ‹_› hc
    · rfl

/-- What is known of the blocks of an accepted schema. -/
structure Block.WellFormed (b : Block) : Prop where
  keyword : b.keyword.token.block? = some b.kind
  arguments : b.kind = .model → Passes none b.body none
  balanced : b.kind ≠ .model → ∀ rest, cutBody Token.depthAfter 0 0 (b.body ++ ⟨.closing .brace, b.closingLine⟩ :: rest) =
    some (b.body, b.closingLine, rest)

theorem cutBlock_of_readModel {t : Placed} {line : Nat} {documentation : Option String} {ts rest : List Placed}
    {m : ModelDecl} (ht : t.token.block? = some .model) (h : readModel line documentation ts = .ok (m, rest)) :
    ∃ b, cutBlock .model t ts = some (b, rest) ∧ t :: ts = b.tokens ++ rest ∧ b.WellFormed ∧ b.kind = .model ∧
      m.name = b.name ∧ m.documentation = documentation := by
  unfold readModel at h
  split at h
  · cases h
  rename_i h₁
  split at h
  · cases h
  rename_i h₂
  split at h
  · cases h
  rename_i h₃
  cases h
  -- a name, an opening brace and the fields up to the closing brace have been read
  obtain ⟨nameLine, rfl⟩ := readName_eq_ok h₁
  obtain ⟨openingLine, rfl⟩ := readToken_eq_ok h₂
  obtain ⟨closing, body, rfl, hp⟩ := readFields_passes h₃
  refine ⟨⟨.model, t, _, nameLine, openingLine, body, closing⟩, ?_, by simp [Block.tokens],
    ⟨ht, fun _ => hp, fun hk => absurd rfl hk⟩, rfl, rfl, rfl⟩
  rw [cutBlock, BlockKind.cutBody, cutBody_of_passes hp]
  rfl

theorem cutBlock_of_readOtherBlock {t : Placed} {kind : BlockKind} {line : Nat} {expected name : String}
    {ts rest : List Placed} (ht : t.token.block? = some kind) (hk : kind ≠ .model)
    (h : readOtherBlock line expected ts = .ok (name, rest)) :
    ∃ b, cutBlock kind t ts = some (b, rest) ∧ t :: ts = b.tokens ++ rest ∧ b.WellFormed ∧ b.kind = kind := by
  unfold readOtherBlock at h
  split at h
  · cases h
  rename_i h₁
  split at h
  · cases h
  rename_i h₂
  split at h
  · cases h
  rename_i h₃
  cases h
  obtain ⟨nameLine, rfl⟩ := readName_eq_ok h₁
  obtain ⟨openingLine, rfl⟩ := readToken_eq_ok h₂
  obtain ⟨body, closing, rfl, hb⟩ := cutBody_of_skipBraces h₃
  refine ⟨⟨kind, t, name, nameLine, openingLine, body, closing⟩, ?_, by simp [Block.tokens],
    ⟨ht, fun e => absurd e hk, fun _ => hb⟩, rfl⟩
  cases kind with
  | model => exact absurd rfl hk
  | enum | other =>
    rw [cutBlock, BlockKind.cutBody, hb]
    rfl

theorem exists_of_map_eq_ok {ε α β : Type} {f : α → β} {x : Except ε α} {b : β} (h : x.map f = .ok b) :
    ∃ a, x = .ok a ∧ f a = b := by
  cases x with
  | error e => cases h
  | ok a =>
    cases h
    exact ⟨a, rfl, rfl⟩

/-- An accepted schema has an outline with all its tokens, its models and their documentation. -/
theorem readBlocks_outline {docs : List String} {ts : List Placed} {s : Structure} (h : readBlocks docs ts = .ok s) :
    ∃ pieces, outline ts = some pieces ∧ tokensOf pieces = ts ∧
      s.models.map (fun m => (m.name, m.documentation)) = documented docs pieces ∧
      ∀ b ∈ blocksOf pieces, b.WellFormed := by
  -- each block read is a block cut, and the rest is read with nothing pending
  fun_induction readBlocks docs ts generalizing s with
  | case1 =>
    cases h
    exact ⟨[], outline_nil, rfl, rfl, by simp [blocksOf]⟩
  | case2 docs t ts text ht ih =>
    obtain ⟨pieces, ho, hts, hm, hw⟩ := ih h
    refine ⟨.comment text t.line :: pieces, by rw [outline_comment ht, ho]; rfl, ?_, hm, hw⟩
    rw [← hts, tokensOf, List.flatMap_cons, Piece.tokens, ← ht]
    rfl
  | case3 => cases h
  | case4 docs t ts m rest hr _ _ ht ih =>
    obtain ⟨s', hs', rfl⟩ := exists_of_map_eq_ok h
    obtain ⟨b, hc, hb, hwb, hk, hname, hdoc⟩ := cutBlock_of_readModel ht hr
    obtain ⟨pieces, ho, hts, hm, hw⟩ := ih hs'
    refine ⟨.block b :: pieces, by rw [outline_block ht hc, ho]; rfl, ?_, ?_, ?_⟩
    · rw [hb, ← hts]
      rfl
    · rw [documented, if_pos hk, ← hname, ← hdoc, ← hm]
      rfl
    · exact List.forall_mem_cons.2 ⟨hwb, hw⟩
  | case5 => cases h
  | case6 docs t ts name rest hr _ _ ht ih =>
    obtain ⟨s', hs', rfl⟩ := exists_of_map_eq_ok h
    obtain ⟨b, hc, hb, hwb, hk⟩ := cutBlock_of_readOtherBlock ht (by simp) hr
    obtain ⟨pieces, ho, hts, hm, hw⟩ := ih hs'
    refine ⟨.block b :: pieces, by rw [outline_block ht hc, ho]; rfl, ?_, ?_, ?_⟩
    · rw [hb, ← hts]
      rfl
    · rw [documented, if_neg (by simp [hk]), ← hm]
      rfl
    · exact List.forall_mem_cons.2 ⟨hwb, hw⟩
  | case7 => cases h
  | case8 docs t ts name rest hr _ _ ht ih =>
    obtain ⟨b, hc, hb, hwb, hk⟩ := cutBlock_of_readOtherBlock ht (by simp) hr
    obtain ⟨pieces, ho, hts, hm, hw⟩ := ih h
    refine ⟨.block b :: pieces, by rw [outline_block ht hc, ho]; rfl, ?_, ?_, ?_⟩
    · rw [hb, ← hts]
      rfl
    · rw [documented, if_neg (by simp [hk]), ← hm]
    · exact List.forall_mem_cons.2 ⟨hwb, hw⟩
  | case9 => cases h

/-- An accepted schema text is scanned, and its tokens have an outline. -/
theorem exists_outline {source : String} {s : Structure} (h : Structure.ofText source = .ok s) :
    ∃ ts pieces, scan source = .ok ts ∧ outlineOf source = some pieces ∧ tokensOf pieces = ts ∧
      s.models.map (fun m => (m.name, m.documentation)) = documented [] pieces ∧
      ∀ b ∈ blocksOf pieces, b.WellFormed := by
  unfold Structure.ofText at h
  split at h
  · cases h
  · rename_i ts hs
    obtain ⟨pieces, ho, hts, hm, hw⟩ := readBlocks_outline h
    refine ⟨ts, pieces, hs, ?_, hts, hm, hw⟩
    rw [outlineOf, hs]
    exact ho

/-! ### Pieces and their models -/

theorem tokensOf_cons (p : Piece) (pieces : List Piece) : tokensOf (p :: pieces) = p.tokens ++ tokensOf pieces := rfl

theorem blocksOf_cons_block (b : Block) (pieces : List Piece) :
    blocksOf (.block b :: pieces) = b :: blocksOf pieces := rfl

theorem modelNames_cons_block (b : Block) (pieces : List Piece) :
    modelNames (.block b :: pieces) = if b.kind = .model then b.name :: modelNames pieces else modelNames pieces := by
  rw [modelNames, modelNames, blocksOf_cons_block, List.filter_cons]
  by_cases hk : b.kind = .model <;> simp [hk]

theorem map_fst_documented (docs : List String) (pieces : List Piece) :
    (documented docs pieces).map (·.1) = modelNames pieces := by
  induction pieces generalizing docs with
  | nil => rfl
  | cons p pieces ih =>
    cases p with
    | comment text line => exact ih (docs ++ [text])
    | block b =>
      rw [documented, modelNames_cons_block, ← ih []]
      split <;> rfl

/-- The name of a block is a token of the schema. -/
theorem name_mem_tokensOf {pieces : List Piece} {b : Block} (hb : b ∈ blocksOf pieces) :
    ⟨.ident b.name, b.nameLine⟩ ∈ tokensOf pieces := by
  obtain ⟨p, hp, hpb⟩ := List.mem_filterMap.1 hb
  cases p with
  | comment text line => cases hpb
  | block b' =>
    cases hpb
    exact List.mem_flatMap.2 ⟨.block b, hp, by simp [Piece.tokens, Block.tokens]⟩

/-- The models of an accepted schema are those of its outline. -/
theorem map_name_models {source : String} {s : Structure} {pieces : List Piece} (h : Structure.ofText source = .ok s)
    (ho : outlineOf source = some pieces) : s.models.map (·.name) = modelNames pieces := by
  obtain ⟨ts, pieces', -, ho', -, hm, -⟩ := exists_outline h
  obtain rfl : pieces' = pieces := Option.some.inj (ho'.symm.trans ho)
  rw [← map_fst_documented [], ← hm, List.map_map]
  rfl

/-- The name of a declared model is a token of its source. -/
theorem exists_ident_of_mem_models {source : String} {s : Structure} (h : Structure.ofText source = .ok s)
    {m : ModelDecl} (hm : m ∈ s.models) : ∃ ts line, scan source = .ok ts ∧ ⟨.ident m.name, line⟩ ∈ ts := by
  obtain ⟨ts, pieces, hs, ho, rfl, -, -⟩ := exists_outline h
  have hmem : m.name ∈ modelNames pieces := map_name_models h ho ▸ List.mem_map_of_mem hm
  obtain ⟨b, hb, hname⟩ := List.mem_map.1 hmem
  rw [← hname]
  exact ⟨_, b.nameLine, hs, name_mem_tokensOf (List.mem_filter.1 hb).1⟩

/-- A declared model has a name, written in characters of names. -/
theorem name_of_mem_models {source : String} {s : Structure} (h : Structure.ofText source = .ok s) {m : ModelDecl}
    (hm : m ∈ s.models) : m.name.toList ≠ [] ∧ ∀ c ∈ m.name.toList, continuesName c = true := by
  obtain ⟨ts, line, hs, hmem⟩ := exists_ident_of_mem_models h hm
  exact continuesName_of_scanFrom hs _ hmem m.name rfl

end GuardedCrud.Schema
