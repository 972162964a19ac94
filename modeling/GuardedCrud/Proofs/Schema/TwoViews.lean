import GuardedCrud.Proofs.Schema.LineLeads
import GuardedCrud.Proofs.Schema.Outline

/-!
# Where the two views of a schema agree

A schema is read twice: its structure from the tokens, which do not see line ends, and the documentation of its models
line by line.  The two agree on schemas that keep to their lines (`LineDisciplined`): the line pass declares the models
of the structure in order and gives each the documentation that the structure has for it (`views_agree`).

Both passes are followed along the outline of the schema.  Between two pieces the line pass stands at depth zero
(`leadKinds_block`), and it carries the comments that the structure is about to use (`attachedDocs_documented`).
-/

namespace GuardedCrud.Schema

/-- An outline whose blocks keep to their lines. -/
structure BlocksOnLines (pieces : List Piece) : Prop where
  /-- The keyword of a block is the first token of its line. -/
  keyword_first : pieces.Pairwise fun p q => q.block?.isSome → ∀ t ∈ p.tokens, t.line ≠ q.line
  /-- The name of a block is on the line of its keyword. -/
  names_inline : ∀ b ∈ blocksOf pieces, b.nameLine = b.keyword.line
  /-- Argument lists in models hold no brace. -/
  arguments_plain : ∀ b ∈ blocksOf pieces, b.kind = .model → ∀ t ∈ argumentTokens none b.body, t.token.isBrace = false
  /-- No quoted text escapes a line end. -/
  texts_inline : ∀ t ∈ tokensOf pieces, t.token.crossesLine = false

/-- An outline whose blocks and comments keep to their lines. -/
structure DisciplinedOutline (pieces : List Piece) : Prop extends BlocksOnLines pieces where
  /-- A comment is the first token of its line, and so the only one. -/
  comment_first : pieces.Pairwise fun p q => q.block? = none → ∀ t ∈ p.tokens, t.line ≠ q.line
  /-- The first block after a comment, if there is one, is a model. -/
  comments_attached : ∀ text line rest, .comment text line :: rest <:+ pieces →
    ∀ b ∈ (blocksOf rest).head?, b.kind = .model

/-- The schema text keeps to its lines. -/
def LineDisciplined (source : String) : Prop := ∃ pieces, outlineOf source = some pieces ∧ DisciplinedOutline pieces

/-- What the line pass is to see in a piece. -/
def Piece.kind? : Piece → Option LineKind
  | comment text _ => some (.documentation text)
  | block b => if b.kind = .model then some (.declaration b.name) else none

/-! ### Braces in a block -/

/-- Outside argument lists no brace is passed over, so without braces inside them there is none. -/
private theorem isBrace_of_passes {state state' : Option Nat} {ts : List Placed} (h : Passes state ts state')
    (hargs : ∀ t ∈ argumentTokens state ts, t.token.isBrace = false) : ∀ t ∈ ts, t.token.isBrace = false := by
  induction h with
  | nil => simp
  | @cons state state' t ts ht _ ih =>
    rw [argumentTokens] at hargs
    cases state with
    | none => exact List.forall_mem_cons.2 ⟨ht rfl, ih hargs⟩
    | some depth =>
      obtain ⟨hb, hargs⟩ := List.forall_mem_cons.1 hargs
      exact List.forall_mem_cons.2 ⟨hb, ih hargs⟩

private theorem depthAfter_of_not_isBrace {t : Token} (h : t.isBrace = false) (depth : Nat) :
    t.depthAfter depth = depth := by
  unfold Token.depthAfter
  split
  · cases h
  · cases h
  · rfl

private theorem cutBody_of_not_isBrace {body : List Placed} (h : ∀ t ∈ body, t.token.isBrace = false) (line : Nat)
    (rest : List Placed) :
    cutBody Token.depthAfter 0 0 (body ++ ⟨.closing .brace, line⟩ :: rest) = some (body, line, rest) := by
  induction body with
  | nil => rw [List.nil_append, cutBody, if_pos ⟨rfl, rfl⟩]
  | cons t body ih =>
    obtain ⟨ht, hbody⟩ := List.forall_mem_cons.1 h
    rw [List.cons_append, cutBody, if_neg, depthAfter_of_not_isBrace ht, ih hbody]
    · rfl
    · rintro ⟨-, he⟩
      rw [he] at ht
      cases ht

/-- In a disciplined schema the braces of every block are balanced. -/
private theorem Block.WellFormed.balanced_of_plain {b : Block} (hw : b.WellFormed)
    (hargs : b.kind = .model → ∀ t ∈ argumentTokens none b.body, t.token.isBrace = false) (rest : List Placed) :
    cutBody Token.depthAfter 0 0 (b.body ++ ⟨.closing .brace, b.closingLine⟩ :: rest) =
      some (b.body, b.closingLine, rest) := by
  by_cases hk : b.kind = .model
  · exact cutBody_of_not_isBrace (isBrace_of_passes (hw.arguments hk) (hargs hk)) _ rest
  · exact hw.balanced hk rest

/-- Inside a block every token changes the depth as if the block were not there, except for its closing brace. -/
theorem depthAfter_succ {depth : Nat} {t : Token} (h : ¬ (depth = 0 ∧ t = .closing .brace)) :
    t.depthAfter (depth + 1) = t.depthAfter depth + 1 := by
  unfold Token.depthAfter
  split
  · rfl
  · have : depth ≠ 0 := fun e => h ⟨e, rfl⟩
    omega
  · rfl

/-- Inside a block the line pass sees nothing. -/
private theorem leadKinds_cutBody {last : Option Nat} {depth line : Nat} {ts body rest : List Placed}
    (h : cutBody Token.depthAfter 0 depth ts = some (body, line, rest)) :
    leadKinds last (depth + 1) ts = leadKinds (some line) 0 rest := by
  induction ts generalizing last depth body with
  | nil => cases h
  | cons t ts ih =>
    -- the depth is not zero before any token of the body
    rw [leadKinds_cons_of_skipped (Or.inr (by omega))]
    rw [cutBody] at h
    split at h
    · rename_i ht
      cases h
      rw [ht.1, ht.2]
      rfl
    · rename_i ht
      obtain ⟨⟨body', line', rest'⟩, h', e⟩ := Option.map_eq_some_iff.1 h
      cases e
      rw [depthAfter_succ ht]
      exact ih h'

/-! ### The line pass along the outline -/

private theorem of_block_eq_model {t : Token} (h : t.block? = some .model) :
    t = .ident "model" ∨ t = .ident "view" := by
  unfold Token.block? BlockKind.ofKeyword? at h
  split at h
  · rename_i keyword
    split at h
    · rename_i hk
      rcases hk with rfl | rfl
      · exact Or.inl rfl
      · exact Or.inr rfl
    · split at h
      · cases h
      · split at h <;> cases h
  · cases h

/-- A keyword that opens no model is no line of its own to the line pass. -/
private theorem ofLead_of_block {t : Token} {kind : BlockKind} (h : t.block? = some kind) (hk : kind ≠ .model)
    (next : Option Token) : LineKind.ofLead next t = .other := by
  unfold Token.block? BlockKind.ofKeyword? at h
  split at h
  · rename_i keyword
    split at h
    · cases h
      exact absurd rfl hk
    · rename_i hn
      rw [LineKind.ofLead, if_neg hn]
  · cases h

/-- A model begins with a line that declares it. -/
theorem ofLead_of_model {t : Token} (h : t.block? = some .model) {name : String} (hname : name.toList ≠ []) :
    LineKind.ofLead (some (.ident name)) t = .declaration name := by
  have hkeyword : ∃ keyword, t = .ident keyword ∧ (keyword = "model" ∨ keyword = "view") := by
    rcases of_block_eq_model h with rfl | rfl
    · exact ⟨"model", rfl, Or.inl rfl⟩
    · exact ⟨"view", rfl, Or.inr rfl⟩
  obtain ⟨keyword, rfl, hk⟩ := hkeyword
  rw [LineKind.ofLead, if_pos hk, Option.map_some, Option.getD_some, Token.nameText]
  split
  · exact absurd ‹_› hname
  · rw [String.ofList_toList]

/-- A keyword does not change the depth. -/
theorem depthAfter_of_block {t : Token} {kind : BlockKind} (h : t.block? = some kind) (depth : Nat) :
    t.depthAfter depth = depth := by
  cases t with
  | opening | closing => cases h
  | _ => rfl

/-- What is asked of the rest of an outline for the line pass to see its blocks. -/
structure KeepsBlocks (pieces : List Piece) : Prop where
  first : pieces.Pairwise fun p q => q.block?.isSome → ∀ t ∈ p.tokens, t.line ≠ q.line
  inline : ∀ b ∈ blocksOf pieces, b.nameLine = b.keyword.line
  named : ∀ b ∈ blocksOf pieces, b.name.toList ≠ []
  keyword : ∀ b ∈ blocksOf pieces, b.keyword.token.block? = some b.kind
  balanced : ∀ b ∈ blocksOf pieces, ∀ rest, cutBody Token.depthAfter 0 0
    (b.body ++ ⟨.closing .brace, b.closingLine⟩ :: rest) = some (b.body, b.closingLine, rest)

private theorem mem_blocksOf_cons {b : Block} {p : Piece} {pieces : List Piece} (h : b ∈ blocksOf pieces) :
    b ∈ blocksOf (p :: pieces) := by
  rw [blocksOf, List.filterMap_cons]
  split
  · exact h
  · exact List.mem_cons_of_mem _ h

theorem KeepsBlocks.tail {p : Piece} {pieces : List Piece} (h : KeepsBlocks (p :: pieces)) : KeepsBlocks pieces where
  first := (List.pairwise_cons.1 h.first).2
  inline b hb := h.inline b (mem_blocksOf_cons hb)
  named b hb := h.named b (mem_blocksOf_cons hb)
  keyword b hb := h.keyword b (mem_blocksOf_cons hb)
  balanced b hb := h.balanced b (mem_blocksOf_cons hb)

/-- The block after a piece is on another line than the tokens of the piece. -/
theorem KeepsBlocks.next {p : Piece} {pieces : List Piece} (h : KeepsBlocks (p :: pieces)) {t : Placed}
    (ht : t ∈ p.tokens) :
    ∀ q ∈ pieces.head?, q.block?.isSome → some t.line ≠ some q.line := fun q hq hb e =>
  (List.pairwise_cons.1 h.first).1 q (List.mem_of_head? hq) hb t ht (Option.some.inj e)

/-- An opening brace outside every block only leads into a block. -/
private theorem leadKinds_opening (last : Option Nat) (line : Nat) (ts : List Placed) :
    telling (leadKinds last 0 (⟨.opening .brace, line⟩ :: ts)) = telling (leadKinds (some line) 1 ts) := by
  by_cases h : last = some line
  · rw [leadKinds_cons_of_skipped (Or.inl h)]
    rfl
  · rw [leadKinds_cons_of_ne h]
    rfl

private theorem filterMap_kind_cons (p : Piece) (pieces : List Piece) :
    (p :: pieces).filterMap Piece.kind? = p.kind?.toList ++ pieces.filterMap Piece.kind? := by
  rw [List.filterMap_cons]
  cases p.kind? <;> rfl

/-- The keyword of a block and the name on its line say what the line pass is to see. -/
private theorem telling_ofLead_block {b : Block} (hkeyword : b.keyword.token.block? = some b.kind)
    (hname : b.name.toList ≠ []) :
    telling [.ofLead (some (.ident b.name)) b.keyword.token] = (Piece.kind? (.block b)).toList := by
  by_cases hk : b.kind = .model
  · rw [hk] at hkeyword
    rw [ofLead_of_model hkeyword hname, Piece.kind?, if_pos hk]
    rfl
  · rw [ofLead_of_block hkeyword hk, Piece.kind?, if_neg hk]
    rfl

/-- The line pass sees a block as one line, and leaves it at depth zero. -/
theorem leadKinds_block {b : Block} {pieces : List Piece} (h : KeepsBlocks (.block b :: pieces)) {last : Option Nat}
    (hlast : last ≠ some b.keyword.line) (rest : List Placed) :
    telling (leadKinds last 0 (b.tokens ++ rest)) =
      (Piece.kind? (.block b)).toList ++ telling (leadKinds (some b.closingLine) 0 rest) := by
  have hb : b ∈ blocksOf (.block b :: pieces) := List.mem_cons_self
  have hkeyword := h.keyword b hb
  have htokens : b.tokens ++ rest = b.keyword :: ⟨.ident b.name, b.keyword.line⟩ :: ⟨.opening .brace, b.openingLine⟩ ::
      (b.body ++ ⟨.closing .brace, b.closingLine⟩ :: rest) := by
    simp [Block.tokens, h.inline b hb]
  have hskip : ∀ ts, leadKinds (some b.keyword.line) 0 (⟨.ident b.name, b.keyword.line⟩ :: ts) =
      leadKinds (some b.keyword.line) 0 ts := fun ts => by
    rw [leadKinds_cons_of_skipped (t := ⟨.ident b.name, b.keyword.line⟩) (Or.inl rfl)]
    rfl
  rw [htokens, leadKinds_cons_of_ne hlast, depthAfter_of_block hkeyword, hskip, leadKinds_opening,
    leadKinds_cutBody (h.balanced b hb rest), ← telling_ofLead_block hkeyword (h.named b hb)]
  simp [Option.filter]

/-- From one piece of the outline to the next the line pass sees what it is to see. -/
private theorem leadKinds_tokensOf {pieces : List Piece} (h : KeepsBlocks pieces)
    (hc : pieces.Pairwise fun p q => q.block? = none → ∀ t ∈ p.tokens, t.line ≠ q.line) {last : Option Nat}
    (hlast : ∀ p ∈ pieces.head?, last ≠ some p.line) :
    telling (leadKinds last 0 (tokensOf pieces)) = pieces.filterMap Piece.kind? := by
  induction pieces generalizing last with
  | nil => rfl
  | cons p pieces ih =>
    have hp : last ≠ some p.line := hlast p rfl
    -- a comment begins its line by `hc`, a block by `h`
    have hnext : ∀ t ∈ p.tokens, ∀ q ∈ pieces.head?, some t.line ≠ some q.line := by
      intro t ht q hq e
      cases hb : q.block? with
      | none => exact (List.pairwise_cons.1 hc).1 q (List.mem_of_head? hq) hb t ht (Option.some.inj e)
      | some b => exact h.next ht q hq (by rw [hb]; rfl) e
    have ih : ∀ l, (∀ p ∈ pieces.head?, l ≠ some p.line) → telling (leadKinds l 0 (tokensOf pieces)) =
        pieces.filterMap Piece.kind? := fun _ => ih h.tail (List.pairwise_cons.1 hc).2
    rw [tokensOf_cons, filterMap_kind_cons]
    cases p with
    | comment text line =>
      rw [← ih _ (hnext ⟨.doc text, line⟩ (by simp [Piece.tokens])), Piece.tokens, List.singleton_append,
        leadKinds_cons_of_ne hp]
      rfl
    | block b =>
      rw [← ih _ (hnext ⟨.closing .brace, b.closingLine⟩ (by simp [Piece.tokens, Block.tokens]))]
      exact leadKinds_block h hp _

private theorem declared_kind_block (b : Block) (pieces : List Piece) :
    (Piece.kind? (.block b)).toList.filterMap LineKind.declared? ++ modelNames pieces =
      modelNames (.block b :: pieces) := by
  rw [modelNames_cons_block, Piece.kind?]
  by_cases hk : b.kind = .model
  · simp [hk, LineKind.declared?]
  · simp [hk]

/-- Wherever the comments are, the line pass declares the models of the outline. -/
theorem declared_leadKinds {pieces : List Piece} (h : KeepsBlocks pieces) {last : Option Nat}
    (hlast : ∀ p ∈ pieces.head?, p.block?.isSome → last ≠ some p.line) :
    (telling (leadKinds last 0 (tokensOf pieces))).filterMap LineKind.declared? = modelNames pieces := by
  induction pieces generalizing last with
  | nil => rfl
  | cons p pieces ih =>
    have ih : ∀ l, (∀ p ∈ pieces.head?, p.block?.isSome → l ≠ some p.line) →
        (telling (leadKinds l 0 (tokensOf pieces))).filterMap LineKind.declared? = modelNames pieces :=
      fun _ => ih h.tail
    rw [tokensOf_cons]
    cases p with
    | comment text line =>
      have ih := ih _ (h.next (t := ⟨.doc text, line⟩) (by simp [Piece.tokens]))
      rw [Piece.tokens, List.singleton_append]
      -- a comment behind a block is not seen, and it declares nothing
      by_cases hl : last = some line
      · rw [leadKinds_cons_of_skipped (Or.inl hl)]
        exact ih
      · rw [leadKinds_cons_of_ne hl, List.filterMap_append]
        exact ih
    | block b =>
      rw [Piece.tokens, leadKinds_block h (hlast _ rfl rfl), List.filterMap_append,
        ih _ (h.next (t := ⟨.closing .brace, b.closingLine⟩) (by simp [Piece.tokens, Block.tokens])),
        declared_kind_block]

/-! ### The same documentation -/

/-- The line pass has pending what the structure has pending, unless a block that takes no documentation comes first. -/
theorem attachedDocs_documented {pieces : List Piece} {docs : List String}
    (hpieces : ∀ text line rest, .comment text line :: rest <:+ pieces → ∀ b ∈ (blocksOf rest).head?, b.kind = .model)
    (hdocs : docs ≠ [] → ∀ b ∈ (blocksOf pieces).head?, b.kind = .model)
    (hnames : ((documented docs pieces).map (·.1)).Nodup) {name : String} {doc : Option String}
    (hm : (name, doc) ∈ documented docs pieces) :
    ∃ ds, attachedDocs name docs (pieces.filterMap Piece.kind?) = some ds ∧ doc = joinDocs ds := by
  induction pieces generalizing docs with
  | nil => cases hm
  | cons p pieces ih =>
    have hpieces' : ∀ text line rest, .comment text line :: rest <:+ pieces →
        ∀ b ∈ (blocksOf rest).head?, b.kind = .model :=
      fun text line rest hs => hpieces text line rest (hs.trans (List.suffix_cons _ _))
    rw [filterMap_kind_cons]
    cases p with
    | comment text line =>
      exact ih hpieces' (fun _ => hpieces text line pieces (List.suffix_refl _)) hnames hm
    | block b =>
      rw [documented] at hnames hm
      by_cases hk : b.kind = .model
      · rw [if_pos hk] at hnames hm
        obtain ⟨hb, hnames⟩ := List.nodup_cons.1 hnames
        rw [Piece.kind?, if_pos hk, Option.toList_some, List.singleton_append, attachedDocs]
        rcases List.mem_cons.1 hm with hm | hm
        · cases hm
          exact ⟨docs, if_pos rfl, rfl⟩
        · have hne : b.name ≠ name := fun e => hb (e ▸ List.mem_map_of_mem (f := (·.1)) hm)
          rw [if_neg hne]
          exact ih hpieces' (fun h => absurd rfl h) hnames hm
      · rw [if_neg hk] at hnames hm
        -- a block of another kind would drop the pending comments in the structure alone
        have hnil : docs = [] := by
          by_contra h
          exact hk (hdocs h b rfl)
        rw [hnil, Piece.kind?, if_neg hk, Option.toList_none, List.nil_append]
        exact ih hpieces' (fun h => absurd rfl h) hnames hm

/-- The blocks of an accepted schema that keep to their lines are seen by the line pass. -/
theorem KeepsBlocks.of_blocksOnLines {n : Nat} {cs : List Char} {pieces : List Piece}
    (h : scanFrom n cs = .ok (tokensOf pieces)) (hw : ∀ b ∈ blocksOf pieces, b.WellFormed) (hd : BlocksOnLines pieces) :
    KeepsBlocks pieces where
  first := hd.keyword_first
  inline := hd.names_inline
  named b hb := (continuesName_of_scanFrom h _ (name_mem_tokensOf hb) b.name rfl).1
  keyword b hb := (hw b hb).keyword
  balanced b hb rest := (hw b hb).balanced_of_plain (hd.arguments_plain b hb) rest

/-- On schemas that keep to their lines the line pass declares the models of the structure, in order, and gives each the
documentation that the structure has for it. -/
theorem views_agree {source : String} {s : Structure} (h : Structure.ofText source = .ok s) (hd : LineDisciplined source) :
    (sourceKinds source).filterMap LineKind.declared? = s.models.map (·.name) ∧
      ((s.models.map (·.name)).Nodup → ∀ m ∈ s.models, ∃ docs, documentationOf source m.name = some docs ∧
        m.documentation = if docs = [] then none else some ("\n".intercalate docs)) := by
  obtain ⟨ts, pieces, hs, ho, rfl, hm, hw⟩ := exists_outline h
  obtain ⟨pieces', ho', hd⟩ := hd
  obtain rfl : pieces = pieces' := Option.some.inj (ho.symm.trans ho')
  have hkeeps := KeepsBlocks.of_blocksOnLines hs hw hd.toBlocksOnLines
  have hlead := sourceKinds_eq_leadKinds hs hd.texts_inline
  have hnames : s.models.map (·.name) = (documented [] pieces).map (·.1) := by
    rw [← hm, List.map_map]
    rfl
  refine ⟨?_, fun hnodup m hmem => ?_⟩
  · rw [← declared_telling, hlead, declared_leadKinds hkeeps (fun p hp => by simp), hnames, map_fst_documented]
  · have hmem : (m.name, m.documentation) ∈ documented [] pieces := by
      rw [← hm]
      exact List.mem_map_of_mem (f := fun m => (m.name, m.documentation)) hmem
    obtain ⟨docs, ha, hdoc⟩ :=
      attachedDocs_documented hd.comments_attached (fun h => absurd rfl h) (hnames ▸ hnodup) hmem
    refine ⟨docs, ?_, ?_⟩
    · rw [documentationOf, ← attachedDocs_telling, hlead,
        leadKinds_tokensOf hkeeps hd.comment_first (fun p hp => by simp), ha]
    · rw [hdoc]
      cases docs <;> rfl

/-- A documented model, an enum and a documented view, each on lines of its own. -/
def orderSchema : String :=
  "/// orders\nmodel Order \x7b\n  id Int @id\n\x7d\nenum State \x7b OPEN \x7d\n/// lines\n/// of orders\nview Line \x7b id Int \x7d\n"

/-- The outline of `orderSchema`. -/
def orderOutline : List Piece :=
  [.comment "orders" 1,
    .block ⟨.model, ⟨.ident "model", 2⟩, "Order", 2, 2,
      [⟨.ident "id", 3⟩, ⟨.ident "Int", 3⟩, ⟨.mark .at, 3⟩, ⟨.ident "id", 3⟩], 4⟩,
    .block ⟨.enum, ⟨.ident "enum", 5⟩, "State", 5, 5, [⟨.ident "OPEN", 5⟩], 5⟩,
    .comment "lines" 6,
    .comment "of orders" 7,
    .block ⟨.model, ⟨.ident "view", 8⟩, "Line", 8, 8, [⟨.ident "id", 8⟩, ⟨.ident "Int", 8⟩], 8⟩]

/-- The structure of `orderSchema`. -/
def orderStructure : Structure :=
  ⟨[⟨"Order", 2, some "orders", [⟨"id", "Int", false, false, [⟨"id", []⟩], none⟩]⟩,
    ⟨"Line", 8, some "lines\nof orders", [⟨"id", "Int", false, false, [], none⟩]⟩], ["State"]⟩

theorem outlineOf_orderSchema : outlineOf orderSchema = some orderOutline := by decide +kernel

theorem ofText_orderSchema : Structure.ofText orderSchema = .ok orderStructure := by decide +kernel

theorem disciplined_orderOutline : DisciplinedOutline orderOutline := by
  refine ⟨⟨by decide, by decide, by decide, by decide⟩, by decide, ?_⟩
  intro text line rest h
  simp only [orderOutline, List.suffix_cons_iff, List.cons.injEq, reduceCtorEq, false_and, false_or] at h
  rcases h with ⟨-, rfl⟩ | ⟨-, rfl⟩ | ⟨-, rfl⟩ | h
  · decide
  · decide
  · decide
  · simp at h

theorem views_agree_orderSchema :
    Structure.ofText orderSchema = .ok orderStructure ∧ LineDisciplined orderSchema ∧
      (sourceKinds orderSchema).filterMap LineKind.declared? = orderStructure.models.map (·.name) ∧
      ∀ m ∈ orderStructure.models, ∃ docs, documentationOf orderSchema m.name = some docs ∧
        m.documentation = if docs = [] then none else some ("\n".intercalate docs) := by
  have hd : LineDisciplined orderSchema := ⟨orderOutline, outlineOf_orderSchema, disciplined_orderOutline⟩
  obtain ⟨hnames, hdocs⟩ := views_agree ofText_orderSchema hd
  exact ⟨ofText_orderSchema, hd, hnames, hdocs (by decide)⟩

end GuardedCrud.Schema
