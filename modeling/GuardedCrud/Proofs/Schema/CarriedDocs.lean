import GuardedCrud.Access.Resolution
import GuardedCrud.Proofs.Schema.Rows
import GuardedCrud.Proofs.Schema.TwoViews

/-!
# Documentation that is carried over

The grammar lets a keyword and its name stand on different lines, and a block begin behind another one.  The line pass
then misses a model, and the documentation before it goes on to a later one.

* the documentation of a model is the text of its rows (`documentationOf_eq_rows`), and a row is one of them exactly if it
  is a comment and the model is the next one that the line pass declares (`mem_documentationRows`);
* this decides whether documentation from before a model reaches a later one, and blocks that keep to their lines rule
  it out (`carriesOver_iff`).
-/

namespace GuardedCrud.Schema

open GuardedCrud.Text

/-! ### Rows of documentation -/

/-- The rows of the documentation that `attachedDocs` gathers, from lines the first of which has the number `row`. -/
def attachedRows (model : String) (row : Nat) (pending : List Nat) : List LineKind → Option (List Nat)
  | [] => none
  | .declaration name :: rest => if name = model then some pending else attachedRows model (row + 1) [] rest
  | .documentation _ :: rest => attachedRows model (row + 1) (pending ++ [row]) rest
  | .other :: rest => attachedRows model (row + 1) pending rest

/-- The rows, counted from zero, of the documentation lines of a model. -/
def documentationRows (source model : String) : Option (List Nat) := attachedRows model 0 [] (sourceKinds source)

/-- What a line documents. -/
def LineKind.docText : LineKind → String
  | .documentation text => text
  | _ => ""

/-- The text of a documentation line of a schema text. -/
def rowText (source : String) (row : Nat) : String := (((sourceKinds source)[row]?).map LineKind.docText).getD ""

private theorem attachedDocs_eq_map {model : String} {kinds : List LineKind} {row : Nat} {pending : List Nat}
    {text : Nat → String} (h : ∀ i, text (row + i) = ((kinds[i]?).map LineKind.docText).getD "") :
    attachedDocs model (pending.map text) kinds = (attachedRows model row pending kinds).map (·.map text) := by
  induction kinds generalizing row pending with
  | nil => rfl
  | cons k kinds ih =>
    have hnext : ∀ i, text (row + 1 + i) = ((kinds[i]?).map LineKind.docText).getD "" := by
      intro i
      have := h (i + 1)
      rwa [List.getElem?_cons_succ, ← Nat.add_assoc, Nat.add_right_comm] at this
    cases k with
    | declaration name =>
      rw [attachedDocs, attachedRows]
      split
      · rfl
      · change attachedDocs model ([].map text) kinds = _
        exact ih hnext
    | documentation t =>
      have ht : text row = t := h 0
      rw [attachedDocs, attachedRows, ← ih hnext, List.map_append, List.map_singleton, ht]
    | other =>
      rw [attachedDocs, attachedRows]
      exact ih hnext

/-- The documentation of a model is the text of its documentation rows. -/
theorem documentationOf_eq_rows (source model : String) :
    documentationOf source model = (documentationRows source model).map (·.map (rowText source)) := by
  change attachedDocs model ([].map (rowText source)) (sourceKinds source) = _
  exact attachedDocs_eq_map fun i => by rw [Nat.zero_add]; rfl

/-- The line at `row` is documentation, and the model is the next one that is declared, for the first time. -/
def Awaits (model : String) (kinds : List LineKind) (row : Nat) : Prop :=
  (∃ text, kinds[row]? = some (.documentation text)) ∧ model ∉ declaredNames (kinds.take row) ∧
    (declaredNames (kinds.drop row)).head? = some model

private theorem awaits_declaration {model name : String} {kinds : List LineKind} {i : Nat} :
    Awaits model (.declaration name :: kinds) (i + 1) ↔ name ≠ model ∧ Awaits model kinds i := by
  simp only [Awaits, List.getElem?_cons_succ, List.take_succ_cons, List.drop_succ_cons, declaredNames_cons_declaration,
    List.mem_cons, not_or]
  constructor
  · rintro ⟨ht, ⟨hn, hm⟩, hh⟩
    exact ⟨Ne.symm hn, ht, hm, hh⟩
  · rintro ⟨hn, ht, hm, hh⟩
    exact ⟨ht, ⟨Ne.symm hn, hm⟩, hh⟩

private theorem awaits_documentation {model text : String} {kinds : List LineKind} {i : Nat} :
    Awaits model (.documentation text :: kinds) (i + 1) ↔ Awaits model kinds i := by
  simp only [Awaits, List.getElem?_cons_succ, List.take_succ_cons, List.drop_succ_cons,
    declaredNames_cons_documentation]

private theorem awaits_other {model : String} {kinds : List LineKind} {i : Nat} :
    Awaits model (.other :: kinds) (i + 1) ↔ Awaits model kinds i := by
  simp only [Awaits, List.getElem?_cons_succ, List.take_succ_cons, List.drop_succ_cons, declaredNames_cons_other]

/-- Whether the first line awaits a model. -/
private theorem awaits_zero {model : String} {k : LineKind} {kinds : List LineKind} :
    Awaits model (k :: kinds) 0 ↔ (∃ text, k = .documentation text) ∧ (declaredNames kinds).head? = some model := by
  cases k with
  | documentation text => simp [Awaits, declaredNames_nil, declaredNames_cons_documentation]
  | declaration | other => simp [Awaits]

private theorem exists_awaits_cons {model : String} {k : LineKind} {kinds : List LineKind} {row r : Nat} :
    (∃ i, r = row + i ∧ Awaits model (k :: kinds) i) ↔
      r = row ∧ Awaits model (k :: kinds) 0 ∨ ∃ i, r = row + 1 + i ∧ Awaits model (k :: kinds) (i + 1) := by
  constructor
  · rintro ⟨i, rfl, h⟩
    cases i with
    | zero => exact Or.inl ⟨rfl, h⟩
    | succ i => exact Or.inr ⟨i, by omega, h⟩
  · rintro (⟨rfl, h⟩ | ⟨i, rfl, h⟩)
    · exact ⟨0, rfl, h⟩
    · exact ⟨i + 1, by omega, h⟩

/-- Rows are pending until a model is declared, which takes all of them if it is the right one. -/
private theorem mem_attachedRows {model : String} {kinds : List LineKind} {row r : Nat} {pending : List Nat} :
    (∃ rows, attachedRows model row pending kinds = some rows ∧ r ∈ rows) ↔
      (r ∈ pending ∧ (declaredNames kinds).head? = some model) ∨ ∃ i, r = row + i ∧ Awaits model kinds i := by
  induction kinds generalizing row pending with
  | nil => simp [attachedRows, declaredNames, Awaits]
  | cons k kinds ih =>
    rw [exists_awaits_cons, awaits_zero]
    cases k with
    | declaration name =>
      rw [attachedRows, declaredNames_cons_declaration, List.head?_cons]
      simp only [awaits_declaration]
      -- a declaration takes the pending rows or drops them
      by_cases hn : name = model
      · simp [hn]
      · rw [if_neg hn, ih]
        simp [hn]
    | documentation text =>
      rw [attachedRows, declaredNames_cons_documentation, ih]
      simp only [awaits_documentation, List.mem_append, List.mem_singleton]
      constructor
      · rintro (⟨hr | hr, hh⟩ | h)
        · exact Or.inl ⟨hr, hh⟩
        · exact Or.inr (Or.inl ⟨hr, ⟨text, rfl⟩, hh⟩)
        · exact Or.inr (Or.inr h)
      · rintro (⟨hr, hh⟩ | ⟨hr, -, hh⟩ | h)
        · exact Or.inl ⟨Or.inl hr, hh⟩
        · exact Or.inl ⟨Or.inr hr, hh⟩
        · exact Or.inr h
    | other =>
      rw [attachedRows, declaredNames_cons_other, ih]
      simp [awaits_other]

/-- A comment belongs to a model exactly if the model is the next one declared. -/
theorem mem_documentationRows {source model : String} {r : Nat} :
    (∃ rows, documentationRows source model = some rows ∧ r ∈ rows) ↔ Awaits model (sourceKinds source) r := by
  rw [documentationRows, mem_attachedRows]
  simp

/-! ### Documentation from before a model -/

/-- Documentation from the rows up to `row` is in the documentation of the model. -/
def CarriesOver (source model : String) (row : Nat) : Prop :=
  ∃ rows, documentationRows source model = some rows ∧ ∃ r ∈ rows, r ≤ row

private theorem carriesOver_iff_awaits {source model : String} {row : Nat} :
    CarriesOver source model row ↔ ∃ r ≤ row, Awaits model (sourceKinds source) r := by
  constructor
  · rintro ⟨rows, h, r, hr, hle⟩
    exact ⟨r, hle, mem_documentationRows.1 ⟨rows, h, hr⟩⟩
  · rintro ⟨r, hle, h⟩
    obtain ⟨rows, h, hr⟩ := mem_documentationRows.2 h
    exact ⟨rows, h, r, hr, hle⟩

private theorem blocksOf_append (ps qs : List Piece) : blocksOf (ps ++ qs) = blocksOf ps ++ blocksOf qs :=
  List.filterMap_append ..

private theorem tokensOf_append (ps qs : List Piece) : tokensOf (ps ++ qs) = tokensOf ps ++ tokensOf qs :=
  List.flatMap_append ..

theorem KeepsBlocks.left {ps qs : List Piece} (h : KeepsBlocks (ps ++ qs)) : KeepsBlocks ps where
  first := (List.pairwise_append.1 h.first).1
  inline b hb := h.inline b (by rw [blocksOf_append]; exact List.mem_append_left _ hb)
  named b hb := h.named b (by rw [blocksOf_append]; exact List.mem_append_left _ hb)
  keyword b hb := h.keyword b (by rw [blocksOf_append]; exact List.mem_append_left _ hb)
  balanced b hb := h.balanced b (by rw [blocksOf_append]; exact List.mem_append_left _ hb)

private theorem braceDepth_cutBody {depth line : Nat} {ts body rest : List Placed}
    (h : cutBody Token.depthAfter 0 depth ts = some (body, line, rest)) :
    braceDepth (depth + 1) ts = braceDepth 0 rest := by
  induction ts generalizing depth body with
  | nil => cases h
  | cons t ts ih =>
    rw [cutBody] at h
    rw [braceDepth_cons]
    split at h
    · rename_i ht
      cases h
      rw [ht.1, ht.2]
      rfl
    · rename_i ht
      obtain ⟨⟨body', line', rest'⟩, h', e⟩ := Option.map_eq_some_iff.1 h
      cases e
      rw [depthAfter_succ ht]
      exact ih h'

/-- Pieces leave the depth at zero. -/
private theorem braceDepth_tokensOf {pieces : List Piece} (h : KeepsBlocks pieces) :
    braceDepth 0 (tokensOf pieces) = 0 := by
  induction pieces with
  | nil => rfl
  | cons p pieces ih =>
    rw [tokensOf_cons, braceDepth_append]
    cases p with
    | comment text line => exact ih h.tail
    | block b =>
      have hb : b ∈ blocksOf (.block b :: pieces) := List.mem_cons_self
      have htokens : braceDepth 0 b.tokens = 0 := by
        rw [Block.tokens, braceDepth_cons, depthAfter_of_block (h.keyword b hb)]
        exact braceDepth_cutBody (h.balanced b hb [])
      rw [Piece.tokens, htokens]
      exact ih h.tail

private theorem mem_tokensOf_keyword (ps : List Piece) (a : Block) (qs : List Piece) :
    tokensOf (ps ++ .block a :: qs) = tokensOf ps ++ a.keyword :: (a.tokens.tail ++ tokensOf qs) := by
  rw [tokensOf_append, tokensOf_cons]
  rfl

/-- The tokens before a block that begins its line are on earlier lines. -/
private theorem lt_line_of_keyword {n : Nat} {cs : List Char} {ps qs : List Piece} {a : Block}
    (h : scanFrom n cs = .ok (tokensOf (ps ++ .block a :: qs))) (hk : KeepsBlocks (ps ++ .block a :: qs)) :
    (∀ u ∈ tokensOf ps, u.line < a.keyword.line) ∧
      ∀ v ∈ a.keyword :: (a.tokens.tail ++ tokensOf qs), a.keyword.line ≤ v.line := by
  obtain ⟨hs, -⟩ := scanFrom_sorted h
  rw [mem_tokensOf_keyword, List.pairwise_append] at hs
  obtain ⟨-, hs, hle⟩ := hs
  refine ⟨fun u hu => ?_, ?_⟩
  · obtain ⟨p, hp, hup⟩ := List.mem_flatMap.1 hu
    have hne := (List.pairwise_append.1 hk.first).2.2 p hp (.block a) (by simp) rfl u hup
    have := hle u hu a.keyword (by simp)
    exact Nat.lt_of_le_of_ne this hne
  · exact List.forall_mem_cons.2 ⟨Nat.le_refl _, (List.pairwise_cons.1 hs).1⟩

/-- The line on which a model begins says what its first two tokens say. -/
private theorem ofTokens_keyword {row : Nat} {a : Block} {ts ts₁ ts₂ : List Placed}
    (h : ts₁ ++ ts₂ = a.keyword :: ⟨.ident a.name, a.nameLine⟩ :: ts) (hts₂ : ∀ t ∈ ts₂, row < t.line)
    (hkeyword : a.keyword.token.block? = some .model) (hrow : a.keyword.line = row) (hname : a.name.toList ≠ [])
    (hline : a.nameLine = row) : LineKind.ofTokens ts₁ = .declaration a.name := by
  match ts₁ with
  | [] =>
    have := hts₂ a.keyword (by rw [List.nil_append] at h; simp [h])
    omega
  | [t] =>
    have hmem : ⟨.ident a.name, a.nameLine⟩ ∈ ts₂ := by
      rw [List.singleton_append, List.cons.injEq] at h
      simp [h.2]
    have : row < a.nameLine := hts₂ _ hmem
    omega
  | t :: u :: ts₁ =>
    simp only [List.cons_append, List.cons.injEq] at h
    obtain ⟨rfl, rfl, -⟩ := h
    exact ofLead_of_model hkeyword hname

/-- The line of a model that begins there declares it, and the lines before it declare the models before it. -/
private theorem lineKinds_keyword {cs : List Char} {ps qs : List Piece} {a : Block} {row : Nat}
    (h : scanFrom 1 cs = .ok (tokensOf (ps ++ .block a :: qs))) (hs : StaysOnLines cs)
    (hk : KeepsBlocks (ps ++ .block a :: qs)) (ha : a.kind = .model) (hrow : a.keyword.line = 1 + row) :
    declaredNames ((lineKinds 0 (lines cs)).take row) = modelNames ps ∧
      (lineKinds 0 (lines cs))[row]? = some (.declaration a.name) := by
  have hls := newline_not_mem_lines cs
  obtain ⟨hlt, hle⟩ := lt_line_of_keyword h hk
  rw [scanFrom_eq_scanLines 1 hs, mem_tokensOf_keyword] at h
  obtain ⟨htake, hdrop⟩ := scanLines_split hls h (fun u hu => hrow ▸ hlt u hu) (fun v hv => hrow ▸ hle v hv)
  have hltake : ∀ l ∈ (lines cs).take row, '\n' ∉ l := fun l hl => hls l (List.mem_of_mem_take hl)
  have hldrop : ∀ l ∈ (lines cs).drop row, '\n' ∉ l := fun l hl => hls l (List.mem_of_mem_drop hl)
  -- the blocks before are closed, so the line of the keyword is at depth zero
  have hkinds : lineKinds 0 (lines cs) = lineKinds 0 ((lines cs).take row) ++ lineKinds 0 ((lines cs).drop row) := by
    have := lineKinds_append hltake htake 0 ((lines cs).drop row)
    rwa [List.take_append_drop, braceDepth_tokensOf hk.left] at this
  cases hl : (lines cs).drop row with
  | nil => rw [hl] at hdrop; cases hdrop
  | cons l ls =>
    have hlen : (lineKinds 0 ((lines cs).take row)).length = row := by
      have : ((lines cs).drop row).length = ls.length + 1 := by rw [hl]; rfl
      rw [length_lineKinds, List.length_take]
      rw [List.length_drop] at this
      omega
    rw [hl] at hkinds hdrop hldrop
    constructor
    · rw [hkinds, List.take_left' hlen, declaredNames, ← declared_telling,
        lineKinds_eq_leadKinds (fun m (hm : none = some m) => by cases hm) hltake htake,
        declared_leadKinds hk.left (fun p hp => by simp)]
    · have hb : a ∈ blocksOf (ps ++ .block a :: qs) := by simp [blocksOf_append, blocksOf_cons_block]
      obtain ⟨ts₁, ts₂, h₁, h₂, he⟩ := joinScans_eq_ok.1 hdrop
      have hl := hldrop l (by simp)
      have hts₂ : ∀ t ∈ ts₂, 1 + row < t.line := fun t ht => by
        have := le_line_of_scanLines (fun l hl => hldrop l (by simp [hl])) h₂ t ht
        omega
      rw [hkinds, List.getElem?_append_right (by omega), hlen, Nat.sub_self, lineKinds, List.getElem?_cons_zero,
        LineKind.atDepth, if_pos rfl, ofOuterLine_eq_ofTokens hl h₁]
      exact congrArg some (ofTokens_keyword he.symm hts₂ (ha ▸ hk.keyword a hb) hrow (hk.named a hb)
        ((hk.inline a hb).trans hrow))

/-- A model whose line declares it keeps earlier documentation from every model that is not declared before it. -/
private theorem not_awaits_of_declaration {kinds : List LineKind} {model name : String} {row r : Nat} (hr : r ≤ row)
    (hrow : kinds[row]? = some (.declaration name)) (hne : name ≠ model)
    (hbefore : model ∉ declaredNames (kinds.take row)) :
    ¬ Awaits model kinds r := by
  rintro ⟨-, -, hhead⟩
  obtain ⟨hlt, hget⟩ := List.getElem?_eq_some_iff.1 hrow
  have hdrop : kinds.drop r = (kinds.take row).drop r ++ .declaration name :: kinds.drop (row + 1) := by
    conv => lhs; rw [← List.take_append_drop row kinds]
    rw [List.drop_append_of_le_length (by rw [List.length_take]; omega), List.drop_eq_getElem_cons hlt, hget]
  rw [hdrop, declaredNames_append, declaredNames_cons_declaration] at hhead
  -- the first name declared is one from before `row`, or that of the declaration itself
  cases hd : declaredNames ((kinds.take row).drop r) with
  | nil =>
    rw [hd] at hhead
    exact hne (Option.some.inj hhead)
  | cons first rest =>
    rw [hd] at hhead
    have hfirst : first = model := Option.some.inj hhead
    have hmem : model ∈ declaredNames ((kinds.take row).drop r) := by rw [hd, hfirst]; simp
    have hsub := ((List.drop_suffix r (kinds.take row)).sublist.filterMap LineKind.declared?).subset hmem
    exact hbefore hsub

/-- Every token of a scanned text has a row, and it is that of its line if no quoted text escapes a line end. -/
private theorem exists_tokenRow {source : String} {ts us : List Placed} {t : Placed}
    (h : scan source = .ok (ts ++ t :: us)) : ∃ row, tokenRow source ts.length = some row ∧
      ((∀ u ∈ ts ++ t :: us, u.token.crossesLine = false) → t.line = 1 + row) := by
  have hlen : ts.length < (sites source.toList).length := by
    have := congrArg List.length (map_fst_sites h)
    simp only [List.length_map, List.length_append, List.length_cons] at this
    omega
  refine ⟨rowOf source.toList (sites source.toList)[ts.length].2, ?_, fun hts => ?_⟩
  · rw [tokenRow, List.getElem?_eq_getElem hlen]
    rfl
  · have hline := congrArg (·[ts.length]?) (line_eq_rowOf h (staysOnLines_of_scanFrom h hts))
    simpa [hlen] using hline

private theorem modelNames_append_cons {a : Block} (ha : a.kind = .model) (ps qs : List Piece) :
    modelNames (ps ++ .block a :: qs) = modelNames ps ++ a.name :: modelNames qs := by
  simp [modelNames, blocksOf_append, blocksOf_cons_block, ha]

/-- Documentation from before a model reaches another one exactly if some comment up to the model's keyword awaits the
other model.  This takes a line pass that misses the model or has met the other name before; blocks that keep to their
lines rule the first out. -/
theorem carriesOver_iff {source : String} {s : Structure} (h : Structure.ofText source = .ok s) {ps qs : List Piece}
    {a : Block} (ho : outlineOf source = some (ps ++ .block a :: qs)) (ha : a.kind = .model) {model : String}
    (hne : a.name ≠ model) :
    s.models.map (·.name) = modelNames ps ++ a.name :: modelNames qs ∧
    ∃ row, tokenRow source (tokensOf ps).length = some row ∧
      (CarriesOver source model row ↔ ∃ r ≤ row, Awaits model (sourceKinds source) r) ∧
      (CarriesOver source model row → model ∈ declaredNames ((sourceKinds source).take row) ∨
        (sourceKinds source)[row]? ≠ some (.declaration a.name)) ∧
      (BlocksOnLines (ps ++ .block a :: qs) → model ∉ modelNames ps → ¬ CarriesOver source model row) := by
  refine ⟨(map_name_models h ho).trans (modelNames_append_cons ha ps qs), ?_⟩
  obtain ⟨ts, pieces, hs, ho', rfl, -, hw⟩ := exists_outline h
  obtain rfl : pieces = _ := Option.some.inj (ho'.symm.trans ho)
  rw [mem_tokensOf_keyword] at hs
  obtain ⟨row, hrow, hline⟩ := exists_tokenRow hs
  rw [← mem_tokensOf_keyword] at hs hline
  refine ⟨row, hrow, carriesOver_iff_awaits, fun hc => ?_, fun hb hm => ?_⟩
  · obtain ⟨r, hr, ha⟩ := carriesOver_iff_awaits.1 hc
    by_contra hn
    obtain ⟨hbefore, hdecl⟩ := not_or.1 hn
    exact not_awaits_of_declaration hr (not_not.1 hdecl) hne hbefore ha
  · obtain ⟨hnames, hdecl⟩ :=
      lineKinds_keyword hs (staysOnLines_of_scanFrom hs hb.texts_inline) (.of_blocksOnLines hs hw hb)
      ha (hline hb.texts_inline)
    intro hc
    obtain ⟨r, hr, ha⟩ := carriesOver_iff_awaits.1 hc
    exact not_awaits_of_declaration hr hdecl hne (hnames ▸ hm) ha

/-- In `orderSchema` no documentation from before `Order` reaches `Line`. -/
theorem carriesOver_iff_orderSchema :
    ∃ row, tokenRow orderSchema 1 = some row ∧ ¬ CarriesOver orderSchema "Line" row := by
  obtain ⟨-, row, hrow, -, -, hno⟩ :=
    @carriesOver_iff orderSchema orderStructure ofText_orderSchema [.comment "orders" 1] _ _ outlineOf_orderSchema rfl
      "Line" (by decide)
  exact ⟨row, hrow, hno disciplined_orderOutline.toBlocksOnLines (by decide)⟩

/-- A schema with the name of a model on the line after its keyword. -/
def splitKeyword : String :=
  "/// @crudAuth: \x7b \"delete\": \"public\" \x7d\nmodel\nA \x7b id Int @id \x7d\nmodel B \x7b id Int @id \x7d\n"

/-- The outline of `splitKeyword`. -/
def splitKeywordOutline : List Piece :=
  [.comment "@crudAuth: \x7b \"delete\": \"public\" \x7d" 1,
    .block ⟨.model, ⟨.ident "model", 2⟩, "A", 3, 3,
      [⟨.ident "id", 3⟩, ⟨.ident "Int", 3⟩, ⟨.mark .at, 3⟩, ⟨.ident "id", 3⟩], 3⟩,
    .block ⟨.model, ⟨.ident "model", 4⟩, "B", 4, 4,
      [⟨.ident "id", 4⟩, ⟨.ident "Int", 4⟩, ⟨.mark .at, 4⟩, ⟨.ident "id", 4⟩], 4⟩]

/-- The comment before the keyword of `A` is in the documentation of `B`, and opens an operation of `B`. -/
theorem carriesOver_splitKeyword :
    (Structure.ofText splitKeyword).map (fun s => s.models.map (·.name)) = .ok ["A", "B"] ∧
      outlineOf splitKeyword = some splitKeywordOutline ∧ tokenRow splitKeyword 1 = some 1 ∧
      CarriesOver splitKeyword "B" 1 ∧
      documentationOf splitKeyword "B" = some ["@crudAuth: \x7b \"delete\": \"public\" \x7d"] ∧
      (Access.resolvePolicy .adminOnly splitKeyword "B").get .delete = .everyone := by
  refine ⟨by decide +kernel, by decide +kernel, by decide +kernel, ⟨[0], by decide +kernel, 0, by simp, by decide⟩,
    by decide +kernel, by decide +kernel⟩

end GuardedCrud.Schema
