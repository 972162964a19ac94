import GuardedCrud.Proofs.Schema.Erasure
import GuardedCrud.Proofs.Schema.LineLeads

/-!
# Edited documentation

Two schema texts that differ in documentation lines of one model alone (`EditsDocs`) are walked through side by side
(`LineEdits`).  They have the same tokens up to the texts of comments (`scan_of_editsDocs`), the documentation of every
other model (`documentationOf_of_editsDocs`), and the same structure without documentation (`ofText_of_editsDocs`).
-/

namespace GuardedCrud.Schema

open GuardedCrud.Text

/-- The line, without the blanks around it, begins with three slashes. -/
def IsCommentLine (l : List Char) : Prop := ∃ text, trim l = '/' :: '/' :: '/' :: text

/-- The second text has the lines of the first one, except that a documentation line of the first text, after which the
model is the next one declared, may be any other comment line in the second.  No text escapes a line end. -/
structure EditsDocs (model source source' : String) : Prop where
  noEscape : ¬ ['\\', '\n'] <:+: source.toList
  noEscape' : ¬ ['\\', '\n'] <:+: source'.toList
  length : (lines source.toList).length = (lines source'.toList).length
  documentation : ∀ i l l', (lines source.toList)[i]? = some l → (lines source'.toList)[i]? = some l' → l ≠ l' →
    (∃ text, (sourceKinds source)[i]? = some (.documentation text)) ∧
      (declaredNames ((sourceKinds source).drop i)).head? = some model ∧ IsCommentLine l'

/-- Lines and edited lines, the first of which begin at a depth: a pair is equal, or two comment lines outside every
block after which the model is the next one declared. -/
inductive LineEdits (model : String) : Nat → List (List Char) → List (List Char) → Prop
  | nil (depth : Nat) : LineEdits model depth [] []
  | same {depth : Nat} {l : List Char} {ls ls' : List (List Char)} (h : LineEdits model (depthAfter depth l) ls ls') :
    LineEdits model depth (l :: ls) (l :: ls')
  | comment {l l' : List Char} {ls ls' : List (List Char)} (hl : IsCommentLine l) (hl' : IsCommentLine l')
    (hnext : (declaredNames (lineKinds 0 ls)).head? = some model) (h : LineEdits model 0 ls ls') :
    LineEdits model 0 (l :: ls) (l' :: ls')

/-! ### Comment lines -/

private theorem scanFrom_comment {l text : List Char} (hl : '\n' ∉ l) (h : trim l = '/' :: '/' :: '/' :: text)
    (n : Nat) : scanFrom n l = .ok [⟨.doc (String.ofList (trim text)), n⟩] := by
  have htext : '\n' ∉ text := by
    have := newline_not_mem_trim hl
    rw [h] at this
    simpa using this
  have hlex : lexeme '/' ('/' :: '/' :: text) = (.token (.doc (String.ofList (trim text))), []) := by
    have := lexeme_of_lexes (.doc text)
    rwa [takeWhile_onLine htext, dropWhile_onLine htext] at this
  rw [← scanFrom_trim hl, h, scanFrom_token n hlex, scanFrom_nil]
  rfl

private theorem depthAfter_comment {l : List Char} (hl : '\n' ∉ l) (h : IsCommentLine l) (depth : Nat) :
    depthAfter depth l = depth := by
  obtain ⟨text, h⟩ := h
  rw [depthAfter_eq_braceDepth hl (scanFrom_comment hl h 0)]
  rfl

private theorem isCommentLine_of_documentation {depth : Nat} {l : List Char} {text : String}
    (h : LineKind.atDepth depth l = .documentation text) : depth = 0 ∧ IsCommentLine l := by
  unfold LineKind.atDepth at h
  split at h
  · rename_i hd
    refine ⟨hd, ?_⟩
    unfold LineKind.ofOuterLine at h
    split at h
    · rename_i text' ht
      exact ⟨text', ht⟩
    · split at h
      · cases h
      · split at h <;> cases h
  · cases h

/-! ### From positions to pairs of lines -/

private theorem lineEdits_of_getElem {model : String} {depth : Nat} {ls ls' : List (List Char)}
    (hls : ∀ l ∈ ls, '\n' ∉ l) (hlength : ls.length = ls'.length)
    (h : ∀ i l l', ls[i]? = some l → ls'[i]? = some l' → l ≠ l' →
      (∃ text, (lineKinds depth ls)[i]? = some (.documentation text)) ∧
        (declaredNames ((lineKinds depth ls).drop i)).head? = some model ∧ IsCommentLine l') :
    LineEdits model depth ls ls' := by
  induction ls generalizing depth ls' with
  | nil =>
    obtain rfl := List.length_eq_zero_iff.1 hlength.symm
    exact .nil depth
  | cons l ls ih =>
    cases ls' with
    | nil => cases hlength
    | cons l' ls' =>
      have htail : LineEdits model (depthAfter depth l) ls ls' := by
        apply ih (fun k hk => hls k (List.mem_cons_of_mem _ hk)) (Nat.succ.inj hlength)
        intro i k k' hk hk' hne
        exact h (i + 1) k k' hk hk' hne
      -- a line that differs is a comment, so neither text changes its depth there
      by_cases hne : l = l'
      · subst hne
        exact .same htail
      · obtain ⟨⟨text, hk⟩, hnext, hl'⟩ := h 0 l l' rfl rfl hne
        have hk : LineKind.atDepth depth l = .documentation text := Option.some.inj hk
        obtain ⟨rfl, hl⟩ := isCommentLine_of_documentation hk
        have hdepth := depthAfter_comment (hls l (List.mem_cons_self ..)) hl 0
        rw [List.drop_zero, lineKinds, hk, declaredNames_cons_documentation, hdepth] at hnext
        rw [hdepth] at htail
        exact .comment hl hl' hnext htail

private theorem EditsDocs.lineEdits {model source source' : String} (h : EditsDocs model source source') :
    LineEdits model 0 (lines source.toList) (lines source'.toList) :=
  lineEdits_of_getElem (newline_not_mem_lines _) h.length h.documentation

/-! ### What an edit keeps -/

section

variable {model : String} {depth : Nat} {ls ls' : List (List Char)}

private theorem map_eraseDocs_joinScans (first second : Except Fault (List Placed)) :
    (joinScans first second).map eraseDocs = joinScans (first.map eraseDocs) (second.map eraseDocs) := by
  cases first with
  | error e => rfl
  | ok ts =>
    cases second with
    | error e => rfl
    | ok us => exact congrArg Except.ok List.map_append

/-- An edit keeps the tokens up to the texts of comments, and the first fault. -/
theorem LineEdits.scanLines (h : LineEdits model depth ls ls') (hls : ∀ l ∈ ls, '\n' ∉ l) (hls' : ∀ l ∈ ls', '\n' ∉ l)
    (n : Nat) : (scanLines n ls).map eraseDocs = (scanLines n ls').map eraseDocs := by
  induction h generalizing n with
  | nil => rfl
  | same h ih =>
    rw [Schema.scanLines, Schema.scanLines, map_eraseDocs_joinScans, map_eraseDocs_joinScans,
      ih (fun k hk => hls k (List.mem_cons_of_mem _ hk)) (fun k hk => hls' k (List.mem_cons_of_mem _ hk))]
  | comment hl hl' hnext h ih =>
    obtain ⟨text, hl⟩ := hl
    obtain ⟨text', hl'⟩ := hl'
    rw [Schema.scanLines, Schema.scanLines, map_eraseDocs_joinScans, map_eraseDocs_joinScans,
      ih (fun k hk => hls k (List.mem_cons_of_mem _ hk)) (fun k hk => hls' k (List.mem_cons_of_mem _ hk)),
      scanFrom_comment (hls _ (List.mem_cons_self ..)) hl, scanFrom_comment (hls' _ (List.mem_cons_self ..)) hl']
    rfl

/-- An edit keeps the documentation of every other model.  The comments gathered so far may differ only while the edited
model is the next one declared. -/
theorem LineEdits.attachedDocs (h : LineEdits model depth ls ls') {other : String} (ho : other ≠ model)
    (hls : ∀ l ∈ ls, '\n' ∉ l) (hls' : ∀ l ∈ ls', '\n' ∉ l) {pending pending' : List String}
    (hp : pending = pending' ∨ (declaredNames (lineKinds depth ls)).head? = some model) :
    attachedDocs other pending (lineKinds depth ls) = attachedDocs other pending' (lineKinds depth ls') := by
  induction h generalizing pending pending' with
  | nil => rfl
  | @same depth l ls ls' h ih =>
    have ih := @ih (fun k hk => hls k (List.mem_cons_of_mem _ hk)) (fun k hk => hls' k (List.mem_cons_of_mem _ hk))
    rw [lineKinds, lineKinds]
    rw [lineKinds] at hp
    generalize LineKind.atDepth depth l = k at hp ⊢
    cases k with
    | declaration name =>
      rw [Schema.attachedDocs, Schema.attachedDocs]
      -- the declaration of `other` takes the pending comments, which then agree
      by_cases hn : name = other
      · have hpending : pending = pending' := by
          rcases hp with hp | hp
          · exact hp
          · rw [declaredNames_cons_declaration, List.head?_cons, Option.some.injEq] at hp
            exact absurd (hn.symm.trans hp) ho
        rw [if_pos hn, if_pos hn, hpending]
      · rw [if_neg hn, if_neg hn]
        exact ih (Or.inl rfl)
    | documentation text =>
      rw [Schema.attachedDocs, Schema.attachedDocs]
      exact ih (hp.imp (fun e => by rw [e]) id)
    | other =>
      rw [Schema.attachedDocs, Schema.attachedDocs]
      exact ih hp
  | @comment l l' ls ls' hl hl' hnext h ih =>
    have ih := @ih (fun k hk => hls k (List.mem_cons_of_mem _ hk)) (fun k hk => hls' k (List.mem_cons_of_mem _ hk))
    have hdepth := depthAfter_comment (hls l (List.mem_cons_self ..)) hl 0
    have hdepth' := depthAfter_comment (hls' l' (List.mem_cons_self ..)) hl' 0
    obtain ⟨text, hl⟩ := hl
    obtain ⟨text', hl'⟩ := hl'
    rw [lineKinds, lineKinds, hdepth, hdepth', LineKind.atDepth, LineKind.atDepth, if_pos rfl, if_pos rfl,
      ofOuterLine_of_doc hl, ofOuterLine_of_doc hl', Schema.attachedDocs, Schema.attachedDocs]
    exact ih (Or.inr hnext)

/-- Blank lines stay blank, and others stay others. -/
theorem LineEdits.blank_iff (h : LineEdits model depth ls ls') :
    (∀ l ∈ ls, trim l = []) ↔ ∀ l ∈ ls', trim l = [] := by
  induction h with
  | nil => exact Iff.rfl
  | same h ih => rw [List.forall_mem_cons, List.forall_mem_cons, ih]
  | comment hl hl' hnext h ih =>
    obtain ⟨text, hl⟩ := hl
    obtain ⟨text', hl'⟩ := hl'
    rw [List.forall_mem_cons, List.forall_mem_cons, hl, hl']
    simp

end

/-! ### Blank texts -/

theorem trim_eq_nil_iff {cs : List Char} : trim cs = [] ↔ ∀ c ∈ cs, isBlank c = true := by
  induction cs with
  | nil => simp [trim, trimStart, trimEnd]
  | cons c cs ih =>
    by_cases hc : isBlank c = true
    · rw [trim_cons_of_isBlank hc, ih, List.forall_mem_cons]
      exact ⟨fun h => ⟨hc, h⟩, fun h => h.2⟩
    · rw [trim_cons_of_not_isBlank (by simpa using hc), List.forall_mem_cons]
      exact ⟨fun h => (by cases h), fun h => absurd h.1 hc⟩

private theorem trim_chomp (l : List Char) : trim (chomp l) = trim l := by
  unfold chomp
  split
  · rename_i h
    obtain ⟨l', rfl⟩ := List.getLast?_eq_some_iff.1 h
    rw [List.dropLast_concat, trim_append_blanks l' (by simp; decide)]
  · rfl

/-- A text is blank if its lines are. -/
theorem trim_eq_nil_iff_lines (cs : List Char) : trim cs = [] ↔ ∀ l ∈ lines cs, trim l = [] := by
  by_cases hn : '\n' ∈ cs
  · obtain ⟨l, rest, rfl, hl⟩ := List.eq_append_cons_of_mem hn
    rw [lines_append_newline hl, List.forall_mem_cons, ← trim_eq_nil_iff_lines rest, trim_chomp, trim_eq_nil_iff,
      trim_eq_nil_iff, trim_eq_nil_iff, List.forall_mem_append, List.forall_mem_cons]
    exact and_congr_right fun _ => ⟨fun h => h.2, fun h => ⟨by decide, h⟩⟩
  · rw [lines_of_not_mem hn]
    split
    · subst_vars
      simp [trim, trimStart, trimEnd]
    · simp
termination_by cs.length
decreasing_by subst_vars; simp; omega

/-! ### Edited texts -/

section

variable {model source source' : String}

theorem scan_eq_scanLines (h : ¬ ['\\', '\n'] <:+: source.toList) : scan source = scanLines 1 (lines source.toList) :=
  scanFrom_eq_scanLines 1 (staysOnLines_of_not_escaped h)

/-- Edited documentation leaves the tokens as they are, up to the texts of comments. -/
theorem EditsDocs.scan_eq (h : EditsDocs model source source') :
    (scan source).map eraseDocs = (scan source').map eraseDocs := by
  rw [scan_eq_scanLines h.noEscape, scan_eq_scanLines h.noEscape']
  exact h.lineEdits.scanLines (newline_not_mem_lines _) (newline_not_mem_lines _) 1

/-- Edited documentation leaves the structure as it is, up to documentation, or the message of the fault. -/
theorem EditsDocs.ofText_eq (h : EditsDocs model source source') :
    undocumented (Structure.ofText source) = undocumented (Structure.ofText source') := by
  have hscan := h.scan_eq
  unfold Structure.ofText
  cases hs : scan source with
  | error e =>
    cases hs' : scan source' with
    | error e' =>
      rw [hs, hs'] at hscan
      cases hscan
      rfl
    | ok us => rw [hs, hs'] at hscan; cases hscan
  | ok ts =>
    cases hs' : scan source' with
    | error e' => rw [hs, hs'] at hscan; cases hscan
    | ok us =>
      rw [hs, hs'] at hscan
      exact readBlocks_congr (Except.ok.inj hscan) [] []

/-- Edited documentation of a model leaves that of the others as it is. -/
theorem EditsDocs.documentationOf_eq (h : EditsDocs model source source') {other : String} (ho : other ≠ model) :
    documentationOf source other = documentationOf source' other :=
  h.lineEdits.attachedDocs ho (newline_not_mem_lines _) (newline_not_mem_lines _) (Or.inl rfl)

theorem EditsDocs.blank_iff (h : EditsDocs model source source') :
    trim source.toList = [] ↔ trim source'.toList = [] := by
  rw [trim_eq_nil_iff_lines, trim_eq_nil_iff_lines]
  exact h.lineEdits.blank_iff

end

end GuardedCrud.Schema
