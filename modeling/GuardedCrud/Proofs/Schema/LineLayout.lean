import GuardedCrud.Proofs.Schema.EditedDocs
import GuardedCrud.Proofs.Schema.LineNumbers

/-!
# The layout of lines

`contentOf` keeps of some lines what they say: the blanks around a line, blank lines and ordinary comment lines are left
out.  Texts with the same content, in which no line ends with a backslash (`SameContent`), are the same to both passes:

* the line pass finds the same documentation of every model (`SameContent.documentationOf_eq`);
* the token pass finds the same structure up to the lines of models, or none in both (`SameContent.ofText_eq`).
-/

namespace GuardedCrud.Schema

open GuardedCrud.Text

/-- The line, without the blanks in front of it, is an ordinary comment. -/
def isRemark : List Char → Bool
  | '/' :: '/' :: '/' :: _ => false
  | '/' :: '/' :: _ => true
  | _ => false

/-- What some lines say: the lines without the blanks around them, unless they are empty or ordinary comments. -/
def contentOf (ls : List (List Char)) : List (List Char) :=
  (ls.map trim).filter fun l => !l.isEmpty && !isRemark l

/-- Two texts with the same content, in which no line ends with a backslash, blanks behind it or not. -/
structure SameContent (source source' : String) : Prop where
  noBackslash : ∀ l ∈ lines source.toList, (trim l).getLast? ≠ some '\\'
  noBackslash' : ∀ l ∈ lines source'.toList, (trim l).getLast? ≠ some '\\'
  content : contentOf (lines source.toList) = contentOf (lines source'.toList)

theorem SameContent.symm {source source' : String} (h : SameContent source source') : SameContent source' source :=
  ⟨h.noBackslash', h.noBackslash, h.content.symm⟩

private theorem contentOf_cons (l : List Char) (ls : List (List Char)) : contentOf (l :: ls) =
    if trim l = [] ∨ isRemark (trim l) = true then contentOf ls else trim l :: contentOf ls := by
  unfold contentOf
  rw [List.map_cons, List.filter_cons]
  by_cases hempty : trim l = []
  · simp [hempty]
  · by_cases hremark : isRemark (trim l) = true
    · simp [hremark]
    · simp [hempty, hremark]

private theorem exists_of_isRemark {l : List Char} (h : isRemark l = true) :
    ∃ text, l = '/' :: '/' :: text ∧ text.head? ≠ some '/' := by
  unfold isRemark at h
  split at h
  · cases h
  · rename_i text hne
    refine ⟨text, rfl, ?_⟩
    intro hhead
    obtain ⟨rest, rfl⟩ := List.head?_eq_some_iff.1 hhead
    exact hne rest rfl
  · cases h

/-! ### The line pass -/

private theorem scanDepth_blanks {bl : List Char} (hbl : ∀ b ∈ bl, isBlank b = true) (inQuotes : Bool) (depth : Nat) :
    scanDepth inQuotes depth bl = depth := by
  induction bl with
  | nil => rfl
  | cons b bl ih =>
    have hb : isBlank b = true := hbl b (by simp)
    have ih := ih fun b hb => hbl b (by simp [hb])
    cases inQuotes with
    | false => rw [scanDepth_plain (isPlain_of_isBlank hb), ih]
    | true =>
      have hquote : b ≠ '"' := ne_of_isBlank hb (by decide)
      rw [scanDepth_quoted_cons depth (ne_of_isBlank hb (by decide)), bne_iff_ne.2 hquote, ih]

/-- A comment begins where it did before blanks were put behind the text. -/
private theorem comment_append_blanks {bl : List Char} (hbl : ∀ b ∈ bl, isBlank b = true) {c : Char} {cs : List Char}
    (h : ¬ (c = '/' ∧ cs.head? = some '/')) : ¬ (c = '/' ∧ (cs ++ bl).head? = some '/') := by
  rintro ⟨hc, hhead⟩
  exact head?_append_blanks_ne (fun hcs => h ⟨hc, hcs⟩) (by decide) hbl hhead

/-- Blanks behind a line leave its depth. -/
private theorem scanDepth_append_blanks {bl : List Char} (hbl : ∀ b ∈ bl, isBlank b = true) (inQuotes : Bool)
    (depth : Nat) (cs : List Char) : scanDepth inQuotes depth (cs ++ bl) = scanDepth inQuotes depth cs := by
  fun_induction scanDepth inQuotes depth cs with
  | case1 inQuotes depth => exact scanDepth_blanks hbl inQuotes depth
  | case2 depth =>
    -- the backslash takes the first of the blanks with it
    cases bl with
    | nil => rfl
    | cons b bl =>
      rw [List.cons_append, List.nil_append, scanDepth_escape]
      exact scanDepth_blanks (fun b hb => hbl b (by simp [hb])) true depth
  | case3 depth c cs ih => rw [List.cons_append, List.cons_append, scanDepth_escape, ih]
  | case4 depth c cs hc ih => rw [List.cons_append, scanDepth_quoted_cons depth hc, ih]
  | case5 inQuotes depth c cs hq hc =>
    obtain rfl : inQuotes = false := by simpa using hq
    obtain ⟨rest, rfl⟩ := List.head?_eq_some_iff.1 hc.2
    rw [hc.1]
    exact scanDepth_comment depth (rest ++ bl)
  | case6 inQuotes depth cs hq hc ih =>
    obtain rfl : inQuotes = false := by simpa using hq
    rw [List.cons_append, scanDepth_cons, if_neg (comment_append_blanks hbl hc), if_pos rfl, ih]
  | case7 inQuotes depth cs hq hc h₁ ih =>
    obtain rfl : inQuotes = false := by simpa using hq
    rw [List.cons_append, scanDepth_cons, if_neg (comment_append_blanks hbl hc), if_neg h₁, if_pos rfl, ih]
  | case8 inQuotes depth cs hq hc h₁ h₂ ih =>
    obtain rfl : inQuotes = false := by simpa using hq
    rw [List.cons_append, scanDepth_cons, if_neg (comment_append_blanks hbl hc), if_neg h₁, if_neg h₂, if_pos rfl, ih]
  | case9 inQuotes depth c cs hq hc h₁ h₂ h₃ ih =>
    obtain rfl : inQuotes = false := by simpa using hq
    rw [List.cons_append, scanDepth_cons, if_neg (comment_append_blanks hbl hc), if_neg h₁, if_neg h₂, if_neg h₃, ih]

private theorem depthAfter_trim (depth : Nat) (l : List Char) : depthAfter depth (trim l) = depthAfter depth l := by
  unfold depthAfter
  induction l with
  | nil => rfl
  | cons c l ih =>
    by_cases hc : isBlank c = true
    · rw [trim_cons_of_isBlank hc, scanDepth_plain (isPlain_of_isBlank hc), ih]
    · have hc' : isBlank c = false := by simpa using hc
      obtain ⟨bl, h, hbl⟩ := exists_trimEnd_append (c :: l)
      have hblanks := scanDepth_append_blanks hbl false depth (trimEnd (c :: l))
      rw [← h] at hblanks
      rw [trim_cons_of_not_isBlank hc', ← trimEnd_cons_of_not_isBlank hc', hblanks]

private theorem atDepth_trim (depth : Nat) (l : List Char) :
    LineKind.atDepth depth (trim l) = LineKind.atDepth depth l := by
  unfold LineKind.atDepth LineKind.ofOuterLine
  rw [trim_trim]

/-- A line without content tells the line pass nothing and leaves its depth. -/
private theorem lineKind_of_no_content {l : List Char} (h : trim l = [] ∨ isRemark (trim l) = true) (depth : Nat) :
    LineKind.atDepth depth l = .other ∧ depthAfter depth l = depth := by
  rw [← atDepth_trim, ← depthAfter_trim]
  rcases h with h | h
  · rw [h]
    refine ⟨?_, rfl⟩
    unfold LineKind.atDepth
    split <;> rfl
  · obtain ⟨text, htext, hhead⟩ := exists_of_isRemark h
    rw [htext]
    refine ⟨?_, scanDepth_comment depth text⟩
    unfold LineKind.atDepth
    split
    · have htrim : trim ('/' :: '/' :: text) = '/' :: '/' :: text := by rw [← htext, trim_trim]
      unfold LineKind.ofOuterLine
      rw [htrim]
      split
      · rename_i text' he
        cases he
        exact absurd rfl hhead
      · rfl
    · rfl

/-- Lines tell the line pass what their content does. -/
private theorem telling_lineKinds_contentOf (depth : Nat) (ls : List (List Char)) :
    telling (lineKinds depth (contentOf ls)) = telling (lineKinds depth ls) := by
  induction ls generalizing depth with
  | nil => rfl
  | cons l ls ih =>
    rw [contentOf_cons]
    split
    · rename_i h
      obtain ⟨hkind, hdepth⟩ := lineKind_of_no_content h depth
      rw [lineKinds, hkind, hdepth, telling_cons, if_pos rfl, ih]
    · rw [lineKinds, lineKinds, atDepth_trim, depthAfter_trim, telling_cons, telling_cons, ih]

/-- Texts with the same content have the same documentation of every model. -/
theorem SameContent.documentationOf_eq {source source' : String} (h : SameContent source source') (model : String) :
    documentationOf source model = documentationOf source' model := by
  unfold documentationOf sourceKinds
  rw [← attachedDocs_telling, ← telling_lineKinds_contentOf, h.content, telling_lineKinds_contentOf,
    attachedDocs_telling]

/-! ### The token pass -/

/-- The tokens of a scan that found no fault. -/
def tokens? (x : Except Fault (List Placed)) : Option (List Token) := x.toOption.map (List.map (·.token))

theorem tokens?_map_cons (t : Placed) (x : Except Fault (List Placed)) :
    tokens? (x.map (t :: ·)) = (tokens? x).map (t.token :: ·) := by
  cases x <;> rfl

private theorem tokens?_joinScans (first second : Except Fault (List Placed)) :
    tokens? (joinScans first second) = (tokens? first).bind fun ts => (tokens? second).map (ts ++ ·) := by
  cases first with
  | error e => rfl
  | ok ts =>
    cases second with
    | error e => rfl
    | ok us => simp [joinScans, tokens?, Except.map, Except.toOption]

/-- The line on which a text begins does not change its tokens. -/
theorem tokens?_scanFrom (n m : Nat) (cs : List Char) : tokens? (scanFrom n cs) = tokens? (scanFrom m cs) := by
  induction cs using lexeme_induction generalizing n m with
  | nil => rw [scanFrom_nil, scanFrom_nil]
  | gap c cs rest h ih => rw [scanFrom_gap n h, scanFrom_gap m h, ih]
  | token c cs t rest h ih => rw [scanFrom_token n h, scanFrom_token m h, tokens?_map_cons, tokens?_map_cons, ih n m]
  | unclosed c cs rest h => rw [scanFrom_unclosed n h, scanFrom_unclosed m h]; rfl
  | stray c cs rest h => rw [scanFrom_stray n h, scanFrom_stray m h]; rfl

private theorem scanFrom_of_no_content {l : List Char} (hl : '\n' ∉ l) (h : trim l = [] ∨ isRemark (trim l) = true)
    (n : Nat) : scanFrom n l = .ok [] := by
  rw [← scanFrom_trim hl]
  rcases h with h | h
  · rw [h, scanFrom_nil]
  · obtain ⟨text, htext, hhead⟩ := exists_of_isRemark h
    have htext' : '\n' ∉ text := by
      have := newline_not_mem_trim hl
      rw [htext] at this
      simpa using this
    rw [htext, scanFrom_gap n (lexeme_of_lexes (.comment hhead)), dropWhile_onLine htext', scanFrom_nil]

/-- Lines have the tokens of their content. -/
private theorem tokens?_scanLines_contentOf {ls : List (List Char)} (hls : ∀ l ∈ ls, '\n' ∉ l) (n m : Nat) :
    tokens? (scanLines n (contentOf ls)) = tokens? (scanLines m ls) := by
  induction ls generalizing n m with
  | nil => rfl
  | cons l ls ih =>
    have hl : '\n' ∉ l := hls l (by simp)
    have ih := ih fun k hk => hls k (by simp [hk])
    rw [contentOf_cons, scanLines]
    split
    · rename_i h
      rw [scanFrom_of_no_content hl h, joinScans_ok_nil]
      exact ih n (m + 1)
    · rw [scanLines, tokens?_joinScans, tokens?_joinScans, scanFrom_trim hl, tokens?_scanFrom n m, ih (n + 1) (m + 1)]

/-- A backslash right before a line feed ends a line. -/
private theorem exists_line_of_infix {cs : List Char} (h : ['\\', '\n'] <:+: cs) : ∃ l, l ++ ['\\'] ∈ lines cs := by
  obtain ⟨front, rest, rfl⟩ := h
  by_cases hn : '\n' ∈ front
  · obtain ⟨l, front, rfl, hl⟩ := List.eq_append_cons_of_mem hn
    have hinfix : ['\\', '\n'] <:+: front ++ ['\\', '\n'] ++ rest := ⟨front, rest, rfl⟩
    obtain ⟨l', hl'⟩ := exists_line_of_infix hinfix
    refine ⟨l', ?_⟩
    rw [List.append_assoc, List.append_assoc, List.cons_append, lines_append_newline hl, ← List.append_assoc]
    exact List.mem_cons_of_mem _ hl'
  · have hn' : '\n' ∉ front ++ ['\\'] := by simpa using hn
    refine ⟨front, ?_⟩
    have hsplit : front ++ ['\\', '\n'] ++ rest = (front ++ ['\\']) ++ '\n' :: rest := by simp
    rw [hsplit, lines_append_newline hn', chomp, if_neg (by simp)]
    exact List.mem_cons_self
termination_by cs.length
decreasing_by subst_vars; simp; omega

theorem tokens?_scan {source : String} (h : ∀ l ∈ lines source.toList, (trim l).getLast? ≠ some '\\') (n : Nat) :
    tokens? (scan source) = tokens? (scanLines n (contentOf (lines source.toList))) := by
  have hescape : ¬ ['\\', '\n'] <:+: source.toList := by
    intro hi
    obtain ⟨l, hl⟩ := exists_line_of_infix hi
    exact h _ hl (getLast?_trim_concat (by decide) l)
  rw [scan_eq_scanLines hescape, tokens?_scanLines_contentOf (newline_not_mem_lines _) n 1]

theorem SameContent.scan_eq {source source' : String} (h : SameContent source source') :
    tokens? (scan source) = tokens? (scan source') := by
  rw [tokens?_scan h.noBackslash 1, tokens?_scan h.noBackslash' 1, h.content]

/-- Texts with the same content have the same structure, up to the lines of models. -/
theorem SameContent.ofText_eq {source source' : String} (h : SameContent source source') {st : Structure}
    (hst : Structure.ofText source = .ok st) :
    ∃ st', Structure.ofText source' = .ok st' ∧ st'.unnumbered = st.unnumbered := by
  have hscan := h.scan_eq
  unfold Structure.ofText at hst ⊢
  cases hs : scan source with
  | error e => rw [hs] at hst; cases hst
  | ok ts =>
    rw [hs] at hst hscan
    cases hs' : scan source' with
    | error e => rw [hs'] at hscan; cases hscan
    | ok us =>
      rw [hs'] at hscan
      exact readBlocks_alike (Option.some.inj hscan) hst

/-- A blank text has no content. -/
theorem contentOf_lines_of_blank {cs : List Char} (h : trim cs = []) : contentOf (lines cs) = [] := by
  have hlines := (trim_eq_nil_iff_lines cs).1 h
  unfold contentOf
  rw [List.filter_eq_nil_iff]
  intro l hl
  obtain ⟨k, hk, rfl⟩ := List.mem_map.1 hl
  simp [hlines k hk]

end GuardedCrud.Schema
