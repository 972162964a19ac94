import GuardedCrud.Proofs.Schema.LineScan
import GuardedCrud.Schema.Line

/-!
# Lines seen through their tokens

The kind of a line and the brace depth after it hang only on its tokens:

* the depth counts the brace tokens of the line (`depthAfter_eq_braceDepth`);
* a line outside every block is what its first two tokens say (`ofOuterLine_eq_ofTokens`);
* so the braces and the documentation of a line are those of its tokens (`line_agrees_with_tokens`).
-/

namespace GuardedCrud.Schema

open GuardedCrud.Text

/-! ### Brace depth -/

/-- The brace depth after a token; a closing brace at depth zero leaves it there. -/
def Token.depthAfter (depth : Nat) : Token → Nat
  | .opening .brace => depth + 1
  | .closing .brace => depth - 1
  | _ => depth

/-- The brace depth after some tokens. -/
def braceDepth (depth : Nat) (ts : List Placed) : Nat := ts.foldl (fun d t => t.token.depthAfter d) depth

theorem scanDepth_cons (depth : Nat) (c : Char) (cs : List Char) :
    scanDepth false depth (c :: cs) =
      if c = '/' ∧ cs.head? = some '/' then depth
      else if c = '"' then scanDepth true depth cs
      else if c = '\x7b' then scanDepth false (depth + 1) cs
      else if c = '\x7d' then scanDepth false (depth - 1) cs
      else scanDepth false depth cs := by
  rw [scanDepth.eq_def]
  simp

theorem scanDepth_escape (depth : Nat) (c : Char) (cs : List Char) :
    scanDepth true depth ('\\' :: c :: cs) = scanDepth true depth cs := by
  rw [scanDepth.eq_def]
  simp

theorem scanDepth_quoted_cons (depth : Nat) {c : Char} (hc : c ≠ '\\') (cs : List Char) :
    scanDepth true depth (c :: cs) = scanDepth (c != '"') depth cs := by
  rw [scanDepth.eq_def]
  simp [hc]

/-- A character that neither opens nor closes a brace, a quoted text or a comment. -/
def isPlain (c : Char) : Bool := c != '/' && c != '"' && c != '\x7b' && c != '\x7d'

theorem scanDepth_plain {c : Char} (hc : isPlain c = true) (depth : Nat) (cs : List Char) :
    scanDepth false depth (c :: cs) = scanDepth false depth cs := by
  simp only [isPlain, Bool.and_eq_true, bne_iff_ne] at hc
  obtain ⟨⟨⟨h1, h2⟩, h3⟩, h4⟩ := hc
  simp [scanDepth_cons, h1, h2, h3, h4]

private theorem scanDepth_dropWhile {p : Char → Bool} (hp : ∀ c, p c = true → isPlain c = true) (depth : Nat)
    (cs : List Char) : scanDepth false depth cs = scanDepth false depth (cs.dropWhile p) := by
  induction cs with
  | nil => rfl
  | cons c cs ih =>
    rw [List.dropWhile_cons]
    split
    · rename_i h
      rw [scanDepth_plain (hp c h), ih]
    · rfl

/-- A quoted text is passed over up to its end. -/
private theorem scanDepth_quoted {cs s rest : List Char} (h : readQuoted cs = some (s, rest)) (depth : Nat) :
    scanDepth true depth cs = scanDepth false depth rest := by
  fun_induction readQuoted cs generalizing s rest with
  | case1 => cases h
  | case2 r =>
    cases h
    rw [scanDepth_quoted_cons depth (by decide)]
    rfl
  | case3 c r ih =>
    obtain ⟨⟨s', r'⟩, h', e⟩ := Option.map_eq_some_iff.1 h
    cases e
    rw [scanDepth_escape, ih h']
  | case4 => cases h
  | case5 c r hq hb hn ih =>
    obtain ⟨⟨s', r'⟩, h', e⟩ := Option.map_eq_some_iff.1 h
    cases e
    have hb' : c ≠ '\\' := by
      rintro rfl
      cases r with
      | nil => cases h'
      | cons d r => exact hb d r rfl rfl
    rw [scanDepth_quoted_cons depth hb', bne_iff_ne.2 hq, ih h']

theorem isPlain_of_continuesName {c : Char} (h : continuesName c = true) : isPlain c = true := by
  have hne : ∀ d, continuesName d = false → c ≠ d := by
    rintro d hd rfl
    rw [hd] at h
    cases h
  simp [isPlain, hne '/' (by decide), hne '"' (by decide), hne '\x7b' (by decide), hne '\x7d' (by decide)]

private theorem isPlain_of_continuesNumber {c : Char} (h : continuesNumber c = true) : isPlain c = true := by
  have hne : ∀ d, continuesNumber d = false → c ≠ d := by
    rintro d hd rfl
    rw [hd] at h
    cases h
  simp [isPlain, hne '/' (by decide), hne '"' (by decide), hne '\x7b' (by decide), hne '\x7d' (by decide)]

theorem isPlain_of_isBlank {c : Char} (h : isBlank c = true) : isPlain c = true := by
  simp [isPlain, ne_of_isBlank h (d := '/') (by decide), ne_of_isBlank h (d := '"') (by decide),
    ne_of_isBlank h (d := '\x7b') (by decide), ne_of_isBlank h (d := '\x7d') (by decide)]

private theorem isPlain_of_punctuation {c : Char} (h : punctuation? c = none) (h₁ : c ≠ '/') (h₂ : c ≠ '"') :
    isPlain c = true := by
  have h₃ : c ≠ '\x7b' := by rintro rfl; cases h
  have h₄ : c ≠ '\x7d' := by rintro rfl; cases h
  simp [isPlain, h₁, h₂, h₃, h₄]

theorem scanDepth_comment (depth : Nat) (cs : List Char) : scanDepth false depth ('/' :: '/' :: cs) = depth := by
  simp [scanDepth_cons]

/-- A lexeme of a line changes the depth as its token says. -/
private theorem scanDepth_lexeme {c : Char} {cs rest : List Char} {x : Lexeme} (h : Lexes c cs x rest) (hcs : '\n' ∉ cs)
    (depth : Nat) :
    (x = .gap → scanDepth false depth (c :: cs) = scanDepth false depth rest) ∧
      ∀ t, x = .token t → scanDepth false depth (c :: cs) = scanDepth false (t.depthAfter depth) rest := by
  cases h with
  | blank h => exact ⟨fun _ => scanDepth_plain (isPlain_of_isBlank h) depth _, fun t ht => by cases ht⟩
  | doc text =>
    refine ⟨fun hx => (by cases hx), fun t ht => ?_⟩
    cases ht
    rw [scanDepth_comment, dropWhile_onLine (by simp_all)]
    rfl
  | comment h =>
    rename_i text
    refine ⟨fun _ => ?_, fun t ht => by cases ht⟩
    rw [scanDepth_comment, dropWhile_onLine (by simp_all)]
    rfl
  | quoted h =>
    refine ⟨fun hx => (by cases hx), fun t ht => ?_⟩
    cases ht
    simp [scanDepth_cons, scanDepth_quoted h, Token.depthAfter]
  | doubleAt cs =>
    refine ⟨fun hx => (by cases hx), fun t ht => ?_⟩
    cases ht
    rw [scanDepth_plain (by decide), scanDepth_plain (by decide)]
    rfl
  | «at» h =>
    refine ⟨fun hx => (by cases hx), fun t ht => ?_⟩
    cases ht
    rw [scanDepth_plain (by decide)]
    rfl
  | punctuation h =>
    refine ⟨fun hx => (by cases hx), fun t ht => ?_⟩
    cases ht
    unfold punctuation? at h
    split at h <;> cases h <;> simp [scanDepth_cons, Token.depthAfter]
  | name h =>
    refine ⟨fun hx => (by cases hx), fun t ht => ?_⟩
    cases ht
    obtain ⟨-, h₁, h₂, -, hp⟩ := of_startsName h
    rw [scanDepth_plain (isPlain_of_punctuation hp h₁ h₂), scanDepth_dropWhile (fun _ => isPlain_of_continuesName)]
    rfl
  | number _ h =>
    refine ⟨fun hx => (by cases hx), fun t ht => ?_⟩
    cases ht
    obtain ⟨-, h₁, h₂, -, hp⟩ := of_startsNumber h
    rw [scanDepth_plain (isPlain_of_punctuation hp h₁ h₂), scanDepth_dropWhile (fun _ => isPlain_of_continuesNumber)]
    rfl
  -- these end the scan with a fault, neither a gap nor a token
  | slash | unclosed | stray => exact ⟨fun hx => (by cases hx), fun t ht => by cases ht⟩

/-- The depth after a line counts its brace tokens. -/
theorem depthAfter_eq_braceDepth {n : Nat} {l : List Char} {ts : List Placed} (hl : '\n' ∉ l)
    (h : scanFrom n l = .ok ts) (depth : Nat) : depthAfter depth l = braceDepth depth ts := by
  unfold depthAfter
  replace h := scans_of_scanFrom h
  induction h generalizing depth with
  | nil n => rfl
  | gap hx hs ih =>
    obtain ⟨-, hcs, hrest⟩ := newline_not_mem_rest hl hx
    rw [(scanDepth_lexeme (lexes_iff.2 hx) hcs depth).1 rfl]
    exact ih hrest depth
  | token hx hs ih =>
    obtain ⟨-, hcs, hrest⟩ := newline_not_mem_rest hl hx
    rw [(scanDepth_lexeme (lexes_iff.2 hx) hcs depth).2 _ rfl]
    exact ih hrest _

/-! ### The kind of a line -/

/-- What a token gives as a name, if it stands where the name of a declaration is looked for. -/
def Token.nameText : Token → List Char
  | .ident name => name.toList
  | .number digits => digits.toList.takeWhile continuesName
  | _ => []

/-- What a line outside every block is that begins with a token, given the token after it on the line. -/
def LineKind.ofLead (next : Option Token) : Token → LineKind
  | .doc text => .documentation text
  | .ident keyword =>
    if keyword = "model" ∨ keyword = "view" then
      match (next.map Token.nameText).getD [] with
      | [] => .other
      | name => .declaration (String.ofList name)
    else .other
  | _ => .other

/-- What a line outside every block is, given its tokens. -/
def LineKind.ofTokens : List Placed → LineKind
  | [] => .other
  | t :: ts => .ofLead (ts.head?.map (·.token)) t.token

theorem isBlank_of_continuesName {c : Char} (h : continuesName c = true) : isBlank c = false := by
  rw [← Bool.not_eq_true]
  intro hb
  rw [continuesName_of_isBlank hb] at h
  cases h

private theorem continuesNumber_of_continuesName {c : Char} (h : continuesName c = true) :
    continuesNumber c = true := by
  simp only [continuesName, continuesNumber, Bool.or_eq_true] at h ⊢
  rcases h with h | h
  · exact Or.inl (Or.inl h)
  · exact Or.inr h

/-- A token gives as a name what stands at the front of it in characters of names. -/
private theorem Lexes.takeWhile_continuesName {c : Char} {cs rest : List Char} {t : Token}
    (h : Lexes c cs (.token t) rest) : isBlank c = false ∧ (c :: cs).takeWhile continuesName = t.nameText := by
  have hnil : ∀ d ds, continuesName d = false → (d :: ds).takeWhile continuesName = [] := by
    intro d ds hd
    rw [List.takeWhile_cons, hd]
    rfl
  cases h with
  | doc text => exact ⟨by decide, hnil _ _ (by decide)⟩
  | quoted => exact ⟨by decide, hnil _ _ (by decide)⟩
  | doubleAt => exact ⟨by decide, hnil _ _ (by decide)⟩
  | «at» => exact ⟨by decide, hnil _ _ (by decide)⟩
  | punctuation h =>
    unfold punctuation? at h
    split at h <;> cases h <;> exact ⟨by decide, hnil _ _ (by decide)⟩
  | name h => simp [(of_startsName h).1, Token.nameText, continuesName_of_startsName h]
  | number _ h =>
    refine ⟨(of_startsNumber h).1, ?_⟩
    -- a number takes all that a name can go on with, and dots
    have hmem : ∀ d, (continuesName d && continuesNumber d) = continuesName d := by
      intro d
      by_cases hd : continuesName d = true
      · simp [hd, continuesNumber_of_continuesName hd]
      · simp [hd]
    simp only [Token.nameText, String.toList_ofList, List.takeWhile_cons, List.takeWhile_takeWhile]
    simp [hmem]

/-- The name at the front of a line, blanks before it left out, is given by its first token. -/
private theorem takeWhile_trimStart {n : Nat} {l : List Char} {ts : List Placed} (hl : '\n' ∉ l)
    (h : scanFrom n l = .ok ts) :
    (trimStart l).takeWhile continuesName = ((ts.head?.map (·.token)).map Token.nameText).getD [] := by
  replace h := scans_of_scanFrom h
  induction h with
  | nil n => rfl
  | gap hx hs ih =>
    obtain ⟨-, hcs, hrest⟩ := newline_not_mem_rest hl hx
    cases lexes_iff.2 hx with
    | blank hb =>
      rw [trimStart_cons_of_isBlank hb]
      exact ih hrest
    | comment hne =>
      -- a comment reaches to the end of the line
      rw [dropWhile_onLine (by simp_all)] at hs
      cases hs
      rfl
  | token hx hs ih =>
    obtain ⟨hb, ht⟩ := (lexes_iff.2 hx).takeWhile_continuesName
    rw [trimStart_cons_of_not_isBlank hb, ht]
    rfl

/-- A keyword counts only as a whole name, and the name after it only behind a blank. -/
private theorem declaredName?_eq (keyword : String) (hk : ∀ c ∈ keyword.toList, continuesName c = true)
    (cs : List Char) : declaredName? keyword cs =
      if cs.takeWhile continuesName = keyword.toList then
        match (trimStart (cs.dropWhile continuesName)).takeWhile continuesName with
        | [] => none
        | name => some (String.ofList name)
      else none := by
  unfold declaredName?
  cases hp : keyword.toList.isPrefixOf? cs with
  | none =>
    rw [if_neg]
    intro he
    have : cs = keyword.toList ++ cs.dropWhile continuesName := by rw [← he, List.takeWhile_append_dropWhile]
    rw [isPrefixOf?_eq_some.2 this] at hp
    cases hp
  | some rest =>
    have hcs := isPrefixOf?_eq_some.1 hp
    have htake : cs.takeWhile continuesName = keyword.toList ++ rest.takeWhile continuesName := by
      rw [hcs, List.takeWhile_append_of_pos hk]
    have hdrop : cs.dropWhile continuesName = rest.dropWhile continuesName := by
      rw [hcs, List.dropWhile_append_of_pos hk]
    cases rest with
    | nil =>
      rw [htake, hdrop]
      simp [trimStart]
    | cons c rest =>
      by_cases hc : continuesName c = true
      -- the front of the text is a longer name
      · have hb := isBlank_of_continuesName hc
        rw [htake]
        simp [hb, hc]
      · rw [htake, hdrop]
        have hc' : continuesName c = false := by simpa using hc
        by_cases hb : isBlank c = true
        · simp [hb, hc']
          rfl
        · have hb' : isBlank c = false := by simpa using hb
          simp [hb', hc', trimStart_cons_of_not_isBlank hb']

theorem scanFrom_trim {l : List Char} (hl : '\n' ∉ l) (n : Nat) : scanFrom n (trim l) = scanFrom n l := by
  induction l with
  | nil => rfl
  | cons c l ih =>
    by_cases hc : isBlank c = true
    · obtain ⟨hn, hl⟩ := not_or.1 (List.mem_cons.not.1 hl)
      rw [trim_cons_of_isBlank hc, scanFrom_gap n (lexeme_of_lexes (.blank hc)), if_neg (Ne.symm hn)]
      exact ih hl
    · have hc' : isBlank c = false := by simpa using hc
      obtain ⟨bl, h, hbl⟩ := exists_trimEnd_append (c :: l)
      rw [trim_cons_of_not_isBlank hc', ← trimEnd_cons_of_not_isBlank hc']
      conv => rhs; rw [h]
      exact (scanFrom_append_blanks hbl (fun hm => hl (h ▸ List.mem_append_right _ hm)) n _).symm

theorem newline_not_mem_trim {l : List Char} (hl : '\n' ∉ l) : '\n' ∉ trim l := fun hm => hl (mem_of_mem_trim hm)

/-- A line that begins with three slashes is documentation. -/
theorem ofOuterLine_of_doc {l text : List Char} (h : trim l = '/' :: '/' :: '/' :: text) :
    LineKind.ofOuterLine l = .documentation (String.ofList (trim text)) := by
  unfold LineKind.ofOuterLine
  split
  · rename_i text' h'
    rw [h] at h'
    cases h'
    rfl
  · rename_i h'
    exact absurd h (h' text)

/-- A line that is no documentation is decided by the name at its front. -/
private theorem ofOuterLine_of_not_doc {l : List Char} (h : ∀ text, trim l ≠ '/' :: '/' :: '/' :: text) :
    LineKind.ofOuterLine l =
      if (trim l).takeWhile continuesName = "model".toList ∨ (trim l).takeWhile continuesName = "view".toList then
        match (trimStart ((trim l).dropWhile continuesName)).takeWhile continuesName with
        | [] => .other
        | name => .declaration (String.ofList name)
      else .other := by
  have hmodel := declaredName?_eq "model" (List.all_eq_true.1 (by decide)) (trim l)
  have hview := declaredName?_eq "view" (List.all_eq_true.1 (by decide)) (trim l)
  unfold LineKind.ofOuterLine
  split
  · rename_i text ht
    exact absurd ht (h text)
  · rw [hmodel, hview]
    by_cases hm : (trim l).takeWhile continuesName = "model".toList
    · have hne : "model".toList ≠ "view".toList := by decide
      rw [hm, if_pos rfl, if_pos (Or.inl rfl), if_neg hne]
      cases (trimStart ((trim l).dropWhile continuesName)).takeWhile continuesName <;> rfl
    · rw [if_neg hm]
      by_cases hv : (trim l).takeWhile continuesName = "view".toList
      · rw [hv, if_pos rfl, if_pos (Or.inr rfl)]
        cases (trimStart ((trim l).dropWhile continuesName)).takeWhile continuesName <;> rfl
      · rw [if_neg hv, if_neg (not_or.2 ⟨hm, hv⟩)]

/-- What a line outside every block is hangs only on its tokens. -/
theorem ofOuterLine_eq_ofTokens {n : Nat} {l : List Char} {ts : List Placed} (hl : '\n' ∉ l)
    (h : scanFrom n l = .ok ts) : LineKind.ofOuterLine l = LineKind.ofTokens ts := by
  have hl := newline_not_mem_trim hl
  rw [← scanFrom_trim ‹_›] at h
  cases hcs : trim l with
  | nil =>
    rw [hcs, scanFrom_nil] at h
    cases h
    rw [ofOuterLine_of_not_doc (by simp [hcs]), hcs]
    rfl
  | cons c cs =>
    have hb := isBlank_of_trim hcs
    rw [hcs] at h hl
    obtain ⟨hc, hn⟩ := not_or.1 (List.mem_cons.not.1 hl)
    -- a trimmed line begins with a token or is a comment, so its first lexeme decides
    have hx := lexes_lexeme c cs
    cases hlex : lexeme c cs with
    | mk x rest =>
    rw [hlex] at hx
    cases x with
    | gap =>
      cases hx with
      | blank hb' => rw [hb] at hb'; cases hb'
      | comment hs =>
        rename_i text
        rw [scanFrom_gap n hlex, dropWhile_onLine (by simp_all), scanFrom_nil] at h
        cases h
        rw [ofOuterLine_of_not_doc (by rw [hcs]; rintro text ⟨⟩; exact hs rfl), hcs]
        rfl
    | token t =>
      rw [scanFrom_token n hlex] at h
      cases hr : scanFrom n rest with
      | error e => rw [hr] at h; cases h
      | ok us =>
      rw [hr] at h
      cases h
      have hrest : '\n' ∉ rest := fun hm => hn (hx.suffix.mem hm)
      have hname := hx.takeWhile_continuesName.2
      cases hx with
      | doc text =>
        rw [ofOuterLine_of_doc hcs, takeWhile_onLine (by simp_all)]
        rfl
      | name hs =>
        rw [ofOuterLine_of_not_doc (by rw [hcs]; rintro text ⟨⟩; exact absurd hs (by decide)), hcs, hname,
          List.dropWhile_cons, continuesName_of_startsName hs, if_pos rfl, takeWhile_trimStart hrest hr]
        simp [LineKind.ofTokens, LineKind.ofLead, Token.nameText, ← String.toList_inj]
      | number hs hd =>
        -- a name with a digit at its front is no keyword
        have hfirst : ∀ d ds, (c :: cs).takeWhile continuesName = d :: ds → startsName d = false := by
          intro d ds he
          rw [List.takeWhile_cons] at he
          split at he
          · cases he
            exact hs
          · cases he
        rw [ofOuterLine_of_not_doc (by rw [hcs]; rintro text ⟨⟩; exact (of_startsNumber hd).2.1 rfl), hcs, if_neg]
        · rfl
        · rintro (hk | hk)
          · exact absurd (hfirst 'm' ['o', 'd', 'e', 'l'] (by simpa using hk)) (by decide)
          · exact absurd (hfirst 'v' ['i', 'e', 'w'] (by simpa using hk)) (by decide)
      | punctuation hp =>
        unfold punctuation? at hp
        split at hp <;> cases hp <;>
          (rw [ofOuterLine_of_not_doc (by simp [hcs]), hcs, hname]; rfl)
      | quoted | doubleAt | «at» =>
        rw [ofOuterLine_of_not_doc (by simp [hcs]), hcs, hname]
        rfl
    | unclosed => rw [scanFrom_unclosed n hlex] at h; cases h
    | stray => rw [scanFrom_stray n hlex] at h; cases h

/-- Of the first tokens of a line only documentation makes the line documentation. -/
private theorem ofTokens_eq_documentation_iff {ts : List Placed} {text : String} :
    LineKind.ofTokens ts = .documentation text ↔ ts.head?.map (·.token) = some (.doc text) := by
  cases ts with
  | nil => simp [LineKind.ofTokens]
  | cons t ts =>
    show LineKind.ofLead _ t.token = .documentation text ↔ some t.token = some (.doc text)
    generalize ts.head?.map (·.token) = next
    cases t.token with
    | doc other => simp [LineKind.ofLead]
    | ident keyword =>
      -- a keyword declares a model or nothing
      refine iff_of_false ?_ (by simp)
      rw [LineKind.ofLead]
      split_ifs
      · split <;> simp
      · simp
    | quoted | number | opening | closing | mark => simp [LineKind.ofLead]

/-- The line pass agrees with the tokens of a line: from every depth it comes to the depth that counts the brace tokens,
one up for each that opens and one down, but not below zero, for each that closes; and it takes the line for documentation
just if it is outside every block there and the first token of the line is documentation, with the same text. -/
theorem line_agrees_with_tokens {line : String} {ts : List Placed} (hline : '\n' ∉ line.toList)
    (h : scan line = .ok ts) (depth : Nat) :
    depthAfter depth line.toList = braceDepth depth ts ∧
      ∀ text, LineKind.atDepth depth line.toList = .documentation text ↔
        depth = 0 ∧ ts.head?.map (·.token) = some (.doc text) := by
  refine ⟨depthAfter_eq_braceDepth hline h depth, fun text => ?_⟩
  unfold LineKind.atDepth
  split_ifs with hdepth
  · rw [ofOuterLine_eq_ofTokens hline h, ofTokens_eq_documentation_iff]
    exact (and_iff_right hdepth).symm
  · exact iff_of_false (by simp) (fun hboth => hdepth hboth.1)

/-- A line with braces in a quoted text, behind an escaped quote, and in a comment. -/
def quotedBraces : String := "\x7d note String @default(\"\\\"\x7d\x7d\") \x7b // \x7b"

/-- A line of documentation with braces and a quote that nothing closes. -/
def bracedNote : String := "\t/// \x7b \"an open quote \x7d "

/-- One brace of `quotedBraces` closes and one opens, so the depth zero goes up to one; `bracedNote` keeps every depth and
is documentation outside the blocks only. -/
theorem line_agrees_with_tokens_braces : depthAfter 0 quotedBraces.toList = 1 ∧ depthAfter 2 quotedBraces.toList = 2 ∧
    (∀ depth, depthAfter depth bracedNote.toList = depth) ∧
      ∀ depth, LineKind.atDepth depth bracedNote.toList = .documentation "\x7b \"an open quote \x7d" ↔ depth = 0 := by
  have hbraces : ('\n' ∉ quotedBraces.toList) ∧ scan quotedBraces = .ok ([.closing .brace, .ident "note",
      .ident "String", .mark .at, .ident "default", .opening .paren, .quoted "\\\"\x7d\x7d", .closing .paren,
      .opening .brace].map fun t => ⟨t, 1⟩) := by decide +kernel
  have hnote : ('\n' ∉ bracedNote.toList) ∧ scan bracedNote = .ok [⟨.doc "\x7b \"an open quote \x7d", 1⟩] := by
    decide +kernel
  have hdepth := fun depth => (line_agrees_with_tokens hbraces.1 hbraces.2 depth).1
  refine ⟨hdepth 0, hdepth 2, fun depth => (line_agrees_with_tokens hnote.1 hnote.2 depth).1, fun depth => ?_⟩
  rw [(line_agrees_with_tokens hnote.1 hnote.2 depth).2]
  exact and_iff_left rfl

end GuardedCrud.Schema
