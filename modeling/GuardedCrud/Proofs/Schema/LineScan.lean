import GuardedCrud.Proofs.Schema.Lexemes
import GuardedCrud.Text.Basic

/-!
# Scanning line by line

No lexeme reaches beyond its line, except a quoted text that escapes the line end.  A text without such quoted texts
is scanned line by line (`scanFrom_eq_scanLines`): its tokens are those of its lines, in order, and each has the number of
its line.  Two conditions keep all quoted texts on their lines: no backslash stands right before a line feed
(`staysOnLines_of_not_escaped`), or the text is scanned to tokens without line feeds (`staysOnLines_of_scanFrom`).
-/

namespace GuardedCrud.Schema

open GuardedCrud.Text

/-! ### Equations of the scanner -/

section

variable {c : Char} {cs rest : List Char} {t : Token} (n : Nat)

theorem scanFrom_nil : scanFrom n [] = .ok [] := by rw [scanFrom]

theorem scanFrom_gap (h : lexeme c cs = (.gap, rest)) :
    scanFrom n (c :: cs) = scanFrom (if c = '\n' then n + 1 else n) rest := by
  rw [scanFrom]
  split <;> simp_all

theorem scanFrom_token (h : lexeme c cs = (.token t, rest)) :
    scanFrom n (c :: cs) = (scanFrom n rest).map (⟨t, n⟩ :: ·) := by
  rw [scanFrom]
  split
  · simp_all
  · rename_i t' rest' h'
    rw [h] at h'
    cases h'
    cases scanFrom n rest <;> rfl
  · simp_all
  · simp_all

theorem scanFrom_unclosed (h : lexeme c cs = (.unclosed, rest)) :
    scanFrom n (c :: cs) = .error (.unterminatedText n) := by
  rw [scanFrom]
  split <;> simp_all

theorem scanFrom_stray (h : lexeme c cs = (.stray, rest)) : scanFrom n (c :: cs) = .error (.unexpectedChar n c) := by
  rw [scanFrom]
  split <;> simp_all

end

/-- Induction along the lexemes of a text. -/
@[elab_as_elim]
theorem lexeme_induction {motive : List Char → Prop} (nil : motive [])
    (gap : ∀ c cs rest, lexeme c cs = (.gap, rest) → motive rest → motive (c :: cs))
    (token : ∀ c cs t rest, lexeme c cs = (.token t, rest) → motive rest → motive (c :: cs))
    (unclosed : ∀ c cs rest, lexeme c cs = (.unclosed, rest) → motive (c :: cs))
    (stray : ∀ c cs rest, lexeme c cs = (.stray, rest) → motive (c :: cs)) (cs : List Char) : motive cs := by
  match cs with
  | [] => exact nil
  | c :: cs =>
    have hlen := lexeme_length c cs
    match h : lexeme c cs with
    | (.gap, rest) => exact gap c cs rest h (lexeme_induction nil gap token unclosed stray rest)
    | (.token t, rest) => exact token c cs t rest h (lexeme_induction nil gap token unclosed stray rest)
    | (.unclosed, rest) => exact unclosed c cs rest h
    | (.stray, rest) => exact stray c cs rest h
termination_by cs.length
decreasing_by all_goals (simp only [h] at hlen; simp only [List.length_cons]; omega)

/-- Lexeme by lexeme, a text whose first character stands on the line `n` has the tokens `ts`. -/
inductive Scans : Nat → List Char → List Placed → Prop
  | nil (n : Nat) : Scans n [] []
  | gap {n : Nat} {c : Char} {cs rest : List Char} {ts : List Placed} (hx : lexeme c cs = (.gap, rest))
    (hs : Scans (if c = '\n' then n + 1 else n) rest ts) : Scans n (c :: cs) ts
  | token {n : Nat} {c : Char} {cs rest : List Char} {t : Token} {ts : List Placed}
    (hx : lexeme c cs = (.token t, rest)) (hs : Scans n rest ts) : Scans n (c :: cs) (⟨t, n⟩ :: ts)

theorem scans_of_scanFrom {n : Nat} {cs : List Char} {ts : List Placed} (h : scanFrom n cs = .ok ts) : Scans n cs ts := by
  induction cs using lexeme_induction generalizing n ts with
  | nil =>
    rw [scanFrom_nil] at h
    cases h
    exact .nil n
  | gap c cs rest hx ih =>
    rw [scanFrom_gap n hx] at h
    exact .gap hx (ih h)
  | token c cs t rest hx ih =>
    rw [scanFrom_token n hx] at h
    cases hr : scanFrom n rest with
    | error e => rw [hr] at h; cases h
    | ok us =>
      rw [hr] at h
      cases h
      exact .token hx (ih hr)
  | unclosed c cs rest hx => rw [scanFrom_unclosed n hx] at h; cases h
  | stray c cs rest hx => rw [scanFrom_stray n hx] at h; cases h

/-- Every token stands somewhere as a lexeme. -/
theorem Scans.exists_lexes {n : Nat} {cs : List Char} {ts : List Placed} (h : Scans n cs ts) {t : Placed} (ht : t ∈ ts) :
    ∃ c site after, Lexes c site (.token t.token) after := by
  induction h with
  | nil n => cases ht
  | gap _ _ ih => exact ih ht
  | token hx _ ih =>
    rcases List.mem_cons.1 ht with rfl | ht
    · exact ⟨_, _, _, lexes_iff.2 hx⟩
    · exact ih ht

/-- A name is written in characters of the text. -/
theorem Scans.mem_of_mem_name {n : Nat} {cs : List Char} {ts : List Placed} (h : Scans n cs ts) {name : String}
    {line : Nat} (hname : ⟨.ident name, line⟩ ∈ ts) {c : Char} (hc : c ∈ name.toList) : c ∈ cs := by
  induction h with
  | nil => cases hname
  | gap hx _ ih => exact List.mem_cons_of_mem _ ((lexes_iff.2 hx).suffix.subset (ih hname))
  | token hx _ ih =>
    have hl := lexes_iff.2 hx
    rcases List.mem_cons.1 hname with heq | hname
    · cases heq
      rw [← hl.name_append]
      exact List.mem_append_left _ hc
    · exact List.mem_cons_of_mem _ (hl.suffix.subset (ih hname))

/-- What follows the first lexeme of a line is on the line. -/
theorem newline_not_mem_rest {c : Char} {cs rest : List Char} {x : Lexeme} (hl : '\n' ∉ c :: cs)
    (hx : lexeme c cs = (x, rest)) : c ≠ '\n' ∧ '\n' ∉ cs ∧ '\n' ∉ rest := by
  obtain ⟨hc, hcs⟩ := not_or.1 (List.mem_cons.not.1 hl)
  exact ⟨Ne.symm hc, hcs, fun hm => hcs ((lexes_iff.2 hx).suffix.mem hm)⟩

/-! ### The places of the tokens -/

/-- The tokens of a text up to its first fault, each with the text from its first character on. -/
def sites : List Char → List (Token × List Char)
  | [] => []
  | c :: cs =>
    have := lexeme_length c cs
    match _h : lexeme c cs with
    | (.gap, rest) => sites rest
    | (.token t, rest) => (t, c :: cs) :: sites rest
    | _ => []
termination_by cs => cs.length
decreasing_by all_goals (simp only [_h] at this; simp only [List.length_cons]; omega)

section

variable {c : Char} {cs rest : List Char} {t : Token}

theorem sites_nil : sites [] = [] := by rw [sites]

theorem sites_gap (h : lexeme c cs = (.gap, rest)) : sites (c :: cs) = sites rest := by
  rw [sites]
  split <;> simp_all

theorem sites_token (h : lexeme c cs = (.token t, rest)) : sites (c :: cs) = (t, c :: cs) :: sites rest := by
  rw [sites]
  split <;> simp_all

end

theorem map_fst_sites {n : Nat} {cs : List Char} {ts : List Placed} (h : scanFrom n cs = .ok ts) :
    (sites cs).map (·.1) = ts.map (·.token) := by
  replace h := scans_of_scanFrom h
  induction h with
  | nil n =>
    rw [sites_nil]
    rfl
  | gap hx hs ih =>
    rw [sites_gap hx]
    exact ih
  | token hx hs ih => rw [sites_token hx, List.map_cons, List.map_cons, ih]

/-! ### Lexemes at the end of a line -/

/-- A quoted text that escapes a line end. -/
def Token.crossesLine : Token → Bool
  | .quoted s => s.toList.contains '\n'
  | _ => false

/-- No token of the text reaches beyond its line. -/
def StaysOnLines (cs : List Char) : Prop := ∀ p ∈ sites cs, p.1.crossesLine = false

theorem StaysOnLines.of_gap {c : Char} {cs rest : List Char} (hs : StaysOnLines (c :: cs))
    (h : lexeme c cs = (.gap, rest)) : StaysOnLines rest := by
  unfold StaysOnLines at hs
  rwa [sites_gap h] at hs

theorem StaysOnLines.of_token {c : Char} {cs rest : List Char} {t : Token} (hs : StaysOnLines (c :: cs))
    (h : lexeme c cs = (.token t, rest)) : t.crossesLine = false ∧ StaysOnLines rest := by
  unfold StaysOnLines at hs
  rw [sites_token h] at hs
  exact ⟨hs (t, c :: cs) (by simp), fun p hp => hs p (by simp [hp])⟩

theorem takeWhile_onLine {cs : List Char} (h : '\n' ∉ cs) : cs.takeWhile onLine = cs :=
  List.takeWhile_eq_self_iff.2 fun c hc => by simpa [onLine] using fun e : c = '\n' => h (e ▸ hc)

theorem dropWhile_onLine {cs : List Char} (h : '\n' ∉ cs) : cs.dropWhile onLine = [] :=
  List.dropWhile_eq_nil_iff.2 fun c hc => by simpa [onLine] using fun e : c = '\n' => h (e ▸ hc)

theorem takeWhile_append_newline {p : Char → Bool} (hp : p '\n' = false) (cs rest : List Char) :
    (cs ++ '\n' :: rest).takeWhile p = cs.takeWhile p := by
  rw [List.takeWhile_append]
  split
  · rename_i h
    rw [List.takeWhile_cons, hp]
    simpa using (List.IsPrefix.eq_of_length (List.takeWhile_prefix p) h).symm
  · rfl

private theorem dropWhile_append_newline {p : Char → Bool} (hp : p '\n' = false) (cs rest : List Char) :
    (cs ++ '\n' :: rest).dropWhile p = cs.dropWhile p ++ '\n' :: rest := by
  rw [List.dropWhile_append]
  split
  · rename_i h
    have h' : cs.dropWhile p = [] := by simpa using h
    rw [List.dropWhile_cons, hp, h']
    rfl
  · rfl

private theorem head?_append_newline_ne {cs : List Char} {d : Char} (h : cs.head? ≠ some d) (hd : d ≠ '\n')
    (rest : List Char) : (cs ++ '\n' :: rest).head? ≠ some d := by
  cases cs with
  | nil => simpa using hd.symm
  | cons c cs => simpa using h

/-- A lexeme that its text ends does not see what comes after a line end. -/
theorem Lexes.before_newline {c : Char} {cs after : List Char} {x : Lexeme} (h : Lexes c cs x after)
    (hx : x ≠ .unclosed) (rest : List Char) : Lexes c (cs ++ '\n' :: rest) x (after ++ '\n' :: rest) := by
  cases h with
  | blank h => exact .blank h
  | doc text =>
    have := Lexes.doc (text ++ '\n' :: rest)
    rwa [takeWhile_append_newline (by decide), dropWhile_append_newline (by decide)] at this
  | comment h =>
    rename_i text
    have := Lexes.comment (head?_append_newline_ne h (by decide) rest)
    rwa [dropWhile_append_newline (by decide)] at this
  | slash h => exact .slash (head?_append_newline_ne h (by decide) rest)
  | quoted h => exact .quoted (readQuoted_append h _)
  | unclosed h => exact absurd rfl hx
  | doubleAt cs => exact .doubleAt _
  | «at» h => exact .at (head?_append_newline_ne h (by decide) rest)
  | punctuation h => exact .punctuation h
  | name h =>
    have : Lexes c (cs ++ '\n' :: rest) _ _ := .name h
    rwa [takeWhile_append_newline (by decide), dropWhile_append_newline (by decide)] at this
  | number hn h =>
    have : Lexes c (cs ++ '\n' :: rest) _ _ := .number hn (by cases cs <;> simp_all [startsNumber])
    rwa [takeWhile_append_newline (by decide), dropWhile_append_newline (by decide)] at this
  | stray hb h1 h2 h3 hp hn h =>
    refine .stray hb h1 h2 h3 hp hn ?_
    cases cs with
    | nil => simp_all [startsNumber, isAsciiDigit]
    | cons d cs => simpa [startsNumber] using h

/-- A lexeme that stays on its line does not see what comes after the line. -/
theorem Lexes.append_newline {c : Char} {cs after : List Char} {x : Lexeme} (h : Lexes c cs x after)
    (rest : List Char) (hcs : '\n' ∉ cs)
    (hx : ∀ t after', lexeme c (cs ++ '\n' :: rest) = (.token t, after') → t.crossesLine = false) :
    Lexes c (cs ++ '\n' :: rest) x (after ++ '\n' :: rest) := by
  cases x with
  | unclosed =>
    cases h with
    | unclosed h =>
      refine .unclosed ?_
      -- closed further down, the text would hold the line feed and cross its line
      cases hr : readQuoted (cs ++ '\n' :: rest) with
      | none => rfl
      | some p =>
        have hs := hx _ _ (lexeme_of_lexes (.quoted hr))
        simp [Token.crossesLine, mem_of_readQuoted_append hcs h hr] at hs
  | gap | token t | stray => exact h.before_newline (by simp) rest

/-- The tokens of a first part followed by those of a second one; the first fault counts. -/
def joinScans (first second : Except Fault (List Placed)) : Except Fault (List Placed) :=
  match first with
  | .error e => .error e
  | .ok ts => second.map (ts ++ ·)

theorem joinScans_ok_nil (second : Except Fault (List Placed)) : joinScans (.ok []) second = second := by
  cases second <;> rfl

private theorem joinScans_map_cons (t : Placed) (first second : Except Fault (List Placed)) :
    joinScans (first.map (t :: ·)) second = (joinScans first second).map (t :: ·) := by
  cases first <;> cases second <;> rfl

theorem joinScans_eq_ok {first second : Except Fault (List Placed)} {ts : List Placed} :
    joinScans first second = .ok ts ↔ ∃ ts₁ ts₂, first = .ok ts₁ ∧ second = .ok ts₂ ∧ ts = ts₁ ++ ts₂ := by
  cases first with
  | error e => simp [joinScans]
  | ok ts₁ =>
    cases second with
    | error e => simp [joinScans, Except.map]
    | ok ts₂ => simp [joinScans, Except.map, eq_comm]

/-- A line that no token leaves is scanned apart from what follows it. -/
private theorem scanFrom_append_newline {l rest : List Char} (hl : '\n' ∉ l) (hs : StaysOnLines (l ++ '\n' :: rest))
    (n : Nat) : scanFrom n (l ++ '\n' :: rest) = joinScans (scanFrom n l) (scanFrom (n + 1) rest) ∧
      ∀ ts, scanFrom n l = .ok ts → StaysOnLines rest := by
  -- along the lexemes of the line: none of them sees what is behind it
  induction l using lexeme_induction with
  | nil =>
    have hg : lexeme '\n' rest = (.gap, rest) := lexeme_of_lexes (.blank (by decide))
    rw [List.nil_append, scanFrom_gap n hg, scanFrom_nil, joinScans_ok_nil, if_pos rfl]
    exact ⟨rfl, fun _ _ => hs.of_gap hg⟩
  | gap c cs after h ih =>
    obtain ⟨hc, hcs, hafter⟩ := newline_not_mem_rest hl h
    have hx := lexeme_of_lexes ((lexes_iff.2 h).append_newline rest hcs fun _ _ ht => (hs.of_token ht).1)
    rw [List.cons_append, scanFrom_gap n hx, scanFrom_gap n h, if_neg hc]
    exact ih hafter (hs.of_gap hx)
  | token c cs t after h ih =>
    obtain ⟨hc, hcs, hafter⟩ := newline_not_mem_rest hl h
    have hx := lexeme_of_lexes ((lexes_iff.2 h).append_newline rest hcs fun _ _ ht => (hs.of_token ht).1)
    obtain ⟨ih₁, ih₂⟩ := ih hafter (hs.of_token hx).2
    rw [List.cons_append, scanFrom_token n hx, scanFrom_token n h, ih₁, joinScans_map_cons]
    refine ⟨rfl, fun ts hts => ?_⟩
    cases hr : scanFrom n after with
    | error e => rw [hr] at hts; cases hts
    | ok us => exact ih₂ us hr
  | unclosed c cs after h =>
    obtain ⟨hc, hcs⟩ := not_or.1 (List.mem_cons.not.1 hl)
    have hx := lexeme_of_lexes ((lexes_iff.2 h).append_newline rest hcs fun _ _ ht => (hs.of_token ht).1)
    rw [List.cons_append, scanFrom_unclosed n hx, scanFrom_unclosed n h]
    exact ⟨rfl, fun ts hts => by cases hts⟩
  | stray c cs after h =>
    obtain ⟨hc, hcs⟩ := not_or.1 (List.mem_cons.not.1 hl)
    have hx := lexeme_of_lexes ((lexes_iff.2 h).append_newline rest hcs fun _ _ ht => (hs.of_token ht).1)
    rw [List.cons_append, scanFrom_stray n hx, scanFrom_stray n h]
    exact ⟨rfl, fun ts hts => by cases hts⟩

/-! ### Blanks at the end of a line -/

section

variable {bl : List Char}

private theorem takeWhile_append_blanks {p : Char → Bool} (hp : ∀ b, isBlank b = true → p b = false)
    (hbl : ∀ b ∈ bl, isBlank b = true) (cs : List Char) :
    (cs ++ bl).takeWhile p = cs.takeWhile p ∧ (cs ++ bl).dropWhile p = cs.dropWhile p ++ bl := by
  induction cs with
  | nil =>
    cases bl with
    | nil => simp
    | cons b bl => simp [hp b (hbl b (by simp))]
  | cons c cs ih =>
    by_cases hc : p c = true
    · simp [hc, ih]
    · simp [hc]

theorem continuesName_of_isBlank {b : Char} (h : isBlank b = true) : continuesName b = false := by
  simp [continuesName, isAlphanumeric_of_isBlank h, ne_of_isBlank h (d := '_') (by decide)]

theorem continuesNumber_of_isBlank {b : Char} (h : isBlank b = true) : continuesNumber b = false := by
  simp [continuesNumber, isAlphanumeric_of_isBlank h, ne_of_isBlank h (d := '_') (by decide),
    ne_of_isBlank h (d := '.') (by decide)]

theorem head?_append_blanks_ne {cs : List Char} {d : Char} (h : cs.head? ≠ some d) (hd : isBlank d = false)
    (hbl : ∀ b ∈ bl, isBlank b = true) : (cs ++ bl).head? ≠ some d := by
  cases cs with
  | nil =>
    intro hb
    have := hbl d (List.mem_of_head? hb)
    rw [hd] at this
    cases this
  | cons c cs => simpa using h

/-- What follows two slashes up to the end of its line, before and after blanks are put behind the text. -/
private theorem onLine_append_blanks (hbl : ∀ b ∈ bl, isBlank b = true) (hn : '\n' ∉ bl) (text : List Char) :
    trim ((text ++ bl).takeWhile onLine) = trim (text.takeWhile onLine) ∧
      ((text ++ bl).dropWhile onLine = text.dropWhile onLine ++ bl ∨
        (text ++ bl).dropWhile onLine = [] ∧ text.dropWhile onLine = []) := by
  by_cases ht : '\n' ∈ text
  · obtain ⟨l, rest, rfl, hl⟩ := List.eq_append_cons_of_mem ht
    have hp : onLine '\n' = false := by decide
    rw [List.append_assoc, List.cons_append, takeWhile_append_newline hp, takeWhile_append_newline hp,
      dropWhile_append_newline hp, dropWhile_append_newline hp]
    simp
  · have hbl' : '\n' ∉ text ++ bl := fun hm => (List.mem_append.1 hm).elim ht hn
    rw [takeWhile_onLine ht, takeWhile_onLine hbl', dropWhile_onLine ht, dropWhile_onLine hbl']
    exact ⟨trim_append_blanks _ hbl, Or.inr ⟨rfl, rfl⟩⟩

/-- Blanks behind a text stay behind its first lexeme or belong to a comment. -/
private theorem Lexes.append_blanks {c : Char} {cs after : List Char} {x : Lexeme} (h : Lexes c cs x after)
    (hbl : ∀ b ∈ bl, isBlank b = true) (hn : '\n' ∉ bl) :
    ∃ after', Lexes c (cs ++ bl) x after' ∧ (after' = after ++ bl ∨ after' = [] ∧ after = []) := by
  cases h with
  | blank h => exact ⟨_, .blank h, Or.inl rfl⟩
  | doc text =>
    obtain ⟨ht, hd⟩ := onLine_append_blanks hbl hn text
    have := Lexes.doc (text ++ bl)
    rw [ht] at this
    exact ⟨_, this, hd⟩
  | comment h =>
    rename_i text
    obtain ⟨-, hd⟩ := onLine_append_blanks hbl hn text
    exact ⟨_, .comment (head?_append_blanks_ne h (by decide) hbl), hd⟩
  | slash h => exact ⟨_, .slash (head?_append_blanks_ne h (by decide) hbl), Or.inl rfl⟩
  | quoted h => exact ⟨_, .quoted (readQuoted_append h _), Or.inl rfl⟩
  | unclosed h =>
    refine ⟨_, .unclosed (readQuoted_append_eq_none h fun hq => ?_), Or.inl rfl⟩
    have := hbl _ hq
    revert this; decide
  | doubleAt cs => exact ⟨_, .doubleAt _, Or.inl rfl⟩
  | «at» h => exact ⟨_, .at (head?_append_blanks_ne h (by decide) hbl), Or.inl rfl⟩
  | punctuation h => exact ⟨_, .punctuation h, Or.inl rfl⟩
  | name h =>
    obtain ⟨ht, hd⟩ := takeWhile_append_blanks (fun _ => continuesName_of_isBlank) hbl cs
    have : Lexes c (cs ++ bl) _ _ := .name h
    rw [ht, hd] at this
    exact ⟨_, this, Or.inl rfl⟩
  | number hs h =>
    obtain ⟨ht, hd⟩ := takeWhile_append_blanks (fun _ => continuesNumber_of_isBlank) hbl cs
    have : Lexes c (cs ++ bl) _ _ := .number hs (by cases cs <;> simp_all [startsNumber])
    rw [ht, hd] at this
    exact ⟨_, this, Or.inl rfl⟩
  | stray hb h1 h2 h3 hp hs h =>
    refine ⟨_, .stray hb h1 h2 h3 hp hs ?_, Or.inl rfl⟩
    cases cs with
    | nil =>
      cases bl with
      | nil => exact h
      | cons b bl => simpa [startsNumber, isAsciiDigit_of_isBlank (hbl b (by simp))] using h
    | cons d cs => simpa [startsNumber] using h

private theorem scanFrom_blanks (hbl : ∀ b ∈ bl, isBlank b = true) (hn : '\n' ∉ bl) (n : Nat) :
    scanFrom n bl = .ok [] := by
  induction bl with
  | nil => exact scanFrom_nil n
  | cons b bl ih =>
    obtain ⟨hb, hn⟩ := not_or.1 (List.mem_cons.not.1 hn)
    rw [scanFrom_gap n (lexeme_of_lexes (.blank (hbl b (by simp)))), if_neg (Ne.symm hb)]
    exact ih (fun b hb => hbl b (by simp [hb])) hn

/-- Blanks at the end of a line mean nothing. -/
theorem scanFrom_append_blanks (hbl : ∀ b ∈ bl, isBlank b = true) (hn : '\n' ∉ bl) (n : Nat) (l : List Char) :
    scanFrom n (l ++ bl) = scanFrom n l := by
  induction l using lexeme_induction generalizing n with
  | nil => rw [List.nil_append, scanFrom_blanks hbl hn, scanFrom_nil]
  | gap c cs after h ih =>
    obtain ⟨after', hx, ha⟩ := (lexes_iff.2 h).append_blanks hbl hn
    rw [List.cons_append, scanFrom_gap n (lexeme_of_lexes hx), scanFrom_gap n h]
    rcases ha with rfl | ⟨rfl, rfl⟩
    · exact ih _
    · rfl
  | token c cs t after h ih =>
    obtain ⟨after', hx, ha⟩ := (lexes_iff.2 h).append_blanks hbl hn
    rw [List.cons_append, scanFrom_token n (lexeme_of_lexes hx), scanFrom_token n h]
    rcases ha with rfl | ⟨rfl, rfl⟩
    · rw [ih]
    · rfl
  | unclosed c cs after h =>
    obtain ⟨after', hx, -⟩ := (lexes_iff.2 h).append_blanks hbl hn
    rw [List.cons_append, scanFrom_unclosed n (lexeme_of_lexes hx), scanFrom_unclosed n h]
  | stray c cs after h =>
    obtain ⟨after', hx, -⟩ := (lexes_iff.2 h).append_blanks hbl hn
    rw [List.cons_append, scanFrom_stray n (lexeme_of_lexes hx), scanFrom_stray n h]

end

/-! ### The lines of a text -/

/-- A line without the carriage return of its end. -/
def chomp (l : List Char) : List Char := if l.getLast? = some '\r' then l.dropLast else l

private theorem lines_cons {c : Char} {cs : List Char} (hc : c ≠ '\n') (hr : c = '\r' → cs.head? ≠ some '\n') :
    lines (c :: cs) = consFirst c (lines cs) := by
  rw [lines.eq_def]
  split
  · cases ‹c :: cs = []›
  · cases ‹c :: cs = _›; exact absurd rfl hc
  · cases ‹c :: cs = _›; exact absurd rfl (hr rfl)
  · cases ‹c :: cs = _›; rfl

theorem lines_append_newline {l : List Char} (hl : '\n' ∉ l) (rest : List Char) :
    lines (l ++ '\n' :: rest) = chomp l :: lines rest := by
  induction l with
  | nil => rfl
  | cons c l ih =>
    obtain ⟨hc, hl⟩ := not_or.1 (List.mem_cons.not.1 hl)
    cases l with
    | nil =>
      by_cases hr : c = '\r'
      · subst hr
        rfl
      · rw [List.cons_append, lines_cons (Ne.symm hc) (fun e => absurd e hr), ih hl]
        simp [consFirst, chomp, hr]
    | cons d l =>
      have hd : '\n' ≠ d := (not_or.1 (List.mem_cons.not.1 hl)).1
      rw [List.cons_append, lines_cons (Ne.symm hc) (by simpa using fun _ => Ne.symm hd), ih hl]
      unfold chomp
      rw [List.getLast?_cons_cons]
      split <;> rfl

theorem lines_of_not_mem {l : List Char} (hl : '\n' ∉ l) : lines l = if l = [] then [] else [l] := by
  induction l with
  | nil => rfl
  | cons c l ih =>
    obtain ⟨hc, hl⟩ := not_or.1 (List.mem_cons.not.1 hl)
    rw [lines_cons (Ne.symm hc) (fun _ h => hl (List.mem_of_head? h)), ih hl]
    cases l <;> rfl

private theorem scanFrom_chomp (n : Nat) (l : List Char) : scanFrom n (chomp l) = scanFrom n l := by
  unfold chomp
  split
  · rename_i h
    obtain ⟨l', rfl⟩ := List.getLast?_eq_some_iff.1 h
    rw [List.dropLast_concat, scanFrom_append_blanks (by simp; decide) (by decide)]
  · rfl

/-- The tokens of lines, the first of which has the given number; the first fault counts. -/
def scanLines (n : Nat) : List (List Char) → Except Fault (List Placed)
  | [] => .ok []
  | l :: ls => joinScans (scanFrom n l) (scanLines (n + 1) ls)

/-- A text none of whose tokens reaches beyond its line is scanned line by line. -/
theorem scanFrom_eq_scanLines (n : Nat) {cs : List Char} (hs : StaysOnLines cs) :
    scanFrom n cs = scanLines n (lines cs) := by
  by_cases hn : '\n' ∈ cs
  · obtain ⟨l, rest, rfl, hl⟩ := List.eq_append_cons_of_mem hn
    obtain ⟨h, hrest⟩ := scanFrom_append_newline hl hs n
    rw [h, lines_append_newline hl, scanLines, scanFrom_chomp]
    cases hf : scanFrom n l with
    | error e => rfl
    | ok ts => rw [scanFrom_eq_scanLines (n + 1) (hrest ts hf)]
  · rw [lines_of_not_mem hn]
    split
    · subst_vars
      exact scanFrom_nil n
    · rw [scanLines, scanLines]
      cases scanFrom n cs <;> simp [joinScans, Except.map]
termination_by cs.length
decreasing_by subst_vars; simp; omega

theorem newline_not_mem_lines (cs : List Char) : ∀ l ∈ lines cs, '\n' ∉ l := by
  by_cases hn : '\n' ∈ cs
  · obtain ⟨l, rest, rfl, hl⟩ := List.eq_append_cons_of_mem hn
    rw [lines_append_newline hl]
    intro l' hl'
    rcases List.mem_cons.1 hl' with rfl | hl'
    · unfold chomp
      split
      · exact fun h => hl ((List.dropLast_prefix l).subset h)
      · exact hl
    · exact newline_not_mem_lines rest l' hl'
  · rw [lines_of_not_mem hn]
    split
    · simp
    · simpa using hn
termination_by cs.length
decreasing_by subst_vars; simp; omega

/-- The tokens of a line have its number. -/
theorem line_of_scanFrom {n : Nat} {l : List Char} {ts : List Placed} (hl : '\n' ∉ l) (h : scanFrom n l = .ok ts) :
    ∀ t ∈ ts, t.line = n := by
  replace h := scans_of_scanFrom h
  induction h with
  | nil n => simp
  | gap hx hs ih =>
    obtain ⟨hc, -, hrest⟩ := newline_not_mem_rest hl hx
    rw [if_neg hc] at ih
    exact ih hrest
  | token hx hs ih =>
    obtain ⟨-, -, hrest⟩ := newline_not_mem_rest hl hx
    exact List.forall_mem_cons.2 ⟨rfl, ih hrest⟩

/-- A name is written in characters of names, and in one at least. -/
theorem continuesName_of_scanFrom {n : Nat} {cs : List Char} {ts : List Placed} (h : scanFrom n cs = .ok ts) :
    ∀ t ∈ ts, ∀ name, t.token = .ident name → name.toList ≠ [] ∧ ∀ c ∈ name.toList, continuesName c = true := by
  intro t ht name hname
  obtain ⟨c, site, after, hl⟩ := (scans_of_scanFrom h).exists_lexes ht
  rw [hname] at hl
  exact hl.name_chars

/-! ### Texts whose tokens stay on their lines -/

/-- Without a backslash right before a line feed no quoted text escapes a line end. -/
theorem staysOnLines_of_not_escaped {cs : List Char} (h : ¬ ['\\', '\n'] <:+: cs) : StaysOnLines cs := by
  induction cs using lexeme_induction with
  | nil => simp [StaysOnLines, sites_nil]
  | gap c cs rest hl ih =>
    unfold StaysOnLines
    rw [sites_gap hl]
    exact ih fun hi => h (hi.trans ((lexes_iff.2 hl).suffix.trans (List.suffix_cons _ _)).isInfix)
  | token c cs t rest hl ih =>
    unfold StaysOnLines
    rw [sites_token hl]
    intro p hp
    rcases List.mem_cons.1 hp with rfl | hp
    -- of all tokens only a quoted text can hold a line feed
    · cases lexes_iff.2 hl with
      | quoted hq =>
        simp only [Token.crossesLine, List.contains_eq_mem, decide_eq_false_iff_not, String.toList_ofList]
        exact fun hs => h ((infix_of_readQuoted hq hs).trans (List.suffix_cons _ _).isInfix)
      | punctuation hc =>
        unfold punctuation? at hc
        split at hc <;> cases hc <;> rfl
      | _ => rfl
    · exact ih (fun hi => h (hi.trans ((lexes_iff.2 hl).suffix.trans (List.suffix_cons _ _)).isInfix)) p hp
  | unclosed c cs rest hl => rw [StaysOnLines, sites]; split <;> simp_all
  | stray c cs rest hl => rw [StaysOnLines, sites]; split <;> simp_all

/-- A text whose quoted texts hold no line feed keeps its tokens on their lines. -/
theorem staysOnLines_of_scanFrom {n : Nat} {cs : List Char} {ts : List Placed} (h : scanFrom n cs = .ok ts)
    (hts : ∀ t ∈ ts, t.token.crossesLine = false) : StaysOnLines cs := by
  intro p hp
  have hm : p.1 ∈ ts.map (·.token) := by
    rw [← map_fst_sites h]
    exact List.mem_map_of_mem hp
  obtain ⟨t, ht, he⟩ := List.mem_map.1 hm
  rw [← he]
  exact hts t ht

end GuardedCrud.Schema
