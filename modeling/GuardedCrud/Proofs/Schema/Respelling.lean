import GuardedCrud.Proofs.Schema.LineNumbers

/-!
# Tokens written back

A text that spells the tokens of a schema, with blanks between any two of them, has the same tokens and is read in the
same way, up to lines (`ofText_respelled`).

* A token that was scanned is scanned from its spelling, if what follows lets it end (`Lexes.respelled`): a blank ends
  every token, except a documentation comment, which goes on to the end of its line.
* Blanks between the tokens let every token end (`Spells.endsBefore`).
* So scanning takes back what was spelled, token by token (`Spells.scanFrom`).
-/

namespace GuardedCrud.Schema

open GuardedCrud.Text

/-! ### The spelling of a token -/

/-- A name and a number are written as they are, a quoted text between quotes, the text of a documentation comment behind
three slashes and a space, and all others by their symbols. -/
def Token.spelling : Token → List Char
  | .ident name => name.toList
  | .quoted content => '"' :: (content.toList ++ ['"'])
  | .number digits => digits.toList
  | .doc text => '/' :: '/' :: '/' :: ' ' :: text.toList
  | t => t.symbol.toList

/-- The token ends where the text begins: at a blank, and for a documentation comment on a line with nothing but blanks. -/
def Token.EndsBefore : Token → List Char → Prop
  | .doc _, rest => ∀ c ∈ rest.takeWhile onLine, isBlank c = true
  | _, rest => ∀ c, rest.head? = some c → isBlank c = true

/-- What the token leaves of the text behind it. -/
def Token.leaves : Token → List Char → List Char
  | .doc _, rest => rest.dropWhile onLine
  | _, rest => rest

/-- A run of characters ends where none of its characters stands. -/
private theorem takeWhile_append_of_head {p : Char → Bool} (cs : List Char) {rest : List Char}
    (hrest : ∀ c, rest.head? = some c → p c = false) :
    (cs.takeWhile p ++ rest).takeWhile p = cs.takeWhile p ∧ (cs.takeWhile p ++ rest).dropWhile p = rest := by
  have hcs : ∀ c ∈ cs.takeWhile p, p c = true := fun c hc => List.mem_takeWhile_imp hc
  rw [List.takeWhile_append_of_pos hcs, List.dropWhile_append_of_pos hcs]
  cases rest with
  | nil => simp
  | cons c rest =>
    have hc := hrest c rfl
    rw [List.takeWhile_cons, List.dropWhile_cons, hc]
    simp

private theorem continuesNumber_of_isAsciiDigit {c : Char} (h : isAsciiDigit c = true) : continuesNumber c = true := by
  have hall : ['0', '1', '2', '3', '4', '5', '6', '7', '8', '9'].all continuesNumber = true := by decide
  exact List.all_eq_true.1 hall c (mem_digits h)

private theorem startsNumber_takeWhile {c : Char} {cs : List Char} (h : startsNumber c cs = true) (rest : List Char) :
    startsNumber c (cs.takeWhile continuesNumber ++ rest) = true := by
  simp only [startsNumber, Bool.or_eq_true, Bool.and_eq_true] at h ⊢
  -- the digit behind a minus sign belongs to the number
  rcases h with hdigit | ⟨hminus, hnext⟩
  · exact Or.inl hdigit
  · cases cs with
    | nil => cases hnext
    | cons d cs =>
      rw [List.takeWhile_cons_of_pos (continuesNumber_of_isAsciiDigit hnext)]
      exact Or.inr ⟨hminus, hnext⟩

private theorem spelling_of_punctuation {c : Char} {t : Token} (h : punctuation? c = some t) (rest : List Char) :
    t.spelling = [c] ∧ t.leaves rest = rest := by
  unfold punctuation? at h
  split at h <;> cases h <;> exact ⟨by decide, rfl⟩

/-- A token that was scanned is scanned from its spelling. -/
theorem Lexes.respelled {c : Char} {cs after : List Char} {t : Token} (h : Lexes c cs (.token t) after)
    {rest : List Char} (hrest : t.EndsBefore rest) :
    ∃ d ds, t.spelling ++ rest = d :: ds ∧ Lexes d ds (.token t) (t.leaves rest) := by
  cases h with
  | doc text =>
    -- the text was trimmed on its line, so the blanks behind it are trimmed away again
    have hline : ∀ d ∈ ' ' :: trim (text.takeWhile onLine), onLine d = true :=
      List.forall_mem_cons.2 ⟨by decide, fun d hd => List.mem_takeWhile_imp (mem_of_mem_trim hd)⟩
    have hl := Lexes.doc (' ' :: trim (text.takeWhile onLine) ++ rest)
    rw [List.takeWhile_append_of_pos hline, List.dropWhile_append_of_pos hline, trim_append_blanks _ hrest,
      trim_cons_of_isBlank (by decide), trim_trim] at hl
    refine ⟨'/', _, ?_, hl⟩
    rw [Token.spelling, String.toList_ofList]
    rfl
  | quoted hq =>
    refine ⟨'"', _, ?_, .quoted (readQuoted_content hq rest)⟩
    simp [Token.spelling]
  | doubleAt => exact ⟨'@', '@' :: rest, rfl, .doubleAt rest⟩
  | «at» =>
    refine ⟨'@', rest, rfl, .at fun hat => ?_⟩
    exact absurd (hrest '@' hat) (by decide)
  | punctuation hp =>
    obtain ⟨hspelling, hleaves⟩ := spelling_of_punctuation hp rest
    rw [hspelling, hleaves]
    exact ⟨c, rest, rfl, .punctuation hp⟩
  | name hs =>
    obtain ⟨htake, hdrop⟩ := takeWhile_append_of_head cs fun d hd => continuesName_of_isBlank (hrest d hd)
    have hl : Lexes c (cs.takeWhile continuesName ++ rest) _ _ := .name hs
    rw [htake, hdrop] at hl
    refine ⟨c, _, ?_, hl⟩
    rw [Token.spelling, String.toList_ofList]
    rfl
  | number hn hs =>
    obtain ⟨htake, hdrop⟩ := takeWhile_append_of_head cs fun d hd => continuesNumber_of_isBlank (hrest d hd)
    have hstart : startsNumber c (cs.takeWhile continuesNumber ++ rest) = true := startsNumber_takeWhile hs rest
    have hl : Lexes c (cs.takeWhile continuesNumber ++ rest) _ _ := .number hn hstart
    rw [htake, hdrop] at hl
    refine ⟨c, _, ?_, hl⟩
    rw [Token.spelling, String.toList_ofList]
    rfl

/-! ### Scanning what was spelled -/

private theorem exists_scanFrom_append {gap : List Char} (h : ∀ c ∈ gap, isBlank c = true) (n : Nat) (cs : List Char) :
    ∃ m, scanFrom n (gap ++ cs) = scanFrom m cs := by
  induction gap generalizing n with
  | nil => exact ⟨n, rfl⟩
  | cons c gap ih =>
    obtain ⟨hc, hgap⟩ := List.forall_mem_cons.1 h
    rw [List.cons_append, scanFrom_gap n (lexeme_of_lexes (.blank hc))]
    exact ih hgap _

/-- Blanks that end a line may be left out. -/
private theorem scanFrom_dropWhile_onLine {cs : List Char} (h : ∀ c ∈ cs.takeWhile onLine, isBlank c = true) (n : Nat) :
    scanFrom n (cs.dropWhile onLine) = scanFrom n cs := by
  induction cs with
  | nil => rfl
  | cons c cs ih =>
    by_cases hc : onLine c = true
    · rw [List.takeWhile_cons_of_pos hc, List.forall_mem_cons] at h
      have hne : c ≠ '\n' := by simpa [onLine] using hc
      rw [List.dropWhile_cons_of_pos hc, ih h.2, scanFrom_gap n (lexeme_of_lexes (.blank h.1)), if_neg hne]
    · rw [List.dropWhile_cons_of_neg hc]

private theorem scanFrom_leaves {t : Token} {rest : List Char} (h : t.EndsBefore rest) (n : Nat) :
    scanFrom n (t.leaves rest) = scanFrom n rest := by
  cases t with
  | doc text => exact scanFrom_dropWhile_onLine h n
  | _ => rfl

private theorem Lexes.scanFrom_spelling {c : Char} {cs after : List Char} {t : Token} (h : Lexes c cs (.token t) after)
    {rest : List Char} (hrest : t.EndsBefore rest) (n : Nat) :
    scanFrom n (t.spelling ++ rest) = (scanFrom n rest).map (⟨t, n⟩ :: ·) := by
  obtain ⟨d, ds, heq, hl⟩ := h.respelled hrest
  rw [heq, scanFrom_token n (lexeme_of_lexes hl), scanFrom_leaves hrest]

/-! ### Texts that spell tokens -/

/-- The blanks may stand behind the token `before`, if there is one, and in front of another token. -/
structure Separates (before : Option Token) (gap : List Char) : Prop where
  blank : ∀ c ∈ gap, isBlank c = true
  /-- Something stands between two tokens. -/
  ne_nil : before ≠ none → gap ≠ []
  /-- A documentation comment ends with its line. -/
  line_end : ∀ text, before = some (.doc text) → '\n' ∈ gap

/-- Behind the token `before`, if there is one, the text spells the tokens, with blanks between them. -/
inductive Spells : Option Token → List Token → List Char → Prop
  | blanks {before gap} (hgap : ∀ c ∈ gap, isBlank c = true) : Spells before [] gap
  | token {before gap t ts rest} (hgap : Separates before gap) (hrest : Spells (some t) ts rest) :
    Spells before (t :: ts) (gap ++ (t.spelling ++ rest))

theorem Spells.endsBefore {t : Token} {ts : List Token} {rest : List Char} (h : Spells (some t) ts rest) :
    t.EndsBefore rest := by
  cases h with
  | blanks hgap =>
    cases t with
    | doc text => exact fun c hc => hgap c ((List.takeWhile_sublist _).mem hc)
    | _ => exact fun c hc => hgap c (List.mem_of_head? hc)
  | @token _ gap u us rest hgap hrest =>
    have hhead : ∀ c, (gap ++ (u.spelling ++ rest)).head? = some c → isBlank c = true := by
      intro c hc
      rw [List.head?_append_of_ne_nil _ (hgap.ne_nil (by simp))] at hc
      exact hgap.blank c (List.mem_of_head? hc)
    cases t with
    | doc text =>
      -- the comment takes the blanks up to the first line feed
      obtain ⟨bl, bl', rfl⟩ := List.append_of_mem (hgap.line_end text rfl)
      intro c hc
      rw [List.append_assoc, List.cons_append, takeWhile_append_newline (by decide)] at hc
      exact hgap.blank c (List.mem_append_left _ ((List.takeWhile_sublist _).mem hc))
    | _ => exact hhead

/-- Scanning takes back what was spelled. -/
theorem Spells.scanFrom {before : Option Token} {ts : List Token} {cs : List Char} (h : Spells before ts cs)
    (hts : ∀ t ∈ ts, ∃ c site after, Lexes c site (.token t) after) (n : Nat) :
    ∃ us, scanFrom n cs = .ok us ∧ us.map (·.token) = ts := by
  -- for every line, since the blanks in front of a token decide on which it stands
  induction h generalizing n with
  | @blanks before gap hgap =>
    obtain ⟨m, hm⟩ := exists_scanFrom_append hgap n []
    rw [List.append_nil, scanFrom_nil] at hm
    exact ⟨[], hm, rfl⟩
  | @token before gap t ts rest hgap hrest ih =>
    obtain ⟨⟨c, site, after, hl⟩, hts⟩ := List.forall_mem_cons.1 hts
    obtain ⟨m, hm⟩ := exists_scanFrom_append hgap.blank n (t.spelling ++ rest)
    obtain ⟨us, hus, htokens⟩ := ih hts m
    refine ⟨⟨t, m⟩ :: us, ?_, by rw [List.map_cons, htokens]⟩
    rw [hm, hl.scanFrom_spelling hrest.endsBefore, hus]
    rfl

/-- A text that spells the tokens of a source, with blanks between them, has the same tokens, and is read as the same
schema or with the same fault, up to lines. -/
theorem ofText_respelled {source text : String} {ts : List Placed} (h : scan source = .ok ts)
    (hs : Spells none (ts.map (·.token)) text.toList) :
    (∃ us, scan text = .ok us ∧ us.map (·.token) = ts.map (·.token)) ∧
      unnumbered (Structure.ofText text) = unnumbered (Structure.ofText source) := by
  have hlexes : ∀ t ∈ ts.map (·.token), ∃ c site after, Lexes c site (.token t) after := by
    intro t ht
    obtain ⟨u, hu, rfl⟩ := List.mem_map.1 ht
    exact (scans_of_scanFrom h).exists_lexes hu
  obtain ⟨us, hus, htokens⟩ := hs.scanFrom hlexes 1
  have hscan : scan text = .ok us := hus
  refine ⟨⟨us, hscan, htokens⟩, ?_⟩
  rw [Structure.ofText, hscan, Structure.ofText, h]
  exact readBlocks_congr_lines htokens []

/-! ### One token on each line -/

/-- Every token on a line of its own. -/
def onOwnLines (ts : List Token) : List Char := ts.flatMap fun t => '\n' :: t.spelling

private theorem spells_onOwnLines (before : Option Token) (ts : List Token) : Spells before ts (onOwnLines ts) := by
  induction ts generalizing before with
  | nil => exact .blanks (by simp [onOwnLines])
  | cons t ts ih =>
    have hgap : Separates before ['\n'] :=
      ⟨List.forall_mem_singleton.2 (by decide), fun _ => List.cons_ne_nil _ _, fun _ _ => List.mem_singleton_self _⟩
    exact .token hgap (ih (some t))

/-- A schema with hardly a blank between its tokens. -/
def crampedNotes : String :=
  "/// /Notes\nmodel Note\x7bid Int@default(-1)s String[]@map(\"a\\\"b\")@@id(id)\x7d"

/-- The same schema with a token on each line. -/
def tallNotes : String :=
  "\n/// /Notes\nmodel\nNote\n\x7b\nid\nInt\n@\ndefault\n(\n-1\n)\ns\nString\n[\n]\n@\nmap\n(\n\"a\\\"b\"\n)\n@@\nid\n(\nid\n)\n\x7d"

/-- Both texts declare the same notes, one on its second line and one on its third. -/
theorem ofText_tallNotes :
    (Structure.ofText crampedNotes).map (·.models.map (·.line)) = .ok [2] ∧
      (Structure.ofText tallNotes).map (·.models.map (·.line)) = .ok [3] ∧
      unnumbered (Structure.ofText tallNotes) = unnumbered (Structure.ofText crampedNotes) := by
  have hcramped : crampedNotes.toList = _ := String.toList_ofList
  have htall : tallNotes.toList = _ := String.toList_ofList
  have hlines : (scan crampedNotes).map (fun ts => onOwnLines (ts.map (·.token))) = .ok tallNotes.toList := by
    rw [scan, hcramped, htall]
    decide +kernel
  obtain ⟨ts, hts, heq⟩ := exists_of_map_eq_ok hlines
  have hs : Spells none (ts.map (·.token)) tallNotes.toList := heq ▸ spells_onOwnLines none (ts.map (·.token))
  refine ⟨?_, ?_, (ofText_respelled hts hs).2⟩
  · rw [Structure.ofText, scan, hcramped]
    decide +kernel
  · rw [Structure.ofText, scan, htall]
    decide +kernel

end GuardedCrud.Schema
