import GuardedCrud.Proofs.Schema.Places
import GuardedCrud.Proofs.Schema.Rows

/-!
# The lines that tokens, models and faults show

The scanner counts the line feeds that it passes between tokens, and not those in quoted texts.  So a line is the true one,
less the line feeds in the quoted texts before it (`CountsTo`).  That holds for every source (`showsLines`):

* of the lines of its tokens, and of the faults of a text that cannot be scanned;
* of the lines of its models and of the faults of the grammar, as each is the line of one token (`readBlocks`).

A quoted text that escapes a line end makes all lines after it wrong (`lines_behind_escapedLineEnd`).
-/

namespace GuardedCrud.Schema

/-! ### Passing over tokens -/

/-- Lexeme by lexeme, the tokens `ts` stand in front of the end `rest` of a text. -/
inductive Reaches : List Char → List Token → List Char → Prop
  | here (cs : List Char) : Reaches cs [] cs
  | gap {c cs mid ts rest} : Lexes c cs .gap mid → Reaches mid ts rest → Reaches (c :: cs) ts rest
  | token {c cs mid t ts rest} : Lexes c cs (.token t) mid → Reaches mid ts rest → Reaches (c :: cs) (t :: ts) rest

/-- The line feeds in the quoted texts among some tokens. -/
def lineEnds : List Token → Nat
  | [] => 0
  | t :: ts => t.lineEnds + lineEnds ts

/-- The end `rest` of a text stands behind the tokens `ts`, and a count that began with `n` and left out the line feeds in
quoted texts has come to `line` there. -/
structure CountsTo (n : Nat) (cs : List Char) (ts : List Token) (rest : List Char) (line : Nat) : Prop where
  reaches : Reaches cs ts rest
  count : ∃ before, cs = before ++ rest ∧ line + lineEnds ts = n + before.count '\n'

namespace CountsTo

variable {n line : Nat} {c : Char} {cs mid rest : List Char} {t : Token} {ts : List Token}

private theorem here (n : Nat) (cs : List Char) : CountsTo n cs [] cs n := ⟨.here cs, [], rfl, rfl⟩

theorem gap (hx : Lexes c cs .gap mid) (h : CountsTo (if c = '\n' then n + 1 else n) mid ts rest line) :
    CountsTo n (c :: cs) ts rest line := by
  obtain ⟨hreaches, before, rfl, hcount⟩ := h
  obtain ⟨used, rfl, hused, -⟩ := hx.exists_used
  refine ⟨.gap hx hreaches, c :: (used ++ before), by simp, ?_⟩
  rw [List.count_cons, List.count_append, hused, hcount]
  simp only [beq_iff_eq, Lexeme.lineEnds]
  split <;> omega

theorem token (hx : Lexes c cs (.token t) mid) (h : CountsTo n mid ts rest line) :
    CountsTo n (c :: cs) (t :: ts) rest line := by
  obtain ⟨hreaches, before, rfl, hcount⟩ := h
  obtain ⟨used, rfl, hused, hc⟩ := hx.exists_used
  refine ⟨.token hx hreaches, c :: (used ++ before), by simp, ?_⟩
  have hends : lineEnds (t :: ts) = t.lineEnds + lineEnds ts := rfl
  have hstart : (c == '\n') = false := by simpa using hc nofun
  rw [List.count_cons, List.count_append, hused, hends, hstart]
  simp only [Lexeme.lineEnds, Bool.false_eq_true, if_false]
  omega

end CountsTo

/-- The line of every token, counted without the line feeds in the quoted texts before it. -/
private theorem Scans.countsTo {n : Nat} {cs : List Char} {ts : List Placed} (h : Scans n cs ts) {i : Nat} {t : Placed}
    (ht : ts[i]? = some t) : ∃ c site after, Lexes c site (.token t.token) after ∧
      CountsTo n cs ((ts.take i).map (·.token)) (c :: site) t.line := by
  induction h generalizing i with
  | nil n => cases ht
  | gap hx _ ih =>
    obtain ⟨c, site, after, hl, hcounts⟩ := ih ht
    exact ⟨c, site, after, hl, hcounts.gap (lexes_iff.2 hx)⟩
  | @token n c cs rest t' ts hx _ ih =>
    cases i with
    | zero =>
      cases ht
      exact ⟨c, cs, rest, lexes_iff.2 hx, .here n _⟩
    | succ i =>
      obtain ⟨c, site, after, hl, hcounts⟩ := ih ht
      exact ⟨c, site, after, hl, hcounts.token (lexes_iff.2 hx)⟩

/-- The line of a fault of the scanner, counted without the line feeds in the quoted texts before it. -/
private theorem countsTo_of_scanFrom {n : Nat} {cs : List Char} {e : Fault} (h : scanFrom n cs = .error e) :
    ∃ c site ts line, CountsTo n cs ts (c :: site) line ∧
      (Lexes c site .stray site ∧ e = .unexpectedChar line c ∨
        Lexes c site .unclosed site ∧ e = .unterminatedText line) := by
  induction cs using lexeme_induction generalizing n with
  | nil =>
    rw [scanFrom_nil] at h
    cases h
  | gap c cs rest hx ih =>
    rw [scanFrom_gap n hx] at h
    obtain ⟨c, site, ts, line, hcounts, hfault⟩ := ih h
    exact ⟨c, site, ts, line, hcounts.gap (lexes_iff.2 hx), hfault⟩
  | token c cs t rest hx ih =>
    rw [scanFrom_token n hx] at h
    cases hr : scanFrom n rest with
    | ok us => rw [hr] at h; cases h
    | error e' =>
      rw [hr] at h
      cases h
      obtain ⟨c, site, ts, line, hcounts, hfault⟩ := ih hr
      exact ⟨c, site, t :: ts, line, hcounts.token (lexes_iff.2 hx), hfault⟩
  | unclosed c cs rest hx =>
    rw [scanFrom_unclosed n hx] at h
    cases h
    have hl := lexes_iff.2 hx
    obtain rfl : cs = rest := by cases hl; rfl
    exact ⟨c, cs, [], n, .here n _, .inr ⟨hl, rfl⟩⟩
  | stray c cs rest hx =>
    rw [scanFrom_stray n hx] at h
    cases h
    have hl := lexes_iff.2 hx
    obtain rfl : cs = rest := by cases hl <;> rfl
    exact ⟨c, cs, [], n, .here n _, .inl ⟨hl, rfl⟩⟩

/-! ### The lines of a source -/

/-- What the lines say that a source text shows, in its tokens, its models and its fault. -/
structure ShowsLines (source : String) : Prop where
  /-- The line of a token is counted up to its first character. -/
  token : ∀ {ts i t}, scan source = .ok ts → ts[i]? = some t → ∃ c site after, Lexes c site (.token t.token) after ∧
    CountsTo 1 source.toList ((ts.take i).map (·.token)) (c :: site) t.line
  /-- The line of a character that begins no token is counted up to it. -/
  stray : ∀ {line c}, scan source = .error (.unexpectedChar line c) → ∃ site ts, Lexes c site .stray site ∧
    CountsTo 1 source.toList ts (c :: site) line
  /-- The line of an unclosed quoted text is counted up to its opening quote. -/
  unclosed : ∀ {line}, scan source = .error (.unterminatedText line) → ∃ site ts, Lexes '"' site .unclosed site ∧
    CountsTo 1 source.toList ts ('"' :: site) line
  /-- The line of a model is that of its keyword, which its name follows. -/
  model : ∀ {ts s j m}, scan source = .ok ts → Structure.ofText source = .ok s → s.models[j]? = some m →
    ∃ i t n, ts[i]? = some t ∧ ts[i + 1]? = some ⟨.ident m.name, n⟩ ∧ t.token.block? = some .model ∧ t.line = m.line ∧
      ∃ s', readBlocks [] (ts.take i) = .ok s' ∧ s'.models = s.models.take j
  /-- The line of a fault about a token is that of the token that settles it. -/
  fault : ∀ {ts e t}, scan source = .ok ts → Structure.ofText source = .error e → e.token? = some t →
    ∃ i, ts[i]? = some t ∧ Settles ts e i
  /-- The line of an unclosed block is that of its keyword, behind the longest front that is accepted. -/
  block : ∀ {ts line name}, scan source = .ok ts → Structure.ofText source = .error (.unterminatedBlock line name) →
    ∃ i t n, ts[i]? = some t ∧ ts[i + 1]? = some ⟨.ident name, n⟩ ∧ t.token.block?.isSome ∧ t.line = line ∧
      (∃ s, readBlocks [] (ts.take i) = .ok s) ∧ ∀ k, i < k → ∀ s, readBlocks [] (ts.take k) ≠ .ok s

/-- Two tokens in a row, by their index. -/
private theorem getElem?_behind (used rest : List Placed) (t u : Placed) :
    (used ++ t :: u :: rest)[used.length]? = some t ∧ (used ++ t :: u :: rest)[used.length + 1]? = some u ∧
      (used ++ t :: u :: rest).take used.length = used := by
  refine ⟨?_, ?_, List.take_left' rfl⟩
  · rw [List.getElem?_append_right (Nat.le_refl _), Nat.sub_self]
    rfl
  · have hone : used.length + 1 - used.length = 1 := by omega
    rw [List.getElem?_append_right (Nat.le_succ _), Nat.succ_eq_add_one, hone]
    rfl

/-- Every line that a source shows is the line of a place in it, counted without the line feeds in the quoted texts before
that place. -/
theorem showsLines (source : String) : ShowsLines source := by
  have hblocks : ∀ {ts}, scan source = .ok ts → Structure.ofText source = readBlocks [] ts := by
    intro ts h
    rw [Structure.ofText, h]
  constructor
  · intro ts i t h ht
    exact (scans_of_scanFrom h).countsTo ht
  · intro line c h
    obtain ⟨c', site, ts, line', hcounts, ⟨hl, he⟩ | ⟨-, he⟩⟩ := countsTo_of_scanFrom h
    · cases he
      exact ⟨site, ts, hl, hcounts⟩
    · cases he
  · intro line h
    obtain ⟨c, site, ts, line', hcounts, ⟨-, he⟩ | ⟨hl, he⟩⟩ := countsTo_of_scanFrom h
    · cases he
    · cases he
      cases hl with
      | unclosed hq => exact ⟨site, ts, .unclosed hq, hcounts⟩
  · intro ts s j m h hs hm
    rw [hblocks h] at hs
    obtain ⟨used, t, n, rest, rfl, hline, hblock, hfront⟩ := exists_keyword_of_model hs hm
    obtain ⟨ht, hu, htake⟩ := getElem?_behind used rest t ⟨.ident m.name, n⟩
    exact ⟨used.length, t, n, ht, hu, hblock, hline, by rwa [htake]⟩
  · intro ts e t h he ht
    rw [hblocks h] at he
    exact exists_settles he ht
  · intro ts line name h he
    rw [hblocks h] at he
    obtain ⟨used, t, n, rest, rfl, hline, hblock, hfront, hfronts⟩ := exists_longestAccepted he
    obtain ⟨ht, hu, htake⟩ := getElem?_behind used rest t ⟨.ident name, n⟩
    exact ⟨used.length, t, n, ht, hu, hblock, hline, by rwa [htake], hfronts⟩

/-- A schema with an escaped line end in a quoted text. -/
def escapedLineEnd : String := "model A \x7b s String @default(\"a\\\nb\") \x7d\nmodel B \x7b id Int @id \x7d\n"

/-- The second model stands behind two line feeds, but the schema shows it on the second line. -/
theorem lines_behind_escapedLineEnd :
    (Structure.ofText escapedLineEnd).map (fun s => s.models.map fun m => (m.name, m.line)) = .ok [("A", 1), ("B", 2)] ∧
      ∃ before after, escapedLineEnd.toList = before ++ "model B".toList ++ after ∧ 1 + before.count '\n' = 3 := by
  refine ⟨by decide +kernel, "model A \x7b s String @default(\"a\\\nb\") \x7d\n".toList, " \x7b id Int @id \x7d\n".toList,
    by decide +kernel, by decide +kernel⟩

end GuardedCrud.Schema
