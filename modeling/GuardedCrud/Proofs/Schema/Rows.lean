import GuardedCrud.Proofs.Schema.LineLeads

/-!
# The rows of tokens

* tokens come in the order of their lines (`scanFrom_sorted`), so a scanned text is cut between two lines where its
  tokens are (`scanLines_split`);
* the line of a token counts the line feeds before it, if no quoted text escapes a line end (`line_eq_rowOf`).
-/

namespace GuardedCrud.Schema

open GuardedCrud.Text

/-! ### The order of lines -/

theorem scanFrom_sorted {n : Nat} {cs : List Char} {ts : List Placed} (h : scanFrom n cs = .ok ts) :
    ts.Pairwise (fun t u => t.line ≤ u.line) ∧ ∀ t ∈ ts, n ≤ t.line := by
  replace h := scans_of_scanFrom h
  induction h with
  | nil n => simp
  | gap hx hs ih =>
    obtain ⟨hsorted, hle⟩ := ih
    refine ⟨hsorted, fun t ht => ?_⟩
    have := hle t ht
    split at this <;> omega
  | @token n c cs rest t ts hx hs ih =>
    obtain ⟨hsorted, hle⟩ := ih
    exact ⟨List.pairwise_cons.2 ⟨hle, hsorted⟩, List.forall_mem_cons.2 ⟨Nat.le_refl n, hle⟩⟩

/-- Tokens are cut where their lines are cut. -/
theorem scanLines_split {n k : Nat} {ls : List (List Char)} {us vs : List Placed} (hls : ∀ l ∈ ls, '\n' ∉ l)
    (h : scanLines n ls = .ok (us ++ vs)) (hus : ∀ u ∈ us, u.line < n + k) (hvs : ∀ v ∈ vs, n + k ≤ v.line) :
    scanLines n (ls.take k) = .ok us ∧ scanLines (n + k) (ls.drop k) = .ok vs := by
  -- on the lines before the cut; the tokens of the first of them are a front of `us`
  induction k generalizing n ls us with
  | zero =>
    have hle := le_line_of_scanLines hls h
    cases us with
    | nil => exact ⟨rfl, h⟩
    | cons u us =>
      have := hle u (by simp)
      have := hus u (by simp)
      omega
  | succ k ih =>
    cases ls with
    | nil =>
      have hnil : us ++ vs = [] := (Except.ok.inj h).symm
      obtain ⟨rfl, rfl⟩ := List.append_eq_nil_iff.1 hnil
      exact ⟨rfl, rfl⟩
    | cons l ls =>
      obtain ⟨ts₁, ts₂, h₁, h₂, he⟩ := joinScans_eq_ok.1 h
      have hline := line_of_scanFrom (hls l (by simp)) h₁
      have hls : ∀ l ∈ ls, '\n' ∉ l := fun l hl => hls l (by simp [hl])
      obtain ⟨us', rfl, rfl⟩ : ∃ us', us = ts₁ ++ us' ∧ ts₂ = us' ++ vs := by
        rcases List.append_eq_append_iff.1 he with ⟨as, rfl, rfl⟩ | ⟨as, rfl, rfl⟩
        · -- a token of the first line after the cut is on two sides of it
          cases as with
          | nil => exact ⟨[], by simp, by simp⟩
          | cons t as =>
            have := hvs t (by simp)
            have := hline t (by simp)
            omega
        · exact ⟨as, rfl, rfl⟩
      obtain ⟨htake, hdrop⟩ := ih hls h₂ (fun u hu => by have := hus u (by simp [hu]); omega)
        (fun v hv => by have := hvs v hv; omega)
      constructor
      · rw [List.take_succ_cons, scanLines, h₁, htake]
        rfl
      · rw [List.drop_succ_cons, ← hdrop]
        congr 1
        omega

/-- The line pass goes on behind some lines at the depth that their tokens leave. -/
theorem lineKinds_append {n : Nat} {ls₁ : List (List Char)} {ts : List Placed} (hls : ∀ l ∈ ls₁, '\n' ∉ l)
    (h : scanLines n ls₁ = .ok ts) (depth : Nat) (ls₂ : List (List Char)) :
    lineKinds depth (ls₁ ++ ls₂) = lineKinds depth ls₁ ++ lineKinds (braceDepth depth ts) ls₂ := by
  induction ls₁ generalizing n depth ts with
  | nil =>
    cases h
    rfl
  | cons l ls ih =>
    obtain ⟨ts₁, ts₂, h₁, h₂, rfl⟩ := joinScans_eq_ok.1 h
    rw [List.cons_append, lineKinds, lineKinds, depthAfter_eq_braceDepth (hls l (by simp)) h₁,
      ih (fun l hl => hls l (by simp [hl])) h₂ _, braceDepth_append]
    rfl

theorem length_lineKinds (depth : Nat) (ls : List (List Char)) : (lineKinds depth ls).length = ls.length := by
  induction ls generalizing depth with
  | nil => rfl
  | cons l ls ih => rw [lineKinds, List.length_cons, List.length_cons, ih]

/-! ### Line feeds before a token -/

/-- The row, counted from zero, on which the end `rest` of a text begins. -/
def rowOf (cs rest : List Char) : Nat := (cs.take (cs.length - rest.length)).count '\n'

/-- The row of the token of an index. -/
def tokenRow (source : String) (i : Nat) : Option Nat :=
  (sites source.toList)[i]?.map fun p => rowOf source.toList p.2

/-- The line feeds in a quoted text. -/
def Token.lineEnds : Token → Nat
  | .quoted s => s.toList.count '\n'
  | _ => 0

/-- The line feeds that a lexeme takes after its first character. -/
def Lexeme.lineEnds : Lexeme → Nat
  | .token t => t.lineEnds
  | _ => 0

private theorem Token.lineEnds_eq_zero {t : Token} (h : t.crossesLine = false) : t.lineEnds = 0 := by
  cases t with
  | quoted s => simpa [Token.crossesLine, Token.lineEnds, List.count_eq_zero] using h
  | _ => rfl

private theorem Token.lineEnds_of_punctuation {c : Char} {t : Token} (h : punctuation? c = some t) :
    t.lineEnds = 0 := by
  unfold punctuation? at h
  split at h <;> cases h <;> rfl

/-- Only a blank and a quoted text take line feeds. -/
theorem Lexes.exists_used {c : Char} {cs rest : List Char} {x : Lexeme} (h : Lexes c cs x rest) :
    ∃ used, cs = used ++ rest ∧ used.count '\n' = x.lineEnds ∧ (x ≠ .gap → c ≠ '\n') := by
  have htake : ∀ (p : Char → Bool) (ds : List Char), p '\n' = false → (ds.takeWhile p).count '\n' = 0 := by
    intro p ds hp
    rw [List.count_eq_zero]
    intro hm
    have := List.mem_takeWhile_imp hm
    rw [hp] at this
    cases this
  cases h with
  | blank h => exact ⟨[], rfl, rfl, fun h => absurd rfl h⟩
  | doc text =>
    refine ⟨'/' :: '/' :: text.takeWhile onLine, by simp, ?_, fun _ => by decide⟩
    simpa [List.count_cons, Lexeme.lineEnds, Token.lineEnds] using htake onLine text (by decide)
  | comment h =>
    rename_i text
    refine ⟨'/' :: text.takeWhile onLine, by simp, ?_, fun h => absurd rfl h⟩
    simpa [List.count_cons, Lexeme.lineEnds, Token.lineEnds] using htake onLine text (by decide)
  | slash h => exact ⟨[], rfl, rfl, fun _ => by decide⟩
  | quoted h =>
    rename_i s
    refine ⟨s ++ ['"'], by rw [readQuoted_eq h]; simp, ?_, fun _ => by decide⟩
    simp [Lexeme.lineEnds, Token.lineEnds]
  | unclosed h => exact ⟨[], rfl, rfl, fun _ => by decide⟩
  | doubleAt cs => exact ⟨['@'], rfl, by decide, fun _ => by decide⟩
  | «at» h => exact ⟨[], rfl, rfl, fun _ => by decide⟩
  | punctuation h => exact ⟨[], rfl, (Token.lineEnds_of_punctuation h).symm, fun _ => by rintro rfl; cases h⟩
  | name h =>
    exact ⟨cs.takeWhile continuesName, by simp, htake _ _ (by decide),
      fun _ => by rintro rfl; exact absurd h (by decide)⟩
  | number _ h =>
    exact ⟨cs.takeWhile continuesNumber, by simp, htake _ _ (by decide), fun _ => by
      rintro rfl
      exact absurd (of_startsNumber h).1 (by decide)⟩
  | stray h => exact ⟨[], rfl, rfl, fun _ => by rintro rfl; exact absurd h (by decide)⟩

private theorem rowOf_cons_append {c : Char} {used rest tail : List Char} (hused : used.count '\n' = 0)
    (h : tail <:+ rest) : rowOf (c :: (used ++ rest)) tail = (if c = '\n' then 1 else 0) + rowOf rest tail := by
  have hlen := h.length_le
  have htake : (c :: (used ++ rest)).take ((c :: (used ++ rest)).length - tail.length) =
      c :: (used ++ rest.take (rest.length - tail.length)) := by
    have : (c :: (used ++ rest)).length - tail.length = used.length + (rest.length - tail.length) + 1 := by
      simp only [List.length_cons, List.length_append]
      omega
    rw [this, List.take_succ_cons, List.take_length_add_append]
  rw [rowOf, htake, List.count_cons, List.count_append, hused, rowOf]
  simp only [beq_iff_eq]
  omega

private theorem suffix_of_mem_sites {cs : List Char} {p : Token × List Char} (h : p ∈ sites cs) : p.2 <:+ cs := by
  induction cs using lexeme_induction with
  | nil => rw [sites_nil] at h; cases h
  | gap c cs rest hl ih =>
    rw [sites_gap hl] at h
    exact ((ih h).trans (lexes_iff.2 hl).suffix).trans (List.suffix_cons _ _)
  | token c cs t rest hl ih =>
    rw [sites_token hl] at h
    rcases List.mem_cons.1 h with rfl | h
    · exact List.suffix_refl _
    · exact ((ih h).trans (lexes_iff.2 hl).suffix).trans (List.suffix_cons _ _)
  | unclosed c cs rest hl => rw [sites] at h; split at h <;> simp_all
  | stray c cs rest hl => rw [sites] at h; split at h <;> simp_all

/-- The lines of tokens count the line feeds before them. -/
theorem line_eq_rowOf {n : Nat} {cs : List Char} {ts : List Placed} (h : scanFrom n cs = .ok ts)
    (hs : StaysOnLines cs) : ts.map (·.line) = (sites cs).map fun p => n + rowOf cs p.2 := by
  replace h := scans_of_scanFrom h
  induction h with
  | nil n =>
    rw [sites_nil]
    rfl
  | gap hx _ ih =>
    obtain ⟨used, rfl, hused, -⟩ := (lexes_iff.2 hx).exists_used
    rw [sites_gap hx, ih (hs.of_gap hx)]
    refine List.map_congr_left fun p hp => ?_
    rw [rowOf_cons_append hused (suffix_of_mem_sites hp)]
    split <;> omega
  | token hx _ ih =>
    obtain ⟨ht, hrest⟩ := hs.of_token hx
    obtain ⟨used, rfl, hused, hc⟩ := (lexes_iff.2 hx).exists_used
    rw [show Lexeme.lineEnds (.token _) = 0 from Token.lineEnds_eq_zero ht] at hused
    rw [sites_token hx, List.map_cons, List.map_cons, ih hrest]
    congr 1
    · simp [rowOf]
    · refine List.map_congr_left fun p hp => ?_
      rw [rowOf_cons_append hused (suffix_of_mem_sites hp), if_neg (hc (by simp))]
      omega

end GuardedCrud.Schema
