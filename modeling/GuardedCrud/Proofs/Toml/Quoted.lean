import Mathlib.Tactic.Common
import GuardedCrud.Toml.Printer
import GuardedCrud.Toml.Text

/-!
# Quoted texts are read back

A character of a text between double quotes stands as it is, or is written as an escape that is read as the character
(`escaped_eq`).  A text of several lines keeps at most two quotes in a row as they are, so three quotes close it
(`readBasicLines_escapedText`, `readLiteralLines_append`).  Every text is read back from its quotes, whatever it holds
(`readText_quoted`).
-/

namespace GuardedCrud.Toml

/-! ### Escapes -/

private theorem codePoint?_hexChar {n : Nat} (h : n < 128) :
    codePoint? ['0', '0', hexChar (n / 16), hexChar (n % 16)] = some (Char.ofNat n) := by
  have hread : ∀ n < 128, Numeral.ofHex? ['0', '0', hexChar (n / 16), hexChar (n % 16)] = some n := by
    decide
  have hvalid : n.isValidChar := .inl (by omega)
  rw [codePoint?, hread n h, Option.bind_some, if_pos hvalid]

/-- A character is written as it is, if it may stand in a text, or as an escape that is read as the character. -/
theorem escaped_eq (lines : Bool) (c : Char) :
    (escaped lines c = [c] ∧ c ≠ '\\' ∧ c ≠ '\r' ∧ (isPlain c = true ∨ lines = true ∧ c = '\n')) ∨
      ∃ d e, escaped lines c = '\\' :: d :: e ∧ d ∉ [' ', '\t', '\n', '\r'] ∧
        ∀ rest, readEscape (d :: (e ++ rest)) = some (c, rest) := by
  unfold escaped
  split_ifs with h₁ h₂ h₃ h₄ h₅ h₆ h₇ h₈
  · exact .inr ⟨'b', [], rfl, by decide, fun rest => by rw [h₁]; rfl⟩
  · exact .inr ⟨'t', [], rfl, by decide, fun rest => by rw [h₂]; rfl⟩
  · exact .inl ⟨by rw [h₃], by rw [h₃]; decide, by rw [h₃]; decide, .inr ⟨h₄, h₃⟩⟩
  · exact .inr ⟨'n', [], rfl, by decide, fun rest => by rw [h₃]; rfl⟩
  · exact .inr ⟨'f', [], rfl, by decide, fun rest => by rw [h₅]; rfl⟩
  · exact .inr ⟨'r', [], rfl, by decide, fun rest => by rw [h₆]; rfl⟩
  · exact .inr ⟨'\\', [], rfl, by decide, fun rest => by rw [h₇]; rfl⟩
  · refine .inr ⟨'u', _, rfl, by decide, fun rest => ?_⟩
    show (codePoint? _).map _ = _
    rw [codePoint?_hexChar (by omega), Char.ofNat_toNat]
    rfl
  · refine .inl ⟨rfl, h₇, h₆, .inl ?_⟩
    unfold isPlain
    simp
    omega

section

variable {lines : Bool} {most run : Nat} {c : Char} (cs : List Char)

private theorem escapedText_quote (h : run < most) :
    escapedText lines most run ('"' :: cs) = '"' :: escapedText lines most (run + 1) cs := by
  rw [escapedText, if_pos rfl, if_pos h]

private theorem escapedText_quote_of_le (h : most ≤ run) :
    escapedText lines most run ('"' :: cs) = '\\' :: '"' :: escapedText lines most 0 cs := by
  rw [escapedText, if_pos rfl, if_neg (by omega)]

private theorem escapedText_cons (h : c ≠ '"') :
    escapedText lines most run (c :: cs) = escaped lines c ++ escapedText lines most 0 cs := by
  rw [escapedText, if_neg h]

/-- Unless it begins with a double quote that stands as it is, a text with escapes does not begin with one. -/
private theorem escapedText_ne_quote (h : c = '"' → most ≤ run) (rest us : List Char) :
    escapedText lines most run (c :: cs) ++ rest ≠ '"' :: us := by
  by_cases hc : c = '"'
  · rw [hc, escapedText_quote_of_le cs (h hc)]
    simp
  · rw [escapedText_cons cs hc]
    obtain ⟨he, -⟩ | ⟨d, e, he, -⟩ := escaped_eq lines c
    · rw [he]
      simp [hc]
    · rw [he]
      simp

end

/-! ### Double quotes -/

section

variable {c : Char} {cs rest after : List Char}

private theorem readBasic_quote : readBasic ('"' :: rest) = some ([], rest) := by rw [readBasic]

private theorem readBasic_escape (h : readEscape rest = some (c, after)) :
    readBasic ('\\' :: rest) = (readBasic after).map fun (s, after) => (c :: s, after) := by
  rw [readBasic]
  split
  · rename_i h'
    rw [h] at h'
    cases h'
  · rename_i h'
    rw [h] at h'
    cases h'
    rfl

private theorem readBasic_plain (hq : c ≠ '"') (hb : c ≠ '\\') (hp : isPlain c = true) :
    readBasic (c :: rest) = (readBasic rest).map fun (s, after) => (c :: s, after) := by
  rw [readBasic, if_pos hp]
  · exact hq
  · exact hb

/-- A text on one line is read back from its escapes. -/
private theorem readBasic_escapedText (cs rest : List Char) :
    readBasic (escapedText false 0 0 cs ++ '"' :: rest) = some (cs, rest) := by
  induction cs with
  | nil => exact readBasic_quote
  | cons c cs ih =>
    by_cases hc : c = '"'
    · rw [hc, escapedText_quote_of_le cs (Nat.le_refl 0), List.cons_append, List.cons_append, readBasic_escape rfl, ih]
      rfl
    · rw [escapedText_cons cs hc]
      obtain ⟨he, hb, -, hp⟩ | ⟨d, e, he, -, hread⟩ := escaped_eq false c
      · rw [he, List.singleton_append, List.cons_append, readBasic_plain hc hb (by simpa using hp), ih]
        rfl
      · rw [he, List.cons_append, List.cons_append, List.cons_append, List.cons_append, List.append_assoc,
          readBasic_escape (hread _), ih]
        rfl

/-! ### Three double quotes -/

private theorem closing_replicate {q : Char} (h : ∀ us, rest ≠ q :: us) {n : Nat} (hn : n ≤ 2) :
    closing q (List.replicate n q ++ rest) = (List.replicate n q, rest) := by
  have hne : ∀ a us, rest = a :: us → a ≠ q := fun a us hr ha => h us (by rw [hr, ha])
  match n with
  | 0 =>
    cases rest with
    | nil => rfl
    | cons a us =>
      have ha := hne a us rfl
      cases us <;> simp [closing, ha]
  | 1 =>
    cases rest with
    | nil => simp [closing]
    | cons a us => simp [closing, hne a us rfl]
  | 2 => simp [closing, List.replicate]

private theorem readBasicLines_close : readBasicLines .text ('"' :: '"' :: '"' :: rest) = some (closing '"' rest) := by
  rw [readBasicLines]

private theorem readBasicLines_escape {d : Char} (hd : d ∉ [' ', '\t', '\n', '\r'])
    (h : readEscape (d :: rest) = some (c, after)) :
    readBasicLines .text ('\\' :: d :: rest) = (readBasicLines .text after).map fun (s, after) => (c :: s, after) := by
  have hd' : ¬ (d = ' ' ∨ d = '\t' ∨ d = '\n' ∨ d = '\r') := by simpa using hd
  rw [readBasicLines, if_neg hd']
  split
  · rename_i h'
    rw [h] at h'
    cases h'
  · rename_i h'
    rw [h] at h'
    cases h'
    rfl

private theorem readBasicLines_plain (hq : ∀ us, c :: rest ≠ '"' :: '"' :: '"' :: us) (hb : c ≠ '\\') (hr : c ≠ '\r')
    (hp : isPlain c = true ∨ c = '\n') :
    readBasicLines .text (c :: rest) = (readBasicLines .text rest).map fun (s, after) => (c :: s, after) := by
  rw [readBasicLines, if_pos ⟨hb, hp⟩]
  all_goals simp_all

/-- One or two double quotes before the three that close the text belong to it. -/
private theorem readBasicLines_replicate (h : ∀ us, rest ≠ '"' :: us) {n : Nat} (hn : n ≤ 2) :
    readBasicLines .text (List.replicate n '"' ++ '"' :: '"' :: '"' :: rest) = some (List.replicate n '"', rest) := by
  have hshift : List.replicate n '"' ++ '"' :: '"' :: '"' :: rest = '"' :: '"' :: '"' :: (List.replicate n '"' ++ rest) := by
    match n, hn with
    | 0, _ | 1, _ | 2, _ => rfl
  rw [hshift, readBasicLines_close, closing_replicate h hn]

/-- A text of several lines is read back from its escapes, also where `run` double quotes stand before it. -/
theorem readBasicLines_escapedText (h : ∀ us, rest ≠ '"' :: us) (cs : List Char) {run : Nat} (hrun : run ≤ 2) :
    readBasicLines .text (escapedText true 2 run cs ++ '"' :: '"' :: '"' :: rest) = some (cs, rest) := by
  induction cs generalizing run with
  | nil => exact readBasicLines_replicate h (Nat.zero_le 2)
  | cons c cs ih =>
    by_cases hc : c = '"'
    · subst hc
      by_cases hmost : run < 2
      · rw [escapedText_quote cs hmost]
        by_cases hend : cs = [] ∨ run = 0 ∧ cs = ['"']
        · -- quotes at the end of the text are read together with those that close it
          obtain rfl | ⟨rfl, rfl⟩ := hend
          · exact readBasicLines_replicate h (show 1 ≤ 2 by decide)
          · rw [escapedText_quote [] (by decide)]
            exact readBasicLines_replicate h (show 2 ≤ 2 by decide)
        · obtain ⟨hnil, htwo⟩ := not_or.1 hend
          have hne : ∀ us, escapedText true 2 (run + 1) cs ++ '"' :: '"' :: '"' :: rest ≠ '"' :: '"' :: us := by
            intro us
            obtain ⟨d, ds, rfl⟩ := List.exists_cons_of_ne_nil hnil
            by_cases hd : d = '"' ∧ run = 0
            · obtain ⟨rfl, rfl⟩ := hd
              obtain ⟨e, es, rfl⟩ := List.exists_cons_of_ne_nil fun hds : ds = [] => htwo ⟨rfl, by rw [hds]⟩
              rw [escapedText_quote (e :: es) (by decide), List.cons_append]
              simpa using escapedText_ne_quote es (fun _ => Nat.le_refl 2) _ us
            · exact escapedText_ne_quote ds (fun hq => by have := not_and.1 hd hq; omega) _ _
          rw [List.cons_append, readBasicLines_plain (fun us => by simpa using hne us) (by decide) (by decide)
            (.inl (by decide)), ih hmost]
          rfl
      · rw [escapedText_quote_of_le cs (by omega), List.cons_append, List.cons_append,
          readBasicLines_escape (by decide) rfl, ih (Nat.zero_le 2)]
        rfl
    · rw [escapedText_cons cs hc]
      obtain ⟨he, hb, hr, hp⟩ | ⟨d, e, he, hd, hread⟩ := escaped_eq true c
      · rw [he, List.singleton_append, List.cons_append, readBasicLines_plain (by simp [hc]) hb hr (by simpa using hp),
          ih (Nat.zero_le 2)]
        rfl
      · rw [he, List.cons_append, List.cons_append, List.cons_append, List.cons_append, List.append_assoc,
          readBasicLines_escape hd (hread _), ih (Nat.zero_le 2)]
        rfl

/-! ### Single quotes -/

/-- A text without single quotes and line ends is read back as it is. -/
private theorem readLiteral_append (hq : '\'' ∉ cs) (hp : ∀ c ∈ cs, isPlain c = true) :
    readLiteral (cs ++ '\'' :: rest) = some (cs, rest) := by
  induction cs with
  | nil => rfl
  | cons c cs ih =>
    obtain ⟨hc, hcs⟩ := List.ne_and_not_mem_of_not_mem_cons hq
    rw [List.cons_append, readLiteral, if_pos (hp c (by simp)), ih hcs fun c hc => hp c (by simp [hc])]
    · rfl
    · exact fun e => hc e.symm

private theorem le_longestRun (q : Char) (run longest : Nat) (cs : List Char) :
    max run longest ≤ longestRun q run longest cs := by
  induction cs generalizing run longest with
  | nil => exact Nat.le_refl _
  | cons c cs ih =>
    rw [longestRun]
    split_ifs
    · exact Nat.le_trans (by omega) (ih (run + 1) longest)
    · exact Nat.le_trans (by omega) (ih 0 (max run longest))

/-- One or two single quotes before the three that close the text belong to it. -/
private theorem readLiteralLines_replicate (h : ∀ us, rest ≠ '\'' :: us) {n : Nat} (hn : n ≤ 2) :
    readLiteralLines (List.replicate n '\'' ++ '\'' :: '\'' :: '\'' :: rest) = some (List.replicate n '\'', rest) := by
  have hshift : List.replicate n '\'' ++ '\'' :: '\'' :: '\'' :: rest =
      '\'' :: '\'' :: '\'' :: (List.replicate n '\'' ++ rest) := by
    match n, hn with
    | 0, _ | 1, _ | 2, _ => rfl
  rw [hshift, readLiteralLines, closing_replicate h hn]

private theorem readLiteralLines_plain (hq : ∀ us, c :: rest ≠ '\'' :: '\'' :: '\'' :: us)
    (hp : isPlain c = true ∨ c = '\n') :
    readLiteralLines (c :: rest) = (readLiteralLines rest).map fun (s, after) => (c :: s, after) := by
  have hr : c ≠ '\r' := by
    rintro rfl
    revert hp
    decide
  rw [readLiteralLines, if_pos hp]
  all_goals simp_all

/-- A text of several lines without three single quotes in a row is read back as it is. -/
theorem readLiteralLines_append (h : ∀ us, rest ≠ '\'' :: us) {run longest : Nat}
    (hrun : longestRun '\'' run longest cs < 3) (hp : ∀ c ∈ cs, isPlain c = true ∨ c = '\n') :
    readLiteralLines (cs ++ '\'' :: '\'' :: '\'' :: rest) = some (cs, rest) := by
  induction cs generalizing run longest with
  | nil => exact readLiteralLines_replicate h (Nat.zero_le 2)
  | cons c cs ih =>
    have hplain := hp c (by simp)
    replace ih := fun run longest hrun => @ih run longest hrun fun c hc => hp c (by simp [hc])
    rw [longestRun] at hrun
    by_cases hc : c = '\''
    · subst hc
      rw [if_pos rfl] at hrun
      by_cases hend : cs = [] ∨ cs = ['\'']
      · -- quotes at the end of the text are read together with those that close it
        obtain rfl | rfl := hend
        · exact readLiteralLines_replicate h (show 1 ≤ 2 by decide)
        · exact readLiteralLines_replicate h (show 2 ≤ 2 by decide)
      · obtain ⟨hnil, htwo⟩ := not_or.1 hend
        have hne : ∀ us, cs ++ '\'' :: '\'' :: '\'' :: rest ≠ '\'' :: '\'' :: us := by
          intro us he
          obtain ⟨d, ds, rfl⟩ := List.exists_cons_of_ne_nil hnil
          obtain ⟨rfl, hds⟩ := List.cons.inj he
          obtain ⟨e, es, rfl⟩ := List.exists_cons_of_ne_nil fun hds : ds = [] => htwo (by rw [hds])
          obtain ⟨rfl, -⟩ := List.cons.inj hds
          -- three quotes in a row
          have hlong := le_longestRun '\'' (run + 1 + 1 + 1) longest es
          rw [longestRun, if_pos rfl, longestRun, if_pos rfl] at hrun
          omega
        rw [List.cons_append, readLiteralLines_plain (fun us => by simpa using hne us) hplain, ih _ _ hrun]
        rfl
    · rw [if_neg hc] at hrun
      rw [List.cons_append, readLiteralLines_plain (by simp [hc]) hplain, ih _ _ hrun]
      rfl

end

/-! ### Texts in the quotes they are given -/

private theorem isPlain_of_not_isControl {c : Char} (h : isControl c = false) : isPlain c = true ∨ c = '\n' := by
  unfold isControl at h
  unfold isPlain
  by_cases ht : c = '\t'
  · exact .inl (by simp [ht])
  · by_cases hn : c = '\n'
    · exact .inr hn
    · refine .inl ?_
      simp [ht, hn] at h ⊢
      omega

/-- Single quotes on one line are given to texts that need no escape in them. -/
private theorem of_ofText_eq_literal {cs : List Char} (h : Style.ofText cs = .literal) :
    cs ≠ [] ∧ '\'' ∉ cs ∧ ∀ c ∈ cs, isPlain c = true := by
  unfold Style.ofText at h
  dsimp only at h
  split_ifs at h with h₁ h₂
  simp only [Bool.and_eq_true, Bool.not_eq_true', List.contains_eq_mem, decide_eq_false_iff_not, List.any_eq_false,
    Bool.not_eq_true] at h₁ h₂
  obtain ⟨⟨hline, hcontrol⟩, hquote⟩ := h₂
  refine ⟨?_, hquote, fun c hc => ?_⟩
  · rintro rfl
    exact h₁ (by simp)
  · exact (isPlain_of_not_isControl (hcontrol c hc)).resolve_right fun e => hline (e ▸ hc)

/-- Three single quotes are given to texts that need no escape in them. -/
private theorem of_ofText_eq_literalLines {cs : List Char} (h : Style.ofText cs = .literalLines) :
    longestRun '\'' 0 0 cs < 3 ∧ ∀ c ∈ cs, isPlain c = true ∨ c = '\n' := by
  unfold Style.ofText at h
  dsimp only at h
  split_ifs at h with h₁ h₂ h₃ h₄
  simp only [Bool.and_eq_true, Bool.not_eq_true', List.any_eq_false, Bool.not_eq_true, decide_eq_true_eq] at h₄
  exact ⟨h₄.2, fun c hc => isPlain_of_not_isControl (h₄.1 c hc)⟩

/-- Behind three quotes only a line end is skipped that was written for a text with line ends. -/
private theorem skipFirstLineEnd_start {cs body : List Char}
    (h : '\n' ∉ cs → body.head? ≠ some '\n' ∧ body.head? ≠ some '\r') :
    skipFirstLineEnd ((if cs.contains '\n' then ['\n'] else []) ++ body) = body := by
  by_cases hn : '\n' ∈ cs
  · rw [if_pos (by simpa using hn)]
    rfl
  · obtain ⟨h₁, h₂⟩ := h hn
    rw [if_neg (by simpa using hn), List.nil_append]
    unfold skipFirstLineEnd
    split <;> simp_all

private theorem head?_escapedText (cs rest : List Char) (hn : '\n' ∉ cs) :
    (escapedText true 2 0 cs ++ '"' :: rest).head? ≠ some '\n' ∧
      (escapedText true 2 0 cs ++ '"' :: rest).head? ≠ some '\r' := by
  cases cs with
  | nil => simp [escapedText]
  | cons c cs =>
    have hc : c ≠ '\n' := fun e => hn (by simp [e])
    by_cases hq : c = '"'
    · rw [hq, escapedText_quote cs (by decide)]
      simp
    · rw [escapedText_cons cs hq]
      obtain ⟨he, -, hr, -⟩ | ⟨d, e, he, -⟩ := escaped_eq true c
      · rw [he]
        simp [hc, hr]
      · rw [he]
        simp

private theorem readText_double {us : List Char} (h : ∀ vs, us ≠ '"' :: '"' :: vs) :
    readText ('"' :: us) = readBasic us := by
  unfold readText
  split
  · rename_i he
    exact absurd (List.cons.inj he).2 (h _)
  · rename_i he
    cases he
  · rfl

private theorem readText_single {us : List Char} (h : ∀ vs, us ≠ '\'' :: '\'' :: vs) :
    readText ('\'' :: us) = readLiteral us := by
  unfold readText
  split
  · rename_i he
    cases he
  · rename_i he
    exact absurd (List.cons.inj he).2 (h _)
  · rfl

/-- A text is read back from its quotes at the end of a line. -/
theorem readText_quoted (text : String) (rest : List Char) :
    readText ((quoted text).toList ++ '\n' :: rest) = some (text.toList, '\n' :: rest) := by
  unfold quoted
  rw [String.toList_ofList]
  generalize text.toList = cs
  cases hs : Style.ofText cs with
  | basic =>
    show readText ('"' :: (escapedText false 0 0 cs ++ ['"'] ++ '\n' :: rest)) = _
    rw [List.append_assoc, List.singleton_append, readText_double, readBasic_escapedText]
    cases cs with
    | nil => simp [escapedText]
    | cons c cs => exact fun vs => escapedText_ne_quote cs (fun _ => Nat.le_refl 0) _ _
  | literal =>
    obtain ⟨hne, hq, hp⟩ := of_ofText_eq_literal hs
    show readText ('\'' :: (cs ++ ['\''] ++ '\n' :: rest)) = _
    rw [List.append_assoc, List.singleton_append, readText_single, readLiteral_append hq hp]
    obtain ⟨c, cs, rfl⟩ := List.exists_cons_of_ne_nil hne
    rintro vs he
    exact hq (by rw [(List.cons.inj he).1]; simp)
  | basicLines =>
    show readBasicLines .text (skipFirstLineEnd ((if cs.contains '\n' then ['\n'] else []) ++ escapedText true 2 0 cs ++
      ['"', '"', '"'] ++ '\n' :: rest)) = _
    rw [List.append_assoc, List.append_assoc, List.cons_append, skipFirstLineEnd_start (head?_escapedText cs _)]
    exact readBasicLines_escapedText (by simp) cs (Nat.zero_le 2)
  | literalLines =>
    obtain ⟨hrun, hp⟩ := of_ofText_eq_literalLines hs
    show readLiteralLines (skipFirstLineEnd ((if cs.contains '\n' then ['\n'] else []) ++ cs ++
      ['\'', '\'', '\''] ++ '\n' :: rest)) = _
    rw [List.append_assoc, List.append_assoc, skipFirstLineEnd_start]
    · exact readLiteralLines_append (by simp) hrun hp
    · intro hn
      cases cs with
      | nil => simp
      | cons c cs =>
        have hr : c ≠ '\r' := by
          rintro rfl
          have := hp '\r' (by simp)
          revert this
          decide
        exact ⟨by simpa using fun e : c = '\n' => hn (by simp [e]), by simpa using hr⟩

end GuardedCrud.Toml
