import GuardedCrud.Proofs.Text.Characters
import GuardedCrud.Schema.Token.Lexer

/-!
# The forms of a lexeme

`Lexes c cs x rest` lists what can stand at the front of `c :: cs`, one rule for each form, and holds exactly of what
`lexeme` gives (`lexes_iff`).  From the rules:

* a lexeme leaves a part of the text after its first character (`Lexes.suffix`);
* a name is written in characters of names (`Lexes.name_chars`).
-/

namespace GuardedCrud.Schema

open GuardedCrud.Text

/-- The lexeme `x` stands at the front of `c :: cs`, before the text `rest`. -/
inductive Lexes : Char → List Char → Lexeme → List Char → Prop
  | blank {c cs} : isBlank c = true → Lexes c cs .gap cs
  | doc (text) :
    Lexes '/' ('/' :: '/' :: text) (.token (.doc (String.ofList (trim (text.takeWhile onLine)))))
      (text.dropWhile onLine)
  | comment {text} : text.head? ≠ some '/' → Lexes '/' ('/' :: text) .gap (text.dropWhile onLine)
  | slash {cs} : cs.head? ≠ some '/' → Lexes '/' cs .stray cs
  | quoted {cs s rest} : readQuoted cs = some (s, rest) → Lexes '"' cs (.token (.quoted (String.ofList s))) rest
  | unclosed {cs} : readQuoted cs = none → Lexes '"' cs .unclosed cs
  | doubleAt (cs) : Lexes '@' ('@' :: cs) (.token (.mark .doubleAt)) cs
  | at {cs} : cs.head? ≠ some '@' → Lexes '@' cs (.token (.mark .at)) cs
  | punctuation {c cs t} : punctuation? c = some t → Lexes c cs (.token t) cs
  | name {c cs} : startsName c = true →
    Lexes c cs (.token (.ident (String.ofList (c :: cs.takeWhile continuesName)))) (cs.dropWhile continuesName)
  | number {c cs} : startsName c = false → startsNumber c cs = true →
    Lexes c cs (.token (.number (String.ofList (c :: cs.takeWhile continuesNumber)))) (cs.dropWhile continuesNumber)
  | stray {c cs} : isBlank c = false → c ≠ '/' → c ≠ '"' → c ≠ '@' → punctuation? c = none →
    startsName c = false → startsNumber c cs = false → Lexes c cs .stray cs

theorem lexes_lexeme (c : Char) (cs : List Char) : Lexes c cs (lexeme c cs).1 (lexeme c cs).2 := by
  unfold lexeme
  split
  · exact .blank ‹_›
  split
  · subst_vars
    split
    · exact .doc _
    · rename_i rest h
      refine .comment fun hr => ?_
      obtain ⟨r, rfl⟩ := List.head?_eq_some_iff.1 hr
      exact h r rfl
    · rename_i h
      refine .slash fun hr => ?_
      obtain ⟨r, rfl⟩ := List.head?_eq_some_iff.1 hr
      exact h r rfl
  split
  · subst_vars
    split
    · exact .quoted ‹_›
    · exact .unclosed ‹_›
  split
  · subst_vars
    split
    · exact .doubleAt _
    · rename_i h
      refine .at fun hr => ?_
      obtain ⟨r, rfl⟩ := List.head?_eq_some_iff.1 hr
      exact h r rfl
  split
  · exact .punctuation ‹_›
  split
  · exact .name ‹_›
  split
  · exact .number (by simpa using ‹¬startsName c = true›) ‹_›
  · exact .stray (by simpa using ‹¬isBlank c = true›) ‹_› ‹_› ‹_› ‹_› (by simpa using ‹¬startsName c = true›)
      (by simpa using ‹¬startsNumber c cs = true›)

/-- The ASCII digits, one by one. -/
theorem mem_digits {c : Char} (h : isAsciiDigit c = true) :
    c ∈ ['0', '1', '2', '3', '4', '5', '6', '7', '8', '9'] := by
  obtain ⟨h0, h9⟩ := isAsciiDigit_bounds h
  have hc : c = Char.ofNat c.toNat := (Char.ofNat_toNat c).symm
  generalize c.toNat = n at h0 h9 hc
  have : n = 48 ∨ n = 49 ∨ n = 50 ∨ n = 51 ∨ n = 52 ∨ n = 53 ∨ n = 54 ∨ n = 55 ∨ n = 56 ∨ n = 57 := by omega
  rcases this with rfl | rfl | rfl | rfl | rfl | rfl | rfl | rfl | rfl | rfl <;> subst hc <;> decide

/-- The characters that brackets and marks are written with. -/
private theorem mem_of_punctuation {c : Char} {t : Token} (h : punctuation? c = some t) :
    c ∈ ['\x7b', '\x7d', '(', ')', '[', ']', ',', ':', '?', '=', '.'] := by
  unfold punctuation? at h
  split at h <;> first | decide | cases h

private theorem of_punctuation {c : Char} {t : Token} (h : punctuation? c = some t) :
    isBlank c = false ∧ c ≠ '/' ∧ c ≠ '"' ∧ c ≠ '@' ∧ startsName c = false := by
  have hm := mem_of_punctuation h
  simp only [List.mem_cons, List.not_mem_nil, or_false] at hm
  rcases hm with rfl | rfl | rfl | rfl | rfl | rfl | rfl | rfl | rfl | rfl | rfl <;> decide

theorem of_startsName {c : Char} (h : startsName c = true) :
    isBlank c = false ∧ c ≠ '/' ∧ c ≠ '"' ∧ c ≠ '@' ∧ punctuation? c = none := by
  refine ⟨?_, ?_, ?_, ?_, ?_⟩
  · rw [← Bool.not_eq_true]
    intro hb
    have hn := isAlphanumeric_of_isBlank hb
    simp only [isAlphanumeric, Bool.or_eq_false_iff] at hn
    simp only [startsName, hn.1, Bool.false_or, beq_iff_eq] at h
    subst h
    revert hb; decide
  · rintro rfl; revert h; decide
  · rintro rfl; revert h; decide
  · rintro rfl; revert h; decide
  · cases hp : punctuation? c with
    | none => rfl
    | some t => simp [(of_punctuation hp).2.2.2.2] at h

theorem of_startsNumber {c : Char} {cs : List Char} (h : startsNumber c cs = true) :
    isBlank c = false ∧ c ≠ '/' ∧ c ≠ '"' ∧ c ≠ '@' ∧ punctuation? c = none := by
  have hm : c ∈ ['0', '1', '2', '3', '4', '5', '6', '7', '8', '9'] ∨ c = '-' := by
    simp only [startsNumber, Bool.or_eq_true, Bool.and_eq_true, beq_iff_eq] at h
    exact h.imp mem_digits (·.1)
  simp only [List.mem_cons, List.not_mem_nil, or_false] at hm
  rcases hm with (rfl | rfl | rfl | rfl | rfl | rfl | rfl | rfl | rfl | rfl) | rfl <;> decide

theorem lexeme_of_lexes {c : Char} {cs rest : List Char} {x : Lexeme} (h : Lexes c cs x rest) :
    lexeme c cs = (x, rest) := by
  have hslash : isBlank '/' = false := by decide
  have hquote : isBlank '"' = false := by decide
  have hat : isBlank '@' = false := by decide
  cases h with
  | blank h => simp [lexeme, h]
  | doc text => simp [lexeme, hslash]
  | comment h =>
    rename_i text
    cases text with
    | nil => simp [lexeme, hslash]
    | cons d text =>
      have hd : d ≠ '/' := by simpa using h
      simp [lexeme, hslash, hd]
  | slash h =>
    cases cs with
    | nil => simp [lexeme, hslash]
    | cons d cs =>
      have hd : d ≠ '/' := by simpa using h
      simp [lexeme, hslash, hd]
  | quoted h => simp [lexeme, hquote, h]
  | unclosed h => simp [lexeme, hquote, h]
  | doubleAt => simp [lexeme, hat]
  | «at» h =>
    cases cs with
    | nil => simp [lexeme, hat]
    | cons d cs =>
      have hd : d ≠ '@' := by simpa using h
      simp [lexeme, hat, hd]
  | punctuation h =>
    obtain ⟨hb, h1, h2, h3, -⟩ := of_punctuation h
    simp [lexeme, hb, h1, h2, h3, h]
  | name h =>
    obtain ⟨hb, h1, h2, h3, hp⟩ := of_startsName h
    simp [lexeme, hb, h1, h2, h3, hp, h]
  | number hn h =>
    obtain ⟨hb, h1, h2, h3, hp⟩ := of_startsNumber h
    simp [lexeme, hb, h1, h2, h3, hp, hn, h]
  | stray hb h1 h2 h3 hp hn h => simp [lexeme, hb, h1, h2, h3, hp, hn, h]

theorem lexes_iff {c : Char} {cs rest : List Char} {x : Lexeme} : Lexes c cs x rest ↔ lexeme c cs = (x, rest) := by
  refine ⟨lexeme_of_lexes, fun h => ?_⟩
  have := lexes_lexeme c cs
  rwa [h] at this

/-! ### Quoted texts -/

private theorem readQuoted_cons {c : Char} {cs : List Char} (hq : c ≠ '"') (hb : c ≠ '\\') (hn : c ≠ '\n') :
    readQuoted (c :: cs) = (readQuoted cs).map fun (s, after) => (c :: s, after) := by
  rw [readQuoted.eq_def]
  split
  · cases ‹c :: cs = []›
  · cases ‹c :: cs = _›; exact absurd rfl hq
  · cases ‹c :: cs = _›; exact absurd rfl hb
  · cases ‹c :: cs = _›
    rw [if_neg hn]

/-- A quoted text and its quote stand in front of what follows it. -/
theorem readQuoted_eq {cs s rest : List Char} (h : readQuoted cs = some (s, rest)) : cs = s ++ '"' :: rest := by
  fun_induction readQuoted cs generalizing s rest with
  | case1 => cases h
  | case2 r =>
    cases h
    rfl
  | case3 c r ih =>
    obtain ⟨⟨s', r'⟩, h', e⟩ := Option.map_eq_some_iff.1 h
    cases e
    rw [ih h']
    rfl
  | case4 => cases h
  | case5 c r _ _ _ ih =>
    obtain ⟨⟨s', r'⟩, h', e⟩ := Option.map_eq_some_iff.1 h
    cases e
    rw [ih h']
    rfl

/-- A quoted text is read off before its quote, whatever follows. -/
theorem readQuoted_content {cs s rest : List Char} (h : readQuoted cs = some (s, rest)) (more : List Char) :
    readQuoted (s ++ '"' :: more) = some (s, more) := by
  fun_induction readQuoted cs generalizing s rest with
  | case1 => cases h
  | case2 r =>
    cases h
    rfl
  | case3 c r ih =>
    obtain ⟨⟨s', r'⟩, h', e⟩ := Option.map_eq_some_iff.1 h
    cases e
    simp [readQuoted, ih h']
  | case4 => cases h
  | case5 c r hq hb hn ih =>
    obtain ⟨⟨s', r'⟩, h', e⟩ := Option.map_eq_some_iff.1 h
    cases e
    have hb' : c ≠ '\\' := by
      rintro rfl
      cases r with
      | nil => cases h'
      | cons d r => exact hb d r rfl rfl
    rw [List.cons_append, readQuoted_cons hq hb' hn, ih h']
    rfl

/-- What follows a quoted text does not change it. -/
theorem readQuoted_append {cs s rest : List Char} (h : readQuoted cs = some (s, rest)) (more : List Char) :
    readQuoted (cs ++ more) = some (s, rest ++ more) := by
  have hcontent := readQuoted_content h (rest ++ more)
  rwa [← List.cons_append, ← List.append_assoc, ← readQuoted_eq h] at hcontent

private theorem readQuoted_suffix {cs s rest : List Char} (h : readQuoted cs = some (s, rest)) : rest <:+ cs := by
  rw [readQuoted_eq h]
  exact (List.suffix_cons _ _).trans (List.suffix_append _ _)

/-- A text that its line leaves unclosed can only be closed later by escaping the line end. -/
theorem mem_of_readQuoted_append {cs rest s after : List Char} (hcs : '\n' ∉ cs) (h : readQuoted cs = none)
    (h' : readQuoted (cs ++ '\n' :: rest) = some (s, after)) : '\n' ∈ s := by
  fun_induction readQuoted cs generalizing s after with
  | case1 => cases h'
  | case2 => cases h
  | case3 c r ih =>
    simp only [List.cons_append, readQuoted, Option.map_eq_some_iff] at h'
    obtain ⟨⟨s', r'⟩, h', e⟩ := h'
    cases e
    have := ih (by simp_all) (by simpa using h) h'
    simp [this]
  | case4 => simp at hcs
  | case5 c r hq hb hn ih =>
    by_cases hc : c = '\\'
    · subst hc
      cases r with
      -- the backslash ends the line, so it takes the line feed into the text
      | nil =>
        simp only [List.cons_append, List.nil_append, readQuoted, Option.map_eq_some_iff] at h'
        obtain ⟨⟨s', r'⟩, h', e⟩ := h'
        cases e
        simp
      | cons d r => exact absurd rfl (hb d r rfl)
    · rw [List.cons_append, readQuoted_cons hq hc hn, Option.map_eq_some_iff] at h'
      obtain ⟨⟨s', r'⟩, h', e⟩ := h'
      cases e
      have := ih (by simp_all) (by simpa using h) h'
      simp [this]

private theorem readQuoted_eq_none {cs : List Char} (h : '"' ∉ cs) : readQuoted cs = none := by
  fun_induction readQuoted cs with
  | case1 => rfl
  | case2 => simp at h
  | case3 c r ih => simp [ih (by simp_all)]
  | case4 => rfl
  | case5 c r _ _ _ ih => simp [ih (by simp_all)]

/-- Without a further quote an unclosed text stays unclosed. -/
theorem readQuoted_append_eq_none {cs more : List Char} (h : readQuoted cs = none) (hm : '"' ∉ more) :
    readQuoted (cs ++ more) = none := by
  fun_induction readQuoted cs with
  | case1 => exact readQuoted_eq_none hm
  | case2 => cases h
  | case3 c r ih => simp [readQuoted, ih (by simpa using h)]
  | case4 r => rw [List.cons_append, readQuoted.eq_def]; simp
  | case5 c r hq hb hn ih =>
    by_cases hc : c = '\\'
    · subst hc
      cases r with
      | nil =>
        cases more with
        | nil => rfl
        -- the escaped character is taken from what follows
        | cons d more =>
          have hmore : readQuoted more = none := readQuoted_eq_none (by simp_all)
          simp [readQuoted, hmore]
      | cons d r => exact absurd rfl (hb d r rfl)
    · rw [List.cons_append, readQuoted_cons hq hc hn, ih (by simpa using h)]
      rfl

/-- A line feed in a quoted text stands behind a backslash. -/
theorem infix_of_readQuoted {cs s rest : List Char} (h : readQuoted cs = some (s, rest)) (hs : '\n' ∈ s) :
    ['\\', '\n'] <:+: cs := by
  fun_induction readQuoted cs generalizing s rest with
  | case1 => cases h
  | case2 => cases h; simp at hs
  | case3 c r ih =>
    obtain ⟨⟨s', r'⟩, h', e⟩ := Option.map_eq_some_iff.1 h
    cases e
    -- only this case takes a line feed, behind the backslash it began with
    by_cases hc : c = '\n'
    · subst hc
      exact ⟨[], r, rfl⟩
    · exact ((ih h' (by simpa [Ne.symm hc] using hs)).trans (List.suffix_cons _ _).isInfix).trans
        (List.suffix_cons _ _).isInfix
  | case4 => cases h
  | case5 c r hq hb hn ih =>
    obtain ⟨⟨s', r'⟩, h', e⟩ := Option.map_eq_some_iff.1 h
    cases e
    exact (ih h' (by simpa [Ne.symm hn] using hs)).trans (List.suffix_cons _ _).isInfix

/-! ### What a lexeme leaves -/

theorem Lexes.suffix {c : Char} {cs rest : List Char} {x : Lexeme} (h : Lexes c cs x rest) : rest <:+ cs := by
  cases h with
  | blank => exact List.suffix_refl _
  | doc text => exact ((List.dropWhile_suffix _).trans (List.suffix_cons _ _)).trans (List.suffix_cons _ _)
  | comment => exact (List.dropWhile_suffix _).trans (List.suffix_cons _ _)
  | slash => exact List.suffix_refl _
  | quoted h => exact readQuoted_suffix h
  | unclosed => exact List.suffix_refl _
  | doubleAt cs => exact List.suffix_cons _ _
  | «at» => exact List.suffix_refl _
  | punctuation => exact List.suffix_refl _
  | name => exact List.dropWhile_suffix _
  | number => exact List.dropWhile_suffix _
  | stray => exact List.suffix_refl _

theorem continuesName_of_startsName {c : Char} (h : startsName c = true) : continuesName c = true := by
  simp only [startsName, continuesName, isAlphanumeric, Bool.or_eq_true] at h ⊢
  rcases h with h | h
  · exact Or.inl (Or.inl h)
  · exact Or.inr h

/-- A name goes from its first character as far as characters of names do. -/
private theorem Lexes.of_ident {c : Char} {cs rest : List Char} {name : String}
    (h : Lexes c cs (.token (.ident name)) rest) :
    startsName c = true ∧ name.toList = c :: cs.takeWhile continuesName ∧ rest = cs.dropWhile continuesName := by
  generalize ht : Token.ident name = t at h
  cases h with
  | name hs =>
    cases ht
    exact ⟨hs, String.toList_ofList, rfl⟩
  | punctuation hp =>
    unfold punctuation? at hp
    split at hp <;> cases hp <;> cases ht
  | _ => cases ht

/-- A name is written in the text as it is. -/
theorem Lexes.name_append {c : Char} {cs rest : List Char} {name : String}
    (h : Lexes c cs (.token (.ident name)) rest) : name.toList ++ rest = c :: cs := by
  obtain ⟨-, hname, hrest⟩ := h.of_ident
  rw [hname, hrest, List.cons_append, List.takeWhile_append_dropWhile]

theorem Lexes.name_chars {c : Char} {cs rest : List Char} {name : String}
    (h : Lexes c cs (.token (.ident name)) rest) :
    name.toList ≠ [] ∧ ∀ d ∈ name.toList, continuesName d = true := by
  obtain ⟨hs, hname, -⟩ := h.of_ident
  rw [hname]
  refine ⟨List.cons_ne_nil _ _, List.forall_mem_cons.2 ⟨continuesName_of_startsName hs, fun d hd => ?_⟩⟩
  exact List.mem_takeWhile_imp hd

end GuardedCrud.Schema
