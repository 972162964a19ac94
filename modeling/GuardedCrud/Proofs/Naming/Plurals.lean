import GuardedCrud.Naming.Plural
import GuardedCrud.Proofs.Naming.Letters

/-!
# Plurals differ from their singulars

`plural` changes the end of the last word.  Seen through `letters`, the plural of a name has one of finitely many endings
in place of the one of the singular (`inflects_plural`), so what tells the two apart is checked ending by ending.
-/

namespace GuardedCrud.Naming

open GuardedCrud.Text

/-- The ends of singulars with the ends of their plurals, as letters from `A` to `Z`. -/
def inflections : List (List Char × List Char) :=
  [([], ['S']), ([], ['E', 'S']), (['Y'], ['I', 'E', 'S']), (['I', 'S'], ['E', 'S']), ([], ['L', 'I', 'S', 'T'])] ++
    irregular.map fun (singular, plural) => (letters singular.toList, letters plural.toList)

/-- The letters of the second text are those of the first with the end of a plural for the end of a singular. -/
def Inflects (singular plural : List Char) : Prop :=
  ∃ e ∈ inflections, ∃ stem, letters singular = stem ++ e.1 ∧ letters plural = stem ++ e.2

private theorem Inflects.append_left {singular plural : List Char} (h : Inflects singular plural) (head : List Char) :
    Inflects (head ++ singular) (head ++ plural) := by
  obtain ⟨e, he, stem, hs, hp⟩ := h
  refine ⟨e, he, letters head ++ stem, ?_, ?_⟩
  · rw [letters_append, hs, List.append_assoc]
  · rw [letters_append, hp, List.append_assoc]

/-- A text with more letters at its end. -/
private theorem inflects_append {word suffix : List Char} (h : ([], letters suffix) ∈ inflections) :
    Inflects word (word ++ suffix) :=
  ⟨_, h, letters word, (List.append_nil _).symm, letters_append word suffix⟩

/-- Another end of a text. -/
private theorem inflects_replace {stem old new : List Char} (h : (letters old, letters new) ∈ inflections) :
    Inflects (stem ++ old) (stem ++ new) :=
  ⟨_, h, letters stem, letters_append stem old, letters_append stem new⟩

theorem splitLastWord_append (cs : List Char) : (splitLastWord cs).1 ++ (splitLastWord cs).2 = cs := by
  fun_induction splitLastWord cs with
  | case1 => rfl
  | case2 => rfl
  | case3 => simp_all
  | case4 => simp_all
  | case5 => simp_all

/-! ### The last characters of a word, from its lower case -/

/-- The lower case of the end of a text is the end of its lower case. -/
private theorem exists_lowerAfter_append (before cs tail : List Char) :
    ∃ ds, lowerAfter before (cs ++ tail) = ds ++ lowerAfter (cs.reverse ++ before) tail := by
  induction cs generalizing before with
  | nil => exact ⟨[], rfl⟩
  | cons c cs ih =>
    obtain ⟨ds, hds⟩ := ih (c :: before)
    rw [List.cons_append, lowerAfter, hds, List.reverse_cons, List.append_assoc]
    exact ⟨_, (List.append_assoc _ _ _).symm⟩

/-- The lower case of a text begins with the one of its first character, where `ς` may stand for a sigma. -/
private theorem exists_lowerAfter_cons (before : List Char) (c : Char) (cs : List Char) :
    ∃ piece, lowerAfter before (c :: cs) = piece ++ lowerAfter (c :: before) cs ∧
      (piece = lowerChar c ∨ piece = ['ς']) := by
  refine ⟨_, rfl, ?_⟩
  split
  · rename_i hc
    subst hc
    split
    · exact Or.inr rfl
    · exact Or.inl (by decide)
  · exact Or.inl rfl

private theorem lowerChar_ne_nil (c : Char) : lowerChar c ≠ [] := by
  unfold lowerChar mapCase
  split
  · rename_i ns hns
    obtain ⟨l₁, l₂, hl, -⟩ := List.lookup_eq_some_iff.1 hns
    have hmem : (c.toNat, ns) ∈ lowerExpansions := by rw [hl]; simp
    have hall : ∀ e ∈ lowerExpansions, e.2 ≠ [] := by decide
    simpa using hall _ hmem
  · simp

/-- The final letters that `regularPlural` looks for. -/
def inflectedLetters : List Char := ['i', 's', 'y']

/-- Only a letter itself and its capital have a lower case that ends in one of these letters. -/
private theorem eq_of_lowerChar_concat {c d : Char} (hd : d ∈ inflectedLetters) {ds : List Char}
    (h : lowerChar c = ds ++ [d]) : lowerChar c = [d] ∧ (c = d ∨ c = d.toUpper) := by
  have hlatin : isLatin c = true := by
    have hall : inflectedLetters.all isLatin = true := by decide
    exact isLatin_of_mem_lowerChar (by rw [h]; simp) (List.all_eq_true.1 hall d hd)
  -- over the list of letters, since a quantifier over characters would be decided by trying every one of them
  have hone : ∀ n ∈ runCodes latinRuns.runs, inflectedLetters.all (fun d => (lowerChar (Char.ofNat n)).getLast? = some d →
      lowerChar (Char.ofNat n) = [d] ∧ (Char.ofNat n = d ∨ Char.ofNat n = d.toUpper)) = true := by decide +kernel
  have hall := of_isLatin (P := fun c => inflectedLetters.all (fun d => (lowerChar c).getLast? = some d →
    lowerChar c = [d] ∧ (c = d ∨ c = d.toUpper)) = true) hone hlatin
  refine of_decide_eq_true (List.all_eq_true.1 hall d hd) ?_
  rw [h, List.getLast?_append]
  rfl

/-- A lower case text that ends in one of these letters is written with it at its end. -/
private theorem eq_of_piece {c d : Char} (hd : d ∈ inflectedLetters) {piece ds front : List Char}
    (hp : piece = lowerChar c ∨ piece = ['ς']) (h : front ++ piece = ds ++ [d]) :
    piece = [d] ∧ front = ds ∧ (c = d ∨ c = d.toUpper) := by
  rcases List.eq_nil_or_concat piece with hnil | ⟨init, x, hpiece⟩
  · -- no character has an empty lower case
    rcases hp with hp | hp
    · exact absurd (hp.symm.trans hnil) (lowerChar_ne_nil c)
    · rw [hp] at hnil
      cases hnil
  rw [List.concat_eq_append] at hpiece
  rw [hpiece, ← List.append_assoc] at h
  obtain ⟨hfront, hx⟩ := List.append_inj' h rfl
  obtain rfl : x = d := by simpa using hx
  rcases hp with hp | hp
  · obtain ⟨hone, hc⟩ := eq_of_lowerChar_concat hd (hp.symm.trans hpiece)
    have hinit : init = [] := by
      have := congrArg List.length (hpiece.symm.trans (hp.trans hone))
      simpa using this
    subst hinit
    exact ⟨hpiece, by simpa using hfront, hc⟩
  · -- none of the letters is a sigma
    have hlast := congrArg List.getLast? (hp.symm.trans hpiece)
    rw [List.getLast?_append] at hlast
    obtain rfl : 'ς' = x := by simpa using hlast
    exact absurd hd (by decide)

/-- A word whose lower case ends in `y` ends in `y` or `Y`. -/
theorem exists_of_lowercase_y {word : List Char} (h : ['y'] <:+ lowercase word) :
    ∃ stem c, word = stem ++ [c] ∧ (c = 'y' ∨ c = 'Y') := by
  obtain ⟨ds, hds⟩ := h
  rcases List.eq_nil_or_concat word with rfl | ⟨stem, c, rfl⟩
  · cases ds <;> cases hds
  · obtain ⟨front, hfront⟩ := exists_lowerAfter_append [] stem [c]
    obtain ⟨piece, hpiece, hp⟩ := exists_lowerAfter_cons (stem.reverse ++ []) c []
    rw [lowercase, List.concat_eq_append, hfront, hpiece, lowerAfter, List.append_nil] at hds
    exact ⟨stem, c, List.concat_eq_append, (eq_of_piece (by decide) hp hds.symm).2.2⟩

/-- A word whose lower case ends in `sis` ends in `is`, in either case. -/
theorem exists_of_lowercase_sis {word : List Char} (h : ['s', 'i', 's'] <:+ lowercase word) :
    ∃ stem c d, word = stem ++ [c, d] ∧ (c = 'i' ∨ c = 'I') ∧ (d = 's' ∨ d = 'S') := by
  obtain ⟨ds, hds⟩ := h
  rcases List.eq_nil_or_concat word with rfl | ⟨front, d, rfl⟩
  · cases ds <;> cases hds
  rw [List.concat_eq_append] at hds ⊢
  rcases List.eq_nil_or_concat front with rfl | ⟨stem, c, rfl⟩
  · -- one character alone gives only its `s`
    obtain ⟨piece, hpiece, hp⟩ := exists_lowerAfter_cons [] d []
    rw [lowercase, List.nil_append, hpiece, lowerAfter, List.append_nil] at hds
    have heq : [] ++ piece = (ds ++ ['s', 'i']) ++ ['s'] := by simpa using hds.symm
    have := (eq_of_piece (by decide) hp heq).2.1
    simp at this
  · rw [List.concat_eq_append] at hds ⊢
    obtain ⟨front, hfront⟩ := exists_lowerAfter_append [] stem [c, d]
    obtain ⟨piece, hpiece, hp⟩ := exists_lowerAfter_cons (stem.reverse ++ []) c [d]
    obtain ⟨piece', hpiece', hp'⟩ := exists_lowerAfter_cons (c :: (stem.reverse ++ [])) d []
    have hword : stem ++ [c] ++ [d] = stem ++ [c, d] := by simp
    rw [lowercase, hword, hfront, hpiece, hpiece', lowerAfter, List.append_nil] at hds
    have hlast : (front ++ piece) ++ piece' = (ds ++ ['s', 'i']) ++ ['s'] := by simpa using hds.symm
    obtain ⟨-, hrest, hd⟩ := eq_of_piece (by decide) hp' hlast
    have hmiddle : front ++ piece = (ds ++ ['s']) ++ ['i'] := by simpa using hrest
    obtain ⟨-, -, hc⟩ := eq_of_piece (by decide) hp hmiddle
    exact ⟨stem, c, d, hword, hc, hd⟩

/-! ### The plural of a word -/

/-- The ends of words with the ends of their regular plurals, as they are written. -/
def regularEnds : List (List Char × List Char) :=
  [([], []), ([], ['s']), ([], ['e', 's']), (['y'], ['i', 'e', 's']), (['Y'], ['i', 'e', 's']),
    (['i', 's'], ['e', 's']), (['i', 'S'], ['e', 's']), (['I', 's'], ['e', 's']), (['I', 'S'], ['e', 's'])]

/-- A regular plural is the word with another end, or the word itself. -/
theorem exists_regularEnds (word : List Char) :
    ∃ e ∈ regularEnds, ∃ stem, word = stem ++ e.1 ∧ regularPlural word = stem ++ e.2 := by
  have hmore : ∀ more, ([], more) ∈ regularEnds →
      ∃ e ∈ regularEnds, ∃ stem, word = stem ++ e.1 ∧ word ++ more = stem ++ e.2 := by
    intro more hmem
    exact ⟨([], more), hmem, word, (List.append_nil word).symm, rfl⟩
  unfold regularPlural
  dsimp only
  split
  · rename_i hy
    split
    · exact hmore _ (by decide)
    · obtain ⟨stem, c, rfl, hc⟩ := exists_of_lowercase_y (List.isSuffixOf_iff_suffix.1 hy)
      rw [List.dropLast_concat]
      refine ⟨([c], ['i', 'e', 's']), ?_, stem, rfl, rfl⟩
      rcases hc with rfl | rfl <;> decide
  · split
    · have hsame := hmore [] (by decide)
      rwa [List.append_nil] at hsame
    · split
      · rename_i hsis
        obtain ⟨stem, c, d, rfl, hc, hd⟩ := exists_of_lowercase_sis (List.isSuffixOf_iff_suffix.1 hsis)
        have hdrop : (stem ++ [c, d]).dropLast.dropLast = stem := by simp
        rw [hdrop]
        refine ⟨([c, d], ['e', 's']), ?_, stem, rfl, rfl⟩
        rcases hc with rfl | rfl <;> rcases hd with rfl | rfl <;> decide
      · split <;> exact hmore _ (by decide)

/-- A regular plural has the end of a plural, or is the word itself. -/
private theorem regularPlural_inflects (word : List Char) :
    regularPlural word = word ∨ Inflects word (regularPlural word) := by
  obtain ⟨⟨old, new⟩, he, stem, hword, hplural⟩ := exists_regularEnds word
  have hends : ∀ e ∈ regularEnds, e.2 = e.1 ∨ (letters e.1, letters e.2) ∈ inflections := by decide
  rcases hends _ he with hsame | hmem
  · left
    rw [hplural, hsame, ← hword]
  · right
    rw [hplural, hword]
    exact inflects_replace hmem

private theorem letters_inCaseOf (singular plural : List Char) :
    letters (inCaseOf singular plural) = letters plural := by
  unfold inCaseOf
  split
  · exact letters_uppercase plural
  · split
    · cases plural with
      | nil => rfl
      | cons c rest => rw [letters_append, letters_upperChar, letters_cons]
    · rfl

/-- An irregular plural has the letters that the table gives it. -/
private theorem irregular_inflects {word : List Char} {plural : String}
    (h : irregular.lookup (String.ofList (lowercase word)) = some plural) :
    Inflects word (inCaseOf word plural.toList) := by
  obtain ⟨l₁, l₂, hl, -⟩ := List.lookup_eq_some_iff.1 h
  have hmem : (String.ofList (lowercase word), plural) ∈ irregular := by rw [hl]; simp
  refine ⟨(letters word, letters plural.toList), ?_, [], rfl, letters_inCaseOf word plural.toList⟩
  refine List.mem_append_right _ (List.mem_map.2 ⟨_, hmem, ?_⟩)
  dsimp only
  rw [String.toList_ofList, letters_lowercase]

private theorem pluralWord_inflects (word : List Char) : pluralWord word = word ∨ Inflects word (pluralWord word) := by
  unfold pluralWord
  split
  · rename_i plural h
    exact Or.inr (irregular_inflects h)
  · exact regularPlural_inflects word

/-- The plural of a name has the letters of the name with the end of a plural. -/
theorem inflects_plural {name : String} (h : name ≠ "") : Inflects name.toList (plural name).toList := by
  have hlist : Inflects name.toList (name ++ listSuffix).toList := by
    rw [String.toList_append]
    exact inflects_append (by decide)
  unfold plural
  rw [if_neg (by simpa using h)]
  dsimp only
  split
  · exact hlist
  · split
    · exact hlist
    · rename_i hne
      have hsplit := splitLastWord_append name.toList
      rw [String.toList_ofList]
      rcases pluralWord_inflects (splitLastWord name.toList).2 with hw | hw
      · -- a word that stays as it is gives back the name
        rw [hw, hsplit, String.ofList_toList] at hne
        exact absurd rfl hne
      · have := hw.append_left (splitLastWord name.toList).1
        rwa [hsplit] at this

/-! ### What tells a plural from its singular -/

/-- The end of a plural is another one than that of the singular, at most one letter shorter and at most four longer, and
with one letter more it has no `O` more; and neither it nor `Count` ends the other. -/
private theorem ends_of_mem_inflections {e : List Char × List Char} (he : e ∈ inflections) :
    e.2 ≠ e.1 ∧ (e.1.length ≤ e.2.length + 1 ∧ e.2.length ≤ e.1.length + 4) ∧
      (e.2.length = e.1.length + 1 → e.2.count 'O' = e.1.count 'O') ∧
      ¬ letters "Count".toList <:+ e.2 ∧ ¬ e.2 <:+ letters "Count".toList := by
  have hall : ∀ e ∈ inflections, e.2 ≠ e.1 ∧ (e.1.length ≤ e.2.length + 1 ∧ e.2.length ≤ e.1.length + 4) ∧
      (e.2.length = e.1.length + 1 → e.2.count 'O' = e.1.count 'O') ∧
      ¬ letters "Count".toList <:+ e.2 ∧ ¬ e.2 <:+ letters "Count".toList := by decide
  exact hall e he

theorem Inflects.ne {singular plural : List Char} (h : Inflects singular plural) :
    letters plural ≠ letters singular := by
  obtain ⟨e, he, stem, hs, hp⟩ := h
  rw [hs, hp]
  exact fun heq => (ends_of_mem_inflections he).1 (List.append_cancel_left heq)

theorem Inflects.length_le {singular plural : List Char} (h : Inflects singular plural) :
    (letters singular).length ≤ (letters plural).length + 1 ∧
      (letters plural).length ≤ (letters singular).length + 4 := by
  obtain ⟨e, he, stem, hs, hp⟩ := h
  obtain ⟨-, ⟨hless, hmore⟩, -⟩ := ends_of_mem_inflections he
  rw [hs, hp, List.length_append, List.length_append]
  omega

/-- A plural with just one letter more has no `O` more. -/
theorem Inflects.count_eq {singular plural : List Char} (h : Inflects singular plural)
    (hlen : (letters plural).length = (letters singular).length + 1) :
    (letters plural).count 'O' = (letters singular).count 'O' := by
  obtain ⟨e, he, stem, hs, hp⟩ := h
  rw [hs, hp, List.length_append, List.length_append] at hlen
  have hend := (ends_of_mem_inflections he).2.2.1 (by omega)
  rw [hs, hp, List.count_append, List.count_append, hend]

/-- No plural ends in `count`. -/
theorem Inflects.not_count {singular plural : List Char} (h : Inflects singular plural) :
    ¬ letters "Count".toList <:+ letters plural := by
  obtain ⟨e, he, stem, -, hp⟩ := h
  obtain ⟨-, -, -, hlonger, hshorter⟩ := ends_of_mem_inflections he
  rw [hp]
  intro hcount
  rcases List.suffix_or_suffix_of_suffix hcount (List.suffix_append stem e.2) with hin | hin
  · exact hlonger hin
  · exact hshorter hin

end GuardedCrud.Naming
