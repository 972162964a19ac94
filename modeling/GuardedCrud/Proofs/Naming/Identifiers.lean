import GuardedCrud.Proofs.Naming.Plurals

/-!
# Identifiers in camel case

Camel case leaves out the marks of a name, also those that it begins with.  So a name of ASCII in camel case is an
identifier just if it has a letter or a digit and no digit is the first of them (`isIdentifier_camelCase_iff`).  The
plural of a name has a letter, and a digit leads it just if one leads the name (`leadsWithDigit_plural`).
-/

namespace GuardedCrud.Text

/-! ### Characters of ASCII -/

/-- The character belongs to ASCII. -/
def isAscii (c : Char) : Bool := c.toNat < 128

/-- The characters of ASCII, one by one, decide what holds of all of them. -/
private theorem of_isAscii {P : Char → Prop} (h : ∀ n < 128, P (Char.ofNat n)) {c : Char} (hc : isAscii c = true) :
    P c := by
  have := h c.toNat (of_decide_eq_true hc)
  rwa [Char.ofNat_toNat] at this

private theorem isAscii_of_isAlphanum {c : Char} (h : c.isAlphanum = true) : isAscii c = true := by
  have hbound : ∀ d : Char, d.toNat < 128 → c.val ≤ d.val → isAscii c = true := fun d hlt hle =>
    decide_eq_true (Nat.lt_of_le_of_lt (UInt32.le_iff_toNat_le.1 hle) hlt)
  rcases Bool.or_eq_true_iff.1 h with halpha | hdigit
  · rcases Bool.or_eq_true_iff.1 halpha with hupper | hlower
    · exact hbound 'Z' (by decide) (of_decide_eq_true hupper).2
    · exact hbound 'z' (by decide) (of_decide_eq_true (Bool.and_eq_true_iff.1 hlower).2)
  · exact hbound '9' (by decide) (of_decide_eq_true (Bool.and_eq_true_iff.1 hdigit).2)

section

variable {c : Char} (h : isAscii c = true)

include h

private theorem lowerChar_of_isAscii : lowerChar c = [c.toLower] :=
  of_isAscii (P := fun c => lowerChar c = [c.toLower]) (by decide +kernel) h

private theorem upperChar_of_isAscii : upperChar c = [c.toUpper] :=
  of_isAscii (P := fun c => upperChar c = [c.toUpper]) (by decide +kernel) h

theorem isAlphanumeric_of_isAscii : isAlphanumeric c = c.isAlphanum :=
  of_isAscii (P := fun c => isAlphanumeric c = c.isAlphanum) (by decide) h

/-- The case of a character does not tell whether it is a letter or a digit. -/
private theorem class_of_isAscii : (c.toLower.isAlpha = c.isAlpha ∧ c.toLower.isAlphanum = c.isAlphanum) ∧
    (c.toUpper.isAlpha = c.isAlpha ∧ c.toUpper.isAlphanum = c.isAlphanum) :=
  of_isAscii (P := fun c => (c.toLower.isAlpha = c.isAlpha ∧ c.toLower.isAlphanum = c.isAlphanum) ∧
    (c.toUpper.isAlpha = c.isAlpha ∧ c.toUpper.isAlphanum = c.isAlphanum)) (by decide) h

end

private theorem lowercase_of_isAscii {cs : List Char} (h : cs.all isAscii = true) :
    lowercase cs = cs.map Char.toLower := by
  have hafter : ∀ before, lowerAfter before cs = cs.map Char.toLower := by
    induction cs with
    | nil => exact fun _ => rfl
    | cons c cs ih =>
      obtain ⟨hc, hcs⟩ := Bool.and_eq_true_iff.1 h
      have hsigma : c ≠ 'Σ' := by
        rintro rfl
        revert hc; decide
      intro before
      rw [lowerAfter, if_neg hsigma, lowerChar_of_isAscii hc, ih hcs, List.map_cons, List.singleton_append]
  exact hafter []

/-! ### The first letter or digit -/

/-- The first letter or digit of a text. -/
def firstAlphanum (cs : List Char) : Option Char := cs.find? Char.isAlphanum

/-- A digit stands before all letters of the text. -/
def leadsWithDigit (cs : List Char) : Bool := (firstAlphanum cs).any Char.isDigit

/-- The text in front decides, or else the texts behind it do. -/
private theorem leadsWithDigit_append_congr (cs : List Char) {ds es : List Char}
    (h : leadsWithDigit ds = leadsWithDigit es) : leadsWithDigit (cs ++ ds) = leadsWithDigit (cs ++ es) := by
  unfold leadsWithDigit firstAlphanum at h ⊢
  rw [List.find?_append, List.find?_append]
  cases cs.find? Char.isAlphanum with
  | none => exact h
  | some c => rfl

private theorem leadsWithDigit_append {cs ds : List Char} (h : leadsWithDigit ds = false) :
    leadsWithDigit (cs ++ ds) = leadsWithDigit cs := by
  have hnil : leadsWithDigit ds = leadsWithDigit [] := h
  rw [leadsWithDigit_append_congr cs hnil, List.append_nil]

private theorem leadsWithDigit_eq_false {cs : List Char} (h : cs.all Char.isAlpha = true) :
    leadsWithDigit cs = false := by
  unfold leadsWithDigit firstAlphanum
  cases hf : cs.find? Char.isAlphanum with
  | none => rfl
  | some c =>
    have hc := List.all_eq_true.1 h c (List.mem_of_find?_eq_some hf)
    exact of_isAscii (P := fun c => c.isAlpha = true → c.isDigit = false) (by decide)
      (isAscii_of_isAlphanum (List.find?_some hf)) hc

end GuardedCrud.Text

namespace GuardedCrud.Naming

open GuardedCrud.Text

/-! ### Identifiers -/

/-- The character may begin an identifier. -/
def startsIdentifier (c : Char) : Bool := c.isAlpha || c == '_' || c == '$'

/-- The character may go on with an identifier. -/
def continuesIdentifier (c : Char) : Bool := c.isAlphanum || c == '_' || c == '$'

/-- The text is a letter, `_` or `$`, and then letters, digits, `_` and `$`. -/
def isIdentifier (s : String) : Bool :=
  match s.toList with
  | [] => false
  | c :: cs => startsIdentifier c && cs.all continuesIdentifier

theorem isIdentifier_append {s t : String} (hs : s ≠ "") (ht : t.toList.all continuesIdentifier = true) :
    isIdentifier (s ++ t) = isIdentifier s := by
  unfold isIdentifier
  rw [String.toList_append]
  cases hl : s.toList with
  | nil => exact absurd (String.toList_eq_nil_iff.1 hl) hs
  | cons c cs =>
    show (startsIdentifier c && (cs ++ t.toList).all continuesIdentifier) = _
    rw [List.all_append, ht, Bool.and_true]

/-- A text of letters and digits is an identifier if it begins with a letter. -/
private theorem isIdentifier_of_alphanum {s : String} (h : ∀ c ∈ s.toList, c.isAlphanum = true) :
    isIdentifier s = s.toList.head?.any Char.isAlpha := by
  unfold isIdentifier
  cases hl : s.toList with
  | nil => rfl
  | cons c cs =>
    rw [hl] at h
    have hrest : cs.all continuesIdentifier = true := by
      refine List.all_eq_true.2 fun d hd => ?_
      rw [continuesIdentifier, h d (List.mem_cons_of_mem _ hd)]
      rfl
    have hstart : startsIdentifier c = c.isAlpha :=
      of_isAscii (P := fun c => c.isAlphanum = true → startsIdentifier c = c.isAlpha) (by decide)
        (isAscii_of_isAlphanum (h c List.mem_cons_self)) (h c List.mem_cons_self)
    show (startsIdentifier c && cs.all continuesIdentifier) = c.isAlpha
    rw [hrest, hstart, Bool.and_true]

/-! ### Words -/

/-- The words behind the first are not empty, and the first is not unless it is cut after a capital. -/
private theorem ne_nil_of_mem_caseWords (mode : CaseMode) (cs : List Char) :
    (∀ w ∈ (caseWords mode cs).tail, w ≠ []) ∧ (mode ≠ .upper → ∀ w ∈ caseWords mode cs, w ≠ []) := by
  have hfirst : ∀ (c : Char) {pieces : List (List Char)}, (∀ w ∈ pieces.tail, w ≠ []) →
      (∀ w ∈ (consFirst c pieces).tail, w ≠ []) ∧ ∀ w ∈ consFirst c pieces, w ≠ [] := by
    intro c pieces h
    cases pieces with
    | nil => simp [consFirst]
    | cons piece pieces => exact ⟨h, List.forall_mem_cons.2 ⟨by simp, h⟩⟩
  -- the only empty word is cut in `case4`, and the character before it fills it again
  fun_induction caseWords mode cs with
  | case1 => simp
  | case2 => simp
  | case3 mode c next rest _ ih =>
    have hrest := ih.2 (by decide)
    exact ⟨hrest, fun _ => List.forall_mem_cons.2 ⟨by simp, hrest⟩⟩
  | case4 mode c next rest _ hcut ih => exact ⟨(hfirst c ih.1).2, fun hmode => absurd hcut.1 hmode⟩
  | case5 mode c next rest _ _ ih => exact ⟨(hfirst c ih.1).1, fun _ => (hfirst c ih.1).2⟩

private theorem ne_nil_of_mem_words {cs w : List Char} (h : w ∈ words cs) : w ≠ [] := by
  obtain ⟨piece, -, hw⟩ := List.mem_flatMap.1 h
  exact (ne_nil_of_mem_caseWords .unset piece).2 (by decide) w hw

/-! ### Camel case -/

section

variable {cs : List Char} (h : cs.all isAscii = true)

include h

private theorem flatten_words_of_isAscii : (words cs).flatten = cs.filter Char.isAlphanum := by
  rw [flatten_words]
  exact List.filter_congr fun c hc => isAlphanumeric_of_isAscii (List.all_eq_true.1 h c hc)

private theorem lowerWord_of_isAscii : lowerWord cs = cs.map Char.toLower := by
  fun_induction lowerWord cs with
  | case1 => rfl
  | case2 => exact absurd h (by decide)
  | case3 c rest _ ih =>
    obtain ⟨hc, hrest⟩ := Bool.and_eq_true_iff.1 h
    rw [lowerChar_of_isAscii hc, ih hrest, List.map_cons, List.singleton_append]

private theorem all_isAlphanum_lowerWord (hcs : cs.all Char.isAlphanum = true) :
    (lowerWord cs).all Char.isAlphanum = true := by
  rw [lowerWord_of_isAscii h, List.all_map]
  refine List.all_eq_true.2 fun c hc => ?_
  rw [Function.comp_apply, (class_of_isAscii (List.all_eq_true.1 h c hc)).1.2]
  exact List.all_eq_true.1 hcs c hc

theorem all_isAlphanum_capitalWord (hcs : cs.all Char.isAlphanum = true) :
    (capitalWord cs).all Char.isAlphanum = true := by
  cases cs with
  | nil => rfl
  | cons c cs =>
    obtain ⟨hc, hrest⟩ := Bool.and_eq_true_iff.1 h
    obtain ⟨halnum, hcs⟩ := Bool.and_eq_true_iff.1 hcs
    rw [capitalWord, List.all_append, upperChar_of_isAscii hc, all_isAlphanum_lowerWord hrest hcs, Bool.and_true]
    simpa [(class_of_isAscii hc).2.2] using halnum

end

section

variable {name : String} (h : name.toList.all isAscii = true)

include h

theorem all_isAlphanum_of_mem_words {w : List Char} (hw : w ∈ words name.toList) :
    w.all isAscii = true ∧ w.all Char.isAlphanum = true := by
  have hmem : ∀ c ∈ w, c ∈ name.toList.filter Char.isAlphanum := by
    intro c hc
    rw [← flatten_words_of_isAscii h]
    exact List.mem_flatten.2 ⟨w, hw, hc⟩
  have halnum : ∀ c ∈ w, c.isAlphanum = true := fun c hc => (List.mem_filter.1 (hmem c hc)).2
  exact ⟨List.all_eq_true.2 fun c hc => isAscii_of_isAlphanum (halnum c hc), List.all_eq_true.2 halnum⟩

private theorem isAlphanum_of_mem_camelCase {d : Char} (hd : d ∈ (camelCase name).toList) : d.isAlphanum = true := by
  rw [camelCase, String.toList_ofList] at hd
  cases hw : words name.toList with
  | nil =>
    rw [hw] at hd
    cases hd
  | cons first rest =>
    rw [hw] at hd
    rcases List.mem_append.1 hd with hd | hd
    · obtain ⟨hascii, halnum⟩ := all_isAlphanum_of_mem_words h (w := first) (by rw [hw]; simp)
      exact List.all_eq_true.1 (all_isAlphanum_lowerWord hascii halnum) d hd
    · obtain ⟨w, hmem, hd⟩ := List.mem_flatMap.1 hd
      obtain ⟨hascii, halnum⟩ := all_isAlphanum_of_mem_words h (w := w) (by rw [hw]; simp [hmem])
      exact List.all_eq_true.1 (all_isAlphanum_capitalWord hascii halnum) d hd

/-- Camel case begins with the first letter or digit of the name. -/
private theorem head?_camelCase : (camelCase name).toList.head? = (firstAlphanum name.toList).map Char.toLower := by
  have hflatten := flatten_words_of_isAscii h
  rw [camelCase, String.toList_ofList, firstAlphanum, ← List.head?_filter, ← hflatten]
  cases hw : words name.toList with
  | nil => rfl
  | cons first rest =>
    have hfirst : first ∈ words name.toList := by rw [hw]; simp
    obtain ⟨c, w, rfl⟩ := List.exists_cons_of_ne_nil (ne_nil_of_mem_words hfirst)
    show (lowerWord (c :: w) ++ rest.flatMap capitalWord).head? = some c.toLower
    rw [lowerWord_of_isAscii (all_isAlphanum_of_mem_words h hfirst).1]
    rfl

theorem isIdentifier_camelCase_iff : isIdentifier (camelCase name) = true ↔
    leadsWithDigit name.toList = false ∧ name.toList.any Char.isAlphanum = true := by
  rw [isIdentifier_of_alphanum fun _ => isAlphanum_of_mem_camelCase h, head?_camelCase h, leadsWithDigit]
  cases hf : firstAlphanum name.toList with
  | none =>
    have hnone : name.toList.any Char.isAlphanum = false := by simpa [firstAlphanum] using hf
    rw [hnone]
    simp
  | some c =>
    have halnum : c.isAlphanum = true := List.find?_some hf
    have hascii := isAscii_of_isAlphanum halnum
    have hletter : c.isAlpha = true ↔ c.isDigit = false :=
      of_isAscii (P := fun c => c.isAlphanum = true → (c.isAlpha = true ↔ c.isDigit = false)) (by decide) hascii halnum
    show c.toLower.isAlpha = true ↔ c.isDigit = false ∧ _
    rw [(class_of_isAscii hascii).1.1, hletter]
    exact (and_iff_left (List.any_eq_true.2 ⟨c, List.mem_of_find?_eq_some hf, halnum⟩)).symm

end

/-! ### Plurals -/

private theorem all_isAlpha_inCaseOf (singular : List Char) {plural : List Char} (h : plural.all Char.isAlpha = true) :
    (inCaseOf singular plural).all Char.isAlpha = true := by
  have hupper : ∀ c : Char, c.isAlpha = true → (upperChar c).all Char.isAlpha = true := by
    intro c hc
    have hascii : isAscii c = true := isAscii_of_isAlphanum (by rw [Char.isAlphanum, hc, Bool.true_or])
    rw [upperChar_of_isAscii hascii, List.all_cons, (class_of_isAscii hascii).2.1, hc]
    rfl
  unfold inCaseOf
  split
  · rw [uppercase, List.all_flatMap]
    exact List.all_eq_true.2 fun c hc => hupper c (List.all_eq_true.1 h c hc)
  · split
    · cases plural with
      | nil => rfl
      | cons c rest =>
        obtain ⟨hc, hrest⟩ := Bool.and_eq_true_iff.1 h
        rw [List.all_append, hupper c hc, hrest]
        rfl
    · exact h

private theorem all_isAlpha_of_lookup_irregular {word : List Char} (h : word.all isAscii = true) {plural : String}
    (hl : irregular.lookup (String.ofList (lowercase word)) = some plural) :
    word.all Char.isAlpha = true ∧ plural.toList.all Char.isAlpha = true := by
  obtain ⟨l₁, l₂, hsplit, -⟩ := List.lookup_eq_some_iff.1 hl
  have hmem : (String.ofList (lowercase word), plural) ∈ irregular := by rw [hsplit]; simp
  have hall : ∀ e ∈ irregular, e.1.toList.all Char.isAlpha = true ∧ e.2.toList.all Char.isAlpha = true := by
    decide
  obtain ⟨hword, hplural⟩ := hall _ hmem
  refine ⟨List.all_eq_true.2 fun c hc => ?_, hplural⟩
  rw [String.toList_ofList, lowercase_of_isAscii h] at hword
  rw [← (class_of_isAscii (List.all_eq_true.1 h c hc)).1.1]
  exact List.all_eq_true.1 hword _ (List.mem_map_of_mem hc)

private theorem pluralWord_of_isAscii {word : List Char} (h : word.all isAscii = true) :
    (pluralWord word).all isAscii = true ∧ leadsWithDigit (pluralWord word) = leadsWithDigit word := by
  unfold pluralWord
  split
  · rename_i plural hl
    obtain ⟨hword, hplural⟩ := all_isAlpha_of_lookup_irregular h hl
    have hcase := all_isAlpha_inCaseOf word hplural
    refine ⟨List.all_eq_true.2 fun c hc => ?_, ?_⟩
    · have hc := List.all_eq_true.1 hcase c hc
      exact isAscii_of_isAlphanum (by rw [Char.isAlphanum, hc, Bool.true_or])
    · rw [leadsWithDigit_eq_false hword, leadsWithDigit_eq_false hcase]
  · obtain ⟨⟨old, new⟩, he, stem, hword, hplural⟩ := exists_regularEnds word
    have hends : ∀ e ∈ regularEnds, (e.1.all Char.isAlpha = true ∧ e.2.all Char.isAlpha = true) ∧
        e.2.all isAscii = true := by decide
    obtain ⟨⟨hold, hnew⟩, hascii⟩ := hends _ he
    rw [hword, List.all_append, Bool.and_eq_true] at h
    rw [hplural, List.all_append, h.1, hascii, hword]
    exact ⟨rfl, leadsWithDigit_append_congr stem
      ((leadsWithDigit_eq_false hnew).trans (leadsWithDigit_eq_false hold).symm)⟩

/-- The plural of a name of ASCII is a text of ASCII, and a digit leads it just if one leads the name. -/
private theorem plural_of_isAscii {name : String} (h : name.toList.all isAscii = true) :
    (plural name).toList.all isAscii = true ∧ leadsWithDigit (plural name).toList = leadsWithDigit name.toList := by
  have hlist : (name ++ listSuffix).toList.all isAscii = true ∧
      leadsWithDigit (name ++ listSuffix).toList = leadsWithDigit name.toList := by
    rw [String.toList_append, List.all_append, h]
    exact ⟨by decide, leadsWithDigit_append (by decide)⟩
  unfold plural
  split
  · exact ⟨h, rfl⟩
  · dsimp only
    split
    · exact hlist
    · split
      · exact hlist
      · -- the plural goes on as the name does up to its last word
        have hsplit := splitLastWord_append name.toList
        have hparts := h
        rw [← hsplit, List.all_append, Bool.and_eq_true] at hparts
        obtain ⟨hword, hlead⟩ := pluralWord_of_isAscii hparts.2
        have hname := leadsWithDigit_append_congr (splitLastWord name.toList).1 hlead
        rw [hsplit] at hname
        rw [String.toList_ofList, List.all_append, hparts.1, hword]
        exact ⟨rfl, hname⟩

private theorem any_isAlphanum_plural {name : String} (hne : name ≠ "") (h : name.toList.all isAscii = true) :
    (plural name).toList.any Char.isAlphanum = true := by
  obtain ⟨e, he, stem, -, hp⟩ := inflects_plural hne
  -- the end of a plural has letters, and each letter comes from a character
  have hends : ∀ e ∈ inflections, e.2 ≠ [] := by decide
  have hsome : letters (plural name).toList ≠ [] := by
    rw [hp]
    exact List.append_ne_nil_of_right_ne_nil stem (hends e he)
  obtain ⟨d, hd⟩ := List.exists_mem_of_ne_nil _ hsome
  obtain ⟨c, hc, hd⟩ := List.mem_flatMap.1 hd
  have hlatin : isLatin c = true := by
    rw [← Bool.not_eq_false]
    intro hnot
    rw [capitals_of_not_isLatin hnot] at hd
    cases hd
  refine List.any_eq_true.2 ⟨c, hc, ?_⟩
  rw [← isAlphanumeric_of_isAscii (List.all_eq_true.1 (plural_of_isAscii h).1 c hc)]
  exact (isLatin_spec hlatin).2.2

theorem camelCase_plural_ne_empty {name : String} (hne : name ≠ "") (h : name.toList.all isAscii = true) :
    camelCase (plural name) ≠ "" := by
  intro hnil
  have hhead := head?_camelCase (plural_of_isAscii h).1
  rw [hnil] at hhead
  obtain ⟨c, hc, halnum⟩ := List.any_eq_true.1 (any_isAlphanum_plural hne h)
  exact List.find?_eq_none.1 (Option.map_eq_none_iff.1 hhead.symm) c hc halnum

/-- A plural in camel case is an identifier unless a digit leads the name. -/
theorem isIdentifier_camelCase_plural_iff {name : String} (hne : name ≠ "") (h : name.toList.all isAscii = true) :
    isIdentifier (camelCase (plural name)) = true ↔ leadsWithDigit name.toList = false := by
  obtain ⟨hascii, hlead⟩ := plural_of_isAscii h
  rw [isIdentifier_camelCase_iff hascii, hlead]
  exact and_iff_left (any_isAlphanum_plural hne h)

end GuardedCrud.Naming
