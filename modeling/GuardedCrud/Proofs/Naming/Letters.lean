import GuardedCrud.Proofs.Naming.Characters

/-!
# The letters of a name

Case styles change the case of letters and leave out the marks between words.  What they keep are the letters from
`A` to `Z` that a text is written with, in either case and also inside ligatures: `letters`.

* case mapping keeps the letters of a character (`letters_lowerChar`, `letters_upperChar`), since only few characters
  map to such a letter (`latinRuns`);
* the words of a name are its letters and numbers (`flatten_words`);
* so a name in camel case has the letters of the name (`letters_camelCase`).
-/

namespace GuardedCrud.Text

/-! ### Letters of a character -/

/-- Characters beyond ASCII that case mapping takes to letters from `A` to `Z`, with these letters. -/
def latinSpecials : List (Nat × List Char) := [
  (0xDF, ['S', 'S']), (0x0130, ['I']), (0x0131, ['I']), (0x0149, ['N']), (0x017F, ['S']), (0x01F0, ['J']),
  (0x1E96, ['H']), (0x1E97, ['T']), (0x1E98, ['W']), (0x1E99, ['Y']), (0x1E9A, ['A']), (0x1E9E, ['S', 'S']),
  (0x212A, ['K']), (0xFB00, ['F', 'F']), (0xFB01, ['F', 'I']), (0xFB02, ['F', 'L']), (0xFB03, ['F', 'F', 'I']),
  (0xFB04, ['F', 'F', 'L']), (0xFB05, ['S', 'T']), (0xFB06, ['S', 'T'])]

/-- The letters from `A` to `Z` that a character stands for. -/
def capitals (c : Char) : List Char :=
  if 0x41 ≤ c.toNat ∧ c.toNat ≤ 0x5A then [c]
  else if 0x61 ≤ c.toNat ∧ c.toNat ≤ 0x7A then [Char.ofNat (c.toNat - 32)]
  else (latinSpecials.lookup c.toNat).getD []

/-- The letters from `A` to `Z` that a text is written with. -/
def letters (cs : List Char) : List Char := cs.flatMap capitals

/-- The code point lies between the ends of some run. -/
def inRuns (runs : List Run) (n : Nat) : Bool := runs.any fun r => r.first ≤ n && n ≤ r.last

/-- The code points of the runs, for runs without gaps. -/
def runCodes (runs : List Run) : List Nat := runs.flatMap fun r => List.range' r.first (r.last + 1 - r.first)

private theorem inRuns_iff {runs : List Run} {n : Nat} :
    inRuns runs n = true ↔ ∃ r ∈ runs, r.first ≤ n ∧ n ≤ r.last := by
  simp [inRuns, List.any_eq_true]

private theorem mem_runCodes {runs : List Run} {n : Nat} (h : inRuns runs n = true) : n ∈ runCodes runs := by
  obtain ⟨r, hr, hfirst, hlast⟩ := inRuns_iff.1 h
  refine List.mem_flatMap.2 ⟨r, hr, List.mem_range'_1.2 ⟨hfirst, ?_⟩⟩
  omega

/-! ### Characters that map into a run -/

/-- The images of the letters are apart from the runs, or the letters lie in one of them. -/
def Shift.keepsOut (runs : List Run) (s : Shift) : Bool :=
  (runs.all fun r => (r.last : Int) < s.run.first + s.offset || (s.run.last : Int) + s.offset < r.first) ||
    runs.any fun r => r.first ≤ s.run.first && s.run.last ≤ r.last

/-- A letter that a shift takes into the runs lies in them. -/
private theorem Shift.inRuns_of_keepsOut {runs : List Run} (h0 : inRuns runs 0 = false) {s : Shift}
    (hs : s.keepsOut runs = true) {n : Nat} (hn : s.run.contains n = true)
    (hm : inRuns runs ((n : Int) + s.offset).toNat = true) : inRuns runs n = true := by
  simp only [Run.contains, Bool.and_eq_true, decide_eq_true_eq] at hn
  obtain ⟨⟨hfirst, hlast⟩, -⟩ := hn
  obtain ⟨r, hr, hlow, hhigh⟩ := inRuns_iff.1 hm
  -- a run that begins at zero would hold the images below zero
  have hpos : r.first ≠ 0 := by
    intro hzero
    have : inRuns runs 0 = true := inRuns_iff.2 ⟨r, hr, by omega, by omega⟩
    rw [h0] at this
    cases this
  rcases Bool.or_eq_true_iff.1 hs with h | h
  · have hapart := List.all_eq_true.1 h r hr
    simp only [Bool.or_eq_true, decide_eq_true_eq] at hapart
    omega
  · obtain ⟨r', hr', hin⟩ := List.any_eq_true.1 h
    simp only [Bool.and_eq_true, decide_eq_true_eq] at hin
    refine inRuns_iff.2 ⟨r', hr', ?_, ?_⟩ <;> omega

private theorem inRuns_of_shifted {runs : List Run} (h0 : inRuns runs 0 = false) {shifts : List Shift}
    (hs : shifts.all (Shift.keepsOut runs) = true) {n : Nat} (hm : inRuns runs (shifted shifts n) = true) :
    inRuns runs n = true := by
  induction shifts with
  | nil => exact hm
  | cons s rest ih =>
    obtain ⟨hs, hrest⟩ := Bool.and_eq_true_iff.1 hs
    rw [shifted] at hm
    split at hm
    · exact hm
    · split at hm
      · rename_i hn
        exact Shift.inRuns_of_keepsOut h0 hs hn hm
      · exact ih hrest hm

/-- Case mapping takes no character from outside into the runs. -/
private theorem inRuns_of_mem_mapCase {runs : List Run} (h0 : inRuns runs 0 = false) {shifts : List Shift}
    (hs : shifts.all (Shift.keepsOut runs) = true) {expansions : List (Nat × List Nat)}
    (he : (expansions.all fun e => inRuns runs e.1 || e.2.all fun n => !inRuns runs n) = true) {c d : Char}
    (hd : d ∈ mapCase shifts expansions c) (h : inRuns runs d.toNat = true) : inRuns runs c.toNat = true := by
  -- a code point that is no character gives zero
  have hcode : ∀ n, inRuns runs (Char.ofNat n).toNat = true → inRuns runs n = true := by
    intro n hn
    rcases toNat_ofNat n with hv | hv
    · rwa [hv] at hn
    · rw [hv, h0] at hn
      cases hn
  unfold mapCase at hd
  split at hd
  · rename_i ns hns
    obtain ⟨l₁, l₂, hl, -⟩ := List.lookup_eq_some_iff.1 hns
    obtain ⟨n, hn, rfl⟩ := List.mem_map.1 hd
    have hmem : (c.toNat, ns) ∈ expansions := by rw [hl]; simp
    rcases Bool.or_eq_true_iff.1 (List.all_eq_true.1 he _ hmem) with h' | h'
    · exact h'
    · have hout := List.all_eq_true.1 h' n hn
      rw [hcode n h] at hout
      cases hout
  · rw [List.mem_singleton] at hd
    rw [hd] at h
    exact inRuns_of_shifted h0 hs (hcode _ h)

/-! ### Case mapping keeps the letters -/

/-- Runs of characters with what the case tables do to them. -/
structure LetterRuns where
  runs : List Run
  /-- The code point that stands for what is no character lies outside. -/
  zero : inRuns runs 0 = false
  /-- No shift leads into the runs from outside, and no expansion does. -/
  shifts : (lowerShifts ++ upperShifts).all (Shift.keepsOut runs) = true
  expansions : ((lowerExpansions ++ upperExpansions).all fun e =>
    inRuns runs e.1 || e.2.all fun n => !inRuns runs n) = true
  /-- Inside the runs case mapping keeps the letters. -/
  kept : ∀ n ∈ runCodes runs, letters (lowerChar (Char.ofNat n)) = capitals (Char.ofNat n) ∧
    letters (upperChar (Char.ofNat n)) = capitals (Char.ofNat n) ∧ isAlphanumeric (Char.ofNat n) = true

/-- The characters that stand for letters from `A` to `Z`. -/
def latinRuns : LetterRuns where
  runs := [
    ⟨0x41, 0x5A, 1⟩, ⟨0x61, 0x7A, 1⟩, ⟨0xDF, 0xDF, 1⟩, ⟨0x0130, 0x0131, 1⟩, ⟨0x0149, 0x0149, 1⟩, ⟨0x017F, 0x017F, 1⟩,
    ⟨0x01F0, 0x01F0, 1⟩, ⟨0x1E96, 0x1E9A, 1⟩, ⟨0x1E9E, 0x1E9E, 1⟩, ⟨0x212A, 0x212A, 1⟩, ⟨0xFB00, 0xFB06, 1⟩]
  zero := by decide
  shifts := by decide +kernel
  expansions := by decide +kernel
  kept := by decide +kernel

/-- The character stands for letters from `A` to `Z`. -/
def isLatin (c : Char) : Bool := inRuns latinRuns.runs c.toNat

theorem isLatin_of_mem_lowerChar {c d : Char} (hd : d ∈ lowerChar c) (h : isLatin d = true) : isLatin c = true := by
  obtain ⟨hshifts, -⟩ := Bool.and_eq_true_iff.1 (List.all_append.symm.trans latinRuns.shifts)
  obtain ⟨hexpansions, -⟩ := Bool.and_eq_true_iff.1 (List.all_append.symm.trans latinRuns.expansions)
  exact inRuns_of_mem_mapCase latinRuns.zero hshifts hexpansions hd h

private theorem isLatin_of_mem_upperChar {c d : Char} (hd : d ∈ upperChar c) (h : isLatin d = true) :
    isLatin c = true := by
  obtain ⟨-, hshifts⟩ := Bool.and_eq_true_iff.1 (List.all_append.symm.trans latinRuns.shifts)
  obtain ⟨-, hexpansions⟩ := Bool.and_eq_true_iff.1 (List.all_append.symm.trans latinRuns.expansions)
  exact inRuns_of_mem_mapCase latinRuns.zero hshifts hexpansions hd h

/-- The characters that stand for letters, one by one, decide what holds of all of them. -/
theorem of_isLatin {P : Char → Prop} (h : ∀ n ∈ runCodes latinRuns.runs, P (Char.ofNat n)) {c : Char}
    (hc : isLatin c = true) : P c := by
  have := h c.toNat (mem_runCodes hc)
  rwa [Char.ofNat_toNat] at this

theorem isLatin_spec {c : Char} (h : isLatin c = true) :
    letters (lowerChar c) = capitals c ∧ letters (upperChar c) = capitals c ∧ isAlphanumeric c = true :=
  of_isLatin (P := fun c => letters (lowerChar c) = capitals c ∧ letters (upperChar c) = capitals c ∧
    isAlphanumeric c = true) latinRuns.kept h

theorem capitals_of_not_isLatin {c : Char} (h : isLatin c = false) : capitals c = [] := by
  have hruns : ∀ r ∈ latinRuns.runs, ¬ (r.first ≤ c.toNat ∧ c.toNat ≤ r.last) := by
    intro r hr hin
    have : isLatin c = true := inRuns_iff.2 ⟨r, hr, hin⟩
    rw [h] at this
    cases this
  have hnone : latinSpecials.lookup c.toNat = none := by
    cases hl : latinSpecials.lookup c.toNat with
    | none => rfl
    | some cs =>
      obtain ⟨l₁, l₂, hsplit, -⟩ := List.lookup_eq_some_iff.1 hl
      have hmem : (c.toNat, cs) ∈ latinSpecials := by rw [hsplit]; simp
      have hall : ∀ s ∈ latinSpecials, inRuns latinRuns.runs s.1 = true := by decide
      have hin : isLatin c = true := hall _ hmem
      rw [h] at hin
      cases hin
  have hupper := hruns ⟨0x41, 0x5A, 1⟩ (by simp [latinRuns])
  have hlower := hruns ⟨0x61, 0x7A, 1⟩ (by simp [latinRuns])
  rw [capitals, if_neg hupper, if_neg hlower, hnone]
  rfl

theorem letters_cons (c : Char) (cs : List Char) : letters (c :: cs) = capitals c ++ letters cs := rfl

theorem letters_append (cs ds : List Char) : letters (cs ++ ds) = letters cs ++ letters ds :=
  List.flatMap_append

private theorem letters_eq_nil {cs : List Char} (h : ∀ c ∈ cs, isLatin c = false) : letters cs = [] :=
  List.flatMap_eq_nil_iff.2 fun c hc => capitals_of_not_isLatin (h c hc)

/-- A map of characters keeps the letters if it does so on the few characters that stand for some. -/
private theorem letters_map_eq_capitals {map : Char → List Char}
    (hlatin : ∀ {c}, isLatin c = true → letters (map c) = capitals c)
    (hmem : ∀ {c d}, d ∈ map c → isLatin d = true → isLatin c = true) (c : Char) :
    letters (map c) = capitals c := by
  by_cases hc : isLatin c = true
  · exact hlatin hc
  · rw [Bool.not_eq_true] at hc
    rw [capitals_of_not_isLatin hc]
    refine letters_eq_nil fun d hd => ?_
    rw [← Bool.not_eq_true]
    intro hd'
    rw [hmem hd hd'] at hc
    cases hc

theorem letters_lowerChar (c : Char) : letters (lowerChar c) = capitals c :=
  letters_map_eq_capitals (fun h => (isLatin_spec h).1) isLatin_of_mem_lowerChar c

theorem letters_upperChar (c : Char) : letters (upperChar c) = capitals c :=
  letters_map_eq_capitals (fun h => (isLatin_spec h).2.1) isLatin_of_mem_upperChar c

theorem letters_uppercase (cs : List Char) : letters (uppercase cs) = letters cs := by
  induction cs with
  | nil => rfl
  | cons c cs ih =>
    rw [uppercase, List.flatMap_cons, letters_append, letters_upperChar, letters_cons]
    exact congrArg (capitals c ++ ·) ih

private theorem letters_lowerAfter (before cs : List Char) : letters (lowerAfter before cs) = letters cs := by
  induction cs generalizing before with
  | nil => rfl
  | cons c cs ih =>
    rw [lowerAfter, letters_append, ih, letters_cons]
    congr 1
    split
    · rename_i hc
      -- a sigma has no letter, wherever it stands
      subst hc
      split <;> decide
    · exact letters_lowerChar c

theorem letters_lowercase (cs : List Char) : letters (lowercase cs) = letters cs := letters_lowerAfter [] cs

end GuardedCrud.Text

namespace GuardedCrud.Naming

open GuardedCrud.Text

/-! ### The words of a name -/

private theorem flatten_consFirst (c : Char) (pieces : List (List Char)) :
    (consFirst c pieces).flatten = c :: pieces.flatten := by
  cases pieces <;> rfl

/-- Cutting where the case changes loses nothing. -/
private theorem flatten_caseWords (mode : CaseMode) (cs : List Char) : (caseWords mode cs).flatten = cs := by
  fun_induction caseWords mode cs with
  | case1 => rfl
  | case2 => rfl
  | case3 mode c next rest _ ih => rw [List.flatten_cons, ih]; rfl
  | case4 mode c next rest _ _ ih => rw [List.flatten_cons, flatten_consFirst, ih]; rfl
  | case5 mode c next rest _ _ ih => rw [flatten_consFirst, ih]

private theorem flatten_splitOnP (p : Char → Bool) (cs : List Char) :
    (cs.splitOnP p).flatten = cs.filter fun c => !p c := by
  induction cs with
  | nil => rfl
  | cons c cs ih =>
    rw [List.splitOnP_cons_eq_if_modifyHead, List.filter_cons]
    cases hp : p c with
    | true => exact ih
    | false =>
      cases hs : cs.splitOnP p with
      | nil => exact absurd hs (List.splitOnP_ne_nil p cs)
      | cons piece pieces =>
        rw [hs] at ih
        exact congrArg (c :: ·) ih

/-- The words of a name are its letters and numbers. -/
theorem flatten_words (cs : List Char) : (words cs).flatten = cs.filter isAlphanumeric := by
  have hpieces : ∀ pieces : List (List Char), (pieces.flatMap (caseWords .unset)).flatten = pieces.flatten := by
    intro pieces
    induction pieces with
    | nil => rfl
    | cons piece pieces ih => rw [List.flatMap_cons, List.flatten_append, flatten_caseWords, ih, List.flatten_cons]
  rw [words, hpieces, flatten_splitOnP]
  simp

/-- What stands between the words has no letters. -/
private theorem letters_flatten_words (cs : List Char) : letters (words cs).flatten = letters cs := by
  rw [flatten_words]
  induction cs with
  | nil => rfl
  | cons c cs ih =>
    by_cases hc : isAlphanumeric c = true
    · rw [List.filter_cons_of_pos hc, letters_cons, letters_cons, ih]
    · have hlatin : isLatin c = false := by
        rw [← Bool.not_eq_true]
        exact fun h => hc (isLatin_spec h).2.2
      rw [List.filter_cons_of_neg hc, letters_cons, capitals_of_not_isLatin hlatin, ih]
      rfl

private theorem letters_lowerWord (cs : List Char) : letters (lowerWord cs) = letters cs := by
  fun_induction lowerWord cs with
  | case1 => rfl
  | case2 => decide
  | case3 c rest _ ih => rw [letters_append, letters_lowerChar, ih, letters_cons]

private theorem letters_capitalWord (cs : List Char) : letters (capitalWord cs) = letters cs := by
  cases cs with
  | nil => rfl
  | cons c rest => rw [capitalWord, letters_append, letters_upperChar, letters_lowerWord, letters_cons]

private theorem letters_flatMap_capitalWord (ws : List (List Char)) :
    letters (ws.flatMap capitalWord) = letters ws.flatten := by
  induction ws with
  | nil => rfl
  | cons w ws ih =>
    rw [List.flatMap_cons, letters_append, letters_capitalWord, ih, List.flatten_cons, letters_append]

/-- A name in camel case has the letters of the name. -/
theorem letters_camelCase (s : String) : letters (camelCase s).toList = letters s.toList := by
  rw [camelCase, String.toList_ofList, ← letters_flatten_words s.toList]
  cases words s.toList with
  | nil => rfl
  | cons first rest =>
    rw [letters_append, letters_lowerWord, letters_flatMap_capitalWord, List.flatten_cons, letters_append]

end GuardedCrud.Naming
