import Mathlib.Data.List.Basic
import Mathlib.Data.List.TakeWhile
import GuardedCrud.Text.Basic
import GuardedCrud.Text.Numeric

/-!
# White space is apart from letters and numbers

* a code point that a table covers lies in one of its runs (`exists_run_of_covers`);
* no blank is a letter or a number (`isAlphanumeric_of_isBlank`), so a name ends at the first blank;
* trimming takes away blanks and nothing else (`exists_trimEnd_append`, `trim_cons_of_not_isBlank`).
-/

namespace GuardedCrud.Text

theorem exists_run_of_covers {runs : List Run} {n : Nat} (h : Run.covers runs n = true) :
    ∃ r ∈ runs, r.contains n = true := by
  induction runs with
  | nil => cases h
  | cons r rest ih =>
    simp only [Run.covers] at h
    split at h
    · cases h
    · rcases Bool.or_eq_true_iff.1 h with h | h
      · exact ⟨r, by simp, h⟩
      · obtain ⟨r', hr', hn⟩ := ih h
        exact ⟨r', by simp [hr'], hn⟩

/-- The code points of white space, one by one. -/
def blankCodes : List Nat :=
  [0x09, 0x0A, 0x0B, 0x0C, 0x0D, 0x20, 0x85, 0xA0, 0x1680, 0x2000, 0x2001, 0x2002, 0x2003, 0x2004, 0x2005, 0x2006,
    0x2007, 0x2008, 0x2009, 0x200A, 0x2028, 0x2029, 0x202F, 0x205F, 0x3000]

private theorem mem_blankCodes {c : Char} (h : isBlank c = true) : c.toNat ∈ blankCodes := by
  obtain ⟨r, hr, hn⟩ := exists_run_of_covers h
  generalize c.toNat = n at hn
  simp only [blankRuns, List.mem_cons, List.not_mem_nil, or_false] at hr
  simp only [blankCodes, List.mem_cons, List.not_mem_nil, or_false]
  rcases hr with rfl | rfl | rfl | rfl | rfl | rfl | rfl | rfl | rfl | rfl <;>
    simp [Run.contains] at hn <;> omega

/-- A test that fails on every code point of white space fails on every blank. -/
private theorem eq_false_of_isBlank {p : Nat → Bool} (hp : (blankCodes.all fun n => !p n) = true) {c : Char}
    (h : isBlank c = true) : p c.toNat = false := by
  have := List.all_eq_true.1 hp _ (mem_blankCodes h)
  simpa using this

theorem isAlphanumeric_of_isBlank {c : Char} (h : isBlank c = true) : isAlphanumeric c = false :=
  eq_false_of_isBlank (p := fun n => Run.covers alphabeticRuns n || Run.covers numericRuns n) (by decide +kernel) h

theorem ne_of_isBlank {b d : Char} (hb : isBlank b = true) (hd : isBlank d = false) : b ≠ d := by
  rintro rfl
  rw [hd] at hb
  cases hb

theorem isAsciiDigit_bounds {c : Char} (h : isAsciiDigit c = true) : 48 ≤ c.toNat ∧ c.toNat ≤ 57 := by
  simp only [isAsciiDigit, Bool.and_eq_true, decide_eq_true_eq, Char.le_def] at h
  exact h

theorem isAsciiDigit_of_isBlank {c : Char} (h : isBlank c = true) : isAsciiDigit c = false := by
  rw [← Bool.not_eq_true]
  intro hd
  have hb := isAsciiDigit_bounds hd
  have hm := mem_blankCodes h
  simp only [blankCodes, List.mem_cons, List.not_mem_nil, or_false] at hm
  omega

/-! ### Trimming -/

theorem trimStart_cons_of_isBlank {c : Char} (h : isBlank c = true) (cs : List Char) :
    trimStart (c :: cs) = trimStart cs := by
  simp [trimStart, h]

theorem trimStart_cons_of_not_isBlank {c : Char} (h : isBlank c = false) (cs : List Char) :
    trimStart (c :: cs) = c :: cs := by
  simp [trimStart, h]

/-- The text with its last blanks. -/
theorem exists_trimEnd_append (cs : List Char) :
    ∃ bl, cs = trimEnd cs ++ bl ∧ ∀ b ∈ bl, isBlank b = true := by
  refine ⟨(cs.reverse.takeWhile isBlank).reverse, ?_, ?_⟩
  · rw [trimEnd, ← List.reverse_append, List.takeWhile_append_dropWhile, List.reverse_reverse]
  · intro b hb
    exact List.mem_takeWhile_imp (List.mem_reverse.1 hb)

private theorem trimEnd_append_blanks (cs : List Char) {bl : List Char} (hbl : ∀ b ∈ bl, isBlank b = true) :
    trimEnd (cs ++ bl) = trimEnd cs := by
  unfold trimEnd
  rw [List.reverse_append, List.dropWhile_append_of_pos]
  intro b hb
  exact hbl b (List.mem_reverse.1 hb)

theorem trimEnd_cons_of_not_isBlank {c : Char} (hc : isBlank c = false) (cs : List Char) :
    trimEnd (c :: cs) = c :: trimEnd cs := by
  unfold trimEnd
  rw [List.reverse_cons, List.dropWhile_append]
  split
  · rename_i h
    have h' : cs.reverse.dropWhile isBlank = [] := by simpa using h
    simp [List.dropWhile, hc, h']
  · simp

theorem trim_cons_of_isBlank {c : Char} (hc : isBlank c = true) (cs : List Char) : trim (c :: cs) = trim cs := by
  simp [trim, trimStart, hc]

theorem trim_cons_of_not_isBlank {c : Char} (hc : isBlank c = false) (cs : List Char) :
    trim (c :: cs) = c :: trimEnd cs := by
  rw [trim, trimStart, List.dropWhile_cons, hc]
  exact trimEnd_cons_of_not_isBlank hc cs

theorem trim_append_blanks (cs : List Char) {bl : List Char} (hbl : ∀ b ∈ bl, isBlank b = true) :
    trim (cs ++ bl) = trim cs := by
  unfold trim trimStart
  rw [List.dropWhile_append]
  split
  · rename_i h
    have h' : cs.dropWhile isBlank = [] := by simpa using h
    rw [h', List.dropWhile_eq_nil_iff.2 hbl]
  · exact trimEnd_append_blanks _ hbl

theorem mem_of_mem_trim {cs : List Char} {c : Char} (h : c ∈ trim cs) : c ∈ cs := by
  obtain ⟨bl, hstart, -⟩ := exists_trimEnd_append (trimStart cs)
  have hmem : c ∈ trimStart cs := hstart ▸ List.mem_append_left bl h
  exact (List.dropWhile_sublist _).mem hmem

private theorem trimEnd_trimEnd (cs : List Char) : trimEnd (trimEnd cs) = trimEnd cs := by
  obtain ⟨bl, h, hbl⟩ := exists_trimEnd_append cs
  have hcut := trimEnd_append_blanks (trimEnd cs) hbl
  rw [← h] at hcut
  exact hcut.symm

theorem trim_trim (cs : List Char) : trim (trim cs) = trim cs := by
  induction cs with
  | nil => rfl
  | cons c cs ih =>
    by_cases hc : isBlank c = true
    · rw [trim_cons_of_isBlank hc, ih]
    · have hc' : isBlank c = false := by simpa using hc
      rw [trim_cons_of_not_isBlank hc', trim_cons_of_not_isBlank hc', trimEnd_trimEnd]

/-- A last character that is no blank stays the last one. -/
theorem getLast?_trim_concat {c : Char} (hc : isBlank c = false) (cs : List Char) :
    (trim (cs ++ [c])).getLast? = some c := by
  have hstart : trimStart (cs ++ [c]) = trimStart cs ++ [c] := by
    unfold trimStart
    rw [List.dropWhile_append]
    split
    · rename_i h
      have h' : cs.dropWhile isBlank = [] := by simpa using h
      simp [hc, h']
    · rfl
  have hend : trimEnd (trimStart cs ++ [c]) = trimStart cs ++ [c] := by
    unfold trimEnd
    rw [List.reverse_append]
    simp [hc]
  rw [trim, hstart, hend, List.getLast?_concat]

theorem isBlank_of_trim {l cs : List Char} {c : Char} (h : trim l = c :: cs) : isBlank c = false := by
  induction l with
  | nil => cases h
  | cons d l ih =>
    by_cases hd : isBlank d = true
    · rw [trim_cons_of_isBlank hd] at h
      exact ih h
    · have hd' : isBlank d = false := by simpa using hd
      rw [trim_cons_of_not_isBlank hd'] at h
      cases h
      exact hd'

theorem isPrefixOf?_eq_some {mark cs rest : List Char} :
    mark.isPrefixOf? cs = some rest ↔ cs = mark ++ rest := by
  induction mark generalizing cs with
  | nil => simp [List.isPrefixOf?, eq_comm]
  | cons d mark ih =>
    cases cs with
    | nil => simp [List.isPrefixOf?]
    | cons c cs =>
      by_cases h : d = c
      · simp [List.isPrefixOf?, h, ih]
      · simp [List.isPrefixOf?, h, Ne.symm h]

end GuardedCrud.Text
