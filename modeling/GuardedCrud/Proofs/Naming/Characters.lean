import GuardedCrud.Naming.Word

/-!
# Characters of case styles

Below the letters, case mapping gives nothing but the character itself (`eq_of_mem_mapCase`), and the words of a name
hold only letters and numbers (`isAlphanumeric_of_mem_words`).  So no punctuation and no white space of ASCII comes into
a name that is written in camel case (`isAlphanumeric_of_mem_camelCase`).
-/

namespace GuardedCrud.Text

/-- All letters of the run map to code points from `low` on. -/
def Shift.staysAbove (low : Nat) (s : Shift) : Bool := (low : Int) ≤ s.run.first + s.offset

private theorem shifted_eq_or_le {shifts : List Shift} {low : Nat} (h : shifts.all (Shift.staysAbove low) = true)
    (n : Nat) : shifted shifts n = n ∨ low ≤ shifted shifts n := by
  induction shifts with
  | nil => exact Or.inl rfl
  | cons s rest ih =>
    obtain ⟨hs, hrest⟩ := Bool.and_eq_true_iff.1 h
    have hs : (low : Int) ≤ s.run.first + s.offset := of_decide_eq_true hs
    rw [shifted]
    split
    · exact Or.inl rfl
    · split
      · right
        omega
      · exact ih hrest

theorem toNat_ofNat (n : Nat) : (Char.ofNat n).toNat = n ∨ (Char.ofNat n).toNat = 0 := by
  by_cases h : n.isValidChar
  · rw [Char.ofNat, dif_pos h]
    exact Or.inl rfl
  · rw [Char.ofNat, dif_neg h]
    exact Or.inr rfl

/-- Below `low`, case mapping gives nothing but the character itself. -/
theorem eq_of_mem_mapCase {shifts : List Shift} {expansions : List (Nat × List Nat)} {low : Nat}
    (hs : shifts.all (Shift.staysAbove low) = true) (he : (expansions.all fun e => e.2.all fun n => low ≤ n) = true)
    {c d : Char} (hd : d ∈ mapCase shifts expansions c) (hpos : 0 < d.toNat) (hlow : d.toNat < low) : d = c := by
  unfold mapCase at hd
  split at hd
  · rename_i ns hns
    obtain ⟨l₁, l₂, hl, -⟩ := List.lookup_eq_some_iff.1 hns
    obtain ⟨n, hn, rfl⟩ := List.mem_map.1 hd
    have hmem : (c.toNat, ns) ∈ expansions := by rw [hl]; simp
    have hle : low ≤ n := of_decide_eq_true (List.all_eq_true.1 (List.all_eq_true.1 he _ hmem) n hn)
    rcases toNat_ofNat n with h | h <;> omega
  · rw [List.mem_singleton] at hd
    rcases shifted_eq_or_le hs c.toNat with h | h
    · rw [hd, h, Char.ofNat_toNat]
    · rcases toNat_ofNat (shifted shifts c.toNat) with h' | h' <;> rw [← hd] at h' <;> omega

private theorem eq_of_mem_lowerChar {c d : Char} (hd : d ∈ lowerChar c) (hpos : 0 < d.toNat) (hlow : d.toNat < 0x41) :
    d = c :=
  eq_of_mem_mapCase (by decide) (by decide) hd hpos hlow

private theorem eq_of_mem_upperChar {c d : Char} (hd : d ∈ upperChar c) (hpos : 0 < d.toNat) (hlow : d.toNat < 0x41) :
    d = c :=
  eq_of_mem_mapCase (by decide) (by decide) hd hpos hlow

end GuardedCrud.Text

namespace GuardedCrud.Naming

open GuardedCrud.Text

private theorem mem_of_mem_consFirst {c d : Char} {pieces : List (List Char)} {w : List Char}
    (hw : w ∈ consFirst c pieces) (hd : d ∈ w) : d = c ∨ ∃ w' ∈ pieces, d ∈ w' := by
  cases pieces with
  | nil =>
    rw [consFirst, List.mem_singleton] at hw
    subst hw
    exact Or.inl (List.mem_singleton.1 hd)
  | cons piece pieces =>
    rw [consFirst] at hw
    rcases List.mem_cons.1 hw with rfl | hw
    · rcases List.mem_cons.1 hd with rfl | hd
      · exact Or.inl rfl
      · exact Or.inr ⟨piece, by simp, hd⟩
    · exact Or.inr ⟨w, by simp [hw], hd⟩

private theorem mem_of_mem_caseWords {mode : CaseMode} {cs w : List Char} {d : Char} (hw : w ∈ caseWords mode cs)
    (hd : d ∈ w) : d ∈ cs := by
  fun_induction caseWords mode cs generalizing w with
  | case1 => cases hw
  | case2 c =>
    rw [List.mem_singleton] at hw
    rwa [hw] at hd
  | case3 mode c next rest _ ih =>
    rcases List.mem_cons.1 hw with rfl | hw
    · simp_all
    · exact List.mem_cons_of_mem _ (ih hw hd)
  | case4 mode c next rest _ _ ih =>
    rcases List.mem_cons.1 hw with rfl | hw
    · cases hd
    · rcases mem_of_mem_consFirst hw hd with rfl | ⟨w', hw', hd⟩
      · simp
      · exact List.mem_cons_of_mem _ (ih hw' hd)
  | case5 mode c next rest _ _ ih =>
    rcases mem_of_mem_consFirst hw hd with rfl | ⟨w', hw', hd⟩
    · simp
    · exact List.mem_cons_of_mem _ (ih hw' hd)

private theorem eq_false_of_mem_splitOnPPrepend {p : Char → Bool} {cs acc w : List Char}
    (hacc : ∀ c ∈ acc, p c = false) (hw : w ∈ List.splitOnPPrepend p cs acc) : ∀ d ∈ w, p d = false := by
  induction cs generalizing acc with
  | nil =>
    rw [List.splitOnPPrepend_nil, List.mem_singleton] at hw
    rw [hw]
    exact fun d hd => hacc d (List.mem_reverse.1 hd)
  | cons c cs ih =>
    by_cases hc : p c = true
    · rw [List.splitOnPPrepend_cons_pos hc] at hw
      rcases List.mem_cons.1 hw with rfl | hw
      · exact fun d hd => hacc d (List.mem_reverse.1 hd)
      · rw [← List.splitOnPPrepend_nil_right] at hw
        exact ih (by simp) hw
    · have hc : p c = false := by simpa using hc
      rw [List.splitOnPPrepend_cons_neg hc] at hw
      exact ih (List.forall_mem_cons.2 ⟨hc, hacc⟩) hw

/-- The words of a name hold only letters and numbers. -/
theorem isAlphanumeric_of_mem_words {cs w : List Char} (hw : w ∈ words cs) : ∀ d ∈ w, isAlphanumeric d = true := by
  intro d hd
  obtain ⟨piece, hpiece, hw⟩ := List.mem_flatMap.1 hw
  rw [← List.splitOnPPrepend_nil_right] at hpiece
  have := eq_false_of_mem_splitOnPPrepend (by simp) hpiece d (mem_of_mem_caseWords hw hd)
  simpa using this

private theorem eq_of_mem_lowerWord {cs : List Char} {d : Char} (hd : d ∈ lowerWord cs) (hpos : 0 < d.toNat)
    (hlow : d.toNat < 0x41) : d ∈ cs := by
  fun_induction lowerWord cs with
  | case1 => cases hd
  | case2 =>
    rw [List.mem_singleton] at hd
    subst hd
    revert hlow; decide
  | case3 c rest _ ih =>
    rcases List.mem_append.1 hd with hd | hd
    · rw [eq_of_mem_lowerChar hd hpos hlow]
      simp
    · exact List.mem_cons_of_mem _ (ih hd)

private theorem eq_of_mem_capitalWord {cs : List Char} {d : Char} (hd : d ∈ capitalWord cs) (hpos : 0 < d.toNat)
    (hlow : d.toNat < 0x41) : d ∈ cs := by
  cases cs with
  | nil => cases hd
  | cons c rest =>
    rcases List.mem_append.1 hd with hd | hd
    · rw [eq_of_mem_upperChar hd hpos hlow]
      simp
    · exact List.mem_cons_of_mem _ (eq_of_mem_lowerWord hd hpos hlow)

/-- In camel case a character below the letters is a digit of some script. -/
theorem isAlphanumeric_of_mem_camelCase {s : String} {d : Char} (hd : d ∈ (camelCase s).toList) (hpos : 0 < d.toNat)
    (hlow : d.toNat < 0x41) : isAlphanumeric d = true := by
  rw [camelCase, String.toList_ofList] at hd
  cases hw : words s.toList with
  | nil =>
    rw [hw] at hd
    cases hd
  | cons first rest =>
    rw [hw] at hd
    rcases List.mem_append.1 hd with hd | hd
    · exact isAlphanumeric_of_mem_words (by rw [hw]; simp) d (eq_of_mem_lowerWord hd hpos hlow)
    · obtain ⟨w, hmem, hd⟩ := List.mem_flatMap.1 hd
      exact isAlphanumeric_of_mem_words (by rw [hw]; simp [hmem]) d (eq_of_mem_capitalWord hd hpos hlow)

end GuardedCrud.Naming
