import GuardedCrud.Proofs.Naming.Plurals
import Mathlib.Data.List.Basic
import Mathlib.Tactic.SplitIfs

/-!
# The last word of a name

`splitLastWord` cuts a name where its last word begins, that is, before the longest end inside which no word begins
(`splitLastWord_eq_iff`).  Whether a word begins at a place hangs only on the character before it and the two behind it,
so a last word on its own is cut no further, and the plural of a name is the name with the plural of its last word
(`plural_eq_append_plural`).
-/

namespace GuardedCrud.Naming

open GuardedCrud.Text

/-! ### Where words begin -/

/-- A word begins where two parts of a text meet. -/
def BeginsWord (front back : List Char) : Prop :=
  ∃ before c, front.getLast? = some before ∧ back.head? = some c ∧ startsWord before c back.tail.head? = true

theorem BeginsWord.ne_nil {front back : List Char} (h : BeginsWord front back) : front ≠ [] ∧ back ≠ [] := by
  obtain ⟨before, c, hfront, hback, -⟩ := h
  constructor
  · rintro rfl
    cases hfront
  · rintro rfl
    cases hback

private theorem beginsWord_singleton {before c : Char} {rest : List Char} :
    BeginsWord [before] (c :: rest) ↔ startsWord before c rest.head? = true := by
  simp [BeginsWord]

/-- Only the end of the first part counts. -/
private theorem beginsWord_append {front back : List Char} (h : front ≠ []) (more : List Char) :
    BeginsWord (more ++ front) back ↔ BeginsWord front back := by
  obtain ⟨before, hbefore⟩ := Option.isSome_iff_exists.1 (List.getLast?_isSome.2 h)
  unfold BeginsWord
  rw [List.getLast?_append, hbefore, Option.some_or]

/-- The text is cut where its last word begins. -/
structure SplitsLastWord (cs head last : List Char) : Prop where
  append : head ++ last = cs
  ne_nil : last ≠ []
  /-- Unless the word is the whole text, it begins at the cut. -/
  begins : head ≠ [] → BeginsWord head last
  /-- No word begins inside it. -/
  whole : ∀ front back, front ++ back = last → ¬ BeginsWord front back

/-- One more character in front of a text that is one word: it belongs to the word unless the word begins behind it. -/
private theorem SplitsLastWord.cons_word {before c : Char} {rest : List Char}
    (h : SplitsLastWord (c :: rest) [] (c :: rest)) (hstart : startsWord before c rest.head? = false) :
    SplitsLastWord (before :: c :: rest) [] (before :: c :: rest) where
  append := rfl
  ne_nil := List.cons_ne_nil _ _
  begins hne := absurd rfl hne
  whole front back heq hbegins := by
    -- the place is the front, right behind the new character, or inside the word
    cases front with
    | nil => exact hbegins.ne_nil.1 rfl
    | cons d front =>
      obtain ⟨rfl, hrest⟩ := List.cons.inj heq
      cases front with
      | nil =>
        obtain rfl : back = c :: rest := hrest
        rw [beginsWord_singleton, hstart] at hbegins
        cases hbegins
      | cons e front =>
        exact h.whole (e :: front) back hrest ((beginsWord_append (List.cons_ne_nil e front) [d]).1 hbegins)

/-- One more character in front of a text whose last word is cut off. -/
private theorem SplitsLastWord.cons_head {before : Char} {cs head last : List Char} (h : SplitsLastWord cs head last)
    (hhead : head ≠ []) : SplitsLastWord (before :: cs) (before :: head) last where
  append := by rw [List.cons_append, h.append]
  ne_nil := h.ne_nil
  begins _ := (beginsWord_append hhead [before]).2 (h.begins hhead)
  whole := h.whole

private theorem splitsLastWord_splitLastWord {cs : List Char} (h : cs ≠ []) :
    SplitsLastWord cs (splitLastWord cs).1 (splitLastWord cs).2 := by
  fun_induction splitLastWord cs with
  | case1 => exact absurd rfl h
  | case2 c =>
    refine ⟨rfl, List.cons_ne_nil _ _, fun hne => absurd rfl hne, fun front back heq hbegins => ?_⟩
    -- of the two parts of a single character one is empty
    rcases List.append_eq_singleton_iff.1 heq with ⟨rfl, -⟩ | ⟨-, rfl⟩
    · exact hbegins.ne_nil.1 rfl
    · exact hbegins.ne_nil.2 rfl
  | case3 before c rest last hsplit hstart ih =>
    have hword := ih (List.cons_ne_nil _ _)
    rw [hsplit] at hword
    obtain rfl : last = c :: rest := hword.append
    exact ⟨rfl, hword.ne_nil, fun _ => beginsWord_singleton.2 hstart, hword.whole⟩
  | case4 before c rest last hsplit hstart ih =>
    have hword := ih (List.cons_ne_nil _ _)
    rw [hsplit] at hword
    obtain rfl : last = c :: rest := hword.append
    exact hword.cons_word (by simpa using hstart)
  | case5 before c rest head last hhead hsplit ih =>
    have hword := ih (List.cons_ne_nil _ _)
    rw [hsplit] at hword
    exact hword.cons_head hhead

/-- A text is cut in one way only: of two cuts, the one in front would be inside the word of the other. -/
theorem SplitsLastWord.unique {cs head last head' last' : List Char} (h : SplitsLastWord cs head last)
    (h' : SplitsLastWord cs head' last') : head = head' ∧ last = last' := by
  have hinside : ∀ {head last more last' : List Char}, SplitsLastWord cs head last →
      SplitsLastWord cs (head ++ more) last' → more ++ last' = last → more = [] := by
    intro head last more last' h h' heq
    by_contra hmore
    have hbegins := h'.begins (List.append_ne_nil_of_right_ne_nil head hmore)
    exact h.whole more last' heq ((beginsWord_append hmore head).1 hbegins)
  rcases List.append_eq_append_iff.1 (h.append.trans h'.append.symm) with ⟨more, rfl, rfl⟩ | ⟨more, rfl, rfl⟩
  · obtain rfl := hinside h h' rfl
    simp
  · obtain rfl := hinside h' h rfl
    simp

/-- The last word is the end of the text that begins where a word begins and has no beginning inside. -/
theorem splitLastWord_eq_iff {cs head last : List Char} (h : cs ≠ []) :
    splitLastWord cs = (head, last) ↔ SplitsLastWord cs head last := by
  have hsplits := splitsLastWord_splitLastWord h
  constructor
  · intro heq
    rwa [heq] at hsplits
  · intro hcut
    obtain ⟨hhead, hlast⟩ := hsplits.unique hcut
    exact Prod.ext hhead hlast

/-- A last word is its own last word. -/
private theorem SplitsLastWord.splitLastWord_eq {cs head last : List Char} (h : SplitsLastWord cs head last) :
    splitLastWord last = ([], last) :=
  (splitLastWord_eq_iff h.ne_nil).2 ⟨rfl, h.ne_nil, fun hne => absurd rfl hne, h.whole⟩

/-! ### The plural of the last word -/

/-- The plural of a last word: inflected, or with the suffix of nouns without a plural of their own. -/
def pluralOfLast (word : List Char) : List Char :=
  if uncountable.contains (String.ofList (lowercase word)) ∨ pluralWord word = word then word ++ listSuffix.toList
  else pluralWord word

private theorem pluralOfLast_ne (word : List Char) : pluralOfLast word ≠ word := by
  unfold pluralOfLast
  split_ifs with hsame
  · simp [listSuffix]
  · exact (not_or.1 hsame).2

/-- What stands before the last word stays as it is. -/
private theorem toList_plural {name : String} (hname : name ≠ "") {head last : List Char}
    (h : splitLastWord name.toList = (head, last)) : (plural name).toList = head ++ pluralOfLast last := by
  have hsplit : head ++ last = name.toList := ((splitLastWord_eq_iff (by simpa using hname)).1 h).append
  have hsame : String.ofList (head ++ pluralWord last) = name ↔ pluralWord last = last := by
    rw [← String.toList_inj, String.toList_ofList, ← hsplit]
    exact List.append_right_inj head
  unfold plural pluralOfLast
  rw [if_neg (by simpa using hname), h]
  dsimp only
  by_cases hnoun : uncountable.contains (String.ofList (lowercase last)) = true
  · rw [if_pos hnoun, if_pos (Or.inl hnoun), String.toList_append, ← hsplit, List.append_assoc]
  · by_cases hword : pluralWord last = last
    · rw [if_neg hnoun, if_pos (hsame.2 hword), if_pos (Or.inr hword), String.toList_append, ← hsplit, List.append_assoc]
    · rw [if_neg hnoun, if_neg (mt hsame.1 hword), if_neg (not_or.2 ⟨hnoun, hword⟩), String.toList_ofList]

/-- Only the last word of a name is inflected, and the plural never equals the singular.

The name is cut where its last word begins, the last word on its own is cut no further, and the plural of the name is what
stands before the word followed by the plural of the word, which is another text than the name. -/
theorem plural_eq_append_plural {name : String} (hname : name ≠ "") {head last : List Char}
    (h : splitLastWord name.toList = (head, last)) :
    SplitsLastWord name.toList head last ∧ splitLastWord last = ([], last) ∧
      plural name = String.ofList head ++ plural (String.ofList last) ∧ plural name ≠ name := by
  have hcut := (splitLastWord_eq_iff (by simpa using hname)).1 h
  have hlast : String.ofList last ≠ "" := by simpa using hcut.ne_nil
  have hword : (plural (String.ofList last)).toList = pluralOfLast last :=
    toList_plural hlast (by rw [String.toList_ofList, hcut.splitLastWord_eq])
  have hplural := toList_plural hname h
  refine ⟨hcut, hcut.splitLastWord_eq, ?_, fun hsame => ?_⟩
  · rw [← String.toList_inj, hplural, String.toList_append, String.toList_ofList, hword]
  · rw [hsame, ← hcut.append] at hplural
    exact pluralOfLast_ne last (List.append_cancel_left hplural).symm

/-- The last word of `crm_HTTPMouse` begins at the end of the acronym, and its irregular plural takes its capital;
`HTTP_Data` has the last word `Data`, which has no plural of its own. -/
theorem plural_eq_append_plural_crm :
    SplitsLastWord "crm_HTTPMouse".toList "crm_HTTP".toList "Mouse".toList ∧ plural "crm_HTTPMouse" = "crm_HTTPMice" ∧
      plural "HTTP_Data" = "HTTP_DataList" := by
  have hmouse : splitLastWord "crm_HTTPMouse".toList = ("crm_HTTP".toList, "Mouse".toList) := by decide
  have hdata : splitLastWord "HTTP_Data".toList = ("HTTP_".toList, "Data".toList) := by decide
  have hmice : plural "Mouse" = "Mice" := by decide
  have hlist : plural "Data" = "DataList" := by decide
  obtain ⟨hcut, -, hplural, -⟩ := plural_eq_append_plural (by decide) hmouse
  obtain ⟨-, -, hplural', -⟩ := plural_eq_append_plural (by decide) hdata
  rw [String.ofList_toList, String.ofList_toList, hmice] at hplural
  rw [String.ofList_toList, String.ofList_toList, hlist] at hplural'
  exact ⟨hcut, hplural, hplural'⟩

end GuardedCrud.Naming
