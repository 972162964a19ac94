import GuardedCrud.Proofs.Naming.Plurals
import Mathlib.Data.List.Basic
import Mathlib.Tactic.SplitIfs

/-!
# Plurals by byte offsets

A text is stored in bytes, and a byte offset inside a character cuts nothing off (`cut?`).  The plural of a name can be
made with such cuts (`plural?`): the name is cut where its last word begins, and some words are cut before their last one
or two bytes.  The offsets count the bytes of the word, but the rule that asks for a cut is chosen by its lower case, which
can have other characters and another length: `İ` has two bytes, its lower case three.

* the last word begins at the offset that counting the bytes finds (`cut?_lastWordOffset`);
* a word that is to be cut before its last one or two bytes ends in one or two letters of one byte each
  (`exists_of_consonantY`, `exists_of_sis`);
* so no offset lies inside a character, and the plural made with the cuts is `plural` (`plural?_eq_some`).
-/

namespace GuardedCrud.Text

/-- The parts of a text before and behind a byte offset; nothing when the offset lies inside a character or beyond the
end. -/
def cut? (s : String) (offset : Nat) : Option (String × String) :=
  (s.pos? ⟨offset⟩).map fun pos => ((s.sliceTo pos).copy, (s.sliceFrom pos).copy)

/-- The text without its last bytes; nothing when it has fewer, or when a character would be cut. -/
def withoutLast? (s : String) (count : Nat) : Option String :=
  if count ≤ s.utf8ByteSize then (cut? s (s.utf8ByteSize - count)).map Prod.fst else none

private theorem pos?_eq_some {s : String} {offset : Nat} (h : (String.Pos.Raw.mk offset).IsValid s) :
    s.pos? ⟨offset⟩ = some (s.pos ⟨offset⟩ h) := by
  simp [String.pos?, String.Slice.pos?, String.pos, String.Slice.pos, h]

/-- The place where two parts of a text meet is no place inside a character. -/
private theorem isValid_append (front back : String) : (String.Pos.Raw.mk front.utf8ByteSize).IsValid (front ++ back) :=
  String.Pos.Raw.isValid_iff_exists_append.2 ⟨front, back, rfl, rfl⟩

/-- A text is cut where two parts of it meet. -/
private theorem cut?_append (front back : String) : cut? (front ++ back) front.utf8ByteSize = some (front, back) := by
  have hvalid := isValid_append front back
  have hmeet : ((front ++ back).pos ⟨front.utf8ByteSize⟩ hvalid).Splits front back := ⟨rfl, rfl⟩
  obtain ⟨hfront, hback⟩ := ((front ++ back).pos _ hvalid).splits.eq hmeet
  rw [cut?, pos?_eq_some hvalid, Option.map_some, hfront, hback]

/-- The second byte of a character is no place to cut. -/
example : cut? "né" 1 = some ("n", "é") ∧ cut? "né" 2 = none := by decide

section

variable {stem ending : String} {count : Nat}

private theorem utf8ByteSize_sub_eq (h : ending.utf8ByteSize = count) :
    (stem ++ ending).utf8ByteSize - count = stem.utf8ByteSize := by
  rw [String.utf8ByteSize_append, h]
  omega

private theorem isValid_before_ending (h : ending.utf8ByteSize = count) :
    (String.Pos.Raw.mk ((stem ++ ending).utf8ByteSize - count)).IsValid (stem ++ ending) := by
  rw [utf8ByteSize_sub_eq h]
  exact isValid_append stem ending

/-- An ending is cut off by the number of its bytes. -/
private theorem withoutLast?_append (h : ending.utf8ByteSize = count) :
    withoutLast? (stem ++ ending) count = some stem := by
  have hle : count ≤ (stem ++ ending).utf8ByteSize := by
    rw [String.utf8ByteSize_append, h]
    omega
  rw [withoutLast?, if_pos hle, utf8ByteSize_sub_eq h, cut?_append, Option.map_some]

end

end GuardedCrud.Text

namespace GuardedCrud.Naming

open GuardedCrud.Text

/-! ### The place of the last word -/

/-- The byte offset of the last word: `offset` is the one of the first character, `start` the one of the last word met so
far. -/
def lastOffset (offset start : Nat) : List Char → Nat
  | before :: c :: rest =>
    let next := offset + before.utf8Size
    lastOffset next (if startsWord before c rest.head? then next else start) (c :: rest)
  | _ => start

/-- The byte offset at which the last word of a name begins. -/
def lastWordOffset (name : String) : Nat := lastOffset 0 0 name.toList

private theorem utf8ByteSize_ofList_cons (c : Char) (cs : List Char) :
    (String.ofList (c :: cs)).utf8ByteSize = c.utf8Size + (String.ofList cs).utf8ByteSize := by
  rw [String.ofList_cons, String.utf8ByteSize_append, String.utf8ByteSize_singleton]

/-- The offset counts the bytes before the last word, unless the text is one word, which begins where it began. -/
private theorem lastOffset_eq (offset start : Nat) (cs : List Char) :
    lastOffset offset start cs =
      if (splitLastWord cs).1 = [] then start
      else offset + (String.ofList (splitLastWord cs).1).utf8ByteSize := by
  -- the offset and the place of the last word met so far change from character to character
  induction cs generalizing offset start with
  | nil => rfl
  | cons before tail ih =>
    cases tail with
    | nil => rfl
    | cons c rest =>
      rw [lastOffset, ih, splitLastWord]
      rcases splitLastWord (c :: rest) with ⟨head, last⟩
      cases head with
      | nil =>
        -- the last word begins behind the first character, or holds it
        by_cases hstart : startsWord before c rest.head? = true
        · simp [hstart]
        · simp [hstart]
      | cons d head =>
        rw [if_neg (List.cons_ne_nil d head), if_neg (List.cons_ne_nil before (d :: head)),
          utf8ByteSize_ofList_cons before, Nat.add_assoc]

section

variable {name : String} {head last : List Char}

private theorem eq_of_splitLastWord (h : splitLastWord name.toList = (head, last)) :
    name = String.ofList head ++ String.ofList last := by
  have happend := splitLastWord_append name.toList
  rw [h] at happend
  rw [← String.ofList_append, happend, String.ofList_toList]

private theorem lastWordOffset_eq (h : splitLastWord name.toList = (head, last)) :
    lastWordOffset name = (String.ofList head).utf8ByteSize := by
  rw [lastWordOffset, lastOffset_eq, h]
  split
  · rename_i hhead
    subst hhead
    rfl
  · exact Nat.zero_add _

/-- Cutting a name at the offset of its last word splits the last word off. -/
theorem cut?_lastWordOffset (h : splitLastWord name.toList = (head, last)) :
    cut? name (lastWordOffset name) = some (String.ofList head, String.ofList last) := by
  have hcut := cut?_append (String.ofList head) (String.ofList last)
  rwa [← eq_of_splitLastWord h, ← lastWordOffset_eq h] at hcut

end

private theorem isValid_lastWordOffset (name : String) : (String.Pos.Raw.mk (lastWordOffset name)).IsValid name := by
  rcases h : splitLastWord name.toList with ⟨head, last⟩
  have hvalid := isValid_append (String.ofList head) (String.ofList last)
  rwa [← eq_of_splitLastWord h, ← lastWordOffset_eq h] at hvalid

/-! ### Regular plurals -/

/-- The ways to make a regular plural. -/
inductive PluralRule
  /-- An `s` is added. -/
  | addS
  /-- After a sibilant `es` is added. -/
  | addEs
  /-- The word already is a plural. -/
  | keep
  /-- A final `y` after a consonant becomes `ies`. -/
  | consonantY
  /-- A final `sis` becomes `ses`. -/
  | sis
  deriving DecidableEq, Repr

/-- The rule for a word, by the end of its lower case. -/
def pluralRule (word : List Char) : PluralRule :=
  let lower := lowercase word
  if ['y'].isSuffixOf lower then
    if vowelBeforeLast lower then .addS else .consonantY
  else if endsInPluralS lower then .keep
  else if ['s', 'i', 's'].isSuffixOf lower then .sis
  else if endsInSibilant lower then .addEs
  else .addS

private theorem regularPlural_eq (word : List Char) :
    regularPlural word =
      match pluralRule word with
      | .addS => word ++ ['s']
      | .addEs => word ++ ['e', 's']
      | .keep => word
      | .consonantY => word.dropLast ++ ['i', 'e', 's']
      | .sis => word.dropLast.dropLast ++ ['e', 's'] := by
  unfold regularPlural pluralRule
  dsimp only
  split_ifs <;> rfl

private theorem sizes_of_mem_finalY {ending : String} (h : ending ∈ ["y", "Y"]) :
    ending.utf8ByteSize = 1 ∧ ending.toList.length = 1 := by
  have hall : ∀ e ∈ ["y", "Y"], e.utf8ByteSize = 1 ∧ e.toList.length = 1 := by decide
  exact hall ending h

private theorem sizes_of_mem_finalIs {ending : String} (h : ending ∈ ["is", "iS", "Is", "IS"]) :
    ending.utf8ByteSize = 2 ∧ ending.toList.length = 2 := by
  have hall : ∀ e ∈ ["is", "iS", "Is", "IS"], e.utf8ByteSize = 2 ∧ e.toList.length = 2 := by decide
  exact hall ending h

/-- A word whose final `y` becomes `ies` ends in one letter of one byte. -/
theorem exists_of_consonantY {word : String} (h : pluralRule word.toList = .consonantY) :
    ∃ stem, ∃ ending ∈ ["y", "Y"], word = stem ++ ending := by
  have hlower : ['y'].isSuffixOf (lowercase word.toList) = true := by
    -- every other branch gives another rule
    unfold pluralRule at h
    dsimp only at h
    split_ifs at h
    assumption
  obtain ⟨stem, c, hword, hc⟩ := exists_of_lowercase_y (List.isSuffixOf_iff_suffix.1 hlower)
  refine ⟨String.ofList stem, String.ofList [c], ?_, ?_⟩
  · rcases hc with rfl | rfl <;> decide
  · rw [← String.ofList_append, ← hword, String.ofList_toList]

/-- A word whose final `sis` becomes `ses` ends in two letters of one byte each. -/
theorem exists_of_sis {word : String} (h : pluralRule word.toList = .sis) :
    ∃ stem, ∃ ending ∈ ["is", "iS", "Is", "IS"], word = stem ++ ending := by
  have hlower : ['s', 'i', 's'].isSuffixOf (lowercase word.toList) = true := by
    unfold pluralRule at h
    dsimp only at h
    split_ifs at h
    assumption
  obtain ⟨stem, c, d, hword, hc, hd⟩ := exists_of_lowercase_sis (List.isSuffixOf_iff_suffix.1 hlower)
  refine ⟨String.ofList stem, String.ofList [c, d], ?_, ?_⟩
  · rcases hc with rfl | rfl <;> rcases hd with rfl | rfl <;> decide
  · rw [← String.ofList_append, ← hword, String.ofList_toList]

/-- Regular plural of a word that is cut before its last bytes; nothing when that would cut a character. -/
def regularPlural? (word : String) : Option String :=
  match pluralRule word.toList with
  | .addS => some (word ++ "s")
  | .addEs => some (word ++ "es")
  | .keep => some word
  | .consonantY => (withoutLast? word 1).map (· ++ "ies")
  | .sis => (withoutLast? word 2).map (· ++ "es")

private theorem regularPlural?_eq_some (word : String) :
    regularPlural? word = some (String.ofList (regularPlural word.toList)) := by
  rw [regularPlural?, regularPlural_eq]
  cases hrule : pluralRule word.toList with
  | addS => simp
  | addEs => simp
  | keep => simp
  | consonantY =>
    obtain ⟨stem, ending, hending, rfl⟩ := exists_of_consonantY hrule
    -- as many characters are dropped as bytes are cut off
    obtain ⟨hbytes, hlength⟩ := sizes_of_mem_finalY hending
    have hdrop : (stem ++ ending).toList.dropLast = stem.toList := by simp [List.dropLast_eq_take, hlength]
    simp only [withoutLast?_append hbytes, Option.map_some, hdrop, String.ofList_append, String.ofList_toList]
  | sis =>
    obtain ⟨stem, ending, hending, rfl⟩ := exists_of_sis hrule
    obtain ⟨hbytes, hlength⟩ := sizes_of_mem_finalIs hending
    have hdrop : (stem ++ ending).toList.dropLast.dropLast = stem.toList := by
      simp [List.dropLast_eq_take, hlength, List.take_take]
    simp only [withoutLast?_append hbytes, Option.map_some, hdrop, String.ofList_append, String.ofList_toList]

/-! ### Plurals of names -/

/-- Plural of a last word, irregular or regular; nothing when a character would be cut. -/
def pluralWord? (word : String) : Option String :=
  match irregular.lookup (String.ofList (lowercase word.toList)) with
  | some plural => some (String.ofList (inCaseOf word.toList plural.toList))
  | none => regularPlural? word

private theorem pluralWord?_eq_some (word : String) :
    pluralWord? word = some (String.ofList (pluralWord word.toList)) := by
  unfold pluralWord? pluralWord
  cases irregular.lookup (String.ofList (lowercase word.toList)) with
  | some plural => rfl
  | none => exact regularPlural?_eq_some word

/-- Plural of a name that is cut at byte offsets; nothing when a character would be cut. -/
def plural? (name : String) : Option String :=
  if name.isEmpty then some name
  else do
    let (head, last) ← cut? name (lastWordOffset name)
    if uncountable.contains (String.ofList (lowercase last.toList)) then
      return name ++ listSuffix
    let inflected ← pluralWord? last
    return if head ++ inflected = name then name ++ listSuffix else head ++ inflected

private theorem plural?_eq (name : String) : plural? name = some (plural name) := by
  unfold plural? plural
  by_cases hname : name.isEmpty = true
  · rw [if_pos hname, if_pos hname]
  · rw [if_neg hname, if_neg hname, cut?_lastWordOffset rfl]
    simp only [Option.bind_eq_bind, Option.bind_some, String.toList_ofList, pluralWord?_eq_some, String.ofList_append]
    split_ifs <;> rfl

/-- Every cut for a plural is made between two characters, and the plural is there for every text.

The rule for a word is chosen by its lower case.  Still a word whose final `y` becomes `ies` ends in one letter of one
byte, and a word whose final `sis` becomes `ses` in two, so that one or two bytes before its end a character begins.  Nor
does the last word of a name begin inside a character, and the plural made with these cuts is the plural of the name. -/
theorem plural?_eq_some (word : String) :
    (pluralRule word.toList = .consonantY → (∃ stem, ∃ ending ∈ ["y", "Y"], word = stem ++ ending) ∧
        (String.Pos.Raw.mk (word.utf8ByteSize - 1)).IsValid word) ∧
      (pluralRule word.toList = .sis → (∃ stem, ∃ ending ∈ ["is", "iS", "Is", "IS"], word = stem ++ ending) ∧
        (String.Pos.Raw.mk (word.utf8ByteSize - 2)).IsValid word) ∧
      (String.Pos.Raw.mk (lastWordOffset word)).IsValid word ∧
      regularPlural? word = some (String.ofList (regularPlural word.toList)) ∧ plural? word = some (plural word) := by
  refine ⟨fun hrule => ?_, fun hrule => ?_, isValid_lastWordOffset word, regularPlural?_eq_some word, plural?_eq word⟩
  · obtain ⟨stem, ending, hending, rfl⟩ := exists_of_consonantY hrule
    exact ⟨⟨stem, ending, hending, rfl⟩, isValid_before_ending (sizes_of_mem_finalY hending).1⟩
  · obtain ⟨stem, ending, hending, rfl⟩ := exists_of_sis hrule
    exact ⟨⟨stem, ending, hending, rfl⟩, isValid_before_ending (sizes_of_mem_finalIs hending).1⟩

/-- The lower case of `İKİLİCITY` is three bytes longer, and the one of `ΣSIS` ends in `sis`: both are cut where a letter
begins.  In `STASİS` a dot stands between the lower case letters, so the word counts as a plural and is not cut. -/
theorem plural?_eq_some_dotted :
    pluralRule "İKİLİCITY".toList = .consonantY ∧ (String.Pos.Raw.mk 11).IsValid "İKİLİCITY" ∧
      plural? "İKİLİCITY" = some "İKİLİCITies" ∧ pluralRule "ΣSIS".toList = .sis ∧
      (String.Pos.Raw.mk 3).IsValid "ΣSIS" ∧ plural? "ΣSIS" = some "ΣSes" ∧ plural? "STASİS" = some "STASİSList" := by
  have hcity : pluralRule "İKİLİCITY".toList = .consonantY := by decide
  have hsis : pluralRule "ΣSIS".toList = .sis := by decide
  have hcities : plural "İKİLİCITY" = "İKİLİCITies" := by decide
  have hses : plural "ΣSIS" = "ΣSes" := by decide
  have hlist : plural "STASİS" = "STASİSList" := by decide
  obtain ⟨hy, -, -, -, hplural⟩ := plural?_eq_some "İKİLİCITY"
  obtain ⟨-, his, -, -, hplural'⟩ := plural?_eq_some "ΣSIS"
  obtain ⟨-, -, -, -, hplural''⟩ := plural?_eq_some "STASİS"
  rw [hcities] at hplural
  rw [hses] at hplural'
  rw [hlist] at hplural''
  exact ⟨hcity, (hy hcity).2, hplural, hsis, (his hsis).2, hplural', hplural''⟩

end GuardedCrud.Naming
