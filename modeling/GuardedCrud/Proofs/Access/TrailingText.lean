import GuardedCrud.Proofs.Access.Annotations
import GuardedCrud.Proofs.Json.Grammar

/-!
# The text behind an annotation

The JSON object of an annotation ends at its closing brace: the overrides that documentation lines carry depend neither
on the text behind the object nor on the lines after it (`ofDocs_trailing`).
-/

namespace GuardedCrud.Access

open GuardedCrud.Json GuardedCrud.Text

section

variable {mark lead rest before cs : List Char} {c : Char}

/-- A mark whose first character does not come again in it stands first where no mark stands before it. -/
private theorem followsFirst_append (hmark : c ∉ mark) (hlead : ¬ c :: mark <:+: lead) (rest : List Char) :
    FollowsFirst (c :: mark) (lead ++ c :: mark ++ rest) rest := by
  refine ⟨lead, rfl, fun b r h => ?_⟩
  by_contra hlt
  rw [List.append_assoc, List.append_assoc] at h
  -- the part of the lead behind the earlier mark
  have hsplit : ∃ between, lead = b ++ between ∧ c :: mark ++ r = between ++ (c :: mark ++ rest) := by
    rcases List.append_eq_append_iff.1 h with ⟨a, hb, -⟩ | h
    · rw [hb, List.length_append] at hlt
      omega
    · exact h
  obtain ⟨between, rfl, hrest⟩ := hsplit
  rcases List.append_eq_append_iff.1 hrest with ⟨a, hbetween, -⟩ | ⟨a, hcut, hrest⟩
  · exact hlead ⟨b, a, by rw [hbetween, List.append_assoc]⟩
  · -- the marks overlap, so the first character of the second stands in the first
    cases between with
    | nil => simp at hlt
    | cons d between =>
      have hcut' : mark = between ++ a := (List.cons.inj hcut).2
      cases a with
      | nil =>
        rw [List.append_nil] at hcut
        exact hlead ⟨b, [], by rw [hcut, List.append_nil]⟩
      | cons e a =>
        have he : c = e := (List.cons.inj hrest).1
        exact hmark (by rw [hcut', he]; simp)

/-- Behind the first marker of a line. -/
private theorem followsFirst_marker (hlead : ¬ marker.toList <:+: lead) (rest : List Char) :
    FollowsFirst marker.toList (lead ++ marker.toList ++ rest) rest :=
  followsFirst_append (by decide) hlead rest

/-- Trimming stops at a last character that is no blank. -/
private theorem exists_trimEnd_concat_append (hc : Text.isBlank c = false) (cs t : List Char) :
    ∃ t', trimEnd (cs ++ [c] ++ t) = cs ++ [c] ++ t' := by
  obtain ⟨bl, hend, hbl⟩ := exists_trimEnd_append (cs ++ [c] ++ t)
  rcases List.append_eq_append_iff.1 hend with ⟨a, ha, -⟩ | ⟨a, ha, hcut⟩
  · exact ⟨a, ha⟩
  · rcases List.eq_nil_or_concat a with rfl | ⟨a, d, rfl⟩
    · exact ⟨[], by rw [List.append_nil, ← ha.trans (List.append_nil _)]⟩
    · -- the character would be one of the blanks at the end
      rw [List.concat_eq_append, ← List.append_assoc] at ha
      have hd : c = d := by simpa using (List.append_inj' ha rfl).2
      have := hbl c (by rw [hcut, hd]; simp)
      rw [hc] at this
      cases this

/-- Trimming takes nothing from an object. -/
private theorem exists_trim_object {blanks object : List Char} (hb : ∀ b ∈ blanks, Text.isBlank b = true)
    (h : IsJson .object object) (t : List Char) : ∃ t', trim (blanks ++ (object ++ t)) = object ++ t' := by
  induction blanks with
  | nil =>
    obtain ⟨cs, rfl⟩ := h.exists_braces
    obtain ⟨t', ht⟩ := exists_trimEnd_concat_append (c := '\x7d') (by decide +kernel) cs t
    refine ⟨t', ?_⟩
    rw [List.nil_append, List.cons_append, trim_cons_of_not_isBlank (by decide +kernel), ht, List.cons_append]
  | cons b blanks ih =>
    rw [List.cons_append, trim_cons_of_isBlank (hb b (by simp))]
    exact ih fun b hb' => hb b (by simp [hb'])

/-- The overrides of an object do not depend on the text behind it. -/
private theorem ofFragment_object {object : List Char} (h : IsJson .object object) (t : List Char) :
    Overrides.ofFragment (object ++ t) =
      ((readLeading object).bind (Overrides.ofJson? false)).elim (.error .notOverrides) .ok := by
  obtain ⟨cs, hcs⟩ := h.exists_braces
  have hskip : skipBlanks (object ++ t) = '\x7b' :: (cs ++ ['\x7d'] ++ t) := by
    rw [hcs, List.cons_append]
    exact skipBlanks_cons (by decide) _
  obtain ⟨answer, hread, hobject⟩ := h.exists_readLeading
  have halone : readLeading object = answer := by simpa using hread []
  have hbehind : readLeading ('\x7b' :: (cs ++ ['\x7d'] ++ t)) = answer := by
    rw [← hread t, hcs, List.cons_append]
  rw [Overrides.ofFragment, hskip]
  simp only [hbehind, halone]
  cases answer with
  | none => rfl
  | some v =>
    simp only [hobject v rfl, if_true, Option.bind_some]
    cases Overrides.ofJson? false v <;> rfl

end

/-- Behind the first marker of documentation lines, and the blanks after it, stands a JSON object.  The lines carry the
overrides of the object, or are malformed where it gives none, whatever text stands behind the object and whatever lines
come after it. -/
theorem ofDocs_trailing {before : List String} {lead blanks object : List Char}
    (hbefore : ∀ line ∈ before, ¬ marker.toList <:+: line.toList) (hlead : ¬ marker.toList <:+: lead)
    (hblanks : ∀ b ∈ blanks, Text.isBlank b = true) (hobject : IsJson .object object)
    (model : String) (trailing : List Char) (later later' : List String) :
    Overrides.ofDocs model
        (before ++ String.ofList (lead ++ marker.toList ++ (blanks ++ (object ++ trailing))) :: later) =
      Overrides.ofDocs model (before ++ String.ofList (lead ++ marker.toList ++ (blanks ++ object)) :: later') ∧
    Overrides.ofDocs model (before ++ String.ofList (lead ++ marker.toList ++ (blanks ++ object)) :: later') =
      ((readLeading object).bind (Overrides.ofJson? false)).elim (.error ⟨model, .notOverrides⟩)
        fun o => .ok (some o) := by
  have hdocs : ∀ (t : List Char) (later : List String), Overrides.ofDocs model
      (before ++ String.ofList (lead ++ marker.toList ++ (blanks ++ (object ++ t))) :: later) =
        ((readLeading object).bind (Overrides.ofJson? false)).elim (.error ⟨model, .notOverrides⟩)
          fun o => .ok (some o) := by
    intro t later
    obtain ⟨t', ht⟩ := exists_trim_object hblanks hobject t
    have hfirst := followsFirst_marker hlead (blanks ++ (object ++ t))
    have hfragment : fragment? (before ++
        String.ofList (lead ++ marker.toList ++ (blanks ++ (object ++ t))) :: later) = some (object ++ t') := by
      apply fragment?_eq_some_iff.2
      exact ⟨before, _, later, _, rfl, hbefore, by rwa [String.toList_ofList], ht⟩
    rw [Overrides.ofDocs, hfragment]
    simp only [ofFragment_object hobject t']
    cases (readLeading object).bind (Overrides.ofJson? false) <;> rfl
  have halone := hdocs [] later'
  rw [List.append_nil] at halone
  exact ⟨(hdocs trailing later).trans halone.symm, halone⟩

/-- An object with a brace and a quote inside a string, and an object inside a list. -/
def nestedObject : List Char :=
  "\x7b\"count\":\"public\",\"x\": [\x7b\"\\\"\x7d\":-1.5e3\x7d] \x7d".toList

private theorem isJson_nestedObject : IsJson .object nestedObject := by
  have hnone : IsBlanks [] := by simp [IsBlanks]
  have hblank : IsBlanks [' '] := List.all_eq_true.1 (by decide)
  have hcount : IsJson .member _ := .member hnone (.of_plain (by decide : "count".toList.all _ = true)) hnone
    (.item hnone (.string (.of_plain (by decide : "public".toList.all _ = true))) hnone)
  have hdigit : ∀ d ∈ ['1', '3', '5'], IsDigits [d] := fun d hd =>
    ⟨List.cons_ne_nil _ _, List.forall_mem_singleton.2 (List.all_eq_true.1 (by decide) d hd)⟩
  have hnumber : IsNumber (['-'] ++ (['1'] ++ (['.', '5'] ++ ('e' :: ([] ++ ['3']))))) :=
    .mk (.inr rfl) (.digits (by decide) (hdigit '1' (by simp))) (.digits (hdigit '5' (by simp)))
      (.digits (.inl rfl) (.inl rfl) (hdigit '3' (by simp)))
  have hkey : IsStringBody ['\\', '"', '\x7d'] := .escape (by decide) (.of_plain (by decide))
  have hinner : IsJson .object _ :=
    .object (.lastMember (.member hnone hkey hnone (.item hnone (.number hnumber) hnone)))
  have hlist : IsJson .member _ := .member hnone (.of_plain (by decide : ['x'].all _ = true)) hnone
    (.item hblank (.array (.lastItem (.item hnone (.ofObject hinner) hnone))) hblank)
  have htext : nestedObject = _ := String.toList_ofList
  rw [htext]
  exact .object (.moreMembers hcount (.lastMember hlist))

theorem ofDocs_trailing_nestedObject :
    Overrides.ofDocs "Post" ["Posts.",
        "See @crudAuth:\t" ++ String.ofList nestedObject ++ "\x7d \x7b\"count\": \"deny\"\x7d @crudAuth: \x7b\x7d ",
        "@crudAuth: \x7b\x7d"] =
      Overrides.ofDocs "Post" ["Posts.", "See @crudAuth:\t" ++ String.ofList nestedObject] ∧
    Overrides.ofDocs "Post" ["Posts.", "See @crudAuth:\t" ++ String.ofList nestedObject] =
      .ok (some ⟨none, some (Level.ofText "public"), none, none, none, none⟩) := by
  have hbefore : ∀ line ∈ ["Posts."], ¬ marker.toList <:+: line.toList := by
    simp only [List.mem_singleton, forall_eq]
    decide +kernel
  have hlead : ¬ marker.toList <:+: "See ".toList := by decide +kernel
  have hblanks : ∀ b ∈ ['\t'], Text.isBlank b = true := List.all_eq_true.1 (by decide +kernel)
  have h := ofDocs_trailing hbefore hlead hblanks isJson_nestedObject "Post"
    "\x7d \x7b\"count\": \"deny\"\x7d @crudAuth: \x7b\x7d ".toList ["@crudAuth: \x7b\x7d"] []
  have hread : (readLeading nestedObject).bind (Overrides.ofJson? false) =
      some ⟨none, some (Level.ofText "public"), none, none, none, none⟩ := by
    have htext : nestedObject = _ := String.toList_ofList
    rw [htext]
    decide +kernel
  rw [hread] at h
  exact h

end GuardedCrud.Access
