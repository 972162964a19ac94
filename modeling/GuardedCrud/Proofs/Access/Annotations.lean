import GuardedCrud.Access.Resolution
import GuardedCrud.Proofs.Text.Characters

/-!
# What an annotation says

`Annotates` says when the documentation of a model carries overrides, in terms of the documentation lines, the first
marker in them and the JSON object behind it.  An annotation sets the levels that it gives as strings
(`resolvePolicy_of_annotates`), and whatever is not an annotation leaves the base policy as it is
(`resolvePolicy_of_not_annotates`).
-/

namespace GuardedCrud.Access

open GuardedCrud.Json GuardedCrud.Schema GuardedCrud.Text

/-! ### The first marker -/

/-- `rest` follows the first occurrence of `mark` in a text. -/
def FollowsFirst (mark cs rest : List Char) : Prop :=
  ∃ before, cs = before ++ mark ++ rest ∧ ∀ b r, cs = b ++ mark ++ r → before.length ≤ b.length

private theorem after?_eq_none_iff {mark cs : List Char} : after? mark cs = none ↔ ¬ mark <:+: cs := by
  induction cs with
  | nil => cases mark <;> simp [after?, List.isPrefixOf?]
  | cons c cs ih =>
    rw [after?, List.infix_cons_iff, not_or, ← ih]
    cases hp : mark.isPrefixOf? (c :: cs) with
    | some rest => simp [isPrefixOf?_eq_some.1 hp]
    | none =>
      have hn : ¬ mark <+: c :: cs := by
        rintro ⟨rest, hr⟩
        rw [isPrefixOf?_eq_some.2 hr.symm] at hp
        cases hp
      simp [hn]

private theorem followsFirst_of_after? {mark cs rest : List Char} (h : after? mark cs = some rest) :
    FollowsFirst mark cs rest := by
  induction cs with
  | nil =>
    rw [after?, isPrefixOf?_eq_some] at h
    exact ⟨[], by simpa using h, fun b r _ => Nat.zero_le _⟩
  | cons c cs ih =>
    rw [after?] at h
    cases hp : mark.isPrefixOf? (c :: cs) with
    | some rest' =>
      rw [hp] at h
      cases h
      exact ⟨[], by rw [isPrefixOf?_eq_some.1 hp]; rfl, fun b r _ => Nat.zero_le _⟩
    | none =>
      rw [hp] at h
      obtain ⟨before, rfl, hmin⟩ := ih h
      refine ⟨c :: before, rfl, fun b r hb => ?_⟩
      cases b with
      | nil =>
        rw [isPrefixOf?_eq_some.2 (by simpa using hb)] at hp
        cases hp
      | cons d b =>
        have := hmin b r (List.cons.inj hb).2
        simp only [List.length_cons]
        omega

private theorem after?_eq_some_iff {mark cs rest : List Char} :
    after? mark cs = some rest ↔ FollowsFirst mark cs rest := by
  refine ⟨followsFirst_of_after?, fun ⟨before, hcs, hmin⟩ => ?_⟩
  cases ha : after? mark cs with
  | none => exact absurd ⟨before, rest, hcs.symm⟩ (after?_eq_none_iff.1 ha)
  | some rest' =>
    obtain ⟨before', hcs', hmin'⟩ := followsFirst_of_after? ha
    have hlen : before.length = before'.length := Nat.le_antisymm (hmin _ _ hcs') (hmin' _ _ hcs)
    rw [hcs, List.append_assoc, List.append_assoc] at hcs'
    have := (List.append_inj hcs' hlen).2
    rw [List.append_cancel_left this]

/-- The fragment of documentation lines stands in the first line with a marker, behind its first marker. -/
theorem fragment?_eq_some_iff {docs : List String} {fragment : List Char} :
    fragment? docs = some fragment ↔ ∃ before line later rest, docs = before ++ line :: later ∧
      (∀ d ∈ before, ¬ marker.toList <:+: d.toList) ∧ FollowsFirst marker.toList line.toList rest ∧
        trim rest = fragment := by
  simp only [fragment?, List.findSome?_eq_some_iff, Option.map_eq_some_iff, Option.map_eq_none_iff, after?_eq_some_iff,
    after?_eq_none_iff]
  constructor
  · rintro ⟨before, line, later, hdocs, ⟨rest, hrest, ht⟩, hbefore⟩
    exact ⟨before, line, later, rest, hdocs, hbefore, hrest, ht⟩
  · rintro ⟨before, line, later, rest, hdocs, hbefore, hrest, ht⟩
    exact ⟨before, line, later, hdocs, ⟨rest, hrest, ht⟩, hbefore⟩

/-! ### The object behind the marker -/

/-- The value may stand under a key of an annotation: it is absent, null or a string. -/
def IsLevelValue (v : Option Value) : Prop := v = none ∨ v = some .null ∨ ∃ t, v = some (.string t)

/-- The text that an annotation gives for an operation. -/
def levelText? (members : List (String × Value)) (op : Operation) : Option String :=
  (Value.last? members op.key).bind Value.text?

/-- The documentation of the model carries an annotation with these members: behind the first marker of its first line
with a marker stands a JSON object, and the values of the six keys may stand there. -/
def Annotates (source model : String) (members : List (String × Value)) : Prop :=
  ∃ docs before line later rest, documentationOf source model = some docs ∧ docs = before ++ line :: later ∧
    (∀ d ∈ before, ¬ marker.toList <:+: d.toList) ∧ FollowsFirst marker.toList line.toList rest ∧
    readLeading (trim rest) = some (.object members) ∧ ∀ op : Operation, IsLevelValue (Value.last? members op.key)

theorem ofFn?_eq_some_iff {α : Type} {f : Operation → Option α} {p : PerOperation α} :
    PerOperation.ofFn? f = some p ↔ ∀ op, f op = some (p.get op) := by
  constructor
  · intro h op
    simp only [PerOperation.ofFn?, Option.bind_eq_bind, Option.bind_eq_some_iff, Option.pure_def,
      Option.some.injEq] at h
    obtain ⟨_, h₁, _, h₂, _, h₃, _, h₄, _, h₅, _, h₆, rfl⟩ := h
    cases op <;> assumption
  · intro h
    have h₁ := h .readMany
    have h₂ := h .count
    have h₃ := h .readOne
    have h₄ := h .create
    have h₅ := h .update
    have h₆ := h .delete
    simp [PerOperation.ofFn?, h₁, h₂, h₃, h₄, h₅, h₆, PerOperation.get]

theorem optional_level_eq_some_iff {members : List (String × Value)} {op : Operation} {l : Option Level} :
    Json.optional members op.key Level.ofJson? = some l ↔
      IsLevelValue (Value.last? members op.key) ∧ l = (levelText? members op).map Level.ofText := by
  unfold Json.optional IsLevelValue levelText?
  cases Value.last? members op.key with
  | none => simp [eq_comm]
  | some v =>
    cases v with
    | null => simp [Value.text?, eq_comm]
    | string t => simp [Level.ofJson?, Value.text?, eq_comm]
    | _ => simp [Level.ofJson?, Value.text?]

/-- An object gives overrides exactly if the values of the six keys may stand there. -/
private theorem ofJson?_object_eq_some_iff {members : List (String × Value)} {o : Overrides} :
    Overrides.ofJson? false (.object members) = some o ↔
      (∀ op : Operation, IsLevelValue (Value.last? members op.key)) ∧
        ∀ op, o.get op = (levelText? members op).map Level.ofText := by
  simp only [Overrides.ofJson?, Value.fields?, Option.bind_some, ofFn?_eq_some_iff, optional_level_eq_some_iff]
  exact forall_and

private theorem isBlank_of_jsonBlank {c : Char} (h : Json.isBlank c = true) : Text.isBlank c = true := by
  simp only [Json.isBlank, Bool.or_eq_true, beq_iff_eq] at h
  rcases h with ((rfl | rfl) | rfl) | rfl <;> decide

private theorem skipBlanks_trim (cs : List Char) : skipBlanks (trim cs) = trim cs := by
  unfold skipBlanks
  cases h : trim cs with
  | nil => rfl
  | cons c rest =>
    have hb := isBlank_of_trim h
    have hj : Json.isBlank c = false := by
      rw [← Bool.not_eq_true]
      intro hc
      rw [isBlank_of_jsonBlank hc] at hb
      cases hb
    rw [List.dropWhile_cons, hj]
    rfl

/-- A trimmed fragment gives overrides exactly if an object of levels stands at its front. -/
private theorem ofFragment_trim_eq_ok_iff {rest : List Char} {o : Overrides} :
    Overrides.ofFragment (trim rest) = .ok o ↔ ∃ members, readLeading (trim rest) = some (.object members) ∧
      Overrides.ofJson? false (.object members) = some o := by
  rw [Overrides.ofFragment, skipBlanks_trim]
  cases ht : trim rest with
  | nil =>
    have hnil : readLeading [] = none := by decide
    simp [hnil]
  | cons c cs =>
    dsimp only
    cases hr : readLeading (c :: cs) with
    | none => simp
    | some v =>
      cases v with
      | object members =>
        simp only [Value.isObject, if_true, Option.some.injEq, Value.object.injEq, exists_eq_left']
        cases Overrides.ofJson? false (.object members) <;> simp
      | _ => simp [Value.isObject]

/-! ### The policy of a model -/

private theorem ofDocs_eq_ok_some_iff {model : String} {docs : List String} {o : Overrides} :
    Overrides.ofDocs model docs = .ok (some o) ↔
      ∃ fragment, fragment? docs = some fragment ∧ Overrides.ofFragment fragment = .ok o := by
  rw [Overrides.ofDocs]
  cases fragment? docs with
  | none => simp
  | some fragment => cases h : Overrides.ofFragment fragment <;> simp [h]

private theorem ofDocs?_eq_annotated_iff {model : String} {docs? : Option (List String)} {o : Overrides} :
    Finding.ofDocs? model docs? = .annotated o ↔
      ∃ docs, docs? = some docs ∧ Overrides.ofDocs model docs = .ok (some o) := by
  cases docs? with
  | none => simp [Finding.ofDocs?]
  | some docs =>
    rw [Finding.ofDocs?]
    split <;> simp_all

/-- The documentation of a model gives overrides exactly if it carries an annotation. -/
private theorem finding_eq_annotated_iff {source model : String} {o : Overrides} :
    Finding.ofSource source model = .annotated o ↔
      ∃ members, Annotates source model members ∧ ∀ op, o.get op = (levelText? members op).map Level.ofText := by
  change Finding.ofDocs? model (documentationOf source model) = _ ↔ _
  rw [ofDocs?_eq_annotated_iff]
  constructor
  · rintro ⟨docs, hd, ho⟩
    obtain ⟨fragment, hf, ho⟩ := ofDocs_eq_ok_some_iff.1 ho
    obtain ⟨before, line, later, rest, hdocs, hbefore, hrest, rfl⟩ := fragment?_eq_some_iff.1 hf
    obtain ⟨members, hr, hj⟩ := ofFragment_trim_eq_ok_iff.1 ho
    obtain ⟨hv, hl⟩ := ofJson?_object_eq_some_iff.1 hj
    exact ⟨members, ⟨docs, before, line, later, rest, hd, hdocs, hbefore, hrest, hr, hv⟩, hl⟩
  · rintro ⟨members, ⟨docs, before, line, later, rest, hd, hdocs, hbefore, hrest, hr, hv⟩, hl⟩
    refine ⟨docs, hd, ofDocs_eq_ok_some_iff.2 ⟨trim rest, ?_, ?_⟩⟩
    · exact fragment?_eq_some_iff.2 ⟨before, line, later, rest, hdocs, hbefore, hrest, rfl⟩
    · exact ofFragment_trim_eq_ok_iff.2 ⟨members, hr, ofJson?_object_eq_some_iff.2 ⟨hv, hl⟩⟩

/-- An annotation sets the levels that it gives, and keeps the others. -/
theorem resolvePolicy_of_annotates {source model : String} {members : List (String × Value)}
    (h : Annotates source model members) (base : Policy) (op : Operation) :
    (resolvePolicy base source model).get op = ((levelText? members op).map Level.ofText).getD (base.get op) := by
  have hget : ∀ op, (PerOperation.ofFn fun op => (levelText? members op).map Level.ofText).get op =
      (levelText? members op).map Level.ofText := PerOperation.get_ofFn _
  rw [resolvePolicy, finding_eq_annotated_iff.2 ⟨members, h, hget⟩, Finding.policy, Policy.get_merge, hget]

/-- Without an annotation, whatever the reason, the base policy stays. -/
theorem resolvePolicy_of_not_annotates {source model : String} (h : ∀ members, ¬ Annotates source model members)
    (base : Policy) : resolvePolicy base source model = base := by
  rw [resolvePolicy]
  cases hf : Finding.ofSource source model with
  | annotated o =>
    obtain ⟨members, hm, -⟩ := finding_eq_annotated_iff.1 hf
    exact absurd hm (h members)
  | _ => rfl

end GuardedCrud.Access
