import GuardedCrud.Proofs.Access.Annotations
import GuardedCrud.Proofs.Json.Members

/-!
# Levels as texts

Reading the text of a level gives the level back if some text names the level (`isNamed_iff`); a role called `admin` or
one with blanks around its name is named by no text.  A policy reads back with each of its levels read again
(`ofJson?_toJson`), and every level that comes out of a value is named.
-/

namespace GuardedCrud.Access

open GuardedCrud.Json GuardedCrud.Text

/-! ### Named levels -/

/-- Some text names the level. -/
def Level.IsNamed (l : Level) : Prop := ∃ text, l = ofText text

private theorem Level.ofText_trim (text : String) : ofText (String.ofList (trim text.toList)) = ofText text := by
  unfold ofText
  rw [String.toList_ofList, trim_trim]

/-- A role that a text names is called by the text without the blanks around it. -/
theorem Level.eq_of_ofText_eq_role {text name : String} (h : ofText text = role name) :
    name = String.ofList (trim text.toList) := by
  unfold ofText at h
  dsimp only at h
  split at h
  · cases h
  · split at h
    · cases h
    · split at h
      · cases h
      · exact (Level.role.inj h).symm

private theorem Level.ofText_text_ofText (text : String) : ofText (ofText text).text = ofText text := by
  cases h : ofText text with
  | everyone => rfl
  | user => rfl
  | admin => rfl
  | role name =>
    have hname := eq_of_ofText_eq_role h
    show ofText name = role name
    rw [hname, ofText_trim, h, hname]

theorem Level.isNamed_iff {l : Level} : l.IsNamed ↔ ofText l.text = l := by
  constructor
  · rintro ⟨text, rfl⟩
    exact ofText_text_ofText text
  · intro h
    exact ⟨l.text, h.symm⟩

theorem Level.isNamed_admin : admin.IsNamed := ⟨"admin", rfl⟩

/-! ### Keywords -/

/-- The text is the keyword, up to the blanks around it and the case of its letters. -/
def Level.IsKeyword (text keyword : String) : Prop := sameIgnoringCase (trim text.toList) keyword.toList = true

/-- A text is one keyword only. -/
private theorem Level.IsKeyword.eq_lower {text keyword other : String} (h : IsKeyword text keyword)
    (h' : IsKeyword text other) : keyword.toList.map Char.toLower = other.toList.map Char.toLower :=
  (beq_iff_eq.1 h).symm.trans (beq_iff_eq.1 h')

private theorem Level.IsKeyword.trim_ne_nil {text keyword : String} (h : IsKeyword text keyword)
    (hne : keyword.toList ≠ []) : trim text.toList ≠ [] := by
  intro hnil
  rw [IsKeyword, hnil] at h
  exact hne (List.map_eq_nil_iff.1 (beq_iff_eq.1 h).symm)

instance (text keyword : String) : Decidable (Level.IsKeyword text keyword) := inferInstanceAs (Decidable (_ = true))

theorem Level.ofText_eq (text : String) : ofText text =
    if trim text.toList = [] ∨ IsKeyword text "admin" then admin
    else if IsKeyword text "public" then everyone
    else if IsKeyword text "user" then user
    else role (String.ofList (trim text.toList)) := by
  have hadmin : ((trim text.toList).isEmpty || sameIgnoringCase (trim text.toList) "admin".toList) = true ↔
      trim text.toList = [] ∨ IsKeyword text "admin" := by
    rw [Bool.or_eq_true, List.isEmpty_iff, IsKeyword]
  exact if_congr hadmin rfl rfl

theorem Level.ofText_eq_admin_iff (text : String) :
    ofText text = admin ↔ trim text.toList = [] ∨ IsKeyword text "admin" := by
  rw [ofText_eq]
  split_ifs with hadmin <;> simp [hadmin]

/-- What is blank or says `admin` is no other keyword. -/
private theorem Level.not_isKeyword_of_admin {text keyword : String}
    (h : trim text.toList = [] ∨ IsKeyword text "admin") (hne : keyword.toList ≠ [])
    (hother : "admin".toList.map Char.toLower ≠ keyword.toList.map Char.toLower) :
    ¬ IsKeyword text keyword := by
  intro hkeyword
  rcases h with hnil | hadmin
  · exact hkeyword.trim_ne_nil hne hnil
  · exact hother (hadmin.eq_lower hkeyword)

theorem Level.ofText_eq_everyone_iff (text : String) : ofText text = everyone ↔ IsKeyword text "public" := by
  rw [ofText_eq]
  split_ifs with hadmin hpublic
  · exact iff_of_false (by simp) (not_isKeyword_of_admin hadmin (by decide) (by decide))
  · exact iff_of_true rfl hpublic
  · exact iff_of_false (by simp) hpublic
  · exact iff_of_false (by simp) hpublic

theorem Level.ofText_eq_user_iff (text : String) : ofText text = user ↔ IsKeyword text "user" := by
  rw [ofText_eq]
  split_ifs with hadmin hpublic huser
  · exact iff_of_false (by simp) (not_isKeyword_of_admin hadmin (by decide) (by decide))
  · exact iff_of_false (by simp) fun huser => absurd (hpublic.eq_lower huser) (by decide)
  · exact iff_of_true rfl huser
  · exact iff_of_false (by simp) huser

/-! ### Policies -/

/-- The policy with each level read from its text. -/
def Policy.reread (p : Policy) : Policy := PerOperation.ofFn fun op => .ofText (p.get op).text

theorem Policy.reread_eq_iff {p : Policy} : p.reread = p ↔ ∀ op, (p.get op).IsNamed := by
  constructor
  · intro h op
    have hget : p.reread.get op = .ofText (p.get op).text := PerOperation.get_ofFn _ op
    rw [h] at hget
    exact ⟨_, hget⟩
  · intro h
    apply PerOperation.ext_get
    intro op
    rw [reread, PerOperation.get_ofFn]
    exact Level.isNamed_iff.1 (h op)

private theorem last?_stored (f : Operation → Value) (op : Operation) :
    Value.last? (Operation.stored.map fun op => (op.key, f op)) op.key = some (f op) := by
  cases op <;> simp [Operation.stored, Operation.key]

theorem Policy.ofJson?_toJson (p : Policy) : Policy.ofJson? p.toJson = some p.reread := by
  rw [ofJson?, toJson, Value.fields?, Option.bind_some, ofFn?_eq_some_iff]
  intro op
  rw [required, last?_stored, reread, PerOperation.get_ofFn]
  rfl

/-! ### Overrides -/

/-- All levels that the overrides give are named. -/
def Overrides.IsNamed (o : Overrides) : Prop := ∀ op l, o.get op = some l → l.IsNamed

theorem Overrides.isNamed_of_ofJson? {surplus : Bool} {v : Value} {o : Overrides}
    (h : Overrides.ofJson? surplus v = some o) : o.IsNamed := by
  intro op l hl
  obtain ⟨members, -, hmembers⟩ := Option.bind_eq_some_iff.1 h
  have hlevel := ofFn?_eq_some_iff.1 hmembers op
  rw [hl] at hlevel
  obtain ⟨-, hmap⟩ := optional_level_eq_some_iff.1 hlevel
  obtain ⟨text, -, rfl⟩ := Option.map_eq_some_iff.1 hmap.symm
  exact ⟨text, rfl⟩

end GuardedCrud.Access
