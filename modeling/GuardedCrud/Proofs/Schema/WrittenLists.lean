import GuardedCrud.Proofs.Schema.Fragments
import GuardedCrud.Proofs.Schema.WrittenFields

/-!
# Lists of names in arguments

An argument such as `fields: [a, b]` goes through a text: its tokens are spelled, and the text is cut at its commas again.
The elements are the names among the tokens (`elements_spell`), also where comments stand between them.

The reader looks for the name of an argument in its first two tokens, and comments count as tokens there.  So what an
argument says to a reader of the schema (`namedValue?`) is what the structure keeps unless a comment stands before the colon
(`ofTokens_of_namedValue?`).
-/

namespace GuardedCrud.Schema

open GuardedCrud.Text

/-! ### What arguments say -/

/-- The name that a token is. -/
def Token.name? : Token → Option String
  | .ident name => some name
  | _ => none

/-- The names among some tokens. -/
def identifiers (ts : List Token) : List String := ts.filterMap Token.name?

/-- The tokens that are no comments. -/
def withoutDocs (ts : List Token) : List Token := ts.filter fun t => !t.isDoc

/-- The name and the value of an argument, comments apart. -/
def namedValue? (arg : List Token) : Option (String × List Token) :=
  match withoutDocs arg with
  | .ident name :: .mark .colon :: value => some (name, value)
  | _ => none

/-- The value of the first argument of a name. -/
def WrittenAttribute.value? (a : WrittenAttribute) (name : String) : Option (List Token) :=
  (a.args.filterMap namedValue?).lookup name

/-- Names between commas, also one comma at the end. -/
inductive IsNames : List Token → Prop
  | nil : IsNames []
  | last {name : String} : IsNames [.ident name]
  | cons {name : String} {ts : List Token} (h : IsNames ts) : IsNames (.ident name :: .mark .comma :: ts)

/-- Names between commas in square brackets. -/
inductive IsNameList : List Token → Prop
  | mk {ts : List Token} (h : IsNames ts) : IsNameList (.opening .square :: (ts ++ [.closing .square]))

/-- An argument whose name is hidden from the reader by a comment before its colon, or in which nothing but comments
stands. -/
def IsObscured (arg : List Token) : Prop :=
  withoutDocs arg = [] ∨ (namedValue? arg).isSome = true ∧ ∃ t ∈ arg.take 2, t.isDoc = true

instance (arg : List Token) : Decidable (IsObscured arg) := inferInstanceAs (Decidable (_ ∨ _))

/-! ### Comments in arguments -/

section

variable {ts value : List Token} {t : Token} {name : String}

private theorem spell_cons (t : Token) (ts : List Token) : spell (t :: ts) = spell [t] ++ spell ts := by
  simp [spell, String.join_cons]

private theorem withoutDocs_cons (h : t.isDoc = false) (ts : List Token) :
    withoutDocs (t :: ts) = t :: withoutDocs ts := by
  simp [withoutDocs, h]

private theorem spell_withoutDocs (ts : List Token) : spell (withoutDocs ts) = spell ts := by
  induction ts with
  | nil => rfl
  | cons t ts ih =>
    cases hdoc : t.isDoc with
    | false => rw [withoutDocs_cons hdoc, spell_cons, ih, ← spell_cons]
    | true =>
      have hempty : spell [t] = "" := by cases t <;> first | rfl | cases hdoc
      have hdrop : withoutDocs (t :: ts) = withoutDocs ts := by simp [withoutDocs, hdoc]
      rw [hdrop, ih, spell_cons t, hempty, String.empty_append]

/-- The reader takes the name and the value of an argument as they are written, unless a comment hides the name. -/
theorem ofTokens_of_namedValue? {arg : List Token} (h : namedValue? arg = some (name, value))
    (hplain : ¬ IsObscured arg) : Argument.ofTokens arg = ⟨some name, spell value⟩ := by
  have hfirst : ∀ t ∈ arg.take 2, t.isDoc = false := by
    intro t ht
    by_contra hdoc
    exact hplain (Or.inr ⟨by rw [h]; rfl, t, ht, by simpa using hdoc⟩)
  unfold namedValue? at h
  split at h
  · rename_i name' value' harg
    cases h
    -- the first two tokens are no comments, so they are the name and the colon
    obtain _ | ⟨t, arg⟩ := arg
    · cases harg
    rw [withoutDocs_cons (hfirst t (by simp))] at harg
    obtain ⟨rfl, hcolon⟩ := List.cons.inj harg
    obtain _ | ⟨u, arg⟩ := arg
    · cases hcolon
    rw [withoutDocs_cons (hfirst u (by simp))] at hcolon
    obtain ⟨rfl, rfl⟩ := List.cons.inj hcolon
    rw [spell_withoutDocs]
    rfl
  · cases h

/-- A name in the value of an argument stands in the argument. -/
theorem ident_mem_of_namedValue? {arg : List Token} {key : String} (h : namedValue? arg = some (key, value))
    (hname : name ∈ identifiers value) : .ident name ∈ arg := by
  obtain ⟨t, ht, hident⟩ := List.mem_filterMap.1 hname
  have ht' : t = .ident name := by
    cases t with
    | ident name' =>
      cases hident
      rfl
    | _ => cases hident
  subst ht'
  unfold namedValue? at h
  split at h
  · rename_i name' value' harg
    cases h
    have hmem : .ident name ∈ withoutDocs arg := by
      rw [harg]
      simp [ht]
    exact (List.mem_filter.1 hmem).1
  · cases h

/-- What has no name to a reader of the schema has none in the structure. -/
theorem ofTokens_name_of_none {arg : List Token} (h : namedValue? arg = none) : (Argument.ofTokens arg).name = none := by
  rw [Argument.ofTokens_of_not_named]
  rintro name value rfl
  rw [namedValue?, withoutDocs_cons rfl, withoutDocs_cons rfl] at h
  cases h

end

/-! ### Names in a text -/

section

variable {cs : List Char} {ts : List Token}

private theorem trim_of_not_isBlank (h : ∀ c ∈ cs, isBlank c = false) : trim cs = cs := by
  have hend : ∀ cs : List Char, (∀ c ∈ cs, isBlank c = false) → trimEnd cs = cs := by
    intro cs h
    obtain ⟨bl, hcut, hbl⟩ := exists_trimEnd_append cs
    have hnone : bl = [] := by
      apply List.eq_nil_iff_forall_not_mem.2
      intro b hb
      have := h b (by rw [hcut]; exact List.mem_append_right _ hb)
      rw [hbl b hb] at this
      cases this
    rw [hnone, List.append_nil] at hcut
    exact hcut.symm
  cases cs with
  | nil => rfl
  | cons c cs => rw [trim_cons_of_not_isBlank (h c (by simp)), hend cs fun d hd => h d (by simp [hd])]

/-- A blank behind a comma does not show in the trimmed pieces. -/
private theorem map_trim_splitOn_blank (cs : List Char) :
    ((' ' :: cs).splitOn ',').map trim = (cs.splitOn ',').map trim := by
  rw [List.splitOn_cons_eq_if_modifyHead, if_neg (by decide)]
  cases hs : cs.splitOn ',' with
  | nil => exact absurd hs (List.splitOn_ne_nil _ _)
  | cons piece pieces =>
    rw [List.modifyHead_cons, List.map_cons, List.map_cons, trim_cons_of_isBlank (by decide)]

/-- The characters of a name are neither blanks nor marks, and there are some. -/
def IsNameText (name : String) : Prop := name.toList ≠ [] ∧ ∀ c ∈ name.toList, continuesName c = true

theorem IsNameText.trim {name : String} (h : IsNameText name) : Text.trim name.toList = name.toList := by
  apply trim_of_not_isBlank
  intro c hc
  exact isBlank_of_continuesName (h.2 c hc)

private theorem IsNameText.comma_not_mem {name : String} (h : IsNameText name) : ',' ∉ name.toList := by
  intro hc
  have := h.2 _ hc
  revert this
  decide

/-- The pieces between the commas are the names, and nothing else but blanks stands there. -/
private theorem pieces_of_isNames (h : IsNames ts) (hnames : ∀ name ∈ identifiers ts, IsNameText name) :
    (((spell ts).toList.splitOn ',').map trim).filter (fun cs => !cs.isEmpty) =
      (identifiers ts).map String.toList := by
  induction h with
  | nil => decide
  | @last name =>
    have hname : IsNameText name := hnames name (by simp [identifiers, Token.name?])
    have hspell : spell [.ident name] = name := by simp [spell]
    rw [hspell, List.splitOn_eq_singleton hname.comma_not_mem, List.map_singleton, hname.trim]
    simp [identifiers, Token.name?, hname.1]
  | @cons name ts h ih =>
    have hname : IsNameText name := hnames name (by simp [identifiers, Token.name?])
    have hspell : (spell (.ident name :: .mark .comma :: ts)).toList =
        name.toList ++ ',' :: ' ' :: (spell ts).toList := by
      rw [spell_cons, spell_cons (.mark .comma)]
      simp [spell]
    have hmore := ih fun name hmem => hnames name (List.mem_cons_of_mem _ hmem)
    rw [hspell, List.splitOn_append_cons_self_of_not_mem hname.comma_not_mem, List.map_cons, map_trim_splitOn_blank,
      hname.trim, List.filter_cons_of_pos (by simpa using hname.1), hmore]
    rfl

/-- The elements of a list are the names in it. -/
theorem elements_spell {name? : Option String} {value : List Token} (h : IsNameList value)
    (hnames : ∀ name ∈ identifiers value, IsNameText name) :
    (Argument.mk name? (spell value)).elements = identifiers value := by
  obtain @⟨ts, hts⟩ := h
  have hids : identifiers (.opening .square :: (ts ++ [.closing .square])) = identifiers ts := by
    rw [identifiers, List.filterMap_cons_none rfl, List.filterMap_append, List.filterMap_cons_none rfl]
    simp [identifiers]
  have hspell : (spell (.opening .square :: (ts ++ [.closing .square]))).toList = '[' :: ((spell ts).toList ++ [']']) := by
    simp [spell, Token.symbol, Bracket.openingSymbol, Bracket.closingSymbol]
  have hunwrap : unwrap '[' ']' ('[' :: ((spell ts).toList ++ [']'])) = (spell ts).toList := by
    simp [unwrap]
  rw [hids] at hnames ⊢
  rw [Argument.elements, hspell, hunwrap, pieces_of_isNames hts hnames, List.map_map]
  simp

end

end GuardedCrud.Schema
