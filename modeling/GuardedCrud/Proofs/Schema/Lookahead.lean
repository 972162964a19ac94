import GuardedCrud.Proofs.Schema.Sequences

/-!
# How far readers look

A reader takes some tokens and looks at one more at most.  `ReadsLocally` says so of what a reader does in one place:

* if it succeeds, it gives the same value on the tokens that it took whatever follows them, or whatever follows the next
  token if it looks ahead;
* if it fails, it fails alike wherever the token of the fault (`Fault.token?`) stands behind the tokens that it took.

Readers one after the other look no farther (`ReadsLocally.andThen`), so all readers of the grammar read locally
(`readName_local` to `readOtherBlock_local`), and a schema that cannot be read has its fault in front of one of its tokens
or at its end (`readBlocks_standsAt`).
-/

namespace GuardedCrud.Schema

/-! ### Where a fault stands -/

/-- The token that a fault of the grammar is about, on the line that the fault names.  The others are about the end of
the schema. -/
def Fault.token? : Fault → Option Placed
  | .unexpected line found _ => some ⟨found, line⟩
  | .missingType line field => some ⟨.ident field, line⟩
  | _ => none

/-- The token may stand behind the token of the fault: a field without a type is followed by no name. -/
def Fault.Allows : Fault → Token → Prop
  | .missingType .., t => ∀ name, t ≠ .ident name
  | _, _ => True

/-- The fault is about the front of the tokens `rest`. -/
def Fault.StandsAt (e : Fault) (rest : List Placed) : Prop :=
  rest.head? = e.token? ∧ ∀ t ∈ rest.tail.head?, e.Allows t.token

/-- A reader at the tokens `ts` looks at the tokens it takes, at the next one at most if it looks ahead, and at the token
of its fault.  A block that it leaves unclosed is one of `blocks`, by its line and its name. -/
structure ReadsLocally {α : Type} (ahead : Bool) (blocks : Nat → String → Prop) (read : List Placed → Reading α)
    (ts : List Placed) : Prop where
  ok : ∀ a rest, read ts = .ok (a, rest) → ∃ used, ts = used ++ rest ∧
    ∀ rest', (ahead = true → rest'.head? = rest.head?) → read (used ++ rest') = .ok (a, rest')
  error : ∀ e, read ts = .error e → ∃ used rest, ts = used ++ rest ∧ e.StandsAt rest ∧
    ∀ rest', e.StandsAt rest' → read (used ++ rest') = .error e
  block : ∀ line name, read ts = .error (.unterminatedBlock line name) → blocks line name

private theorem Fault.StandsAt.eq_nil {e : Fault} {rest : List Placed} (h : e.StandsAt rest) (he : e.token? = none) :
    rest = [] := List.head?_eq_none_iff.1 (h.1.trans he)

theorem Fault.standsAt_unexpected (t : Placed) (expected : String) (rest : List Placed) :
    (t.unexpected expected).StandsAt rest ↔ ∃ after, rest = t :: after := by
  constructor
  · intro h
    exact List.head?_eq_some_iff.1 h.1
  · rintro ⟨after, rfl⟩
    exact ⟨rfl, fun _ _ => trivial⟩

namespace ReadsLocally

variable {α β : Type} {ahead ahead' : Bool} {blocks blocks' : Nat → String → Prop} {read : List Placed → Reading α}
  {t : Placed} {ts : List Placed}

theorem length_le (h : ReadsLocally ahead blocks read ts) {a : α} {rest : List Placed} (hr : read ts = .ok (a, rest)) :
    rest.length ≤ ts.length := by
  obtain ⟨used, rfl, -⟩ := h.ok a rest hr
  rw [List.length_append]
  omega

/-- More tokens behind those that a reader left do not matter to it. -/
theorem append (h : ReadsLocally false blocks read ts) {a : α} {rest : List Placed} (hr : read ts = .ok (a, rest))
    (more : List Placed) : read (ts ++ more) = .ok (a, rest ++ more) := by
  obtain ⟨used, rfl, hread⟩ := h.ok a rest hr
  rw [List.append_assoc]
  exact hread (rest ++ more) nofun

private theorem mono (h : ReadsLocally ahead blocks read ts) (hahead : ahead = true → ahead' = true)
    (hblocks : ∀ line name, blocks line name → blocks' line name) : ReadsLocally ahead' blocks' read ts where
  ok a rest hr := by
    obtain ⟨used, hts, hread⟩ := h.ok a rest hr
    exact ⟨used, hts, fun rest' hrest => hread rest' fun ha => hrest (hahead ha)⟩
  error := h.error
  block line name he := hblocks line name (h.block line name he)

/-- The reader takes no token, whatever follows the first one. -/
private theorem stay (a : α) (h : ∀ us, read (t :: us) = .ok (a, t :: us)) (ts : List Placed) :
    ReadsLocally true blocks read (t :: ts) where
  ok b rest hr := by
    rw [h] at hr
    cases hr
    refine ⟨[], rfl, fun rest' hrest => ?_⟩
    obtain ⟨us, rfl⟩ := List.head?_eq_some_iff.1 (hrest rfl)
    exact h us
  error e he := by
    rw [h] at he
    cases he
  block line name he := by
    rw [h] at he
    cases he

/-- The reader takes no token at the end. -/
private theorem stayAtEnd {a : α} (h : read [] = .ok (a, [])) : ReadsLocally true blocks read [] where
  ok b rest hr := by
    rw [h] at hr
    cases hr
    refine ⟨[], rfl, fun rest' hrest => ?_⟩
    rw [List.head?_eq_none_iff.1 (hrest rfl)]
    exact h
  error e he := by
    rw [h] at he
    cases he
  block line name he := by
    rw [h] at he
    cases he

theorem pure (a : α) (ts : List Placed) : ReadsLocally ahead blocks (fun ts => .ok (a, ts)) ts where
  ok b rest hr := by
    cases hr
    exact ⟨[], rfl, fun _ _ => rfl⟩
  error e he := by cases he
  block line name he := by cases he

/-- The reader takes the first token and goes on as another one. -/
theorem cons {read' : List Placed → Reading α} (heq : ∀ us, read (t :: us) = read' us)
    (h : ReadsLocally ahead blocks read' ts) : ReadsLocally ahead blocks read (t :: ts) where
  ok a rest hr := by
    rw [heq] at hr
    obtain ⟨used, rfl, hread⟩ := h.ok a rest hr
    exact ⟨t :: used, rfl, fun rest' hrest => (heq _).trans (hread rest' hrest)⟩
  error e he := by
    rw [heq] at he
    obtain ⟨used, rest, rfl, hstands, hread⟩ := h.error e he
    exact ⟨t :: used, rest, rfl, hstands, fun rest' hrest => (heq _).trans (hread rest' hrest)⟩
  block line name he := by
    rw [heq] at he
    exact h.block line name he

/-- The reader does not expect the first token. -/
theorem unexpected (expected : String) (h : ∀ us, read (t :: us) = .error (t.unexpected expected)) (ts : List Placed) :
    ReadsLocally ahead blocks read (t :: ts) where
  ok a rest hr := by
    rw [h] at hr
    cases hr
  error e he := by
    rw [h] at he
    cases he
    refine ⟨[], t :: ts, rfl, (Fault.standsAt_unexpected ..).2 ⟨ts, rfl⟩, fun rest' hrest => ?_⟩
    obtain ⟨after, rfl⟩ := (Fault.standsAt_unexpected ..).1 hrest
    exact h after
  block line name he := by
    rw [h] at he
    cases he

/-- The reader does not expect the end. -/
private theorem atEnd {e : Fault} (h : read [] = .error e) (he : e.token? = none)
    (hblocks : ∀ line name, e = .unterminatedBlock line name → blocks line name) :
    ReadsLocally ahead blocks read [] where
  ok a rest hr := by
    rw [h] at hr
    cases hr
  error e' he' := by
    rw [h] at he'
    cases he'
    refine ⟨[], [], rfl, ⟨he.symm, nofun⟩, fun rest' hrest => ?_⟩
    rw [hrest.eq_nil he]
    exact h
  block line name he' := by
    rw [h] at he'
    exact hblocks line name (Except.error.inj he')

/-- Readers one after the other look no farther than the second one, if that one looks ahead or takes a token. -/
theorem andThen {next : α → List Placed → Reading β} (h : ReadsLocally ahead blocks read ts)
    (hnext : ∀ a rest, read ts = .ok (a, rest) → ReadsLocally ahead' blocks (next a) rest)
    (hahead : ahead = true → ahead' = true ∨ ∀ a rest p, next a rest = .ok p → p.2.length < rest.length) :
    ReadsLocally ahead' blocks (fun ts => (read ts).andThen next) ts where
  ok b rest hr := by
    cases hread : read ts with
    | error e => rw [hread] at hr; cases hr
    | ok p =>
      obtain ⟨a, mid⟩ := p
      rw [hread] at hr
      obtain ⟨used, rfl, hfirst⟩ := h.ok a mid hread
      obtain ⟨used', rfl, hsecond⟩ := (hnext a _ hread).ok b rest hr
      refine ⟨used ++ used', (List.append_assoc ..).symm, fun rest' hrest => ?_⟩
      rw [List.append_assoc, hfirst, Reading.andThen_ok, hsecond rest' hrest]
      intro ha
      cases used' with
      | cons u us => rfl
      | nil =>
        -- the second reader took nothing, so it is one that looks ahead
        rcases hahead ha with ha' | hlen
        · exact hrest ha'
        · exact absurd (hlen a _ _ hr) (Nat.lt_irrefl _)
  error e he := by
    cases hread : read ts with
    | error e' =>
      rw [hread] at he
      cases he
      obtain ⟨used, rest, rfl, hstands, hfirst⟩ := h.error e hread
      refine ⟨used, rest, rfl, hstands, fun rest' hrest => ?_⟩
      rw [hfirst rest' hrest]
      rfl
    | ok p =>
      obtain ⟨a, mid⟩ := p
      rw [hread] at he
      obtain ⟨used, rfl, hfirst⟩ := h.ok a mid hread
      obtain ⟨used', rest, rfl, hstands, hsecond⟩ := (hnext a _ hread).error e he
      refine ⟨used ++ used', rest, (List.append_assoc ..).symm, hstands, fun rest' hrest => ?_⟩
      rw [List.append_assoc, hfirst, Reading.andThen_ok, hsecond rest' hrest]
      intro _
      cases used' with
      | cons u us => rfl
      | nil => exact hrest.1.trans hstands.1.symm
  block line name he := by
    cases hread : read ts with
    | error e' =>
      rw [hread] at he
      exact h.block line name (hread.trans (congrArg Except.error (Except.error.inj he)))
    | ok p =>
      rw [hread] at he
      exact (hnext p.1 p.2 hread).block line name he

end ReadsLocally

/-! ### Readers of parts of a field -/

section

variable {blocks : Nat → String → Prop}

theorem readName_local (expected : String) (ts : List Placed) :
    ReadsLocally false blocks (readName expected) ts := by
  cases ts with
  | nil => exact .atEnd rfl rfl nofun
  | cons t ts =>
    obtain ⟨t, line⟩ := t
    cases t with
    | ident name => exact .cons (fun _ => rfl) (.pure name ts)
    | _ => exact .unexpected expected (fun _ => rfl) ts

private theorem readToken_local (token : Token) (expected : String) (ts : List Placed) :
    ReadsLocally false blocks (readToken token expected) ts := by
  cases ts with
  | nil => exact .atEnd rfl rfl nofun
  | cons t ts =>
    by_cases ht : t.token = token
    · refine .cons (fun us => ?_) (.pure () ts)
      rw [readToken, if_pos ht]
    · exact .unexpected expected (fun us => by rw [readToken, if_neg ht]) ts

private theorem readArguments_local (depth : Nat) (current : List Token) (ts : List Placed) :
    ReadsLocally false blocks (readArguments depth current) ts := by
  induction ts generalizing depth current with
  | nil => exact .atEnd rfl rfl nofun
  | cons t ts ih =>
    by_cases hend : t.token = .closing .paren ∧ depth = 0
    · refine .cons (fun us => ?_) (.pure (if current.isEmpty then [] else [Argument.ofTokens current]) ts)
      rw [readArguments_eq, if_pos hend]
    · by_cases hcomma : t.token = .mark .comma ∧ depth = 0
      · refine .cons (fun us => ?_) (.andThen (ih 0 []) (fun args rest _ => .pure (Argument.ofTokens current :: args) rest)
          nofun)
        rw [readArguments_eq, if_neg hend, if_pos hcomma]
      · exact .cons (fun us => by rw [readArguments_eq, if_neg hend, if_neg hcomma]) (ih _ _)

private theorem readPath_local (name : String) (ts : List Placed) : ReadsLocally true blocks (readPath name) ts := by
  match ts with
  | [] => exact .stayAtEnd rfl
  | t :: ts =>
    by_cases ht : t.token = .mark .dot
    · refine .cons (readPath_dot name ht) (.andThen (readName_local _ ts) (fun next rest h => ?_) nofun)
      have hlen := readName_length h
      exact readPath_local _ rest
    · exact .stay name (readPath_of_not_dot name ht) ts
termination_by ts.length

private theorem readOptionalArguments_local (ts : List Placed) : ReadsLocally true blocks readOptionalArguments ts := by
  cases ts with
  | nil => exact .stayAtEnd rfl
  | cons t ts =>
    by_cases ht : t.token = .opening .paren
    · refine .cons (fun us => ?_) ((readArguments_local 0 [] ts).mono nofun fun _ _ => id)
      rw [readOptionalArguments, if_pos ht]
    · exact .stay [] (fun us => by rw [readOptionalArguments, if_neg ht]) ts

private theorem readAttribute_local (ts : List Placed) : ReadsLocally true blocks readAttribute ts := by
  rw [funext readAttribute_eq]
  refine .andThen (readName_local _ ts) (fun first ts _ => ?_) nofun
  refine .andThen (readPath_local _ ts) (fun name ts _ => ?_) fun _ => .inl rfl
  exact .andThen (readOptionalArguments_local ts) (fun args ts _ => .pure _ ts) fun _ => .inl rfl

private theorem readAttributes_local (ts : List Placed) : ReadsLocally true blocks readAttributes ts := by
  match ts with
  | [] => exact .stayAtEnd (by rw [readAttributes])
  | t :: ts =>
    by_cases ht : t.token = .mark .at
    · refine .cons (readAttributes_at ht) (.andThen (readAttribute_local ts) (fun a rest h => ?_) fun _ => .inl rfl)
      have hlen := readAttribute_length h
      exact .andThen (readAttributes_local rest) (fun as rest _ => .pure _ rest) fun _ => .inl rfl
    · exact .stay [] (fun us => by rw [readAttributes_cons, if_neg ht]) ts
termination_by ts.length

private theorem readListModifier_local (ts : List Placed) : ReadsLocally true blocks readListModifier ts := by
  cases ts with
  | nil => exact .stayAtEnd rfl
  | cons t ts =>
    by_cases ht : t.token = .opening .square
    · refine .cons (fun us => ?_) (.andThen (readToken_local (.closing .square) "']'" ts) (fun _ rest _ => .pure true rest)
        nofun)
      rw [readListModifier, if_pos ht]
      cases readToken (.closing .square) "']'" us <;> rfl
    · exact .stay false (fun us => by rw [readListModifier, if_neg ht]) ts

private theorem readOptionalModifier_local (ts : List Placed) :
    ReadsLocally true blocks (fun ts => .ok (readOptionalModifier ts)) ts := by
  cases ts with
  | nil => exact .stayAtEnd rfl
  | cons t ts =>
    by_cases ht : t.token = .mark .question
    · refine .cons (fun us => ?_) (.pure true ts)
      rw [readOptionalModifier, if_pos ht]
    · exact .stay false (fun us => by rw [readOptionalModifier, if_neg ht]) ts

private theorem readDetails_local (name type : String) (documentation : Option String) (ts : List Placed) :
    ReadsLocally true blocks (readDetails name type documentation) ts := by
  refine .andThen (readOptionalArguments_local ts) (fun _ ts _ => ?_) fun _ => .inl rfl
  refine .andThen (readListModifier_local ts) (fun isList ts _ => ?_) fun _ => .inl rfl
  refine .andThen (readOptionalModifier_local ts) (fun isOptional ts _ => ?_) fun _ => .inl rfl
  exact .andThen (readAttributes_local ts) (fun attributes ts _ => .pure _ ts) fun _ => .inl rfl

end

/-! ### Readers of blocks -/

/-- The block of a name whose keyword stands on a line. -/
def IsBlock (line : Nat) (name : String) (line' : Nat) (name' : String) : Prop := line' = line ∧ name' = name

/-- A field without a type is one as long as no name follows it. -/
private theorem readFields_local_unnamed (name : String) (line : Nat) (docs : List String) {t : Placed} {field : String}
    (ht : t.token = .ident field) {ts : List Placed} (hts : ∀ u ∈ ts.head?, ∀ type, u.token ≠ .ident type) :
    ReadsLocally false (IsBlock line name) (readFields name line docs) (t :: ts) := by
  have hread : ∀ us : List Placed, (∀ u ∈ us.head?, ∀ type, u.token ≠ .ident type) →
      readFields name line docs (t :: us) = .error (.missingType t.line field) :=
    fun us hus => readFields_field_unnamed name line docs ht hus
  have htoken : t = ⟨.ident field, t.line⟩ := by rw [← ht]
  constructor
  · intro a rest h
    rw [hread ts hts] at h
    cases h
  · intro e h
    rw [hread ts hts] at h
    cases h
    refine ⟨[], t :: ts, rfl, ⟨congrArg some htoken, hts⟩, fun rest' hrest => ?_⟩
    obtain ⟨us, rfl⟩ := List.head?_eq_some_iff.1 (hrest.1.trans (congrArg some htoken.symm))
    exact hread us hrest.2
  · intro line' name' h
    rw [hread ts hts] at h
    cases h

private theorem readFields_local (name : String) (line : Nat) (docs : List String) (ts : List Placed) :
    ReadsLocally false (IsBlock line name) (readFields name line docs) ts := by
  induction hn : ts.length using Nat.strong_induction_on generalizing docs ts with
  | _ n ih =>
    subst hn
    replace ih : ∀ us : List Placed, us.length < ts.length → ∀ docs,
        ReadsLocally false (IsBlock line name) (readFields name line docs) us := fun us hus docs => ih _ hus docs us rfl
    cases ts with
    | nil =>
      refine .atEnd (e := .unterminatedBlock line name) (by rw [readFields]) rfl fun line' name' he => ?_
      cases he
      exact ⟨rfl, rfl⟩
    | cons t ts =>
      simp only [List.length_cons] at ih
      by_cases hbrace : t.token = .closing .brace
      · exact .cons (fun us => readFields_brace name line docs us hbrace) (.pure [] ts)
      by_cases hdoc : ∃ text, t.token = .doc text
      · obtain ⟨text, ht⟩ := hdoc
        exact .cons (fun us => readFields_doc name line docs us ht) (ih ts (by omega) _)
      by_cases hattribute : t.token = .mark .doubleAt
      · refine .cons (readFields_doubleAt name line docs hattribute) (.andThen (readAttribute_local ts)
          (fun a rest h => ?_) fun _ => .inr fun _ _ _ => readFields_length)
        have hlen := readAttribute_length h
        exact ih rest (by omega) []
      by_cases hfield : ∃ field, t.token = .ident field
      · obtain ⟨field, ht⟩ := hfield
        by_cases hnamed : ∃ u us type, ts = u :: us ∧ u.token = .ident type
        · obtain ⟨u, us, type, rfl, hu⟩ := hnamed
          refine .cons (fun _ => rfl) (.cons (readFields_field_named name line docs ht hu)
            (.andThen (readDetails_local field type (joinDocs docs) us) (fun f rest h => ?_) fun _ => .inr ?_))
          · have hlocal : ReadsLocally true (IsBlock line name) (readDetails field type (joinDocs docs)) us :=
              readDetails_local field type (joinDocs docs) us
            have hlen := hlocal.length_le h
            simp only [List.length_cons] at ih
            exact .andThen (ih rest (by omega) []) (fun fs rest _ => .pure (f :: fs) rest)
              (absurd · Bool.false_ne_true)
          · -- the fields that follow take the brace at least
            intro f rest p h
            cases hr : readFields name line [] rest with
            | error e => rw [hr] at h; cases h
            | ok q =>
              rw [hr] at h
              cases h
              exact readFields_length hr
        · refine readFields_local_unnamed name line docs ht fun u hu type hut => hnamed ?_
          obtain ⟨us, rfl⟩ := List.head?_eq_some_iff.1 hu
          exact ⟨u, us, type, rfl, hut⟩
      · exact .unexpected _ (fun us => readFields_unexpected name line docs hbrace (fun text h => hdoc ⟨text, h⟩)
          hattribute (fun field h => hfield ⟨field, h⟩) us) ts

private theorem skipBraces_local (name : String) (line depth : Nat) (ts : List Placed) :
    ReadsLocally false (IsBlock line name) (skipBraces name line depth) ts := by
  induction ts generalizing depth with
  | nil =>
    refine .atEnd (e := .unterminatedBlock line name) rfl rfl fun line' name' he => ?_
    cases he
    exact ⟨rfl, rfl⟩
  | cons t ts ih =>
    obtain ⟨t, n⟩ := t
    cases t with
    | opening b =>
      cases b with
      | brace => exact .cons (fun _ => rfl) (ih (depth + 1))
      | _ => exact .cons (fun _ => rfl) (ih depth)
    | closing b =>
      cases b with
      | brace =>
        cases depth with
        | zero => exact .cons (fun _ => rfl) (.pure () ts)
        | succ depth => exact .cons (fun _ => rfl) (ih depth)
      | _ => exact .cons (fun _ => rfl) (ih depth)
    | _ => exact .cons (fun _ => rfl) (ih depth)

/-- The block that a keyword on a line opens, if the tokens `ts` follow it. -/
def OpensBlock (line : Nat) (ts : List Placed) (line' : Nat) (name : String) : Prop :=
  line' = line ∧ ∃ n, ts.head? = some ⟨.ident name, n⟩

private theorem opensBlock_of_readName {expected name : String} {ts rest : List Placed}
    (h : readName expected ts = .ok (name, rest)) (line line' : Nat) (name' : String) :
    IsBlock line name line' name' → OpensBlock line ts line' name' := by
  rintro ⟨rfl, rfl⟩
  obtain ⟨n, rfl⟩ := readName_eq_ok h
  exact ⟨rfl, n, rfl⟩

theorem readModel_local (line : Nat) (documentation : Option String) (ts : List Placed) :
    ReadsLocally false (OpensBlock line ts) (readModel line documentation) ts := by
  rw [funext (readModel_eq line documentation)]
  refine .andThen (readName_local _ ts) (fun name rest h => ?_) nofun
  refine .mono ?_ id (opensBlock_of_readName h line)
  refine .andThen (readToken_local _ _ rest) (fun _ rest _ => ?_) nofun
  exact .andThen (readFields_local name line [] rest) (fun fields rest _ => .pure _ rest) nofun

theorem readOtherBlock_local (line : Nat) (expected : String) (ts : List Placed) :
    ReadsLocally false (OpensBlock line ts) (readOtherBlock line expected) ts := by
  rw [funext (readOtherBlock_eq line expected)]
  refine .andThen (readName_local _ ts) (fun name rest h => ?_) nofun
  refine .mono ?_ id (opensBlock_of_readName h line)
  refine .andThen (readToken_local _ _ rest) (fun _ rest _ => ?_) nofun
  exact .andThen (skipBraces_local name line 0 rest) (fun _ rest _ => .pure name rest) nofun

end GuardedCrud.Schema
