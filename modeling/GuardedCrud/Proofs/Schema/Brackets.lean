import GuardedCrud.Proofs.Schema.Outline

/-!
# Brackets in argument lists

The reader of arguments counts open brackets without regard to their kinds, and a closing bracket leaves the count at zero
unless it is the parenthesis that ends the list.  So a list goes up to the first closing parenthesis with the count at zero
(`readArguments_eq_ok_iff`), and without one the tokens end too early (`readArguments_eq_error`).

* where every closing bracket fits, the count is the number of open brackets (`countOpen_of_openBrackets`), so a list that
  is read leaves none open;
* a list that is read and not properly nested has a bracket that does not fit (`nestsBrackets_iff_of_countOpen`), and the
  first such bracket is no parenthesis where nothing is open (`FirstMisfit.ne_paren`);
* such lists stand in accepted schemas (`arguments_of_strayBracket`).
-/

namespace GuardedCrud.Schema

/-! ### Brackets and their count -/

/-- The brackets that are open after some tokens, the last one first, if every closing bracket closes the last open one. -/
def openBrackets (stack : List Bracket) : List Token → Option (List Bracket)
  | [] => some stack
  | .opening b :: ts => openBrackets (b :: stack) ts
  | .closing b :: ts =>
    match stack with
    | [] => none
    | b' :: stack => if b = b' then openBrackets stack ts else none
  | _ :: ts => openBrackets stack ts

/-- Every closing bracket closes the last open one, which is of its kind, and none is left open. -/
def NestsBrackets (ts : List Token) : Prop := openBrackets [] ts = some []

instance (ts : List Token) : Decidable (NestsBrackets ts) := inferInstanceAs (Decidable (_ = _))

/-- The number of brackets that the reader of arguments counts as open; none behind the end of the list. -/
def countOpen (depth : Nat) (ts : List Token) : Option Nat :=
  ts.foldlM (fun depth t => t.argumentState (some depth)) depth

section

variable {depth : Nat} {stack : List Bracket} {t : Token} {ts : List Token}

theorem countOpen_cons :
    countOpen depth (t :: ts) = (t.argumentState (some depth)).bind fun depth => countOpen depth ts := rfl

private theorem argumentState_closing_succ (b : Bracket) :
    (Token.closing b).argumentState (some (depth + 1)) = some depth := rfl

/-- Where closing brackets fit, the count is the number of open brackets. -/
theorem countOpen_of_openBrackets {stack' : List Bracket} (h : openBrackets stack ts = some stack') :
    countOpen stack.length ts = some stack'.length := by
  induction ts generalizing stack with
  | nil =>
    cases h
    rfl
  | cons t ts ih =>
    cases t with
    | opening b =>
      have hstate : (Token.opening b).argumentState (some stack.length) = some (b :: stack).length := by
        cases stack <;> rfl
      rw [countOpen_cons, hstate]
      exact ih h
    | closing b =>
      cases stack with
      | nil => cases h
      | cons b' stack =>
        rw [openBrackets] at h
        split at h
        · rw [countOpen_cons, List.length_cons, argumentState_closing_succ]
          exact ih h
        · cases h
    | _ =>
      rw [countOpen_cons, Token.argumentState]
      · exact ih h
      all_goals simp

/-- Some closing bracket does not fit where it stands, and those before it do: nothing is open, or the bracket opened last is
of another kind. -/
def FirstMisfit (stack : List Bracket) (ts : List Token) (open? : Option Bracket) (closing : Bracket) : Prop :=
  open? ≠ some closing ∧ ∃ before after stack', ts = before ++ .closing closing :: after ∧
    openBrackets stack before = some stack' ∧ stack'.head? = open?

theorem FirstMisfit.cons {stack₁ : List Bracket} {open? : Option Bracket} {closing : Bracket}
    (ht : ∀ us, openBrackets stack (t :: us) = openBrackets stack₁ us) (h : FirstMisfit stack₁ ts open? closing) :
    FirstMisfit stack (t :: ts) open? closing := by
  obtain ⟨hne, before, after, stack', rfl, hbefore, hhead⟩ := h
  exact ⟨hne, t :: before, after, stack', rfl, (ht before).trans hbefore, hhead⟩

private theorem exists_firstMisfit (h : openBrackets stack ts = none) :
    ∃ open? closing, FirstMisfit stack ts open? closing := by
  induction ts generalizing stack with
  | nil => cases h
  | cons t ts ih =>
    -- a token that fits is passed over
    have hskip : ∀ stack₁, (∀ us, openBrackets stack (t :: us) = openBrackets stack₁ us) →
        ∃ open? closing, FirstMisfit stack (t :: ts) open? closing := by
      intro stack₁ ht
      obtain ⟨open?, closing, hm⟩ := ih ((ht ts).symm.trans h)
      exact ⟨open?, closing, hm.cons ht⟩
    cases t with
    | opening b => exact hskip (b :: stack) fun _ => rfl
    | closing b =>
      by_cases hb : stack.head? = some b
      · obtain ⟨stack, rfl⟩ := List.head?_eq_some_iff.1 hb
        exact hskip stack fun _ => by rw [openBrackets, if_pos rfl]
      · exact ⟨stack.head?, b, hb, [], ts, stack, rfl, rfl, rfl⟩
    | _ => exact hskip stack fun _ => by rw [openBrackets] <;> simp

private theorem openBrackets_append (us : List Token) :
    openBrackets stack (ts ++ us) = (openBrackets stack ts).bind fun stack => openBrackets stack us := by
  fun_induction openBrackets stack ts with
  | case1 => rfl
  | case2 stack b ts ih => exact ih
  | case3 => rfl
  | case4 b ts stack ih => rwa [List.cons_append, openBrackets, if_pos rfl]
  | case5 b ts b' stack hb => rw [List.cons_append, openBrackets, if_neg hb]; rfl
  | case6 stack t ts ho hc ih =>
    rw [List.cons_append, openBrackets]
    · exact ih
    · exact ho
    · exact hc

private theorem FirstMisfit.openBrackets_eq_none {open? : Option Bracket} {closing : Bracket}
    (h : FirstMisfit stack ts open? closing) : openBrackets stack ts = none := by
  obtain ⟨hne, before, after, stack', rfl, hbefore, rfl⟩ := h
  rw [openBrackets_append, hbefore]
  cases stack' with
  | nil => rfl
  | cons b stack' =>
    have hb : closing ≠ b := fun hb => hne (by rw [hb]; rfl)
    exact if_neg hb

theorem countOpen_append (us : List Token) :
    countOpen depth (ts ++ us) = (countOpen depth ts).bind fun depth => countOpen depth us :=
  List.foldlM_append

/-- Where the count goes on, a parenthesis that closes nothing is not the first bracket that does not fit. -/
theorem FirstMisfit.ne_paren {open? : Option Bracket} {closing : Bracket} (h : FirstMisfit stack ts open? closing)
    (hcount : countOpen stack.length ts ≠ none) (hopen : open? = none) : closing ≠ .paren := by
  rintro rfl
  obtain ⟨-, before, after, stack', rfl, hbefore, hhead⟩ := h
  obtain rfl : stack' = [] := List.head?_eq_none_iff.1 (hhead.trans hopen)
  refine hcount ?_
  rw [countOpen_append, countOpen_of_openBrackets hbefore]
  rfl

/-- Tokens after which the count is zero again are properly nested, or some bracket does not fit. -/
theorem nestsBrackets_iff_of_countOpen (h : countOpen 0 ts = some 0) :
    NestsBrackets ts ↔ ¬ ∃ open? closing, FirstMisfit [] ts open? closing := by
  constructor
  · rintro hn ⟨open?, closing, hm⟩
    exact absurd (hn.symm.trans hm.openBrackets_eq_none) (by simp)
  · intro hm
    cases hs : openBrackets [] ts with
    | none => exact absurd (exists_firstMisfit hs) hm
    | some stack =>
      have hcount : some stack.length = some 0 := (countOpen_of_openBrackets hs).symm.trans h
      rw [NestsBrackets, hs, List.eq_nil_of_length_eq_zero (Option.some.inj hcount)]

/-- An open bracket was opened among the tokens, or before them. -/
private theorem mem_of_openBrackets {stack' : List Bracket} (h : openBrackets stack ts = some stack') {b : Bracket}
    (hb : b ∈ stack') : b ∈ stack ∨ .opening b ∈ ts := by
  fun_induction openBrackets stack ts with
  | case1 => cases h; exact .inl hb
  | _ => grind

/-- Where there are no brackets but parentheses, the count tells whether they are properly nested. -/
private theorem nestsBrackets_of_parens (h : countOpen 0 ts = some 0)
    (hparens : ∀ b, .opening b ∈ ts ∨ .closing b ∈ ts → b = .paren) : NestsBrackets ts := by
  refine (nestsBrackets_iff_of_countOpen h).2 ?_
  rintro ⟨open?, closing, hm⟩
  obtain ⟨hne, before, after, stack, rfl, hbefore, hhead⟩ := id hm
  obtain rfl : closing = .paren := hparens _ (.inr (by simp))
  cases open? with
  | none => exact hm.ne_paren (by rw [List.length_nil, h]; simp) rfl rfl
  | some b =>
    have hmem : .opening b ∈ before := by
      simpa using mem_of_openBrackets hbefore (List.mem_of_head? hhead)
    exact hne (congrArg some (hparens b (.inl (by simp [hmem]))))

end

/-! ### What the reader of arguments reads -/

section

variable {depth : Nat} {current : List Token} {t : Placed} {ts rest : List Placed}

theorem argumentState_eq_none_iff :
    t.token.argumentState (some depth) = none ↔ t.token = .closing .paren ∧ depth = 0 := by
  constructor
  · intro h
    unfold Token.argumentState at h
    split at h <;> simp_all
  · rintro ⟨ht, rfl⟩
    rw [ht]
    rfl

/-- A token that neither ends the list nor an argument goes to the argument that has begun. -/
theorem readArguments_step {depth' : Nat} (h : t.token.argumentState (some depth) = some depth')
    (hcomma : ¬ (t.token = .mark .comma ∧ depth = 0)) :
    readArguments depth current (t :: ts) = readArguments depth' (current ++ [t.token]) ts := by
  have hend : ¬ (t.token = .closing .paren ∧ depth = 0) := fun hend => by
    rw [argumentState_eq_none_iff.2 hend] at h
    cases h
  rw [readArguments, if_neg hend, if_neg hcomma]
  obtain ⟨t, n⟩ := t
  unfold Token.argumentState at h
  split at h <;> simp_all

/-- A token that does not end the list leaves the reader in the list, with the count after the token. -/
private theorem readArguments_cons {depth' : Nat} (h : t.token.argumentState (some depth) = some depth')
    (current : List Token) (ts rest : List Placed) :
    ∃ current', (∃ args, readArguments depth current (t :: ts) = .ok (args, rest)) ↔
      ∃ args, readArguments depth' current' ts = .ok (args, rest) := by
  by_cases hcomma : t.token = .mark .comma ∧ depth = 0
  · -- the argument before the comma is read, and the next one begins
    obtain ⟨ht, rfl⟩ := hcomma
    obtain rfl : 0 = depth' := by simpa [ht, Token.argumentState] using h
    refine ⟨[], ?_⟩
    simp only [readArguments, ht, reduceCtorEq, false_and, if_false, and_self, if_true]
    constructor
    · rintro ⟨args, hargs⟩
      split at hargs
      · rename_i hread
        cases hargs
        exact ⟨_, hread⟩
      · cases hargs
    · rintro ⟨args, hargs⟩
      rw [hargs]
      exact ⟨_, rfl⟩
  · refine ⟨current ++ [t.token], ?_⟩
    rw [readArguments_step h hcomma]

/-- The reader of arguments reads the tokens up to a closing parenthesis just if the count is zero there, and was not zero
at an earlier closing parenthesis. -/
theorem readArguments_eq_ok_iff : (∃ args, readArguments depth current ts = .ok (args, rest)) ↔
    ∃ list c, ts = list ++ c :: rest ∧ c.token = .closing .paren ∧ countOpen depth (list.map (·.token)) = some 0 := by
  induction ts generalizing depth current with
  | nil => simp [readArguments]
  | cons t ts ih =>
    cases h : t.token.argumentState (some depth) with
    | none =>
      obtain ⟨ht, rfl⟩ := argumentState_eq_none_iff.1 h
      constructor
      · rintro ⟨args, hargs⟩
        rw [readArguments, if_pos ⟨ht, rfl⟩] at hargs
        cases hargs
        exact ⟨[], t, rfl, ht, rfl⟩
      · rintro ⟨list, c, hlist, -, hcount⟩
        cases list with
        | nil =>
          cases hlist
          rw [readArguments, if_pos ⟨ht, rfl⟩]
          exact ⟨_, rfl⟩
        | cons t' list =>
          obtain ⟨rfl, -⟩ := List.cons.inj hlist
          rw [List.map_cons, countOpen_cons, h] at hcount
          cases hcount
    | some depth' =>
      obtain ⟨current', hread⟩ := readArguments_cons h current ts rest
      rw [hread, ih]
      constructor
      · rintro ⟨list, c, rfl, hc, hcount⟩
        refine ⟨t :: list, c, rfl, hc, ?_⟩
        rw [List.map_cons, countOpen_cons, h]
        exact hcount
      · rintro ⟨list, c, hlist, hc, hcount⟩
        cases list with
        | nil =>
          -- a closing parenthesis with the count zero ends the list
          obtain ⟨rfl, -⟩ := List.cons.inj hlist
          rw [argumentState_eq_none_iff.2 ⟨hc, Option.some.inj hcount⟩] at h
          cases h
        | cons t' list =>
          obtain ⟨rfl, rfl⟩ := List.cons.inj hlist
          rw [List.map_cons, countOpen_cons, h] at hcount
          exact ⟨list, c, rfl, hc, hcount⟩

/-- The reader of arguments fails only where the tokens end. -/
theorem readArguments_eq_error {e : Fault} (h : readArguments depth current ts = .error e) :
    e = .unexpectedEnd "')'" := by
  fun_induction readArguments depth current ts with
  | _ => simp_all

end

/-! ### Argument lists of models -/

theorem Passes.right {s₁ s₂ s₃ : Option Nat} {ts us : List Placed} (h : Passes s₁ (ts ++ us) s₃)
    (hts : Passes s₁ ts s₂) : Passes s₂ us s₃ := by
  induction hts with
  | nil => exact h
  | cons _ _ ih =>
    cases h with
    | cons _ h => exact ih h

/-- Tokens that lead out of an argument list begin with the rest of the list and its parenthesis. -/
private theorem Passes.exists_list {depth : Nat} {ts : List Placed} (h : Passes (some depth) ts none) :
    ∃ list c after, ts = list ++ c :: after ∧ c.token = .closing .paren ∧
      countOpen depth (list.map (·.token)) = some 0 := by
  induction ts generalizing depth with
  | nil => cases h
  | cons t ts ih =>
    cases h with
    | cons _ h =>
      cases hstate : t.token.argumentState (some depth) with
      | none =>
        obtain ⟨ht, rfl⟩ := argumentState_eq_none_iff.1 hstate
        exact ⟨[], t, ts, rfl, ht, rfl⟩
      | some depth' =>
        rw [hstate] at h
        obtain ⟨list, c, after, rfl, hc, hcount⟩ := ih h
        refine ⟨t :: list, c, after, rfl, hc, ?_⟩
        rw [List.map_cons, countOpen_cons, hstate]
        exact hcount

/-- An opening parenthesis in a model of an accepted schema, outside argument lists, begins an argument list.  The list is
properly nested unless a bracket in it does not fit, and such brackets are not refused: the reader ends any other list there
just if the count is zero at its end.  What it does rule out is that the first bracket that does not fit is a parenthesis
where nothing is open, so a list with no brackets but parentheses is properly nested. -/
theorem exists_arguments_of_model {source : String} {s : Structure} (h : Structure.ofText source = .ok s)
    {pieces : List Piece} (ho : outlineOf source = some pieces) {b : Block} (hb : b ∈ blocksOf pieces)
    (hk : b.kind = .model) {before ts : List Placed} {o : Placed} (hbody : b.body = before ++ o :: ts)
    (hbefore : Passes none before none) (hopen : o.token = .opening .paren) :
    ∃ list c after args, ts = list ++ c :: after ∧ c.token = .closing .paren ∧
      readArguments 0 [] ts = .ok (args, after) ∧
      (NestsBrackets (list.map (·.token)) ↔
        ¬ ∃ open? closing, FirstMisfit [] (list.map (·.token)) open? closing) ∧
      (∀ open? closing, FirstMisfit [] (list.map (·.token)) open? closing → open? = none → closing ≠ .paren) ∧
      ((∀ b, .opening b ∈ list.map (·.token) ∨ .closing b ∈ list.map (·.token) → b = .paren) →
        NestsBrackets (list.map (·.token))) ∧
      ∀ list', (∃ args', readArguments 0 [] (list' ++ c :: after) = .ok (args', after)) ↔
        countOpen 0 (list'.map (·.token)) = some 0 := by
  obtain ⟨ts', pieces', -, ho', -, -, hw⟩ := exists_outline h
  obtain rfl : pieces' = pieces := Option.some.inj (ho'.symm.trans ho)
  have hpasses : Passes none (before ++ o :: ts) none := hbody ▸ (hw b hb).arguments hk
  have hlist : Passes (some 0) ts none := by
    cases hpasses.right hbefore with
    | cons _ hts => rwa [hopen] at hts
  obtain ⟨list, c, after, rfl, hc, hcount⟩ := hlist.exists_list
  obtain ⟨args, hread⟩ : ∃ args, readArguments 0 [] (list ++ c :: after) = .ok (args, after) :=
    readArguments_eq_ok_iff.2 ⟨list, c, rfl, hc, hcount⟩
  refine ⟨list, c, after, args, rfl, hc, hread, nestsBrackets_iff_of_countOpen hcount,
    fun open? closing hm => hm.ne_paren (by rw [List.length_nil, hcount]; simp), nestsBrackets_of_parens hcount,
    fun list' => ?_⟩
  rw [readArguments_eq_ok_iff]
  constructor
  · rintro ⟨list₁, c₁, hlist₁, -, hcount₁⟩
    have happend : (list' ++ [c]) ++ after = (list₁ ++ [c₁]) ++ after := by simpa using hlist₁
    obtain ⟨rfl, -⟩ := List.append_inj' (List.append_cancel_right happend) rfl
    exact hcount₁
  · intro hcount'
    exact ⟨list', c, rfl, hc, hcount'⟩

/-- A schema with a default in its argument list. -/
def timedNote : String := "model Note \x7b at DateTime @default(now()) \x7d"

/-- The tokens of the default, with the parenthesis that closes the argument list. -/
def timedDefault : List Placed :=
  [⟨.ident "now", 1⟩, ⟨.opening .paren, 1⟩, ⟨.closing .paren, 1⟩, ⟨.closing .paren, 1⟩]

/-- The tokens of the field before its argument list. -/
def timedFieldBefore : List Placed :=
  [⟨.ident "at", 1⟩, ⟨.ident "DateTime", 1⟩, ⟨.mark .at, 1⟩, ⟨.ident "default", 1⟩]

/-- The model of `timedNote`. -/
def timedBlock : Block :=
  ⟨.model, ⟨.ident "model", 1⟩, "Note", 1, 1, timedFieldBefore ++ ⟨.opening .paren, 1⟩ :: timedDefault, 1⟩

/-- The argument list of `timedNote` is properly nested, as it has no brackets but parentheses. -/
theorem exists_arguments_of_timedNote : ∃ list c args, timedDefault = list ++ [c] ∧
    readArguments 0 [] timedDefault = .ok (args, []) ∧ NestsBrackets (list.map (·.token)) := by
  have haccepted : (Structure.ofText timedNote).toOption.isSome = true := by decide +kernel
  obtain ⟨s, hs⟩ : ∃ s, Structure.ofText timedNote = .ok s := by
    cases h : Structure.ofText timedNote with
    | error e => rw [h] at haccepted; cases haccepted
    | ok s => exact ⟨s, rfl⟩
  have ho : outlineOf timedNote = some [.block timedBlock] := by decide +kernel
  have hb : timedBlock ∈ blocksOf [.block timedBlock] := List.mem_singleton.2 rfl
  have hbefore : Passes none timedFieldBefore none :=
    .cons (fun _ => rfl) (.cons (fun _ => rfl) (.cons (fun _ => rfl) (.cons (fun _ => rfl) (.nil none))))
  obtain ⟨list, c, after, args, hlist, -, hread, -, -, hparens, -⟩ :=
    exists_arguments_of_model hs ho hb rfl rfl hbefore rfl
  have hall : readArguments 0 [] timedDefault = .ok ([⟨none, "now()"⟩], []) := by decide
  obtain ⟨rfl, rfl⟩ : [⟨none, "now()"⟩] = args ∧ [] = after := by
    simpa only [Except.ok.injEq, Prod.mk.injEq] using hall.symm.trans hread
  refine ⟨list, c, _, hlist, hread, hparens fun b hb => ?_⟩
  have hsub : list.map (·.token) ⊆ timedDefault.map (·.token) := by
    rw [hlist, List.map_append]
    exact List.subset_append_left _ _
  have hb' := hb.imp (@hsub _) (@hsub _)
  simpa [timedDefault] using hb'

/-- A schema with a stray bracket in an argument list. -/
def strayBracket : String := "model A \x7b id Int @default(]) \x7d\n"

/-- The stray bracket is read as an argument. -/
theorem arguments_of_strayBracket :
    (Structure.ofText strayBracket).map (fun s => s.models.map fun m => m.fields.map (·.attributes)) =
        .ok [[[⟨"default", [⟨none, "]"⟩]⟩]]] ∧
      outlineOf strayBracket = some [.block ⟨.model, ⟨.ident "model", 1⟩, "A", 1, 1,
        [⟨.ident "id", 1⟩, ⟨.ident "Int", 1⟩, ⟨.mark .at, 1⟩, ⟨.ident "default", 1⟩] ++
          ⟨.opening .paren, 1⟩ :: ([⟨.closing .square, 1⟩] ++ [⟨.closing .paren, 1⟩]), 1⟩] ∧
      readArguments 0 [] ([⟨.closing .square, 1⟩] ++ [⟨.closing .paren, 1⟩]) = .ok ([⟨none, "]"⟩], []) ∧
      ¬ NestsBrackets [.closing .square] := by
  refine ⟨by decide +kernel, by decide +kernel, by decide +kernel, by decide⟩

end GuardedCrud.Schema
