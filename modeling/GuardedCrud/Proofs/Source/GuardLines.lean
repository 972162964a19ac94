import GuardedCrud.Proofs.Naming.Characters
import GuardedCrud.Proofs.Schema.LineScan
import GuardedCrud.Source.Classes

/-!
# Guard lines in resolvers

The block of an operation in a resolver has a line that begins with `@UseGuards` exactly if its level has a guard
(`hasGuardLine_ofRecord`).  The names of a model cannot write such a line, since they hold no `@` and no line feed
(`PlainNames`); the name of a guard is not restricted.
-/

namespace GuardedCrud.Source

open GuardedCrud.Access GuardedCrud.Text

/-- The line asks for a guard. -/
def isGuardLine (l : List Char) : Bool := "@UseGuards".toList.isPrefixOf (trimStart l)

/-- Some line of the text asks for a guard. -/
def hasGuardLine (text : String) : Bool := (lines text.toList).any isGuardLine

/-! ### Lines that ask for no guard -/

theorem isGuardLine_append {l more : List Char} (h : isGuardLine l = true) : isGuardLine (l ++ more) = true := by
  unfold isGuardLine at h ⊢
  obtain ⟨rest, hr⟩ := List.isPrefixOf_iff_prefix.1 h
  have hne : trimStart l ≠ [] := by
    intro e
    rw [e] at hr
    simp at hr
  refine List.isPrefixOf_iff_prefix.2 ⟨rest ++ more, ?_⟩
  have htrim : trimStart (l ++ more) = trimStart l ++ more := by
    unfold trimStart at hne ⊢
    rw [List.dropWhile_append, if_neg (by simpa using hne)]
  rw [htrim, ← hr, List.append_assoc]

private theorem isGuardLine_chomp {l : List Char} (h : isGuardLine l = false) :
    isGuardLine (Schema.chomp l) = false := by
  unfold Schema.chomp
  split
  · rename_i hl
    obtain ⟨l', rfl⟩ := List.getLast?_eq_some_iff.1 hl
    rw [List.dropLast_concat, ← Bool.not_eq_true]
    intro hg
    rw [isGuardLine_append hg] at h
    cases h
  · exact h

/-- What stands before the first `@` of a line, if it is not blank, keeps the line from asking for a guard. -/
private theorem isGuardLine_of_not_mem {l rest : List Char} {c : Char} (hl : '@' ∉ l) (hc : isBlank c = false)
    (hat : c ≠ '@') : isGuardLine (l ++ c :: rest) = false := by
  have htrim : ∃ d ds, trimStart (l ++ c :: rest) = d :: ds ∧ d ≠ '@' := by
    induction l with
    | nil => exact ⟨c, rest, trimStart_cons_of_not_isBlank hc rest, hat⟩
    | cons d l ih =>
      obtain ⟨hd, hl⟩ := not_or.1 (List.mem_cons.not.1 hl)
      by_cases hb : isBlank d = true
      · rw [List.cons_append, trimStart_cons_of_isBlank hb]
        exact ih hl
      · exact ⟨d, l ++ c :: rest, trimStart_cons_of_not_isBlank (by simpa using hb) _, Ne.symm hd⟩
  obtain ⟨d, ds, h, hd⟩ := htrim
  have hmark : "@UseGuards".toList = '@' :: "UseGuards".toList := by decide
  rw [isGuardLine, h, hmark, List.isPrefixOf_cons_cons, beq_eq_false_iff_ne.2 (Ne.symm hd), Bool.false_and]

/-- A text of lines without a guard. -/
private theorem any_lines_append_newline {l : List Char} (hn : '\n' ∉ l) (hg : isGuardLine l = false)
    (rest : List Char) : (lines (l ++ '\n' :: rest)).any isGuardLine = (lines rest).any isGuardLine := by
  rw [Schema.lines_append_newline hn, List.any_cons, isGuardLine_chomp hg, Bool.false_or]

/-- The first line of a text begins as the text does. -/
private theorem any_lines_append_of_isGuardLine {l rest : List Char} (hn : '\n' ∉ l) (hr : l.getLast? ≠ some '\r')
    (hg : isGuardLine l = true) :
    (lines (l ++ rest)).any isGuardLine = true := by
  have hne : l ≠ [] := by
    rintro rfl
    revert hg; decide
  by_cases hrest : '\n' ∈ rest
  · obtain ⟨first, others, rfl, hfirst⟩ := List.eq_append_cons_of_mem hrest
    have hmem : '\n' ∉ l ++ first := fun h => (List.mem_append.1 h).elim hn hfirst
    rw [← List.append_assoc, Schema.lines_append_newline hmem, List.any_cons]
    -- the carriage return that the line may lose is not one of `l`
    have hchomp : ∃ more, Schema.chomp (l ++ first) = l ++ more := by
      unfold Schema.chomp
      split
      · rename_i hlast
        cases hf : first with
        | nil =>
          rw [hf, List.append_nil] at hlast
          exact absurd hlast hr
        | cons c cs =>
          exact ⟨(c :: cs).dropLast, List.dropLast_append_of_ne_nil (by simp)⟩
      · exact ⟨first, rfl⟩
    obtain ⟨more, hmore⟩ := hchomp
    rw [hmore, isGuardLine_append hg, Bool.true_or]
  · have hmem : '\n' ∉ l ++ rest := fun h => (List.mem_append.1 h).elim hn hrest
    rw [Schema.lines_of_not_mem hmem, if_neg (by simp [hne])]
    simp [isGuardLine_append hg]

/-! ### The block of an operation -/

/-- A text without a line feed and without an `@`. -/
def IsPlain (s : String) : Prop := '@' ∉ s.toList ∧ '\n' ∉ s.toList

theorem IsPlain.append {a b : String} (ha : IsPlain a) (hb : IsPlain b) : IsPlain (a ++ b) := by
  unfold IsPlain
  rw [String.toList_append, List.mem_append, List.mem_append]
  exact ⟨fun h => h.elim ha.1 hb.1, fun h => h.elim ha.2 hb.2⟩

/-- The names of a record are plain texts. -/
structure PlainNames (r : Record) : Prop where
  name : IsPlain r.name
  property : IsPlain r.propertyName
  pluralProperty : IsPlain r.pluralPropertyName

namespace PlainNames

variable {r : Record}

theorem operationName (h : PlainNames r) (op : Operation) : IsPlain (r.operationName op) := by
  have hcount : IsPlain "Count" := ⟨by decide, by decide⟩
  have hcreate : IsPlain "create" := ⟨by decide, by decide⟩
  have hupdate : IsPlain "update" := ⟨by decide, by decide⟩
  have hdelete : IsPlain "delete" := ⟨by decide, by decide⟩
  cases op with
  | readMany => exact h.pluralProperty
  | count => exact h.pluralProperty.append hcount
  | readOne => exact h.property
  | create => exact hcreate.append h.name
  | update => exact hupdate.append h.name
  | delete => exact hdelete.append h.name

theorem argumentsType (h : PlainNames r) (op : Operation) : IsPlain (r.argumentsType op) := by
  have hargs : IsPlain "Args" := ⟨by decide, by decide⟩
  have hmany : IsPlain "FindMany" := ⟨by decide, by decide⟩
  have hunique : IsPlain "FindUnique" := ⟨by decide, by decide⟩
  have hcreate : IsPlain "CreateOne" := ⟨by decide, by decide⟩
  have hupdate : IsPlain "UpdateOne" := ⟨by decide, by decide⟩
  have hdelete : IsPlain "DeleteOne" := ⟨by decide, by decide⟩
  cases op with
  | readMany | count => exact (hmany.append h.name).append hargs
  | readOne => exact (hunique.append h.name).append hargs
  | create => exact (hcreate.append h.name).append hargs
  | update => exact (hupdate.append h.name).append hargs
  | delete => exact (hdelete.append h.name).append hargs

end PlainNames

private theorem decorator_plain {d : Char} {word : List Char} (start rest : String)
    (hstart : start.toList = '@' :: d :: word) (hd : d ≠ 'U') (hn : '\n' ∉ start.toList) (hr : '\n' ∉ rest.toList) :
    '\n' ∉ ("  " ++ (start ++ rest)).toList ∧ isGuardLine ("  " ++ (start ++ rest)).toList = false := by
  have hspaces : "  ".toList = [' ', ' '] := by decide
  have hmark : "@UseGuards".toList = '@' :: 'U' :: "seGuards".toList := by decide
  rw [String.toList_append, String.toList_append]
  refine ⟨fun h => ?_, ?_⟩
  · rcases List.mem_append.1 h with h | h
    · exact absurd h (by decide)
    · exact (List.mem_append.1 h).elim hn hr
  · rw [isGuardLine, hspaces, hstart, List.cons_append, List.cons_append, List.nil_append,
      trimStart_cons_of_isBlank (by decide), trimStart_cons_of_isBlank (by decide), List.cons_append,
      trimStart_cons_of_not_isBlank (by decide), hmark, List.cons_append, List.isPrefixOf_cons_cons,
      List.isPrefixOf_cons_cons, beq_eq_false_iff_ne.2 (Ne.symm hd), Bool.false_and, Bool.and_false]

/-- The decorator of an operation stands on one line and asks for no guard. -/
theorem operationDecorator_plain {model : String} (h : IsPlain model) (op : Operation) :
    '\n' ∉ ("  " ++ operationDecorator model op).toList ∧
      isGuardLine ("  " ++ operationDecorator model op).toList = false := by
  have hend : ∀ s : String, IsPlain s → '\n' ∉ (model ++ s).toList := fun s hs => (h.append hs).2
  have hquery : "@Query(() => ".toList = '@' :: 'Q' :: "uery(() => ".toList := by decide
  have hquery' : "@Query(() => [".toList = '@' :: 'Q' :: "uery(() => [".toList := by decide
  have hmutation : "@Mutation(() => ".toList = '@' :: 'M' :: "utation(() => ".toList := by decide
  cases op with
  | readMany =>
    unfold operationDecorator
    dsimp only
    rw [String.append_assoc]
    exact decorator_plain _ _ hquery' (by decide) (by decide) (hend _ ⟨by decide, by decide⟩)
  | count => exact decorator_plain "@Query(() => " "Int)" hquery (by decide) (by decide) (by decide)
  | readOne =>
    unfold operationDecorator
    dsimp only
    rw [String.append_assoc]
    exact decorator_plain _ _ hquery (by decide) (by decide) (hend _ ⟨by decide, by decide⟩)
  | create | update | delete =>
    unfold operationDecorator
    dsimp only
    rw [String.append_assoc]
    exact decorator_plain _ _ hmutation (by decide) (by decide) (hend _ ⟨by decide, by decide⟩)

/-- The text of a method, line by line. -/
private theorem toList_render (m : ResolverMethod) :
    m.render.toList = [] ++ '\n' :: (m.guardLine.toList ++
      (("  " ++ m.decorator).toList ++ '\n' ::
      (("  " ++ m.name).toList ++ '(' :: ("@Args() args: " ++ m.argumentsType ++ ") \x7b").toList ++ '\n' ::
      ("    ".toList ++ 'r' :: ("eturn this.service." ++ m.name ++ "(args);").toList ++ '\n' ::
      ("  \x7d".toList ++ '\n' :: []))))) := by
  have hfirst : "\n".toList = ['\n'] := by decide
  have hargs : "(@Args() args: ".toList = '(' :: "@Args() args: ".toList := by decide
  have hopening : ") \x7b\n".toList = ") \x7b".toList ++ ['\n'] := by decide
  have hcall : "    return this.service.".toList = "    ".toList ++ 'r' :: "eturn this.service.".toList := by decide
  have hend : "(args);\n".toList = "(args);".toList ++ ['\n'] := by decide
  have hclosing : "  \x7d\n".toList = "  \x7d".toList ++ ['\n'] := by decide
  unfold ResolverMethod.render
  simp only [String.toList_append, hfirst, hargs, hopening, hcall, hend, hclosing,
    List.append_assoc, List.cons_append, List.nil_append]

/-- A method asks for a guard in a line of its own, if it has one. -/
theorem hasGuardLine_render {m : ResolverMethod} (hdecorator : '\n' ∉ ("  " ++ m.decorator).toList)
    (hdecorator' : isGuardLine ("  " ++ m.decorator).toList = false) (hname : IsPlain m.name)
    (htype : '\n' ∉ m.argumentsType.toList) : hasGuardLine m.render = m.guard.isSome := by
  rw [hasGuardLine, toList_render, any_lines_append_newline (by simp) (by decide), ResolverMethod.guardLine]
  cases m.guard with
  | some g =>
    have hline : ("  @UseGuards(" ++ g ++ ")\n").toList = "  @UseGuards(".toList ++ (g ++ ")\n").toList := by
      simp only [String.toList_append, List.append_assoc]
    simp only [hline, List.append_assoc]
    rw [any_lines_append_of_isGuardLine (by decide) (by decide) (by decide)]
    rfl
  | none =>
    -- without a guard the lines are the decorator, the signature, the call and the brace
    have hat : '@' ∉ ("  " ++ m.name).toList := by simpa using hname.1
    have hsignature :
        '\n' ∉ ("  " ++ m.name).toList ++ '(' :: ("@Args() args: " ++ m.argumentsType ++ ") \x7b").toList := by
      simp [hname.2, htype]
    have hcall : '\n' ∉ "    ".toList ++ 'r' :: ("eturn this.service." ++ m.name ++ "(args);").toList := by
      simp [hname.2]
    rw [String.toList_empty, List.nil_append, any_lines_append_newline hdecorator hdecorator',
      any_lines_append_newline hsignature (isGuardLine_of_not_mem hat (by decide) (by decide)),
      any_lines_append_newline hcall (isGuardLine_of_not_mem (by decide) (by decide) (by decide)),
      any_lines_append_newline (by decide) (by decide)]
    rfl

/-- The block of an operation asks for a guard exactly if the level of the operation has one. -/
theorem hasGuardLine_ofRecord (c : Conventions) {r : Record} (h : PlainNames r) (op : Operation) :
    hasGuardLine (ResolverMethod.ofRecord c r op).render = (c.guard (r.policy.get op)).isSome := by
  obtain ⟨hdecorator, hdecorator'⟩ := operationDecorator_plain h.name op
  exact hasGuardLine_render hdecorator hdecorator' (h.operationName op) (h.argumentsType op).2

theorem guard_eq_none_iff (c : Conventions) (l : Level) : c.guard l = none ↔ l = .everyone := by
  cases l <;> simp [Conventions.guard]

/-- The resolver of a record is made of the blocks of its operations, in order, between a head and a closing brace. -/
theorem render_ofRecord (s : Settings) (r : Record) :
    ∃ head, (Resolver.ofRecord s r).render =
      head ++ String.join (Operation.all.map fun op => (ResolverMethod.ofRecord s.guards r op).render) ++ "\x7d\n" :=
  ⟨_, rfl⟩

end GuardedCrud.Source
