import GuardedCrud.Proofs.Source.FileText
import GuardedCrud.Proofs.Source.GuardLines
import GuardedCrud.Proofs.Text.ByteOrder

/-!
# Guards and their imports in resolvers

The guards of the six operations and the guards that a resolver imports are computed apart, and agree:

* the list of imported guards is increasing, and holds the guards of the operations and no others
  (`usedGuards_increasing`, `mem_usedGuards`);
* it is empty, and nothing is imported for guards, exactly if every operation is public (`usedGuards_eq_nil_iff`).

The text of a resolver shows its policy in these places alone (`guards_of_resolver`): the line of a guard in the block of
each operation that has one, and the two imports.
-/

namespace GuardedCrud.Source

open GuardedCrud.Access GuardedCrud.Text

/-! ### The guards in use -/

private theorem mem_insertName {name other : String} {names : List String} :
    other ∈ Conventions.insertName name names ↔ other = name ∨ other ∈ names := by
  induction names with
  | nil => simp [Conventions.insertName]
  | cons first names ih =>
    unfold Conventions.insertName
    split
    · simp
    · split
      · rename_i h
        simp [h]
      · simp only [List.mem_cons, ih]
        exact or_left_comm

private theorem insertName_increasing {name : String} {names : List String} (h : names.Pairwise (· < ·)) :
    (Conventions.insertName name names).Pairwise (· < ·) := by
  induction names with
  | nil => simp [Conventions.insertName]
  | cons first names ih =>
    obtain ⟨hfirst, hnames⟩ := List.pairwise_cons.1 h
    unfold Conventions.insertName
    split
    · rename_i hlt
      refine List.pairwise_cons.2 ⟨fun other hother => ?_, h⟩
      rcases List.mem_cons.1 hother with rfl | hother
      · exact hlt
      · exact String.lt_trans hlt (hfirst other hother)
    · rename_i hlt
      split
      · exact h
      · rename_i hne
        -- the name is greater than the first one, as it is neither smaller nor the same
        have hgreater : first < name := by
          rw [← String.not_le]
          exact fun hle => hne (String.le_antisymm hle (String.not_lt.1 hlt))
        refine List.pairwise_cons.2 ⟨fun other hother => ?_, ih hnames⟩
        rcases mem_insertName.1 hother with rfl | hother
        · exact hgreater
        · exact hfirst other hother

section

variable (c : Conventions) (p : Policy)

/-- The guards in use are those of the operations. -/
theorem mem_usedGuards {guard : String} : guard ∈ c.usedGuards p ↔ ∃ op, c.guard (p.get op) = some guard := by
  have hfold : ∀ names : List String, guard ∈ names.foldr Conventions.insertName [] ↔ guard ∈ names := by
    intro names
    induction names with
    | nil => rfl
    | cons name names ih => rw [List.foldr_cons, mem_insertName, ih, List.mem_cons]
  rw [Conventions.usedGuards, hfold, List.mem_filterMap]
  constructor
  · rintro ⟨op, -, h⟩
    exact ⟨op, h⟩
  · rintro ⟨op, h⟩
    exact ⟨op, Operation.mem_all op, h⟩

/-- The guards in use come in the order of texts, each once. -/
theorem usedGuards_increasing : (c.usedGuards p).Pairwise (· < ·) := by
  unfold Conventions.usedGuards
  generalize (Operation.all.filterMap fun op => c.guard (p.get op)) = names
  induction names with
  | nil => exact .nil
  | cons name names ih => exact insertName_increasing ih

/-- Levels may share a guard. -/
example : Conventions.usedGuards { user := "SessionGuard", admin := "SessionGuard" }
    { PerOperation.uniform .admin with create := .user, count := .role "editor" } =
      ["AuthEditorGuard", "SessionGuard"] := by
  decide

/-- Some operation is not public. -/
def IsGuarded : Prop := ∃ op, p.get op ≠ .everyone

instance : Decidable (IsGuarded p) :=
  decidable_of_iff (∃ op ∈ Operation.all, p.get op ≠ .everyone)
    ⟨fun ⟨op, _, h⟩ => ⟨op, h⟩, fun ⟨op, h⟩ => ⟨op, Operation.mem_all op, h⟩⟩

/-- No guard is in use exactly if every operation is public. -/
theorem usedGuards_eq_nil_iff : c.usedGuards p = [] ↔ ¬ IsGuarded p := by
  rw [List.eq_nil_iff_forall_not_mem]
  constructor
  · rintro h ⟨op, hop⟩
    cases hg : c.guard (p.get op) with
    | none => exact hop ((guard_eq_none_iff c _).1 hg)
    | some guard => exact h guard ((mem_usedGuards c p).2 ⟨op, hg⟩)
  · intro h guard hm
    obtain ⟨op, hg⟩ := (mem_usedGuards c p).1 hm
    refine h ⟨op, fun hop => ?_⟩
    rw [(guard_eq_none_iff c _).2 hop] at hg
    cases hg

end

/-! ### Imports -/

/-- The import of the decorator that asks for guards. -/
def decoratorImport : Import := ⟨["UseGuards"], "@nestjs/common"⟩

/-- The import of the guards that a policy uses. -/
def guardsImportOf (s : Settings) (p : Policy) : Import := ⟨s.guards.usedGuards p, s.guardsImport⟩

/-- A line, if the policy has guards. -/
def whenGuarded (p : Policy) (line : String) : String := if IsGuarded p then line else ""

/-- The imports that a resolver needs whatever its policy is, after those of its guards. -/
def lastImports (s : Settings) (r : Record) : List Import :=
  [⟨(r.name :: Operation.all.map r.argumentsType).eraseDups, s.typesImport⟩, ⟨[r.serviceClass], "./" ++ r.serviceStem⟩]

/-- The import of what every resolver is made with. -/
def graphqlImport : Import := ⟨["Args", "Int", "Mutation", "Query", "Resolver"], "@nestjs/graphql"⟩

private theorem importsOf_eq (s : Settings) (r : Record) : Resolver.importsOf s r =
    (if IsGuarded r.policy then [decoratorImport] else []) ++ [graphqlImport] ++
      (if IsGuarded r.policy then [guardsImportOf s r.policy] else []) ++ lastImports s r := by
  have hempty : (s.guards.usedGuards r.policy).isEmpty = true ↔ ¬ IsGuarded r.policy := by
    rw [List.isEmpty_iff, usedGuards_eq_nil_iff]
  unfold Resolver.importsOf
  by_cases h : IsGuarded r.policy
  · have hfalse : (s.guards.usedGuards r.policy).isEmpty = false := by simpa using mt hempty.1 (not_not.2 h)
    simp only [hfalse, h, Bool.false_eq_true, if_false, if_true]
    rfl
  · simp only [hempty.2 h, h, if_false, if_true]
    rfl

/-- The last imports are none for guards: one names a model and the types of its arguments, the other one is of a file. -/
private theorem lastImports_ne {s : Settings} {r : Record} {i : Import} (h : i ∈ lastImports s r) :
    i ≠ decoratorImport ∧ i.names ≠ [] := by
  have hdecorator : ∀ name : String, name ∈ decoratorImport.names → name = "UseGuards" := fun _ => List.mem_singleton.1
  rcases List.mem_pair.1 h with rfl | rfl
  · have hname : r.name ∈ (r.name :: Operation.all.map r.argumentsType).eraseDups := by simp
    have htype : r.argumentsType .create ∈ (r.name :: Operation.all.map r.argumentsType).eraseDups := by
      simp [Operation.all]
    refine ⟨fun he => ?_, List.ne_nil_of_mem hname⟩
    have hnames := congrArg Import.names he
    dsimp only at hnames
    rw [hnames] at hname htype
    have hcreate : r.argumentsType .create = "CreateOne" ++ r.name ++ "Args" := rfl
    have htype := hdecorator _ htype
    rw [hcreate, hdecorator _ hname] at htype
    exact absurd htype (by decide)
  · refine ⟨fun he => ?_, List.cons_ne_nil _ _⟩
    have hsource : ("./" ++ r.serviceStem).toList = "@nestjs/common".toList := congrArg (fun i => i.source.toList) he
    rw [String.toList_append] at hsource
    have hhead := congrArg List.head? hsource
    rw [show "./".toList = ['.', '/'] by decide, show "@nestjs/common".toList = '@' :: "nestjs/common".toList by decide]
      at hhead
    cases hhead

private theorem decoratorImport_mem_iff (s : Settings) (r : Record) :
    decoratorImport ∈ Resolver.importsOf s r ↔ IsGuarded r.policy := by
  rw [importsOf_eq]
  by_cases h : IsGuarded r.policy
  · simp [h]
  · have hlast : decoratorImport ∉ lastImports s r := fun hm => (lastImports_ne hm).1 rfl
    have hgraphql : decoratorImport ≠ graphqlImport := by decide
    simp [h, hlast, hgraphql]

private theorem guardsImportOf_mem_iff (s : Settings) (r : Record) :
    guardsImportOf s r.policy ∈ Resolver.importsOf s r ↔ IsGuarded r.policy := by
  rw [importsOf_eq]
  by_cases h : IsGuarded r.policy
  · simp [h]
  · -- no other import is empty
    have hnames : (guardsImportOf s r.policy).names = [] := (usedGuards_eq_nil_iff s.guards r.policy).2 h
    have hlast : guardsImportOf s r.policy ∉ lastImports s r := fun hm => (lastImports_ne hm).2 hnames
    have hgraphql : guardsImportOf s r.policy ≠ graphqlImport := by
      intro he
      rw [he] at hnames
      cases hnames
    simp [h, hlast, hgraphql]

/-! ### The lines of guards -/

private theorem lineOfGuard_none : lineOfGuard none = "" := rfl

private theorem lineOfGuard_some (guard : String) : lineOfGuard (some guard) = "  @UseGuards(" ++ guard ++ ")\n" := rfl

/-- The lines of a text that ask for guards. -/
def guardLines (text : String) : List (List Char) := (lines text.toList).filter isGuardLine

/-- The text of the block of an operation from its decorator on. -/
def bodyOf (r : Record) (op : Operation) : String :=
  "  " ++ operationDecorator r.name op ++ "\n" ++
  "  " ++ r.operationName op ++ "(@Args() args: " ++ r.argumentsType op ++ ") \x7b\n" ++
  "    return this.service." ++ r.operationName op ++ "(args);\n" ++ "  \x7d\n"

private theorem body_ofRecord (c : Conventions) (r : Record) (op : Operation) :
    (ResolverMethod.ofRecord c r op).body = bodyOf r op := by
  unfold ResolverMethod.body delegation ResolverMethod.signature ResolverMethod.ofRecord bodyOf
  simp only [String.append_assoc]

private theorem render_eq_bodyOf (c : Conventions) (r : Record) (op : Operation) :
    (ResolverMethod.ofRecord c r op).render = "\n" ++ lineOfGuard (c.guard (r.policy.get op)) ++ bodyOf r op := by
  rw [ResolverMethod.render_eq_block, ResolverMethod.block, body_ofRecord]
  rfl

private theorem guardLines_eq_nil_iff {text : String} : guardLines text = [] ↔ hasGuardLine text = false := by
  unfold guardLines hasGuardLine
  rw [List.filter_eq_nil_iff, List.any_eq_false]

private theorem guardLines_newline (text : String) : guardLines ("\n" ++ text) = guardLines text := by
  have hlines : lines ("\n" ++ text).toList = [] :: lines text.toList := by
    rw [String.toList_append]
    rfl
  rw [guardLines, hlines, List.filter_cons_of_neg (by decide)]
  rfl

private theorem guardLines_bodyOf {r : Record} (h : PlainNames r) (op : Operation) : guardLines (bodyOf r op) = [] := by
  obtain ⟨hdecorator, hdecorator'⟩ := operationDecorator_plain h.name op
  -- a method without a guard is written as its body alone
  have hunguarded := hasGuardLine_render (m := { ResolverMethod.ofRecord {} r op with guard := none }) hdecorator
    hdecorator' (h.operationName op) (h.argumentsType op).2
  rw [ResolverMethod.render_eq_block, ResolverMethod.block, lineOfGuard_none, String.append_empty] at hunguarded
  rw [← body_ofRecord {} r op, ← guardLines_newline, guardLines_eq_nil_iff]
  exact hunguarded

/-- The line of a guard stands alone before what follows it. -/
private theorem guardLines_lineOfGuard {guard : String} (h : '\n' ∉ guard.toList) (text : String) :
    guardLines (lineOfGuard (some guard) ++ text) = ("  @UseGuards(" ++ guard ++ ")").toList :: guardLines text := by
  have hline : '\n' ∉ ("  @UseGuards(" ++ guard ++ ")").toList := by simpa using h
  have hlast : ("  @UseGuards(" ++ guard ++ ")").toList.getLast? ≠ some '\r' := by
    rw [String.toList_append, show ")".toList = [')'] by decide, List.getLast?_concat]
    decide
  have hasks : isGuardLine ("  @UseGuards(" ++ guard ++ ")").toList = true := by
    rw [String.append_assoc, String.toList_append]
    exact isGuardLine_append (by decide)
  have htext : (lineOfGuard (some guard) ++ text).toList = ("  @UseGuards(" ++ guard ++ ")").toList ++ '\n' :: text.toList := by
    rw [lineOfGuard_some]
    simp
  rw [guardLines, htext, Schema.lines_append_newline hline, Schema.chomp, if_neg hlast, List.filter_cons_of_pos hasks]
  rfl

/-- The block of an operation asks for its guard in one line, and for no other guard. -/
private theorem guardLines_render (c : Conventions) {r : Record} (h : PlainNames r) {op : Operation}
    (hguard : ∀ guard ∈ c.guard (r.policy.get op), '\n' ∉ guard.toList) :
    guardLines (ResolverMethod.ofRecord c r op).render =
      (c.guard (r.policy.get op)).toList.map fun guard => ("  @UseGuards(" ++ guard ++ ")").toList := by
  rw [render_eq_bodyOf, String.append_assoc, guardLines_newline]
  cases hg : c.guard (r.policy.get op) with
  | none =>
    rw [lineOfGuard_none, String.empty_append, guardLines_bodyOf h op]
    rfl
  | some guard =>
    rw [guardLines_lineOfGuard (hguard guard hg), guardLines_bodyOf h op]
    rfl

/-! ### The text of a resolver -/

/-- The text of the resolver of a record under a policy.  The policy shows in two import lines, if some operation is not
public, and in the line of a guard in the block of each operation that has one. -/
def textUnder (s : Settings) (r : Record) (p : Policy) : String :=
  "// Auto-generated CRUD resolver for " ++ r.name ++ "\n" ++
  whenGuarded p "import \x7b UseGuards \x7d from '@nestjs/common';\n" ++
  "import \x7b Args, Int, Mutation, Query, Resolver \x7d from '@nestjs/graphql';\n" ++
  whenGuarded p ("import \x7b " ++ ", ".intercalate (s.guards.usedGuards p) ++ " \x7d from '" ++ s.guardsImport ++ "';\n") ++
  importLines (lastImports s r) ++
  "\n@Resolver(() => " ++ r.name ++ ")" ++ opening r.resolverClass ++
  "  constructor(private readonly service: " ++ r.serviceClass ++ ") \x7b\x7d\n" ++
  String.join (Operation.all.map fun op => "\n" ++ lineOfGuard (s.guards.guard (p.get op)) ++ bodyOf r op) ++ "\x7d\n"

private theorem importLines_append (is js : List Import) :
    importLines (is ++ js) = importLines is ++ importLines js := by
  unfold importLines
  rw [List.map_append, String.join_append]

private theorem importLines_whenGuarded (p : Policy) (i : Import) :
    importLines (if IsGuarded p then [i] else []) = whenGuarded p (importLine i) := by
  unfold whenGuarded importLines
  split <;> simp

private theorem importLine_decoratorImport :
    importLine decoratorImport = "import \x7b UseGuards \x7d from '@nestjs/common';\n" := by decide

private theorem importLines_graphqlImport :
    importLines [graphqlImport] = "import \x7b Args, Int, Mutation, Query, Resolver \x7d from '@nestjs/graphql';\n" := by
  decide

/-- The import lines of a resolver. -/
private theorem importLines_importsOf (s : Settings) (r : Record) : importLines (Resolver.importsOf s r) =
    whenGuarded r.policy "import \x7b UseGuards \x7d from '@nestjs/common';\n" ++
      "import \x7b Args, Int, Mutation, Query, Resolver \x7d from '@nestjs/graphql';\n" ++
      whenGuarded r.policy (importLine (guardsImportOf s r.policy)) ++ importLines (lastImports s r) := by
  rw [importsOf_eq, importLines_append, importLines_append, importLines_append, importLines_whenGuarded,
    importLines_whenGuarded, importLine_decoratorImport, importLines_graphqlImport]

private theorem blocks_ofRecord (s : Settings) (r : Record) : (Resolver.ofRecord s r).methods.map ResolverMethod.block =
    Operation.all.map fun op => "\n" ++ lineOfGuard (s.guards.guard (r.policy.get op)) ++ bodyOf r op := by
  show (Operation.all.map _).map ResolverMethod.block = _
  rw [List.map_map]
  exact List.map_congr_left fun op _ => (ResolverMethod.render_eq_block _).symm.trans (render_eq_bodyOf ..)

private theorem render_eq_textUnder (s : Settings) (r : Record) :
    (Resolver.ofRecord s r).render = textUnder s r r.policy := by
  have himports : importLines (Resolver.ofRecord s r).imports = _ := importLines_importsOf s r
  refine (Resolver.render_eq_text _).trans ?_
  unfold Resolver.text textUnder
  rw [blocks_ofRecord, himports]
  simp only [importLine, guardsImportOf, Resolver.ofRecord, String.append_assoc]

/-- Guards are imported exactly as they are used.  Whatever the policy of a model is, the text of its resolver has the line
of a guard in the block of each operation that has one, in the order of all operations, and the two imports for guards if
some operation is not public; nothing else in it depends on the policy.  The imported guards are those of the blocks, each
once and in the order of their bytes.  As long as names are plain and a guard fits on a line, no other line asks for a
guard. -/
theorem guards_of_resolver (s : Settings) (r : Record) :
    (∀ policy? : Option Policy,
      (Resolver.ofRecord s { r with policy? := policy? }).render = textUnder s r (policy?.getD .adminOnly)) ∧
    (PlainNames r → ∀ op, guardLines (bodyOf r op) = []) ∧
    (s.guards.usedGuards r.policy).Pairwise (fun a b => bytesOf a < bytesOf b) ∧
    (∀ guard, guard ∈ s.guards.usedGuards r.policy ↔
      ∃ op ∈ Operation.all, (ResolverMethod.ofRecord s.guards r op).guard = some guard) ∧
    (decoratorImport ∈ (Resolver.ofRecord s r).imports ↔ ∃ op, r.policy.get op ≠ .everyone) ∧
    (guardsImportOf s r.policy ∈ (Resolver.ofRecord s r).imports ↔ ∃ op, r.policy.get op ≠ .everyone) ∧
    (PlainNames r → ∀ op, (∀ guard ∈ s.guards.guard (r.policy.get op), '\n' ∉ guard.toList) →
      guardLines (ResolverMethod.ofRecord s.guards r op).render =
        (s.guards.guard (r.policy.get op)).toList.map fun guard => ("  @UseGuards(" ++ guard ++ ")").toList) := by
  refine ⟨fun policy? => render_eq_textUnder s { r with policy? := policy? }, fun h op => guardLines_bodyOf h op,
    (usedGuards_increasing s.guards r.policy).imp bytesOf_lt, fun guard => ?_, decoratorImport_mem_iff s r,
    guardsImportOf_mem_iff s r, fun h op hguard => guardLines_render s.guards h hguard⟩
  rw [mem_usedGuards]
  constructor
  · rintro ⟨op, h⟩
    exact ⟨op, Operation.mem_all op, h⟩
  · rintro ⟨op, -, h⟩
    exact ⟨op, h⟩

/-- Settings in which users and administrators have the same guard. -/
def sessionSettings : Settings := { guards := { user := "SessionGuard", admin := "SessionGuard" } }

/-- A model that everyone may list, and editors may count. -/
def listedNote : Record :=
  { Record.ofFields "Note" [] with
    policy? := some { PerOperation.uniform .admin with readMany := .everyone, count := .role "editor", create := .user } }

private theorem plainNames_listedNote : PlainNames listedNote :=
  ⟨⟨by decide, by decide⟩, ⟨by decide, by decide⟩, ⟨by decide, by decide⟩⟩

/-- The text of a resolver with a guard that levels share and with a public operation, and the imports of a resolver that
is public as a whole. -/
theorem guards_of_resolver_listedNote :
    PlainNames listedNote ∧
    (∀ op, ∀ guard ∈ sessionSettings.guards.guard (listedNote.policy.get op), '\n' ∉ guard.toList) ∧
    (Resolver.ofRecord sessionSettings listedNote).render =
      "// Auto-generated CRUD resolver for Note\n" ++
      "import \x7b UseGuards \x7d from '@nestjs/common';\n" ++
      "import \x7b Args, Int, Mutation, Query, Resolver \x7d from '@nestjs/graphql';\n" ++
      "import \x7b AuthEditorGuard, SessionGuard \x7d from '../auth/guards';\n" ++
      "import \x7b Note, FindManyNoteArgs, FindUniqueNoteArgs, CreateOneNoteArgs, UpdateOneNoteArgs, DeleteOneNoteArgs \x7d " ++
      "from '../@generated';\n" ++
      "import \x7b NoteService \x7d from './note.service';\n" ++
      "\n@Resolver(() => Note)\nexport class NoteResolver \x7b\n" ++
      "  constructor(private readonly service: NoteService) \x7b\x7d\n" ++
      "\n  @Query(() => [Note])\n" ++
      "  notes(@Args() args: FindManyNoteArgs) \x7b\n    return this.service.notes(args);\n  \x7d\n" ++
      "\n  @UseGuards(AuthEditorGuard)\n  @Query(() => Int)\n" ++
      "  notesCount(@Args() args: FindManyNoteArgs) \x7b\n    return this.service.notesCount(args);\n  \x7d\n" ++
      "\n  @UseGuards(SessionGuard)\n  @Query(() => Note, \x7b nullable: true \x7d)\n" ++
      "  note(@Args() args: FindUniqueNoteArgs) \x7b\n    return this.service.note(args);\n  \x7d\n" ++
      "\n  @UseGuards(SessionGuard)\n  @Mutation(() => Note)\n" ++
      "  createNote(@Args() args: CreateOneNoteArgs) \x7b\n    return this.service.createNote(args);\n  \x7d\n" ++
      "\n  @UseGuards(SessionGuard)\n  @Mutation(() => Note)\n" ++
      "  updateNote(@Args() args: UpdateOneNoteArgs) \x7b\n    return this.service.updateNote(args);\n  \x7d\n" ++
      "\n  @UseGuards(SessionGuard)\n  @Mutation(() => Note)\n" ++
      "  deleteNote(@Args() args: DeleteOneNoteArgs) \x7b\n    return this.service.deleteNote(args);\n  \x7d\n" ++
      "\x7d\n" ∧
    (∃ rest, (Resolver.ofRecord sessionSettings { listedNote with policy? := some (.uniform .everyone) }).render =
      "// Auto-generated CRUD resolver for Note\n" ++
      "import \x7b Args, Int, Mutation, Query, Resolver \x7d from '@nestjs/graphql';\n" ++
      "import \x7b Note, FindManyNoteArgs, FindUniqueNoteArgs, CreateOneNoteArgs, UpdateOneNoteArgs, DeleteOneNoteArgs \x7d " ++
      "from '../@generated';\n" ++
      "import \x7b NoteService \x7d from './note.service';\n" ++
      "\n@Resolver(() => Note)\nexport class NoteResolver \x7b\n" ++ rest) ∧
    (∀ op, guardLines (bodyOf listedNote op) = []) ∧
    ∀ op, guardLines (ResolverMethod.ofRecord sessionSettings.guards listedNote op).render =
      (sessionSettings.guards.guard (listedNote.policy.get op)).toList.map fun guard =>
        ("  @UseGuards(" ++ guard ++ ")").toList := by
  have hguards : ∀ op, ∀ guard ∈ sessionSettings.guards.guard (listedNote.policy.get op), '\n' ∉ guard.toList := by
    intro op
    cases op <;> decide
  obtain ⟨htext, hbodies, -, -, -, -, hblocks⟩ := guards_of_resolver sessionSettings listedNote
  refine ⟨plainNames_listedNote, hguards, ?_, ?_, hbodies plainNames_listedNote, fun op =>
    hblocks plainNames_listedNote op (hguards op)⟩
  · exact (htext listedNote.policy?).trans (by decide +kernel)
  · refine ⟨"  constructor(private readonly service: NoteService) \x7b\x7d\n" ++
      String.join (Operation.all.map fun op => "\n" ++ bodyOf listedNote op) ++ "\x7d\n", (htext _).trans ?_⟩
    decide +kernel

end GuardedCrud.Source
