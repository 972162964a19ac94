import GuardedCrud.Source.FileSet

/-!
# The texts of the generated files

The lines of a generated file written out: its imports, the class with its constructor and the blocks of its methods, or
the providers and exports.  Every file is the text of its parts in this form (`Resolver.render_eq_text`,
`Service.render_eq_text`, `Module.render_eq_text`, `Index.render_eq_text`), so what the parts import, declare and call can
be found in the file.
-/

namespace GuardedCrud.Source

/-! ### Lines -/

/-- The line of an import. -/
def importLine (i : Import) : String := "import \x7b " ++ ", ".intercalate i.names ++ " \x7d from '" ++ i.source ++ "';\n"

/-- The lines of some imports. -/
def importLines (is : List Import) : String := String.join (is.map importLine)

/-- The line that opens an exported class, from the end of the line before it. -/
def opening (className : String) : String := "\n" ++ "export class " ++ className ++ " \x7b\n"

/-- What a caller knows of a method. -/
structure Signature where
  name : String
  argumentsType : String
  deriving DecidableEq, Repr

/-- The arguments of a method of a resolver and its call of the service. -/
def delegation (m : Signature) : String :=
  "(@Args() args: " ++ m.argumentsType ++ ") \x7b\n" ++ "    return this.service." ++ m.name ++ "(args);\n"

/-- The head of a method of a service. -/
def methodHead (m : Signature) : String := "\n  " ++ m.name ++ "(args: " ++ m.argumentsType ++ ") \x7b\n"

/-- The line that asks for a guard, if there is one. -/
def lineOfGuard : Option String → String
  | some guard => "  @UseGuards(" ++ guard ++ ")\n"
  | none => ""

/-- The line of a provider. -/
def providerLine (className : String) : String := "    " ++ className ++ ",\n"

/-- The line of an index that exports a file again. -/
def exportLine (source : String) : String := "export * from '" ++ source ++ "';\n"

/-! ### Methods -/

def ResolverMethod.signature (m : ResolverMethod) : Signature := ⟨m.name, m.argumentsType⟩

/-- The text of a method of a resolver from its decorator on. -/
def ResolverMethod.body (m : ResolverMethod) : String :=
  "  " ++ m.decorator ++ "\n" ++ "  " ++ m.name ++ delegation m.signature ++ "  \x7d\n"

/-- The text of a method of a resolver. -/
def ResolverMethod.block (m : ResolverMethod) : String := "\n" ++ lineOfGuard m.guard ++ m.body

theorem ResolverMethod.render_eq_block (m : ResolverMethod) : m.render = m.block := by
  have hline : m.guardLine = lineOfGuard m.guard := by
    unfold ResolverMethod.guardLine
    cases m.guard <;> rfl
  unfold ResolverMethod.render ResolverMethod.block ResolverMethod.body delegation ResolverMethod.signature
  rw [hline]
  simp only [String.append_assoc]

def ServiceMethod.signature (m : ServiceMethod) : Signature := ⟨m.name, m.argumentsType⟩

/-- The text of a method of a service. -/
def ServiceMethod.block (m : ServiceMethod) : String :=
  methodHead m.signature ++ "    return this.prisma." ++ m.call ++ ";\n" ++ "  \x7d\n"

theorem ServiceMethod.render_eq_block (m : ServiceMethod) : m.render = m.block := by
  unfold ServiceMethod.render ServiceMethod.block methodHead ServiceMethod.signature
  simp only [String.append_assoc]

/-! ### Files -/

private theorem join_render_imports (is : List Import) : String.join (is.map Import.render) = importLines is := rfl

/-- The text of a resolver. -/
def Resolver.text (u : Resolver) : String :=
  "// Auto-generated CRUD resolver for " ++ u.model ++ "\n" ++ importLines u.imports ++
  "\n@Resolver(() => " ++ u.model ++ ")" ++ opening u.className ++
  "  constructor(private readonly service: " ++ u.service ++ ") \x7b\x7d\n" ++
  String.join (u.methods.map ResolverMethod.block) ++ "\x7d\n"

theorem Resolver.render_eq_text (u : Resolver) : u.render = u.text := by
  have hdecorator : ("\n@Resolver(() => " : String) = "\n" ++ "@Resolver(() => " := by decide
  -- the line before the class ends where its opening begins
  have hline : (")\n" : String) = ")" ++ "\n" := by decide
  unfold Resolver.render Resolver.text opening
  rw [funext ResolverMethod.render_eq_block, join_render_imports, hdecorator, hline]
  simp only [String.append_assoc]

theorem Resolver.exists_text_eq (u : Resolver) : ∃ before rest, u.text = before ++ opening u.className ++ rest := by
  unfold Resolver.text
  rw [String.append_assoc, String.append_assoc, String.append_assoc, String.append_assoc]
  exact ⟨_, _, rfl⟩

/-- The text of a service. -/
def Service.text (u : Service) : String :=
  "// Auto-generated CRUD service for " ++ u.model ++ "\n" ++ importLines u.imports ++
  "\n@Injectable()" ++ opening u.className ++ "  constructor(private readonly prisma: PrismaService) \x7b\x7d\n" ++
  String.join (u.methods.map ServiceMethod.block) ++ "\x7d\n"

theorem Service.render_eq_text (u : Service) : u.render = u.text := by
  have hdecorator : ("\n@Injectable()" : String) = "\n" ++ "@Injectable()" := by decide
  have hline : ("@Injectable()\n" : String) = "@Injectable()" ++ "\n" := by decide
  unfold Service.render Service.text opening
  rw [funext ServiceMethod.render_eq_block, join_render_imports, hdecorator, hline]
  simp only [String.append_assoc]

theorem Service.exists_text_eq (u : Service) : ∃ before rest, u.text = before ++ opening u.className ++ rest := by
  unfold Service.text
  rw [String.append_assoc, String.append_assoc]
  exact ⟨_, _, rfl⟩

/-- The text of a module. -/
def Module.text (u : Module) : String :=
  "// Auto-generated CRUD module\n" ++ importLines u.imports ++ "\n@Module(\x7b\n  providers: [\n" ++
  String.join (u.providers.map providerLine) ++ "  ],\n\x7d)\nexport class " ++ u.className ++ " \x7b\x7d\n"

theorem Module.render_eq_text (u : Module) : u.render = u.text := by
  have hopen : ("\n@Module(\x7b\n  providers: [\n" : String) = "\n" ++ "@Module(\x7b\n" ++ "  providers: [\n" := by decide
  have hclose : ("  ],\n\x7d)\nexport class " : String) = "  ],\n" ++ "\x7d)\n" ++ "export class " := by decide
  unfold Module.render Module.text
  rw [join_render_imports, hopen, hclose]
  simp only [String.append_assoc]
  rfl

/-- The text of an index. -/
def Index.text (u : Index) : String := String.join (u.exports.map exportLine)

theorem Index.render_eq_text (u : Index) : u.render = u.text := rfl

end GuardedCrud.Source
