import GuardedCrud.Record.Basic
import GuardedCrud.Settings.Basic

/-!
# The classes of a model

The service of a model has a method for each operation and passes it on to the model's delegate in the database client.
The resolver answers the six operations, each behind the guard of its level, and passes them on to the methods of the
service, which have the same names.  A public operation has no guard, and a resolver without guards imports none.
-/

namespace GuardedCrud.Source

open GuardedCrud.Access

/-! ### Imports -/

/-- Names imported from a module. -/
structure Import where
  names : List String
  source : String
  deriving DecidableEq, Repr

/-- The line of an import. -/
def Import.render (i : Import) : String :=
  "import \x7b " ++ ", ".intercalate i.names ++ " \x7d from '" ++ i.source ++ "';\n"

/-- The specifier of a file in the same directory. -/
def sibling (stem : String) : String := "./" ++ stem

/-! ### Services -/

/-- A method of a service. -/
structure ServiceMethod where
  name : String
  argumentsType : String
  /-- The delegate and what is called on it. -/
  call : String
  deriving DecidableEq, Repr

/-- A service, part by part. -/
structure Service where
  model : String
  className : String
  imports : List Import
  methods : List ServiceMethod
  deriving DecidableEq, Repr

/-- What an operation calls on the delegate of its model. -/
def clientCall : Operation → String
  | .readMany => "findMany(args)"
  | .count => "count(\x7b where: args.where \x7d)"
  | .readOne => "findUnique(args)"
  | .create => "create(args)"
  | .update => "update(args)"
  | .delete => "delete(args)"

namespace ServiceMethod

/-- The method of an operation.  The delegate has the model's name with its first letter in lower case. -/
def ofRecord (r : Record) (op : Operation) : ServiceMethod where
  name := r.operationName op
  argumentsType := r.argumentsType op
  call := Naming.lowerFirst r.name ++ "." ++ clientCall op

/-- The text of a method, after the blank line before it. -/
def render (m : ServiceMethod) : String :=
  "\n  " ++ m.name ++ "(args: " ++ m.argumentsType ++ ") \x7b\n" ++
  "    return this.prisma." ++ m.call ++ ";\n" ++
  "  \x7d\n"

end ServiceMethod

namespace Service

/-- The service of a record; every type is imported once. -/
def ofRecord (s : Settings) (r : Record) : Service where
  model := r.name
  className := r.serviceClass
  imports := [
    ⟨["Injectable"], "@nestjs/common"⟩,
    ⟨["PrismaService"], s.prismaImport⟩,
    ⟨(Operation.all.map r.argumentsType).eraseDups, s.typesImport⟩]
  methods := Operation.all.map (ServiceMethod.ofRecord r)

/-- The text of a service. -/
def render (u : Service) : String :=
  "// Auto-generated CRUD service for " ++ u.model ++ "\n" ++
  String.join (u.imports.map Import.render) ++ "\n" ++
  "@Injectable()\n" ++
  "export class " ++ u.className ++ " \x7b\n" ++
  "  constructor(private readonly prisma: PrismaService) \x7b\x7d\n" ++
  String.join (u.methods.map ServiceMethod.render) ++
  "\x7d\n"

end Service

/-! ### Resolvers -/

/-- A method of a resolver. -/
structure ResolverMethod where
  guard : Option String
  /-- The query or mutation that the method answers. -/
  decorator : String
  name : String
  argumentsType : String
  deriving DecidableEq, Repr

/-- A resolver, part by part. -/
structure Resolver where
  model : String
  className : String
  service : String
  imports : List Import
  methods : List ResolverMethod
  deriving DecidableEq, Repr

/-- The query or mutation of an operation on a model. -/
def operationDecorator (model : String) : Operation → String
  | .readMany => "@Query(() => [" ++ model ++ "])"
  | .count => "@Query(() => Int)"
  | .readOne => "@Query(() => " ++ model ++ ", \x7b nullable: true \x7d)"
  | .create | .update | .delete => "@Mutation(() => " ++ model ++ ")"

namespace ResolverMethod

/-- The method of an operation. -/
def ofRecord (c : Conventions) (r : Record) (op : Operation) : ResolverMethod where
  guard := c.guard (r.policy.get op)
  decorator := operationDecorator r.name op
  name := r.operationName op
  argumentsType := r.argumentsType op

/-- The line of the guard, if the method has one. -/
def guardLine (m : ResolverMethod) : String :=
  match m.guard with
  | some guard => "  @UseGuards(" ++ guard ++ ")\n"
  | none => ""

/-- The text of a method, after the blank line before it. -/
def render (m : ResolverMethod) : String :=
  "\n" ++ m.guardLine ++
  "  " ++ m.decorator ++ "\n" ++
  "  " ++ m.name ++ "(@Args() args: " ++ m.argumentsType ++ ") \x7b\n" ++
  "    return this.service." ++ m.name ++ "(args);\n" ++
  "  \x7d\n"

end ResolverMethod

namespace Resolver

/-- The imports of a resolver: guards only if it has some, and every type once. -/
def importsOf (s : Settings) (r : Record) : List Import :=
  let used := s.guards.usedGuards r.policy
  let whenGuarded (i : Import) : List Import := if used.isEmpty then [] else [i]
  whenGuarded ⟨["UseGuards"], "@nestjs/common"⟩ ++
  [⟨["Args", "Int", "Mutation", "Query", "Resolver"], "@nestjs/graphql"⟩] ++
  whenGuarded ⟨used, s.guardsImport⟩ ++
  [⟨(r.name :: Operation.all.map r.argumentsType).eraseDups, s.typesImport⟩,
    ⟨[r.serviceClass], sibling r.serviceStem⟩]

/-- The resolver of a record. -/
def ofRecord (s : Settings) (r : Record) : Resolver where
  model := r.name
  className := r.resolverClass
  service := r.serviceClass
  imports := importsOf s r
  methods := Operation.all.map (ResolverMethod.ofRecord s.guards r)

/-- The text of a resolver. -/
def render (u : Resolver) : String :=
  "// Auto-generated CRUD resolver for " ++ u.model ++ "\n" ++
  String.join (u.imports.map Import.render) ++ "\n" ++
  "@Resolver(() => " ++ u.model ++ ")\n" ++
  "export class " ++ u.className ++ " \x7b\n" ++
  "  constructor(private readonly service: " ++ u.service ++ ") \x7b\x7d\n" ++
  String.join (u.methods.map ResolverMethod.render) ++
  "\x7d\n"

end Resolver

end GuardedCrud.Source
