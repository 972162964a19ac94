import GuardedCrud.Record.Basic
import GuardedCrud.Settings.Basic
import GuardedCrud.Source.Classes

/-!
# The module and the index

The module provides the resolver and the service of every model, and the index exports the module and every
resolver.  Both follow the order of the models.
-/

namespace GuardedCrud.Source

/-- A module, part by part. -/
structure Module where
  className : String
  imports : List Import
  providers : List String
  deriving DecidableEq, Repr

namespace Module

/-- The module of some records. -/
def ofRecords (s : Settings) (rs : List Record) : Module where
  className := s.moduleName
  imports := ⟨["Module"], "@nestjs/common"⟩ :: rs.flatMap fun r =>
    [⟨[r.resolverClass], sibling r.resolverStem⟩, ⟨[r.serviceClass], sibling r.serviceStem⟩]
  providers := rs.flatMap fun r => [r.resolverClass, r.serviceClass]

/-- The text of a module. -/
def render (u : Module) : String :=
  "// Auto-generated CRUD module\n" ++
  String.join (u.imports.map Import.render) ++ "\n" ++
  "@Module(\x7b\n" ++
  "  providers: [\n" ++
  String.join (u.providers.map fun p => "    " ++ p ++ ",\n") ++
  "  ],\n" ++
  "\x7d)\n" ++
  "export class " ++ u.className ++ " \x7b\x7d\n"

end Module

/-- The specifiers that an index exports. -/
structure Index where
  exports : List String
  deriving DecidableEq, Repr

namespace Index

/-- File name of the index, without its extension. -/
def stem : String := "index"

/-- The index of some records: the module, then the resolvers. -/
def ofRecords (s : Settings) (rs : List Record) : Index where
  exports := sibling s.moduleFile :: rs.map fun r => sibling r.resolverStem

/-- The text of an index. -/
def render (u : Index) : String :=
  String.join (u.exports.map fun source => "export * from '" ++ source ++ "';\n")

end Index

end GuardedCrud.Source
