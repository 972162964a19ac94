import GuardedCrud.Diagnostics
import GuardedCrud.Source.Classes
import GuardedCrud.Source.Module

/-!
# The generated files

Resolvers of all models come first, then their services, then the module and the index.
-/

namespace GuardedCrud.Source

/-- A generated file, with its path below the output directory. -/
structure SourceFile where
  path : String
  content : String
  deriving DecidableEq, Repr

/-- Generated files in order; paths may repeat. -/
abbrev FileSet := List SourceFile

/-- The first file of a path. -/
def FileSet.get? (files : FileSet) (path : String) : Option SourceFile := files.find? fun f => f.path == path

/-- What is generated. -/
inductive Target
  | resolver
  | service
  | module
  deriving DecidableEq, Repr

namespace Target

/-- All targets, in the order in which they are generated. -/
def all : List Target := [resolver, service, module]

/-- The name of a target in reports. -/
def name : Target → String
  | resolver => "nestjs-resolver"
  | service => "nestjs-service"
  | module => "nestjs-module"

/-- The files of a target. -/
def files (s : Settings) (rs : List Record) : Target → FileSet
  | resolver => rs.map fun r =>
    ⟨r.resolverStem ++ "." ++ sourceExtension, (Resolver.ofRecord s r).render⟩
  | service => rs.map fun r =>
    ⟨r.serviceStem ++ "." ++ sourceExtension, (Service.ofRecord s r).render⟩
  | module => [
    ⟨s.modulePath, (Module.ofRecords s rs).render⟩,
    ⟨Index.stem ++ "." ++ sourceExtension, (Index.ofRecords s rs).render⟩]

/-- What is reported about the files of a target. -/
def event (s : Settings) (rs : List Record) (t : Target) : Event :=
  ⟨.debug, t.name ++ ": " ++ Nat.repr (t.files s rs).length ++ " file(s)"⟩

end Target

/-- All files generated for some records. -/
def FileSet.ofRecords (s : Settings) (rs : List Record) : FileSet := Target.all.flatMap (Target.files s rs)

/-- What is reported when the files are generated. -/
def FileSet.events (s : Settings) (rs : List Record) : List Event := Target.all.map (Target.event s rs)

end GuardedCrud.Source
