import GuardedCrud.Access.Guard

/-!
# Settings

What can be configured: names of the generated module, where imports come from, how guards are named and the policy
that annotations are merged over.
-/

namespace GuardedCrud

open GuardedCrud.Access

/-- Extension of the generated files. -/
def sourceExtension : String := "ts"

/-- The settings of the generator. -/
structure Settings where
  /-- Class of the module. -/
  moduleName : String := "CrudModule"
  /-- File name of the module, without its extension. -/
  moduleFile : String := "crud.module"
  /-- Where guards are imported from. -/
  guardsImport : String := "../auth/guards"
  /-- Where models and argument types are imported from. -/
  typesImport : String := "../@generated"
  /-- Where the database client is imported from. -/
  prismaImport : String := "../prisma/prisma.service"
  guards : Conventions := {}
  /-- Levels of operations without an annotation. -/
  defaultPolicy : Option Overrides := none
  deriving DecidableEq, Repr, Inhabited

namespace Settings

/-- Name of the settings file. -/
def defaultFile : String := "crudgen.toml"

/-- The policy that annotations are merged over. -/
def basePolicy (s : Settings) : Policy :=
  match s.defaultPolicy with
  | some o => Policy.adminOnly.merge o
  | none => .adminOnly

/-- The file of the module. -/
def modulePath (s : Settings) : String := s.moduleFile ++ "." ++ sourceExtension

end Settings

end GuardedCrud
