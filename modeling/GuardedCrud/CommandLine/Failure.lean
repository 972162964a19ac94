import GuardedCrud.Generation
import GuardedCrud.Storage.Path

/-!
# Why a command fails
-/

namespace GuardedCrud.CommandLine

open GuardedCrud.Storage

/-- Why a command fails. -/
inductive Failure
  /-- The settings file is not TOML, or holds something else than settings. -/
  | settingsMalformed
  | storage (fault : StorageFault)
  | generation (fault : GenerationFault)
  /-- A directory without schema files. -/
  | noSchemaFiles (directory : String)
  | unlistable (directory : String) (cause : Cause)
  | schemaUnreadable (path : String) (cause : Cause)
  /-- A settings file that is not to be replaced. -/
  | settingsExist (path : String)
  deriving DecidableEq, Repr

namespace Failure

/-- Extension of schema files. -/
def schemaExtension : String := "prisma"

/-- The wording of a failure.  What the TOML reader would say stands in it as a fixed mark. -/
def message : Failure → String
  | settingsMalformed => "config error: <toml error>"
  | storage fault => fault.message
  | generation fault => fault.message
  | noSchemaFiles directory => "no ." ++ schemaExtension ++ " files found in " ++ directory
  | unlistable directory _ => "failed to list " ++ directory
  | schemaUnreadable path _ => "failed to read schema " ++ path
  | settingsExist path => path ++ " already exists (use --force to replace it)"

/-- What caused a failure, if something else did. -/
def cause? : Failure → Option Cause
  | storage fault => some fault.cause
  | unlistable _ cause | schemaUnreadable _ cause => some cause
  | _ => none

/-- What is printed about a failure.  The mark of the TOML reader ends the text. -/
def report (f : Failure) : String :=
  "Error: " ++ f.message ++
  match f with
  | settingsMalformed => ""
  | _ =>
    "\n" ++
    match f.cause? with
    | some cause => "\nCaused by:\n    " ++ cause.message ++ "\n"
    | none => ""

end Failure

end GuardedCrud.CommandLine
