import GuardedCrud.Record.Extraction
import GuardedCrud.Source.FileSet
import GuardedCrud.Text.Basic

/-!
# From schema text to generated files

A schema gives records with their policies, or one reason why nothing can be generated; files are generated only if
every step succeeds.  The reader of the schema text is a parameter.
-/

namespace GuardedCrud

open GuardedCrud.Schema GuardedCrud.Source

/-- Why nothing is generated. -/
inductive GenerationFault
  /-- The text is blank or is no schema. -/
  | schemaUnreadable (reason : String)
  /-- No model of the schema has fields. -/
  | nothingToGenerate
  /-- Two models have the same files. -/
  | nameCollision (stem first second : String)
  deriving DecidableEq, Repr

/-- The wording of a fault. -/
def GenerationFault.message : GenerationFault → String
  | schemaUnreadable reason => "schema is unreadable: " ++ reason
  | nothingToGenerate => "schema declares no models to generate"
  | nameCollision stem first second =>
    "models '" ++ first ++ "' and '" ++ second ++ "' both generate '" ++ stem ++ "' files"

/-- Two models that share a kebab name. -/
structure Collision where
  stem : String
  first : String
  second : String
  deriving DecidableEq, Repr

/-- The first record whose kebab name was seen before, in the records or in the list of names with their models. -/
def findCollision (seen : List (String × String)) : List Record → Option Collision
  | [] => none
  | r :: rs =>
    match seen.lookup r.kebabName with
    | some first => some ⟨r.kebabName, first, r.name⟩
    | none => findCollision ((r.kebabName, r.name) :: seen) rs

/-- The text holds nothing but blanks. -/
def isBlankText (source : String) : Bool := (Text.trim source.toList).isEmpty

/-- The records of a schema text without their policies, if they can be generated from. -/
def rawModels (read : SchemaReader) (source : String) : Except GenerationFault (List Record) :=
  if isBlankText source then .error (.schemaUnreadable "schema text is empty")
  else
    match Record.ofText? read source with
    | .error fault => .error (.schemaUnreadable fault.message)
    | .ok rs =>
      if rs.isEmpty then .error .nothingToGenerate
      else
        match findCollision [] rs with
        | some c => .error (.nameCollision c.stem c.first c.second)
        | none => .ok rs

/-- The records of a schema text with their policies. -/
def models (s : Settings) (read : SchemaReader) (source : String) : Except GenerationFault (List Record) :=
  match rawModels read source with
  | .error fault => .error fault
  | .ok rs => .ok (Record.withPolicies s.basePolicy source rs)

/-- All files generated from a schema text. -/
def generate (s : Settings) (read : SchemaReader) (source : String) : Except GenerationFault FileSet :=
  match models s read source with
  | .error fault => .error fault
  | .ok rs => .ok (FileSet.ofRecords s rs)

/-- What is reported when the models of a schema text are made. -/
def modelEvents (read : SchemaReader) (source : String) : List Event :=
  if isBlankText source then []
  else
    Record.textEvents read source ++
    match Record.ofText read source with
    | [] => []
    | r :: rs =>
      match findCollision [] (r :: rs) with
      | some c =>
        [⟨.warn, "models '" ++ c.first ++ "' and '" ++ c.second ++ "' both map to '" ++ c.stem ++ "'"⟩]
      | none =>
        Record.policyEvents source (r :: rs) ++ [⟨.info, Nat.repr (r :: rs).length ++ " model(s) extracted"⟩]

/-- What is reported when the files of a schema text are generated. -/
def generationEvents (s : Settings) (read : SchemaReader) (source : String) : List Event :=
  modelEvents read source ++
  match models s read source with
  | .error _ => []
  | .ok rs => FileSet.events s rs

end GuardedCrud
