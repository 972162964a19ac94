import GuardedCrud.Access.Resolution
import GuardedCrud.Diagnostics
import GuardedCrud.Record.Basic
import GuardedCrud.Schema.Structure.Parser

/-!
# Records of a schema

The declared models become records once every type is looked up among the models and enums of the whole schema.
Models without fields are left out.  The reader of the schema text is a parameter; a text that it refuses has no
records, which is reported.  The records then get the policies that the lines of the text give them.
-/

namespace GuardedCrud

open GuardedCrud.Access GuardedCrud.Schema

/-- Reads the structure of a schema text. -/
abbrev SchemaReader := String → Except Fault Structure

/-- Functions in a default whose value the database produces. -/
def valueGenerators : List String := ["autoincrement", "cuid", "dbgenerated", "nanoid", "now", "ulid", "uuid"]

/-- A default calls a function that the database runs. -/
def isGeneratorCall (default : String) : Bool :=
  valueGenerators.any fun g => (g.toList ++ ['(']).isPrefixOf default.toList

/-- The name of a relation without a name of its own: both models in increasing order. -/
def defaultRelationName (a b : String) : String := if a ≤ b then a ++ "To" ++ b else b ++ "To" ++ a

/-- The elements of a named argument of an attribute; none without the attribute or the argument. -/
def namedElements (a : Option Attribute) (name : String) : List String :=
  match a.bind (·.named? name) with
  | some arg => arg.elements
  | none => []

/-- The relation of a field of the model, whose type is a model. -/
def Relation.ofDecl (model : String) (f : FieldDecl) : Relation :=
  let a := f.attribute? "relation"
  { name :=
      match a.bind fun a => (a.named? "name").or a.positional? with
      | some arg => arg.text
      | none => defaultRelationName model f.type
    fromFields := namedElements a "fields"
    toFields := namedElements a "references"
    onDelete := (a.bind (·.named? "onDelete")).map (·.value) }

/-- What a type refers to in a schema; a model hides an enum of the same name. -/
def FieldKind.ofType (s : Structure) (type : String) : FieldKind :=
  if s.models.any fun m => m.name == type then .object
  else if s.enums.contains type then .enum
  else .scalar

/-- The fields of a model that hold the key of a relation. -/
def foreignKeys (fields : List FieldDecl) : List String :=
  fields.flatMap fun f => namedElements (f.attribute? "relation") "fields"

/-- A declared field of the model with its type looked up. -/
def Field.ofDecl (s : Structure) (m : ModelDecl) (f : FieldDecl) : Field :=
  let kind := FieldKind.ofType s f.type
  let default := ((f.attribute? "default").bind (·.positional?)).map (·.value)
  { name := f.name
    type := f.type
    kind := kind
    isId := f.hasAttribute "id"
    isRequired := !f.isOptional && !f.isList
    isList := f.isList
    isUnique := f.hasAttribute "unique"
    isReadOnly := (foreignKeys m.fields).contains f.name
    isGenerated := default.any isGeneratorCall
    isUpdatedAt := f.hasAttribute "updatedAt"
    documentation := f.documentation
    default := default
    relation := if kind = .object then some (Relation.ofDecl m.name f) else none }

namespace Record

/-- The record of a declared model. -/
def ofDecl (s : Structure) (m : ModelDecl) : Record :=
  { ofFields m.name (m.fields.map (Field.ofDecl s m)) with documentation := m.documentation }

/-- The record of a declared model that has fields. -/
def ofDecl? (s : Structure) (m : ModelDecl) : Option Record :=
  if m.fields.isEmpty then none else some (ofDecl s m)

/-- The records of a schema, in the order of declaration. -/
def ofStructure (s : Structure) : List Record := s.models.filterMap (ofDecl? s)

/-- What is reported about a declared model when it is made a record. -/
def declEvent (s : Structure) (m : ModelDecl) : Event :=
  match ofDecl? s m with
  | none =>
    ⟨.warn, "model '" ++ m.name ++ "' (line " ++ Nat.repr m.line ++ ") declares no fields, skipping"⟩
  | some r =>
    ⟨.debug, "extracted model '" ++ r.name ++ "' (" ++ Nat.repr r.fields.length ++ " fields, primary field '" ++
      r.primaryField ++ "')"⟩

/-- What is reported when the records of a schema are made. -/
def structureEvents (s : Structure) : List Event := s.models.map (declEvent s)

/-- The records of a schema text, or why it cannot be read. -/
def ofText? (read : SchemaReader) (source : String) : Except Fault (List Record) := (read source).map ofStructure

/-- The records of a schema text; none of a text that cannot be read. -/
def ofText (read : SchemaReader) (source : String) : List Record :=
  match ofText? read source with
  | .ok rs => rs
  | .error _ => []

/-- The report of a schema that cannot be read. -/
def readFailure (fault : Fault) : Event := ⟨.error, "failed to parse schema: " ++ fault.message⟩

/-- What is reported when a schema text is made records and the reason of a failure is handed on. -/
def textEventsIfRead (read : SchemaReader) (source : String) : List Event :=
  match read source with
  | .error _ => []
  | .ok s => structureEvents s

/-- What is reported when a schema text is made records and a failure gives none. -/
def textEvents (read : SchemaReader) (source : String) : List Event :=
  match read source with
  | .error fault => [readFailure fault]
  | .ok s => structureEvents s

/-! ### Policies -/

/-- The record with the policy that a finding makes of a base policy. -/
def withFinding (base : Policy) (r : Record) (finding : Finding) : Record :=
  { r with policy? := some (finding.policy base) }

/-- The record with the policy that the schema text gives it over a base policy. -/
def withPolicy (base : Policy) (source : String) (r : Record) : Record :=
  r.withFinding base (.ofSource source r.name)

/-- Records with the policies that the schema text gives them.  The lines of the text are classified once. -/
def withPolicies (base : Policy) (source : String) (rs : List Record) : List Record :=
  let kinds := sourceKinds source
  rs.map fun r => r.withFinding base (.ofLines kinds r.name)

theorem withPolicies_eq_map (base : Policy) (source : String) (rs : List Record) :
    withPolicies base source rs = rs.map (withPolicy base source) := rfl

/-- What is reported when records get their policies. -/
def policyEvents (source : String) (rs : List Record) : List Event :=
  let kinds := sourceKinds source
  rs.flatMap fun r => (Finding.ofLines kinds r.name).events r.name ++ [⟨.debug, "resolved auth policy"⟩]

end Record

end GuardedCrud
