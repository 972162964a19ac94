import GuardedCrud.Access.Policy
import GuardedCrud.Naming.Plural

/-!
# Model records

A record is a model with everything that its sources are made of: its names in singular and plural, its fields
with their types looked up, its primary field and its policy.
-/

namespace GuardedCrud

open GuardedCrud.Access

/-- What the type of a field refers to. -/
inductive FieldKind
  | scalar
  | enum
  /-- Another model: the field is a relation. -/
  | object
  deriving DecidableEq, Repr

/-- How a relation field is joined to its target. -/
structure Relation where
  name : String
  /-- Fields of this model that hold the key. -/
  fromFields : List String
  /-- Fields of the target that the key refers to. -/
  toFields : List String
  /-- What happens when the target is deleted. -/
  onDelete : Option String
  deriving DecidableEq, Repr

/-- A field of a record. -/
structure Field where
  name : String
  type : String
  kind : FieldKind := .scalar
  isId : Bool := false
  /-- Neither optional nor a list. -/
  isRequired : Bool := true
  isList : Bool := false
  isUnique : Bool := false
  /-- Written through a relation field of the same model. -/
  isReadOnly : Bool := false
  /-- The database produces its value. -/
  isGenerated : Bool := false
  isUpdatedAt : Bool := false
  documentation : Option String := none
  /-- The default as written. -/
  default : Option String := none
  relation : Option Relation := none
  deriving DecidableEq, Repr

/-- The field holds a string. -/
def Field.isText (f : Field) : Bool := f.kind = .scalar && f.type == "String"

/-- A model with its derived names. -/
structure Record where
  name : String
  pluralName : String
  /-- The name in camel case. -/
  propertyName : String
  /-- The plural in camel case. -/
  pluralPropertyName : String
  fields : List Field
  /-- The field to show a record by. -/
  primaryField : String
  documentation : Option String
  policy? : Option Policy
  deriving DecidableEq, Repr

namespace Record

/-- The first string field that is not an id, else `name`. -/
def primaryFieldOf (fields : List Field) : String :=
  match fields.find? fun f => !f.isId && f.isText with
  | some f => f.name
  | none => "name"

/-- The record of a name and its fields, without documentation and policy. -/
def ofFields (name : String) (fields : List Field) : Record where
  name := name
  pluralName := Naming.plural name
  propertyName := Naming.camelCase name
  pluralPropertyName := Naming.camelCase (Naming.plural name)
  fields := fields
  primaryField := primaryFieldOf fields
  documentation := none
  policy? := none

/-- The policy of the record; without one every operation is for administrators. -/
def policy (r : Record) : Policy := r.policy?.getD .adminOnly

/-- The name in kebab case, on which the file names are built. -/
def kebabName (r : Record) : String := Naming.kebabCase r.name

/-- The name of an operation in the generated sources. -/
def operationName (r : Record) : Operation → String
  | .readMany => r.pluralPropertyName
  | .count => r.pluralPropertyName ++ "Count"
  | .readOne => r.propertyName
  | .create => "create" ++ r.name
  | .update => "update" ++ r.name
  | .delete => "delete" ++ r.name

/-- The type of the arguments of an operation. -/
def argumentsType (r : Record) : Operation → String
  | .readMany | .count => "FindMany" ++ r.name ++ "Args"
  | .readOne => "FindUnique" ++ r.name ++ "Args"
  | .create => "CreateOne" ++ r.name ++ "Args"
  | .update => "UpdateOne" ++ r.name ++ "Args"
  | .delete => "DeleteOne" ++ r.name ++ "Args"

/-- The class of the resolver. -/
def resolverClass (r : Record) : String := r.name ++ "Resolver"

/-- The class of the service. -/
def serviceClass (r : Record) : String := r.name ++ "Service"

/-- The file name of the resolver, without its extension. -/
def resolverStem (r : Record) : String := r.kebabName ++ ".resolver"

/-- The file name of the service, without its extension. -/
def serviceStem (r : Record) : String := r.kebabName ++ ".service"

end Record

end GuardedCrud
