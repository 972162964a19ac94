import GuardedCrud.Access.Encoding
import GuardedCrud.Record.Basic

/-!
# Records as JSON values

Members that are unset, and empty lists of relation fields, are left out.
-/

namespace GuardedCrud

open GuardedCrud.Access GuardedCrud.Json

/-- The name of a kind. -/
def FieldKind.name : FieldKind → String
  | scalar => "scalar"
  | enum => "enum"
  | object => "object"

/-- The kind of a name. -/
def FieldKind.ofName? (name : String) : Option FieldKind :=
  [scalar, enum, object].find? fun k => k.name == name

/-- A kind written as its name, or as an object with the name as its only key and null as its value. -/
def FieldKind.ofJson? : Value → Option FieldKind
  | .string name => ofName? name
  | .object [(name, .null)] => ofName? name
  | _ => none

/-- A list of strings as a member, unless it is empty. -/
def textsMember (name : String) : List String → List (String × Value)
  | [] => []
  | ss => [(name, .array (ss.map .string))]

namespace Relation

/-- The members of a relation in order. -/
def keys : List String := ["name", "fromFields", "toFields", "onDelete"]

/-- A relation from a value. -/
def ofJson? (v : Value) : Option Relation := do
  let fields ← v.fields? keys false
  return {
    name := ← required fields "name" Value.text?
    fromFields := ← defaulted fields "fromFields" [] Value.texts?
    toFields := ← defaulted fields "toFields" [] Value.texts?
    onDelete := ← optional fields "onDelete" Value.text? }

/-- A relation as an object. -/
def toJson (r : Relation) : Value :=
  .object (
    [("name", .string r.name)] ++ textsMember "fromFields" r.fromFields ++ textsMember "toFields" r.toFields ++
    optionalMember "onDelete" .string r.onDelete)

end Relation

namespace Field

/-- The members of a field in order. -/
def keys : List String := [
  "name", "type", "kind", "isId", "isRequired", "isList", "isUnique", "isReadOnly", "isGenerated", "isUpdatedAt",
  "documentation", "default", "relation"]

/-- A field from a value. -/
def ofJson? (v : Value) : Option Field := do
  let fields ← v.fields? keys false
  return {
    name := ← required fields "name" Value.text?
    type := ← required fields "type" Value.text?
    kind := ← required fields "kind" FieldKind.ofJson?
    isId := ← required fields "isId" Value.bool?
    isRequired := ← required fields "isRequired" Value.bool?
    isList := ← required fields "isList" Value.bool?
    isUnique := ← required fields "isUnique" Value.bool?
    isReadOnly := ← required fields "isReadOnly" Value.bool?
    isGenerated := ← required fields "isGenerated" Value.bool?
    isUpdatedAt := ← required fields "isUpdatedAt" Value.bool?
    documentation := ← optional fields "documentation" Value.text?
    default := ← optional fields "default" Value.text?
    relation := ← optional fields "relation" Relation.ofJson? }

/-- A field as an object. -/
def toJson (f : Field) : Value :=
  .object (
    [("name", .string f.name), ("type", .string f.type), ("kind", .string f.kind.name), ("isId", .bool f.isId),
      ("isRequired", .bool f.isRequired), ("isList", .bool f.isList), ("isUnique", .bool f.isUnique),
      ("isReadOnly", .bool f.isReadOnly), ("isGenerated", .bool f.isGenerated),
      ("isUpdatedAt", .bool f.isUpdatedAt)] ++
    optionalMember "documentation" .string f.documentation ++ optionalMember "default" .string f.default ++
    optionalMember "relation" Relation.toJson f.relation)

end Field

namespace Record

/-- The members of a record in order. -/
def keys : List String := [
  "name", "pluralName", "modelPropertyName", "pluralModelPropertyName", "fields", "primaryField", "documentation",
  "auth"]

/-- A record from a value. -/
def ofJson? (v : Value) : Option Record := do
  let fields ← v.fields? keys false
  return {
    name := ← required fields "name" Value.text?
    pluralName := ← required fields "pluralName" Value.text?
    propertyName := ← required fields "modelPropertyName" Value.text?
    pluralPropertyName := ← required fields "pluralModelPropertyName" Value.text?
    fields := ← required fields "fields" fun v => v.items?.bind (List.mapM Field.ofJson?)
    primaryField := ← required fields "primaryField" Value.text?
    documentation := ← optional fields "documentation" Value.text?
    policy? := ← optional fields "auth" Policy.ofJson? }

/-- The members of a record. -/
def members (r : Record) : List (String × Value) :=
  [("name", .string r.name), ("pluralName", .string r.pluralName), ("modelPropertyName", .string r.propertyName),
    ("pluralModelPropertyName", .string r.pluralPropertyName), ("fields", .array (r.fields.map Field.toJson)),
    ("primaryField", .string r.primaryField)] ++
  optionalMember "documentation" .string r.documentation ++ optionalMember "auth" Policy.toJson r.policy?

/-- A record as an object. -/
def toJson (r : Record) : Value := .object r.members

end Record

end GuardedCrud
