import GuardedCrud.Schema.Token
import GuardedCrud.Text.Basic

/-!
# The structure of a schema

What a schema text declares, before types are looked up: models with their fields and attributes, and the names of
the enums.
-/

namespace GuardedCrud.Schema

open GuardedCrud.Text

/-- An argument of an attribute; its value is written out from its tokens. -/
structure Argument where
  name : Option String
  value : String
  deriving DecidableEq, Repr

/-- An attribute such as `@relation("Author", fields: [authorId])`, named without its `@`. -/
structure Attribute where
  name : String
  args : List Argument
  deriving DecidableEq, Repr

/-- A declared field. -/
structure FieldDecl where
  name : String
  type : String
  /-- The modifier `?`. -/
  isOptional : Bool
  /-- The modifier `[]`. -/
  isList : Bool
  attributes : List Attribute
  documentation : Option String
  deriving DecidableEq, Repr

/-- A declared model or view, with the line of its keyword. -/
structure ModelDecl where
  name : String
  line : Nat
  documentation : Option String
  fields : List FieldDecl
  deriving DecidableEq, Repr

/-- The models and enums of a schema, in the order in which they stand. -/
structure Structure where
  models : List ModelDecl
  enums : List String
  deriving DecidableEq, Repr, Inhabited

/-- The text without a first and a last character, if it has both, one after the other. -/
def unwrap (first last : Char) (cs : List Char) : List Char :=
  match cs with
  | [] => []
  | c :: rest => if c = first ∧ rest.getLast? = some last then rest.dropLast else cs

namespace Argument

/-- The value without the quotes around it. -/
def text (a : Argument) : String := String.ofList (unwrap '"' '"' a.value.toList)

/-- The elements of a value `[a, b]`; any other value is a list of one element. -/
def elements (a : Argument) : List String :=
  ((((unwrap '[' ']' a.value.toList).splitOn ',').map trim).filter fun cs => !cs.isEmpty).map String.ofList

end Argument

namespace Attribute

/-- The first argument of a name. -/
def named? (a : Attribute) (name : String) : Option Argument := a.args.find? fun x => x.name == some name

/-- The first argument without a name. -/
def positional? (a : Attribute) : Option Argument := a.args.find? fun x => x.name.isNone

end Attribute

namespace FieldDecl

/-- The first attribute of a name. -/
def attribute? (f : FieldDecl) (name : String) : Option Attribute := f.attributes.find? fun a => a.name == name

/-- The field has an attribute of a name. -/
def hasAttribute (f : FieldDecl) (name : String) : Bool := (f.attribute? name).isSome

end FieldDecl

/-- Tokens written out as the value of an argument: marks without blanks, except one after a comma or a colon. -/
def spell (tokens : List Token) : String :=
  String.join <| tokens.map fun
    | .ident s | .number s => s
    | .quoted s => "\"" ++ s ++ "\""
    | .doc _ => ""
    | .mark .comma => ", "
    | .mark .colon => ": "
    | t => t.symbol

/-- The argument that tokens write: a name and a colon in front of the value name it. -/
def Argument.ofTokens : List Token → Argument
  | .ident name :: .mark .colon :: value => ⟨some name, spell value⟩
  | tokens => ⟨none, spell tokens⟩

/-- Documentation comments joined to one text, if there are any. -/
def joinDocs : List String → Option String
  | [] => none
  | docs => some ("\n".intercalate docs)

end GuardedCrud.Schema
