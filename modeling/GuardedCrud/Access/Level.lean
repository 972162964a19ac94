import GuardedCrud.Text.Basic

/-!
# The six operations on a model, and access levels

Every model gets six operations, always listed in the order of `Operation.all`.

A level says who may run an operation.  Three levels are well known and written in any ASCII case; every other
text names a role.
-/

namespace GuardedCrud.Access

open GuardedCrud.Text

/-- An operation on the records of a model. -/
inductive Operation
  | readMany
  | count
  | readOne
  | create
  | update
  | delete
  deriving DecidableEq, Repr

namespace Operation

/-- All operations, in the order in which sources list them. -/
def all : List Operation := [readMany, count, readOne, create, update, delete]

/-- The key of the operation in annotations and settings. -/
def key : Operation → String
  | readMany => "readMany"
  | count => "count"
  | readOne => "readOne"
  | create => "create"
  | update => "update"
  | delete => "delete"

/-- The operation writes data. -/
def isMutation : Operation → Bool
  | readMany | count | readOne => false
  | create | update | delete => true

/-- The operation of a key. -/
def ofKey? (key : String) : Option Operation := all.find? fun op => op.key == key

/-- The order in which a policy is stored and, where a list stands for a policy, read. -/
def stored : List Operation := [readOne, readMany, count, create, update, delete]

theorem mem_all (op : Operation) : op ∈ all := by cases op <;> simp [all]

end Operation

/-! ### Levels -/

/-- Who may run an operation. -/
inductive Level
  | everyone
  | user
  | admin
  | role (name : String)
  deriving DecidableEq, Repr

namespace Level

/-- Two texts are equal up to the case of ASCII letters. -/
def sameIgnoringCase (a b : List Char) : Bool := a.map Char.toLower == b.map Char.toLower

/-- The level that a text names.  Blanks around it do not count, and a blank text means `admin`. -/
def ofText (text : String) : Level :=
  let name := trim text.toList
  if name.isEmpty || sameIgnoringCase name "admin".toList then admin
  else if sameIgnoringCase name "public".toList then everyone
  else if sameIgnoringCase name "user".toList then user
  else role (String.ofList name)

/-- The text of a level. -/
def text : Level → String
  | everyone => "public"
  | user => "user"
  | admin => "admin"
  | role name => name

/-- Everyone may run the operation. -/
def isPublic : Level → Bool
  | everyone => true
  | _ => false

/-- The level is a role of the application's own. -/
def isRole : Level → Bool
  | role _ => true
  | _ => false

end Level

end GuardedCrud.Access
