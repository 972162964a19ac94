import GuardedCrud.Access.Policy
import GuardedCrud.Naming.Word

/-!
# Guards

A guard is the class that checks a level when an operation is called.  Public operations have none, users and
administrators have one each, and the guard of a role is made of the role's name.
-/

namespace GuardedCrud.Access

/-- How guards are named. -/
structure Conventions where
  /-- Guard of signed-in users. -/
  user : String := "JwtAuthGuard"
  /-- Guard of administrators. -/
  admin : String := "AdminGuard"
  /-- What the guard of a role begins with. -/
  roleStart : String := "Auth"
  /-- What the guard of a role ends with. -/
  roleEnd : String := "Guard"
  deriving DecidableEq, Repr, Inhabited

namespace Conventions

/-- The guard of a level, if it has one. -/
def guard (c : Conventions) : Level → Option String
  | .everyone => none
  | .user => some c.user
  | .admin => some c.admin
  | .role name => some (c.roleStart ++ Naming.pascalCase name ++ c.roleEnd)

/-- The guard of the level that a text names; no text means administrators. -/
def guardOfText (c : Conventions) (text : Option String) : Option String :=
  c.guard ((text.map Level.ofText).getD .admin)

/-- The guard of every operation. -/
def guards (c : Conventions) (p : Policy) : PerOperation (Option String) :=
  PerOperation.ofFn fun op => c.guard (p.get op)

/-- A name put into an increasing list of names, unless it is there. -/
def insertName (name : String) : List String → List String
  | [] => [name]
  | other :: rest =>
    if name < other then name :: other :: rest
    else if name = other then other :: rest
    else other :: insertName name rest

/-- The guards that a policy uses, each once and in increasing order. -/
def usedGuards (c : Conventions) (p : Policy) : List String :=
  (Operation.all.filterMap fun op => c.guard (p.get op)).foldr insertName []

end Conventions

end GuardedCrud.Access
