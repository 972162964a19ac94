import GuardedCrud.Schema.Token

/-!
# Faults of a schema text, and events

Why a text is not a schema, and what the generator reports while it works, apart from its results.
-/

namespace GuardedCrud.Schema

/-- Why a schema cannot be read. -/
inductive Fault
  /-- A character that begins no token. -/
  | unexpectedChar (line : Nat) (c : Char)
  /-- A quoted text that its line does not close. -/
  | unterminatedText (line : Nat)
  /-- A token where another was expected. -/
  | unexpected (line : Nat) (found : Token) (expected : String)
  /-- A field name without a type after it. -/
  | missingType (line : Nat) (field : String)
  /-- A block without its closing brace. -/
  | unterminatedBlock (line : Nat) (name : String)
  /-- The schema ends where more was expected. -/
  | unexpectedEnd (expected : String)
  deriving DecidableEq, Repr

/-- What a message about a line begins with. -/
private def atLine (line : Nat) : String := "line " ++ Nat.repr line ++ ": "

/-- The wording of a fault. -/
def Fault.message : Fault → String
  | .unexpectedChar line c => atLine line ++ "unexpected character '" ++ String.singleton c ++ "'"
  | .unterminatedText line => atLine line ++ "unterminated string literal"
  | .unexpected line found expected =>
    atLine line ++ "unexpected " ++ found.describe ++ ", expected " ++ expected
  | .missingType line field => atLine line ++ "field '" ++ field ++ "' has no type"
  | .unterminatedBlock line name => atLine line ++ "block '" ++ name ++ "' is never closed"
  | .unexpectedEnd expected => "unexpected end of schema, expected " ++ expected

end GuardedCrud.Schema

namespace GuardedCrud

/-- How much an event matters. -/
inductive Severity
  | error
  | warn
  | info
  | debug
  deriving DecidableEq, Repr

/-- The name of a severity. -/
def Severity.name : Severity → String
  | error => "error"
  | warn => "warn"
  | info => "info"
  | debug => "debug"

/-- A message and how much it matters. -/
structure Event where
  severity : Severity
  message : String
  deriving DecidableEq, Repr

end GuardedCrud
