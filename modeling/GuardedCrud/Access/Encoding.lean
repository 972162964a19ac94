import GuardedCrud.Access.Policy
import GuardedCrud.Json.Value

/-!
# Policies and overrides as JSON values

A level is a string.  A policy must give all six levels; overrides may leave keys out or set them to null.
-/

namespace GuardedCrud.Access

open GuardedCrud.Json

/-- A level written as a string. -/
def Level.ofJson? (v : Value) : Option Level := v.text?.map Level.ofText

/-- A level as a string. -/
def Level.toJson (l : Level) : Value := .string l.text

namespace PerOperation

/-- Six values, if the function gives all of them. -/
def ofFn? {α : Type} (f : Operation → Option α) : Option (PerOperation α) := do
  return {
    readMany := ← f .readMany
    count := ← f .count
    readOne := ← f .readOne
    create := ← f .create
    update := ← f .update
    delete := ← f .delete }

end PerOperation

/-- The keys of the operations in the order in which a list gives them. -/
def storedKeys : List String := Operation.stored.map Operation.key

/-- A policy from a value that gives every level. -/
def Policy.ofJson? (v : Value) : Option Policy :=
  (v.fields? storedKeys false).bind fun fields =>
    PerOperation.ofFn? fun op => required fields op.key Level.ofJson?

/-- A policy as an object. -/
def Policy.toJson (p : Policy) : Value :=
  .object (Operation.stored.map fun op => (op.key, (p.get op).toJson))

/-- Overrides from a value; `surplus` says whether a list may be longer than the six keys. -/
def Overrides.ofJson? (surplus : Bool) (v : Value) : Option Overrides :=
  (v.fields? storedKeys surplus).bind fun fields =>
    PerOperation.ofFn? fun op => optional fields op.key Level.ofJson?

/-- Overrides as an object with the keys that are set. -/
def Overrides.toJson (o : Overrides) : Value :=
  .object (Operation.stored.flatMap fun op => optionalMember op.key Level.toJson (o.get op))

end GuardedCrud.Access
