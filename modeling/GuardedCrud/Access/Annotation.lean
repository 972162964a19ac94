import GuardedCrud.Access.Encoding
import GuardedCrud.Json.Reader
import GuardedCrud.Text.Basic

/-!
# Annotations

A documentation line may carry overrides: a JSON object after the marker `@crudAuth:`.  The first marker counts,
and so does only the object itself, whatever follows it.
-/

namespace GuardedCrud.Access

open GuardedCrud.Text GuardedCrud.Json

/-- What introduces the overrides in a documentation line. -/
def marker : String := "@crudAuth:"

/-- The text after the first occurrence of another text. -/
def after? (mark : List Char) : List Char → Option (List Char)
  | [] => mark.isPrefixOf? []
  | c :: cs =>
    match mark.isPrefixOf? (c :: cs) with
    | some rest => some rest
    | none => after? mark cs

/-- The fragment that documentation lines carry: what follows the first marker, without the blanks around it. -/
def fragment? (docs : List String) : Option (List Char) :=
  docs.findSome? fun line => (after? marker.toList line.toList).map trim

/-- Why an annotation gives no overrides. -/
inductive AnnotationProblem
  /-- Nothing follows the marker. -/
  | empty
  /-- A JSON value other than an object follows. -/
  | notObject (fragment : String)
  /-- No JSON value follows, or the level of a key is not a string. -/
  | notOverrides
  deriving DecidableEq, Repr

/-- The wording of a problem.  What the JSON reader would say stands in it as a fixed mark. -/
def AnnotationProblem.message : AnnotationProblem → String
  | .empty => "empty annotation"
  | .notObject fragment => "expected a JSON object, got `" ++ fragment ++ "`"
  | .notOverrides => "<json error>"

/-- The overrides that a fragment writes. -/
def Overrides.ofFragment (fragment : List Char) : Except AnnotationProblem Overrides :=
  match skipBlanks fragment with
  | [] => .error .empty
  | cs =>
    match readLeading cs with
    | none => .error .notOverrides
    | some v =>
      if v.isObject then
        match Overrides.ofJson? false v with
        | some o => .ok o
        | none => .error .notOverrides
      else .error (.notObject (String.ofList fragment))

/-- A malformed annotation of a model. -/
structure AnnotationFault where
  model : String
  problem : AnnotationProblem
  deriving DecidableEq, Repr

/-- The wording of a fault. -/
def AnnotationFault.message (f : AnnotationFault) : String :=
  "model '" ++ f.model ++ "': malformed @crudAuth annotation: " ++ f.problem.message

/-- The overrides that the documentation lines of a model carry, if they have a marker. -/
def Overrides.ofDocs (model : String) (docs : List String) : Except AnnotationFault (Option Overrides) :=
  match fragment? docs with
  | none => .ok none
  | some fragment =>
    match Overrides.ofFragment fragment with
    | .ok o => .ok (some o)
    | .error problem => .error ⟨model, problem⟩

end GuardedCrud.Access
