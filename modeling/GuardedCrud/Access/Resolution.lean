import GuardedCrud.Access.Annotation
import GuardedCrud.Diagnostics
import GuardedCrud.Schema.Line

/-!
# The policy of a model

The annotation in a model's documentation is merged over a base policy.  A model that is not declared, has no
annotation or a malformed one keeps the base policy, so a mistake never opens an operation.
-/

namespace GuardedCrud.Access

open GuardedCrud.Schema

/-- What the schema text says about the policy of a model. -/
inductive Finding
  /-- The text does not declare the model. -/
  | undeclared
  /-- The documentation has no annotation. -/
  | unannotated
  | annotated (o : Overrides)
  | malformed (fault : AnnotationFault)
  deriving DecidableEq, Repr

/-- What the documentation of a model says, if the model is declared. -/
def Finding.ofDocs? (model : String) : Option (List String) → Finding
  | none => .undeclared
  | some docs =>
    match Overrides.ofDocs model docs with
    | .ok none => .unannotated
    | .ok (some o) => .annotated o
    | .error fault => .malformed fault

/-- Look up the annotation of a model among the lines of a schema text. -/
def Finding.ofLines (kinds : List LineKind) (model : String) : Finding :=
  .ofDocs? model (attachedDocs model [] kinds)

/-- Look up the annotation of a model in a schema text. -/
def Finding.ofSource (source model : String) : Finding := .ofLines (sourceKinds source) model

/-- The policy that a finding makes of the base policy. -/
def Finding.policy (base : Policy) : Finding → Policy
  | annotated o => base.merge o
  | _ => base

/-- What is reported about a finding. -/
def Finding.events (model : String) : Finding → List Event
  | undeclared =>
    [⟨.debug, "model '" ++ model ++ "' not declared in schema text, using default policy"⟩]
  | malformed fault => [⟨.warn, fault.message ++ "; using default policy"⟩]
  | _ => []

/-- The policy of a model over a base policy. -/
def resolvePolicy (base : Policy) (source model : String) : Policy :=
  (Finding.ofSource source model).policy base

/-- What is reported when the policy of a model is resolved. -/
def resolveEvents (source model : String) : List Event := (Finding.ofSource source model).events model

end GuardedCrud.Access
