import GuardedCrud.Text.Basic
import GuardedCrud.Text.Numeric

/-!
# Lines of a schema

A second view of a schema, line by line: which lines outside every block declare a model and which are
documentation.  The brace depth carried from line to line tells what is outside; braces in quoted texts and in
comments do not count.
-/

namespace GuardedCrud.Schema

open GuardedCrud.Text

/-- What a line of a schema is. -/
inductive LineKind
  /-- `model Name …` or `view Name …` outside every block. -/
  | declaration (name : String)
  /-- A `///` comment outside every block, without the blanks around its text. -/
  | documentation (text : String)
  | other
  deriving DecidableEq, Repr

/-- The name declared by a line that begins with a keyword. -/
def declaredName? (keyword : String) (line : List Char) : Option String :=
  match keyword.toList.isPrefixOf? line with
  | none => none
  | some rest =>
    if rest.head?.any isBlank then
      match (trimStart rest).takeWhile fun c => isAlphanumeric c || c == '_' with
      | [] => none
      | name => some (String.ofList name)
    else none

/-- What a line outside every block is. -/
def LineKind.ofOuterLine (line : List Char) : LineKind :=
  match trim line with
  | '/' :: '/' :: '/' :: text => .documentation (String.ofList (trim text))
  | trimmed =>
    match declaredName? "model" trimmed with
    | some name => .declaration name
    | none =>
      match declaredName? "view" trimmed with
      | some name => .declaration name
      | none => .other

/-- The brace depth after a line, inside or outside a quoted text.  A closing brace outside every block leaves the
depth at zero. -/
def scanDepth (inQuotes : Bool) (depth : Nat) : List Char → Nat
  | [] => depth
  | c :: rest =>
    if inQuotes then
      if c = '\\' then
        match rest with
        | [] => depth
        | _ :: rest => scanDepth true depth rest
      else scanDepth (c != '"') depth rest
    else if c = '/' ∧ rest.head? = some '/' then depth
    else if c = '"' then scanDepth true depth rest
    else if c = '\x7b' then scanDepth false (depth + 1) rest
    else if c = '\x7d' then scanDepth false (depth - 1) rest
    else scanDepth false depth rest

/-- The brace depth after a line that begins at a depth. -/
def depthAfter (depth : Nat) (line : List Char) : Nat := scanDepth false depth line

/-- The kind of a line that begins at a depth. -/
def LineKind.atDepth (depth : Nat) (line : List Char) : LineKind :=
  if depth = 0 then .ofOuterLine line else .other

/-- The kinds of lines, the first of which begins at a depth. -/
def lineKinds (depth : Nat) : List (List Char) → List LineKind
  | [] => []
  | line :: rest => .atDepth depth line :: lineKinds (depthAfter depth line) rest

/-- The documentation lines right before the first declaration of a model.  Every declaration takes the documentation
before it, so none carries over to a later model. -/
def attachedDocs (model : String) (pending : List String) : List LineKind → Option (List String)
  | [] => none
  | .declaration name :: rest => if name = model then some pending else attachedDocs model [] rest
  | .documentation text :: rest => attachedDocs model (pending ++ [text]) rest
  | .other :: rest => attachedDocs model pending rest

/-- The kinds of the lines of a schema text. -/
def sourceKinds (source : String) : List LineKind := lineKinds 0 (lines source.toList)

/-- The documentation lines of a model in a schema text; none if the text does not declare it. -/
def documentationOf (source model : String) : Option (List String) := attachedDocs model [] (sourceKinds source)

end GuardedCrud.Schema
