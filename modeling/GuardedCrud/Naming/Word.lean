import GuardedCrud.Text.Basic
import GuardedCrud.Text.CaseMap
import GuardedCrud.Text.Numeric

/-!
# Words of an identifier and case styles

An identifier is cut into words at every character that is neither a letter nor a number, and inside the pieces
where the case changes: before the capital in `userProfile`, and before the last capital of `HTTPLog`.  Case
styles write the words again: `user-profile`, `UserProfile`, `userProfile`.
-/

namespace GuardedCrud.Naming

open GuardedCrud.Text

/-- The case of the last letter of a word that has a case. -/
inductive CaseMode
  | unset
  | lower
  | upper
  deriving DecidableEq, Repr

/-- The mode after one more character; uncased characters keep it. -/
def CaseMode.after (mode : CaseMode) (c : Char) : CaseMode :=
  if isLowercase c then .lower else if isUppercase c then .upper else mode

/-- Cut where the case changes.  An empty first word says that the word before it ends here. -/
def caseWords (mode : CaseMode) : List Char → List (List Char)
  | [] => []
  | [c] => [[c]]
  | c :: next :: rest =>
    if mode.after c = .lower ∧ isUppercase next then
      [c] :: caseWords .unset (next :: rest)
    else if mode = .upper ∧ isUppercase c ∧ isLowercase next then
      [] :: consFirst c (caseWords .unset (next :: rest))
    else
      consFirst c (caseWords (mode.after c) (next :: rest))

/-- The words of an identifier. -/
def words (cs : List Char) : List (List Char) :=
  (cs.splitOnP fun c => !isAlphanumeric c).flatMap (caseWords .unset)

/-- A word in lower case, letter by letter; a capital sigma at its end becomes `ς`. -/
def lowerWord : List Char → List Char
  | [] => []
  | ['Σ'] => ['ς']
  | c :: rest => lowerChar c ++ lowerWord rest

/-- A word with its first letter in upper case and the rest in lower case. -/
def capitalWord : List Char → List Char
  | [] => []
  | c :: rest => upperChar c ++ lowerWord rest

/-- `UserProfile` in kebab case is `user-profile`. -/
def kebabCase (s : String) : String :=
  String.ofList (['-'].intercalate ((words s.toList).map lowerWord))

/-- `content-editor` in Pascal case is `ContentEditor`. -/
def pascalCase (s : String) : String :=
  String.ofList ((words s.toList).flatMap capitalWord)

/-- `UserProfile` in camel case is `userProfile`. -/
def camelCase (s : String) : String :=
  String.ofList <| match words s.toList with
    | [] => []
    | first :: rest => lowerWord first ++ rest.flatMap capitalWord

/-- Only the first character goes to lower case: `HTTPLog` becomes `hTTPLog`. -/
def lowerFirst (s : String) : String :=
  String.ofList <| match s.toList with
    | [] => []
    | c :: rest => lowerChar c ++ rest

end GuardedCrud.Naming
