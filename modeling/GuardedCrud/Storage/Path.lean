/-!
# Paths, and why storage refuses

A path is a text of components between slashes.  A path that begins with a slash starts at the root, any other at the
working directory.
-/

namespace GuardedCrud.Storage

/-- Why storage refuses an access. -/
inductive Cause
  | noEntry
  | exists
  | notDirectory
  | isDirectory
  | noSpace
  /-- A path or one of its steps has too many bytes. -/
  | nameTooLong
  /-- A path holds the character that ends paths. -/
  | nullInPath
  /-- The content is not UTF-8. -/
  | notText
  /-- Anything else that the system says. -/
  | other (message : String)
  deriving DecidableEq, Repr

/-- The wording of a cause. -/
def Cause.message : Cause → String
  | noEntry => "No such file or directory (os error 2)"
  | .exists => "File exists (os error 17)"
  | notDirectory => "Not a directory (os error 20)"
  | isDirectory => "Is a directory (os error 21)"
  | noSpace => "No space left on device (os error 28)"
  | nameTooLong => "File name too long (os error 36)"
  | nullInPath => "file name contained an unexpected NUL byte"
  | notText => "stream did not contain valid UTF-8"
  | other message => message

/-- A refused access to a path. -/
structure StorageFault where
  path : String
  cause : Cause
  deriving DecidableEq, Repr

/-- The wording of a fault. -/
def StorageFault.message (f : StorageFault) : String := "io error on " ++ f.path ++ ": " ++ f.cause.message

end GuardedCrud.Storage

namespace GuardedCrud.Storage.Path

/-- What stands between the slashes of a text. -/
def segments (cs : List Char) : List String := (cs.splitOn '/').map String.ofList

/-- The path starts at the root. -/
def isAbsolute (path : String) : Bool := path.toList.head? == some '/'

/-- The path ends in a slash, and so can only be a directory. -/
def endsInSlash (path : String) : Bool := path.toList.getLast? == some '/'

/-- The steps of a path. -/
def components (path : String) : List String := (segments path.toList).filter fun s => s != ""

/-- How many bytes a step of a path may have. -/
def longestStep : Nat := 255

/-- How many bytes a path may have. -/
def longestPath : Nat := 4095

/-- Why a path leads nowhere, whatever the file system holds. -/
def refusal? (path : String) : Option Cause :=
  if path.toList.contains '\x00' then some .nullInPath
  else if path = "" then some .noEntry
  else if longestPath < path.utf8ByteSize then some .nameTooLong
  else none

/-- A path below another one.  An absolute path stays as it is. -/
def join (base path : String) : String :=
  if isAbsolute path || base == "" || endsInSlash base then
    if isAbsolute path then path else base ++ path
  else base ++ "/" ++ path

/-- The second path is longer than the first one, and no longer than paths may be. -/
def leadsOn (path below : String) : Bool :=
  path.utf8ByteSize < below.utf8ByteSize && below.utf8ByteSize ≤ longestPath

theorem leadsOn_iff {path below : String} :
    leadsOn path below = true ↔ path.utf8ByteSize < below.utf8ByteSize ∧ below.utf8ByteSize ≤ longestPath := by
  simp [leadsOn]

/-- What a path begins with before its steps: the root, the working directory written as a point, or nothing. -/
def start (cs : List Char) : String × List Char :=
  match cs with
  | '/' :: rest => ("/", rest)
  | '.' :: rest => if rest = [] ∨ rest.head? = some '/' then (".", rest) else ("", cs)
  | _ => ("", cs)

/-- A segment that is no step of its own. -/
def isIdle (segment : String) : Bool := segment == "" || segment == "."

/-- The paths that end with each of the segments, given last first. -/
def ancestorsFrom (base : String) : List String → List String
  | [] => []
  | s :: rest =>
    if isIdle s then ancestorsFrom base rest
    else (base ++ "/".intercalate (s :: rest).reverse) :: ancestorsFrom base rest

/-- The path and the directories above it that it names, nearest first. -/
def ancestors (path : String) : List String :=
  let (base, rest) := start path.toList
  ancestorsFrom base (segments rest).reverse ++ if base = "" then [] else [base]

/-- The directory that a path lies in, as the path names it; the root and the empty path have none. -/
def parent? (path : String) : Option String :=
  match ancestors path with
  | [] => none
  | [top] => if top = "/" then none else some ""
  | _ :: parent :: _ => some parent

/-- The file name has an extension: it ends with a point and the extension, and something stands before the point. -/
def hasExtension (extension name : String) : Bool :=
  let ending := '.' :: extension.toList
  ending.isSuffixOf name.toList && ending.length < name.toList.length

/-- Lists of components in the order of paths: component by component, and a path before those below it. -/
def le : List String → List String → Bool
  | [], _ => true
  | _ :: _, [] => false
  | a :: as, b :: bs => decide (a < b) || (a == b && le as bs)

end GuardedCrud.Storage.Path
