import GuardedCrud.CommandLine.Run

/-!
# The program

The file system of the machine, and the entry point, which prints what a run gives.
-/

namespace GuardedCrud.Program

open GuardedCrud.Storage GuardedCrud.CommandLine

/-- The number of a system error, which some accesses report as its negative. -/
def errorNumber (code : UInt32) : UInt32 := if code < 0x80000000 then code else 0 - code

/-- The cause that a system error stands for. -/
def causeOf (e : IO.Error) : Cause :=
  match e with
  | .noFileOrDirectory .. | .noSuchThing .. => .noEntry
  | .alreadyExists .. => .exists
  | .inappropriateType _ code _ =>
    if errorNumber code = 20 then .notDirectory
    else if errorNumber code = 21 then .isDirectory
    else .other (toString e)
  | .resourceExhausted _ code _ => if errorNumber code = 28 then .noSpace else .other (toString e)
  | .invalidArgument _ code details =>
    if errorNumber code = 36 then .nameTooLong
    else if details = "string contains NUL bytes" then .nullInPath
    else .other (toString e)
  | e => .other (toString e)

/-- An access to the machine, with its error as a cause. -/
def access {α : Type} (act : IO α) : IO (Except Cause α) := do
  match ← act.toBaseIO with
  | .ok a => return .ok a
  | .error e => return .error (causeOf e)

/-- The access succeeds. -/
def succeeds {α : Type} (act : IO α) : IO Bool := do return (← access act).toOption.isSome

/-- The path leads to a directory: a step to itself can be taken from it. -/
def isDirectory (path : String) : IO Bool := succeeds (IO.FS.realPath (Path.join path "."))

/-- The content of a file as text. -/
def readText (path : String) : IO (Except Cause String) := do
  match ← access (IO.FS.readBinFile path) with
  | .error c => return .error c
  | .ok content =>
    match String.fromUTF8? content with
    | some text => return .ok text
    | none => return .error .notText

/-- The names of what is in a directory. -/
def entryNames (path : String) : IO (List String) := do
  let place ← IO.FS.realPath path
  return (← place.readDir).toList.map (·.fileName)

/-- Make a directory and what is missing above it, given with the directories above it. -/
def makeDirectories : List String → IO (Except Cause Unit)
  | [] => return .ok ()
  | path :: above => do
    match ← access (IO.FS.createDir path) with
    | .ok () => return .ok ()
    | .error .noEntry =>
      match ← makeDirectories above with
      | .error c => return .error c
      | .ok () =>
        match ← access (IO.FS.createDir path) with
        | .ok () => return .ok ()
        | .error c => return if ← isDirectory path then .ok () else .error c
    | .error c => return if ← isDirectory path then .ok () else .error c

/-- The file system of the machine. -/
def machine : FileSystem IO where
  pathExists path := succeeds (IO.FS.realPath path)
  isDirectory := isDirectory
  readText := readText
  entryNames path := access (entryNames path)
  makeDirectories path := makeDirectories (Path.ancestors path)
  writeText path text := access (IO.FS.writeFile path text)

end GuardedCrud.Program

/-- Run the program, print what it gives and end with its code. -/
def main (args : List String) : IO UInt32 := do
  let outcome ← GuardedCrud.CommandLine.run GuardedCrud.Program.machine args
  (← IO.getStdout).putStr outcome.stdout
  (← IO.getStderr).putStr outcome.stderr
  return outcome.code
