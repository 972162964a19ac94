import GuardedCrud.CommandLine.Arguments
import GuardedCrud.CommandLine.Failure
import GuardedCrud.Json.Printer
import GuardedCrud.Record.Encoding
import GuardedCrud.Settings.File
import GuardedCrud.Storage.Writing

/-!
# Running a command

The commands read settings and schemas from a file system and write generated files, or the settings, to it.  Nothing
is written before everything that can fail without writing has succeeded.
-/

namespace GuardedCrud.CommandLine

open GuardedCrud.Storage GuardedCrud.Json

variable {m : Type → Type} [Monad m]

/-- A part of a command, which may fail. -/
abbrev Step (m : Type → Type) := ExceptT Failure m

/-- The result of an access, with its refusal as a failure. -/
def orFail {α : Type} (failure : Cause → Failure) (access : m (Except Cause α)) : Step m α := do
  match ← (access : m _) with
  | .ok a => return a
  | .error c => throw (failure c)

/-- The settings of a file; without the file all have their defaults. -/
def loadSettings (fs : FileSystem m) (path : String) : Step m Settings := do
  if ← (fs.pathExists path : m _) then
    let text ← orFail (fun c => .storage ⟨path, c⟩) (fs.readText path)
    match Settings.ofToml? text with
    | some s => return s
    | none => throw .settingsMalformed
  else return {}

/-- Write settings to a file. -/
def saveSettings (fs : FileSystem m) (path : String) (s : Settings) : Step m Unit := do
  match ← (fs.save path s.toToml : m _) with
  | .ok () => return ()
  | .error fault => throw (.storage fault)

/-- The files below a directory, each with the steps to it, in the order in which directories are listed.  The path of
an entry that is a directory is longer than that of its directory and no longer than paths may be, so the walk ends. -/
def filesBelow (fs : FileSystem m) (path : String) : Step m (List (List String)) := do
  let names ← orFail (.unlistable path) (fs.entryNames path)
  let found ← names.mapM fun name => do
    let isDirectory ← (fs.isDirectory (Path.join path name) : m _)
    if _h : (isDirectory && Path.leadsOn path (Path.join path name)) = true then
      return (← filesBelow fs (Path.join path name)).map (name :: ·)
    else return [[name]]
  return found.flatten
termination_by Path.longestPath - path.utf8ByteSize
decreasing_by
  have hon := Path.leadsOn_iff.1 (Bool.and_eq_true_iff.1 _h).2
  omega

/-- The steps lead to a schema file. -/
def isSchemaFile (steps : List String) : Bool :=
  steps.getLast?.any (Path.hasExtension Failure.schemaExtension)

/-- The schema files among files below a directory, in the order of their paths. -/
def schemaPaths (directory : String) (files : List (List String)) : List String :=
  ((files.filter isSchemaFile).mergeSort Path.le).map fun steps => Path.join directory ("/".intercalate steps)

/-- The schema files that a path names: all below a directory, or the path itself. -/
def schemaFilesOf (fs : FileSystem m) (path : String) : Step m (List String) := do
  if ← (fs.isDirectory path : m _) then
    match schemaPaths path (← filesBelow fs path) with
    | [] => throw (.noSchemaFiles path)
    | paths => return paths
  else return [path]

/-- The schema files that paths name, in order. -/
def schemaFiles (fs : FileSystem m) : List String → Step m (List String)
  | [] => return []
  | path :: rest => do
    let files ← schemaFilesOf fs path
    return files ++ (← schemaFiles fs rest)

/-- The texts of schema files. -/
def readSchemas (fs : FileSystem m) : List String → Step m (List String)
  | [] => return []
  | path :: rest => do
    let text ← orFail (.schemaUnreadable path) (fs.readText path)
    return text :: (← readSchemas fs rest)

/-- The text of all schema files that paths name, with a line end between files. -/
def loadSchema (fs : FileSystem m) (paths : List String) : Step m String := do
  return "\n".intercalate (← readSchemas fs (← schemaFiles fs paths))

/-- Something that may not be generated, with the fault as a failure. -/
def orStop {α : Type} : Except GenerationFault α → Step m α
  | .ok a => return a
  | .error fault => throw (.generation fault)

/-- A line for each path, below a directory. -/
def pathLines (directory before after : String) (paths : List String) : String :=
  String.join (paths.map fun path => before ++ Path.join directory path ++ after ++ "\n")

/-- What is printed about written files. -/
def reportLines (directory : String) (r : Report) : String :=
  pathLines directory "wrote    " "" r.written ++
  pathLines directory "skipped  " " (exists, use --force to overwrite)" r.skipped

/-- Generate files from schemas; gives what is printed. -/
def runGenerate (fs : FileSystem m) (schemas : List String) (out : String) (force dryRun : Bool) (s : Settings) :
    Step m String := do
  let source ← loadSchema fs schemas
  let files ← orStop (generate s Schema.Structure.ofText source)
  if dryRun then return pathLines out "" "" (files.map (·.path))
  else
    let policy := if force then WritePolicy.overwrite else .skipExisting
    let progress ← (writeFiles (Store.ofDirectory fs out) policy files : m _)
    match progress.report with
    | .ok report => return reportLines out report
    | .error fault => throw (.storage fault)

/-- An operation of a model as it is shown. -/
def operationJson (s : Settings) (r : Record) (op : Access.Operation) : Value :=
  let level := r.policy.get op
  .object [
    ("operation", .string op.key), ("name", .string (r.operationName op)), ("level", level.toJson),
    ("guard", match s.guards.guard level with
      | some guard => .string guard
      | none => .null)]

/-- A model as it is shown: its record and its operations. -/
def modelJson (s : Settings) (r : Record) : Value :=
  .object (r.members ++ [("operations", .array (Access.Operation.all.map (operationJson s r)))])

/-- Show the models of schemas; gives what is printed. -/
def runInspect (fs : FileSystem m) (schemas : List String) (s : Settings) : Step m String := do
  let source ← loadSchema fs schemas
  let records ← orStop (models s Schema.Structure.ofText source)
  return (Value.array (records.map (modelJson s))).pretty 0 ++ "\n"

/-- Write a settings file with the defaults; gives what is printed. -/
def runInit (fs : FileSystem m) (path : String) (force : Bool) : Step m String := do
  let found ← (fs.pathExists path : m _)
  if found && !force then throw (.settingsExist path)
  else
    saveSettings fs path {}
    return "Wrote " ++ path ++ "\n"

/-- Run a command; gives what is printed. -/
def Invocation.run (fs : FileSystem m) (i : Invocation) : Step m String :=
  match i.command with
  | .generate schemas out force dryRun => do
    runGenerate fs schemas out force dryRun (← loadSettings fs i.config)
  | .inspect schemas => do runInspect fs schemas (← loadSettings fs i.config)
  | .init force => runInit fs i.config force

/-- What a run of the program gives. -/
structure Outcome where
  code : UInt32
  stdout : String
  stderr : String
  deriving DecidableEq, Repr

/-- What is printed about arguments that are not of the right form. -/
def usage : String := "<usage>"

/-- Run the program on its arguments. -/
def run (fs : FileSystem m) (args : List String) : m Outcome := do
  match Invocation.ofArguments? args with
  | none => return ⟨2, "", usage⟩
  | some i =>
    match ← (i.run fs).run with
    | .ok text => return ⟨0, text, ""⟩
    | .error failure => return ⟨1, "", failure.report⟩

end GuardedCrud.CommandLine
