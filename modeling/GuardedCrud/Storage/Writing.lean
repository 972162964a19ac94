import GuardedCrud.Source.FileSet
import GuardedCrud.Storage.FileSystem

/-!
# Writing generated files to a store

Files are written in order.  Under the policy that keeps what exists, a file whose path the store has is skipped.  The
first refused file ends the writing.
-/

namespace GuardedCrud.Storage

open GuardedCrud.Source

/-- What happens to a file whose path the store has. -/
inductive WritePolicy
  | skipExisting
  | overwrite
  deriving DecidableEq, Repr

/-- What happened to a file. -/
inductive Fate
  | written
  | skipped
  deriving DecidableEq, Repr

/-- What happened to the files up to the first refused one. -/
structure Progress where
  done : List (SourceFile × Fate)
  refused : Option StorageFault
  deriving DecidableEq, Repr

/-- The paths of the written and of the skipped files. -/
structure Report where
  written : List String
  skipped : List String
  deriving DecidableEq, Repr

namespace Progress

/-- Progress with one more file in front. -/
def cons (file : SourceFile) (fate : Fate) (p : Progress) : Progress := { p with done := (file, fate) :: p.done }

/-- The paths of the files of a fate. -/
def paths (p : Progress) (fate : Fate) : List String := (p.done.filter fun d => d.2 = fate).map fun d => d.1.path

/-- The report, if every file was done. -/
def report (p : Progress) : Except StorageFault Report :=
  match p.refused with
  | some fault => .error fault
  | none => .ok ⟨p.paths .written, p.paths .skipped⟩

/-- What is reported about a file. -/
def fileEvent : SourceFile × Fate → Event
  | (file, .written) =>
    ⟨.debug, "wrote " ++ file.path ++ " (" ++ Nat.repr file.content.utf8ByteSize ++ " bytes)"⟩
  | (file, .skipped) => ⟨.debug, file.path ++ " exists, skipping"⟩

/-- What is reported about the files and, if all are done, about their number. -/
def events (p : Progress) : List Event :=
  p.done.map fileEvent ++
  match p.refused with
  | some _ => []
  | none =>
    [⟨.info, Nat.repr (p.paths .written).length ++ " file(s) written, " ++
      Nat.repr (p.paths .skipped).length ++ " skipped"⟩]

end Progress

variable {m : Type → Type} [Monad m]

/-- Write files to a store in order. -/
def writeFiles (store : Store m) (policy : WritePolicy) : FileSet → m Progress
  | [] => return ⟨[], none⟩
  | file :: rest => do
    let skips ← if policy = .skipExisting then store.has file.path else pure false
    if skips then
      return (← writeFiles store policy rest).cons file .skipped
    else
      match ← store.write file.path file.content with
      | .ok () => return (← writeFiles store policy rest).cons file .written
      | .error fault => return ⟨[], some fault⟩

end GuardedCrud.Storage
