import GuardedCrud.Storage.Tree

/-!
# File systems and stores

What the command line needs of a file system, in any monad.  A tree of files is one.

A store keeps texts under paths.  A map from paths to texts is one, and so is a directory of a file system.
-/

namespace GuardedCrud.Storage

/-- Access to files and directories. -/
structure FileSystem (m : Type → Type) where
  pathExists : String → m Bool
  isDirectory : String → m Bool
  readText : String → m (Except Cause String)
  /-- The names of what is in a directory, in any order. -/
  entryNames : String → m (Except Cause (List String))
  /-- Make a directory and what is missing above it. -/
  makeDirectories : String → m (Except Cause Unit)
  writeText : String → String → m (Except Cause Unit)

namespace FileSystem

/-- Change a tree unless the change is refused. -/
def change (f : Tree → Except Cause Tree) : StateM Tree (Except Cause Unit) := fun t =>
  match f t with
  | .ok changed => (.ok (), changed)
  | .error c => (.error c, t)

/-- A tree of files as a file system. -/
def ofTree : FileSystem (StateM Tree) where
  pathExists path := fun t => (t.pathExists path, t)
  isDirectory path := fun t => (t.isDirectory path, t)
  readText path := fun t => (t.readText path, t)
  entryNames path := fun t => (t.entryNames path, t)
  makeDirectories path := fun t => t.makeDirectories (Path.ancestors path)
  writeText path text := change fun t => t.write path text.toUTF8

variable {m : Type → Type} [Monad m]

/-- Write a file after making the directories that are missing above it. -/
def save (fs : FileSystem m) (path text : String) : m (Except StorageFault Unit) := do
  let written : m (Except StorageFault Unit) := do
    match ← fs.writeText path text with
    | .ok () => return .ok ()
    | .error c => return .error ⟨path, c⟩
  match Path.parent? path with
  | none => written
  | some parent =>
    match ← fs.makeDirectories parent with
    | .ok () => written
    | .error c => return .error ⟨parent, c⟩

end FileSystem

/-! ### Stores -/

/-- Texts under paths. -/
structure Store (m : Type → Type) where
  has : String → m Bool
  write : String → String → m (Except StorageFault Unit)

/-- A map from paths to texts. -/
abbrev TextMap := List (String × String)

namespace TextMap

/-- The text under a path. -/
def get? (texts : TextMap) (path : String) : Option String := texts.lookup path

/-- The map with another text under a path. -/
def insert (path text : String) : TextMap → TextMap
  | [] => [(path, text)]
  | (other, old) :: rest =>
    if other = path then (path, text) :: rest else (other, old) :: insert path text rest

end TextMap

namespace Store

/-- A map as a store, which refuses some paths. -/
def ofTextMap (refusal : String → Option Cause) : Store (StateM TextMap) where
  has path := fun texts => ((texts.get? path).isSome, texts)
  write path text := fun texts =>
    match refusal path with
    | some cause => (.error ⟨path, cause⟩, texts)
    | none => (.ok (), TextMap.insert path text texts)

/-- A directory of a file system as a store. -/
def ofDirectory {m : Type → Type} [Monad m] (fs : FileSystem m) (directory : String) : Store m where
  has path := fs.pathExists (Path.join directory path)
  write path text := fs.save (Path.join directory path) text

end Store

end GuardedCrud.Storage
