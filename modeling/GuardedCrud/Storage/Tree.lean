import GuardedCrud.Storage.Path

/-!
# A tree of files

Files and directories below a root, with a working directory.  A path is walked step by step; every step needs a
directory to stand in, also a step to itself or upwards.
-/

namespace GuardedCrud.Storage

/-- A file with its content, or a directory with its entries in the order in which they are listed. -/
inductive Node
  | file (content : ByteArray)
  | directory (entries : List (String × Node))

instance : Inhabited Node := ⟨.directory []⟩

namespace Node

/-- The entries of a directory; a file has none. -/
def entries : Node → List (String × Node)
  | file _ => []
  | directory es => es

/-- The node is a directory. -/
def isDirectory : Node → Bool
  | file _ => false
  | directory _ => true

/-- The node at the end of some steps. -/
def at? : Node → List String → Option Node
  | n, [] => some n
  | n, name :: rest => (n.entries.lookup name).bind fun child => child.at? rest

/-- Entries with a node under a name, in its place or at the end. -/
def putEntry (name : String) (n : Node) (es : List (String × Node)) : List (String × Node) :=
  if (es.lookup name).isSome then es.map fun (k, old) => if k = name then (k, n) else (k, old)
  else es ++ [(name, n)]

/-- The tree with another node at the end of some steps, all but the last of which must be there. -/
def put (value : Node) : List String → Node → Node
  | [], _ => value
  | name :: rest, n =>
    match n with
    | file content => file content
    | directory es => directory (putEntry name (put value rest ((es.lookup name).getD (directory []))) es)

mutual

/-- All nodes below a directory with their paths, a directory's with a slash at its end. -/
def listing (base : String) : Node → List (String × Option ByteArray)
  | file _ => []
  | directory es => listEntries base es

/-- The listing of some entries. -/
def listEntries (base : String) : List (String × Node) → List (String × Option ByteArray)
  | [] => []
  | (name, file content) :: rest => (base ++ name, some content) :: listEntries base rest
  | (name, directory es) :: rest =>
    (base ++ name ++ "/", none) :: (listEntries (base ++ name ++ "/") es ++ listEntries base rest)

end

end Node

/-- A tree of files and the steps from its root to the working directory. -/
structure Tree where
  root : Node
  working : List String

namespace Tree

/-- The node of a name among the entries of a directory, if there is one. -/
def entry? (es : List (String × Node)) (name : String) : Except Cause (Option Node) :=
  if Path.longestStep < name.utf8ByteSize then .error .nameTooLong else .ok (es.lookup name)

/-- One step from a place, which is given by the steps to it from the root. -/
def step (t : Tree) (place : List String) (name : String) : Except Cause (List String) :=
  match t.root.at? place with
  | some (.directory es) =>
    if name = "." then .ok place
    else if name = ".." then .ok place.dropLast
    else
      match entry? es name with
      | .error c => .error c
      | .ok none => .error .noEntry
      | .ok (some _) => .ok (place ++ [name])
  | _ => .error .notDirectory

/-- The place where some steps of a path lead. -/
def walk (t : Tree) (path : String) (steps : List String) : Except Cause (List String) :=
  steps.foldlM t.step (if Path.isAbsolute path then [] else t.working)

/-- The node that a path leads to. -/
def node? (t : Tree) (path : String) : Except Cause Node :=
  match Path.refusal? path with
  | some c => .error c
  | none =>
    match t.walk path (Path.components path) with
    | .error c => .error c
    | .ok place =>
      match t.root.at? place with
      | none => .error .noEntry
      | some n => if Path.endsInSlash path && !n.isDirectory then .error .notDirectory else .ok n

/-- The path leads to something. -/
def pathExists (t : Tree) (path : String) : Bool := (t.node? path).toOption.isSome

/-- The path leads to a directory. -/
def isDirectory (t : Tree) (path : String) : Bool := (t.node? path).toOption.any Node.isDirectory

/-- The content of a file. -/
def read (t : Tree) (path : String) : Except Cause ByteArray :=
  match t.node? path with
  | .error c => .error c
  | .ok (.file content) => .ok content
  | .ok (.directory _) => .error .isDirectory

/-- The content of a file as text. -/
def readText (t : Tree) (path : String) : Except Cause String :=
  match t.read path with
  | .error c => .error c
  | .ok content =>
    match String.fromUTF8? content with
    | some text => .ok text
    | none => .error .notText

/-- The names of the entries of a directory. -/
def entryNames (t : Tree) (path : String) : Except Cause (List String) :=
  match t.node? path with
  | .error c => .error c
  | .ok (.file _) => .error .notDirectory
  | .ok (.directory es) => .ok (es.map (·.1))

/-- The tree with a node at a place. -/
def put (t : Tree) (place : List String) (n : Node) : Tree := { t with root := Node.put n place t.root }

/-- The last step of a path, where it would make something new. -/
structure Target where
  /-- The directory that the step starts from. -/
  place : List String
  entries : List (String × Node)
  name : String

namespace Target

/-- What the step reaches, if anything. -/
def node? (target : Target) : Except Cause (Option Node) := entry? target.entries target.name

/-- Where the step leads. -/
def path (target : Target) : List String := target.place ++ [target.name]

end Target

/-- The last step of a path; `atTop` is the refusal for one that cannot make anything new. -/
def target (t : Tree) (path : String) (atTop : Cause) : Except Cause Target :=
  match Path.refusal? path with
  | some c => .error c
  | none =>
    match (Path.components path).reverse with
    | [] => .error atTop
    | name :: before =>
      match t.walk path before.reverse with
      | .error c => .error c
      | .ok place =>
        match t.root.at? place with
        | some (.directory es) => if name = "." ∨ name = ".." then .error atTop else .ok ⟨place, es, name⟩
        | _ => .error .notDirectory

/-- Make one directory, in a directory that is there. -/
def makeDirectory (t : Tree) (path : String) : Except Cause Tree :=
  match t.target path .exists with
  | .error c => .error c
  | .ok target =>
    match target.node? with
    | .error c => .error c
    | .ok (some _) => .error .exists
    | .ok none => .ok (t.put target.path (.directory []))

/-- Make a directory and what is missing above it, given with the directories above it.  What was made stays also
where a later step is refused. -/
def makeDirectories (t : Tree) : List String → Except Cause Unit × Tree
  | [] => (.ok (), t)
  | path :: above =>
    match t.makeDirectory path with
    | .ok made => (.ok (), made)
    | .error .noEntry =>
      match t.makeDirectories above with
      | (.error c, made) => (.error c, made)
      | (.ok (), made) =>
        match made.makeDirectory path with
        | .ok done => (.ok (), done)
        | .error c => (if made.isDirectory path then .ok () else .error c, made)
    | .error c => (if t.isDirectory path then .ok () else .error c, t)

/-- Write a file into a directory that is there, in place of its old content. -/
def write (t : Tree) (path : String) (content : ByteArray) : Except Cause Tree :=
  match t.target path .isDirectory with
  | .error c => .error c
  | .ok target =>
    if Path.endsInSlash path then .error .isDirectory
    else
      match target.node? with
      | .error c => .error c
      | .ok old =>
        if old.any Node.isDirectory then .error .isDirectory
        else .ok (t.put target.path (.file content))

/-- The files and directories below a place. -/
def listing (t : Tree) (place : List String) : List (String × Option ByteArray) :=
  ((t.root.at? place).map (Node.listing "")).getD []

end Tree

/-- The entries of a listing that another one does not have in the same way. -/
def changes (before after : List (String × Option ByteArray)) : List (String × Option ByteArray) :=
  after.filter fun (path, content) => before.lookup path != some content

end GuardedCrud.Storage
