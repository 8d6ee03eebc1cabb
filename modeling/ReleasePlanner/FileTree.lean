import ReleasePlanner.Text.Lines

/-!
# File trees

A tree of directories and files below a root.  A place in the tree is the list
of names that lead to it.  A directory is there when it was made, or when
something lies in it.  Nothing outside the tree can be reached.
-/

namespace ReleasePlanner

/-- Why something cannot be done to a file. -/
inductive FileError where
  | missing
  | isDirectory
  | notDirectory
  | alreadyThere
  | notEmpty
  | nameTooLong
  | denied
  | notText
  deriving DecidableEq, Repr

/-- The words of the operating system for a failure. -/
def FileError.message : FileError → String
  | missing => "No such file or directory"
  | isDirectory => "Is a directory"
  | notDirectory => "Not a directory"
  | alreadyThere => "File exists"
  | notEmpty => "Directory not empty"
  | nameTooLong => "File name too long"
  | denied => "Permission denied"
  | notText => "stream did not contain valid UTF-8"

/-- A place in a tree. -/
abbrev Place := List String

/-- What is found at a place. -/
inductive Node where
  | file (text : String)
  | directory
  deriving DecidableEq, Repr

/-- A tree of directories and files. -/
structure FileTree where
  /-- What is at which place.  A directory that holds something need not be listed. -/
  nodes : List (Place × Node)
  deriving DecidableEq, Repr

namespace FileTree

/-- The tree without files. -/
def empty : FileTree :=
  ⟨[]⟩

/-- Whether a place lies below another. -/
def isBelow (dir place : Place) : Bool :=
  dir.isPrefixOf place && dir.length < place.length

/-- What is at a place. -/
def node? (t : FileTree) (place : Place) : Option Node :=
  if place.isEmpty then some .directory
  else
    match t.nodes.find? fun n => n.1 == place with
    | some n => some n.2
    | none => if t.nodes.any fun n => isBelow place n.1 then some .directory else none

/-- Whether there is a directory at a place. -/
def isDirectory (t : FileTree) (place : Place) : Bool :=
  t.node? place == some .directory

/-- The files with their places. -/
def files (t : FileTree) : List (Place × String) :=
  t.nodes.filterMap fun n =>
    match n.2 with
    | .file text => some (n.1, text)
    | .directory => none

/-- The tree with something else at a place. -/
def put (t : FileTree) (place : Place) (n : Node) : FileTree :=
  if t.nodes.any fun m => m.1 == place then
    ⟨t.nodes.map fun m => if m.1 == place then (place, n) else m⟩
  else ⟨t.nodes ++ [(place, n)]⟩

/-- The tree without what is at a place and below it. -/
def erase (t : FileTree) (place : Place) : FileTree :=
  ⟨t.nodes.filter fun n => !place.isPrefixOf n.1⟩

/-- The tree of some files. -/
def ofFiles (fs : List (Place × String)) : FileTree :=
  fs.foldl (fun t f => t.put f.1 (.file f.2)) empty

/-- The places directly in a directory. -/
def children (t : FileTree) (dir : Place) : List String :=
  ((t.nodes.filter fun n => isBelow dir n.1).filterMap fun n => n.1[dir.length]?).eraseDups

/-! ## Paths -/

/-- The names of a path. -/
def pathNames (path : String) : List String :=
  ((Text.splitOn '/' path.toList).filter fun n => !n.isEmpty).map String.ofList

/-- The path of a place. -/
def pathText (place : Place) : String :=
  "/".intercalate place

/-- Goes along some names from a place.  Every place on the way must be a directory. -/
def walk (t : FileTree) : Place → List String → Except FileError Place
  | place, [] => .ok place
  | place, name :: names =>
    match t.node? place with
    | none => .error .missing
    | some (.file _) => .error .notDirectory
    | some .directory =>
      if name = "." then walk t place names
      else if name = ".." then
        if place.isEmpty then .error .missing else walk t place.dropLast names
      else if 255 < name.utf8ByteSize then .error .nameTooLong
      else walk t (place ++ [name]) names

/-- The place of a path that starts at a directory.  A path that ends in a slash must lead to a
directory if it leads to anything. -/
def locate (t : FileTree) (dir : Place) (path : String) : Except FileError Place :=
  if path.toList.head? == some '/' || path = "" then .error .missing
  else do
    let place ← t.walk dir (pathNames path)
    let mustBeDirectory := path.toList.getLast? == some '/'
    match t.node? place with
    | some (.file _) => if mustBeDirectory then .error .notDirectory else .ok place
    | some .directory => .ok place
    | none => if mustBeDirectory then .error .isDirectory else .ok place

/-! ## Reading and changing -/

/-- The text of the file at a place. -/
def read (t : FileTree) (place : Place) : Except FileError String :=
  match t.node? place with
  | some (.file text) => .ok text
  | some .directory => .error .isDirectory
  | none => .error .missing

/-- The tree with a file that has the given text. -/
def write (t : FileTree) (place : Place) (text : String) : Except FileError FileTree :=
  match t.node? place with
  | some .directory => .error .isDirectory
  | some (.file _) => .ok (t.put place (.file text))
  | none =>
    match t.node? place.dropLast with
    | some .directory => .ok (t.put place (.file text))
    | some (.file _) => .error .notDirectory
    | none => .error .missing

/-- The tree with one more directory. -/
def makeDirectory (t : FileTree) (place : Place) : Except FileError FileTree :=
  match t.node? place with
  | some _ => .error .alreadyThere
  | none =>
    match t.node? place.dropLast with
    | some .directory => .ok (t.put place .directory)
    | some (.file _) => .error .notDirectory
    | none => .error .missing

/-- The tree without what is at a place and below it.  The directory it was in stays, even when
nothing is left in it. -/
def removeAll (t : FileTree) (place : Place) : FileTree :=
  let rest := t.erase place
  if rest.isDirectory place.dropLast then rest else rest.put place.dropLast .directory

/-- The tree without the file at a place. -/
def removeFile (t : FileTree) (place : Place) : Except FileError FileTree :=
  match t.node? place with
  | some (.file _) => .ok (t.removeAll place)
  | some .directory => .error .isDirectory
  | none => .error .missing

example : (ofFiles [(["a", "b"], "x")]).node? ["a"] = some .directory := by decide

end FileTree

end ReleasePlanner
