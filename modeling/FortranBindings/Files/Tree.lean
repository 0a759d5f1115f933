import FortranBindings.Files.Access

/-!
# File trees

A file tree is what a file system holds: directories, and files with their bytes. A place in it is
the list of the names that lead there from the root. A path is followed from the directory that
relative paths start at, through directories only. Paths and names have the limits of the usual file
systems.
-/

namespace FortranBindings

/-- A place in a file tree: the names from the root on. -/
abbrev Place := List String

/-- Directories and files. -/
structure FileTree where
  /-- Where relative paths start. -/
  home : Place := []
  /-- The directories below the root. -/
  directories : List Place := []
  files : List (Place × ByteArray) := []

namespace FileTree

/-- Why a path cannot be followed. -/
inductive Obstacle
  /-- There is nothing at a place on the way. -/
  | missing
  /-- There is something else, or there cannot be anything. -/
  | barred
  deriving DecidableEq, Repr

/-- Is there a directory at a place? -/
def isDirectory (tree : FileTree) (place : Place) : Bool :=
  place.isEmpty || tree.directories.contains place

/-- The bytes of the file at a place. -/
def file? (tree : FileTree) (place : Place) : Option ByteArray :=
  tree.files.lookup place

/-- May a path be as long as this, and has it no null character? -/
def isPath (path : String) : Bool :=
  path.utf8ByteSize < 4096 && !path.contains '\x00'

/-- May a file or directory have a name of this length? -/
def isName (name : String) : Bool := name.utf8ByteSize ≤ 255

/-- Where a path starts, and the names that it goes through. -/
def start (tree : FileTree) (path : String) : Place × List String :=
  (if path.startsWith "/" then [] else tree.home, path.splitOn "/")

/-- The directory that some names lead to. -/
def walk (tree : FileTree) (here : Place) : List String → Except Obstacle Place
  | [] => .ok here
  | name :: rest =>
    if isStay name then tree.walk here rest
    else if name = ".." then tree.walk here.dropLast rest
    else
      let next := here ++ [name]
      if !isName name then .error .barred
      else if tree.isDirectory next then tree.walk next rest
      else if (tree.file? next).isSome then .error .barred
      else .error .missing

/-- The place that some names lead to if the last one can be that of a file or directory. There need
not be anything yet. -/
def entry (tree : FileTree) (here : Place) (names : List String) : Except Obstacle Place :=
  match names.getLast? with
  | none => .error .barred
  | some last => do
    let directory ← tree.walk here names.dropLast
    if isStay last || last == ".." || !isName last then throw .barred
    return directory ++ [last]

/-- The place of the file that a path leads to. -/
def place? (tree : FileTree) (path : String) : Option Place :=
  let (here, names) := tree.start path
  if isPath path then (tree.entry here names).toOption else none

/-- The text of a file, or none if there is no file or it is not encoded as text. -/
def read (tree : FileTree) (path : String) : Option String := do
  String.fromUTF8? (← tree.file? (← tree.place? path))

/-- Put bytes into the file at a place. -/
def put (tree : FileTree) (place : Place) (bytes : ByteArray) : FileTree :=
  { tree with files := tree.files.filter (·.1 ≠ place) ++ [(place, bytes)] }

/-- Write a file, if its path leads into a directory and to no directory. -/
def write (tree : FileTree) (path text : String) : Bool × FileTree :=
  match tree.place? path with
  | some place =>
    if tree.isDirectory place then (false, tree) else (true, tree.put place text.toUTF8)
  | none => (false, tree)

/-- Does a path lead to a directory? -/
def reachesDirectory (tree : FileTree) (path : String) : Bool :=
  let (here, names) := tree.start path
  !path.isEmpty && isPath path && (tree.walk here names).isOk

/-- Make a directory in one that is there. Empty names at the end of its path do not count. -/
def makeDirectory (tree : FileTree) (path : String) : Making × FileTree :=
  let (here, names) := tree.start path
  if !isPath path then (.refused, tree)
  else
    match tree.entry here (names.reverse.dropWhile (· == "")).reverse with
    | .error .missing => (.missing, tree)
    | .error .barred => (.refused, tree)
    | .ok place =>
      if tree.isDirectory place || (tree.file? place).isSome then (.refused, tree)
      else (.made, { tree with directories := tree.directories ++ [place] })

/-- The operations on files as changes of a tree. -/
def access : FileAccess (StateM FileTree) where
  read path := return (← get).read path
  write path text := modifyGet (·.write path text)
  makeDirectory path := modifyGet (·.makeDirectory path)
  isDirectory path := return (← get).reachesDirectory path

/-- The files below a place: the names of each from that place on, and its bytes. -/
def filesBelow (tree : FileTree) (place : Place) : List (Place × ByteArray) :=
  tree.files.filterMap fun (file, bytes) =>
    if place.isPrefixOf file then some (file.drop place.length, bytes) else none

end FileTree

end FortranBindings
