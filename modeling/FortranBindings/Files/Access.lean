/-!
# Access to files

What the program does with files, for any monad that files can be used in. `FileTree` is such a
monad whose effects are visible to proofs; the command line uses the real one.
-/

namespace FortranBindings

/-- What comes of making one directory. -/
inductive Making
  | made
  /-- A directory that it would lie in is missing. -/
  | missing
  /-- There is something already, or there cannot be anything. -/
  | refused
  deriving DecidableEq, Repr

/-- The operations on files that are needed. -/
structure FileAccess (m : Type → Type) where
  /-- The text of a file, or none if it cannot be read as text. -/
  read (path : String) : m (Option String)
  /-- Write a file in place of any other. Was it possible? -/
  write (path text : String) : m Bool
  /-- Make a directory in one that is there. -/
  makeDirectory (path : String) : m Making
  /-- Does a path lead to a directory? -/
  isDirectory (path : String) : m Bool

/-- The path of a file in a directory. A name that starts at the root stands for itself. -/
def joinPath (directory name : String) : String :=
  if directory.isEmpty || name.startsWith "/" then name
  else if directory.endsWith "/" then directory ++ name
  else directory ++ "/" ++ name

/-- Does a name in a path stay where it is? -/
def isStay (name : String) : Bool := name == "" || name == "."

/-- The paths up to each name that does not stay where it is, the longest first, from the names of a
path in reverse. -/
def stems : List String → List String
  | [] => []
  | name :: rest =>
    if isStay name then stems rest
    else "/".intercalate (name :: rest).reverse :: stems rest

/-- The paths of the directories that the end of a path lies in, the innermost first. -/
def around (path : String) : List String :=
  (stems (path.splitOn "/").reverse).tail

section

variable {m : Type → Type} [Monad m] (files : FileAccess m)

/-- Make the first of some directories, each of which lies in the next one. Those around it are made
only if one of them is missing. -/
def makeNested : List String → m Bool
  | [] => return true
  | path :: outer => do
    match ← files.makeDirectory path with
    | .made => return true
    | .refused => files.isDirectory path
    | .missing =>
      if ← makeNested outer then
        match ← files.makeDirectory path with
        | .made => return true
        | .missing | .refused => files.isDirectory path
      else return false

/-- Make a directory and those around it unless they are there. Was it possible? -/
def makeDirectories (path : String) : m Bool :=
  if path.isEmpty then return true else makeNested files (path :: around path)

end

end FortranBindings
