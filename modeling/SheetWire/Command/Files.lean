import SheetWire.Text.Parts

/-!
# Files

What a command needs of the files around it, and a tree of files held in memory. A path is cut into
its names at every `/`; `.` and empty names do not count and `..` leads to the directory around.
Everything on the way to a file must be a directory. The tree stands for one directory; what lies
outside of it, above leading `..` names or on a path from the root, holds no files at first.
-/

namespace SheetWire

/-- Access to files by path. Each operation says whether it succeeded. -/
class Files (m : Type → Type) where
  /-- The text of a file. -/
  read : String → m (Option String)
  /-- Creates a directory and those around it, unless they are there. -/
  createDirectories : String → m Bool
  /-- Writes a file, which replaces one that is there. -/
  write : String → String → m Bool

/-- The names on the way to a file or directory, the outermost first. -/
abbrev TreePath := List String

/-- Files and directories in memory. -/
structure FileTree where
  files : List (TreePath × String)
  directories : List TreePath
  deriving DecidableEq, Repr

namespace FileTree

/-- The greatest number of bytes in the name of a file. -/
def nameLimit : Nat :=
  255

/-- Whether a text can be the name of a file. -/
def isName (text : String) : Bool :=
  text.utf8ByteSize ≤ nameLimit && !text.toList.contains '\x00'

/-- The name that paths from the root start with. -/
def root : String :=
  "/"

/-- The names that a path is made of. -/
def names (path : String) : List String :=
  let inner := ((path.toList.splitOn '/').map String.ofList).filter fun name =>
    name != "" && name != "."
  if path.toList.head? = some '/' then root :: inner else inner

/-- Whether a path can only be that of a directory. -/
def endsInDirectory (path : String) : Bool :=
  match (path.toList.splitOn '/').getLast? with
  | some last => last == [] || last == ['.'] || last == ['.', '.']
  | none => true

/-- Whether a path ends in `.` after the name of a directory. No directory can be created under such
a path, so it only leads to one that is there. -/
def mustExist (path : String) : Bool :=
  ((path.toList.splitOn '/').filter (· ≠ [])).getLast? == some ['.'] &&
    (names path).getLast?.any (· != "..")

/-- The directory around a directory. Around the root is the root itself. -/
def parent (path : TreePath) : TreePath :=
  if path.all (· == "..") then path ++ [".."]
  else if path = [root] then path
  else path.dropLast

/-- Whether there is a directory at a path. -/
def isDirectory (tree : FileTree) (path : TreePath) : Bool :=
  path.all (· == "..") || path == [root] || tree.directories.contains path

/-- Whether a path leads out of the directory that the tree stands for. -/
def isOutside (path : TreePath) : Bool :=
  path.head? == some ".." || path.head? == some root

/-- The file at a path. -/
def file? (tree : FileTree) (path : TreePath) : Option String :=
  tree.files.lookup path

/-- The place that names lead to from a directory. -/
def locate? (tree : FileTree) : TreePath → List String → Option TreePath
  | place, [] => some place
  | place, name :: rest =>
      if tree.isDirectory place && isName name then
        if name = ".." then locate? tree (parent place) rest
        else locate? tree (place ++ [name]) rest
      else none

/-- The text of the file at a path. -/
def readFile (tree : FileTree) (path : String) : Option String := do
  let place ← tree.locate? [] (names path)
  if endsInDirectory path then none else tree.file? place

/-- The tree with the directories that names lead through from a directory. -/
def createFrom? : FileTree → TreePath → List String → Option FileTree
  | tree, _, [] => some tree
  | tree, place, name :: rest =>
      if name = ".." then createFrom? tree (parent place) rest
      else
        let next := place ++ [name]
        if tree.isDirectory next then createFrom? tree next rest
        else if isName name && (tree.file? next).isNone then
          createFrom? { tree with directories := tree.directories ++ [next] } next rest
        else none

/-- The tree with the directory at a path and those on the way to it. -/
def createDirectories? (tree : FileTree) (path : String) : Option FileTree := do
  let names := names path
  if mustExist path then
    let tree ← createFrom? tree [] names.dropLast
    let place ← tree.locate? [] names
    if tree.isDirectory place then pure tree else none
  else createFrom? tree [] names

/-- The files of a list with one replaced or added. -/
def putFile (place : TreePath) (text : String) :
    List (TreePath × String) → List (TreePath × String)
  | [] => [(place, text)]
  | (other, held) :: rest =>
      if other = place then (place, text) :: rest else (other, held) :: putFile place text rest

/-- The tree with a text written to a path. -/
def writeFile? (tree : FileTree) (path text : String) : Option FileTree := do
  let place ← tree.locate? [] (names path)
  if endsInDirectory path || tree.isDirectory place then none
  else pure { tree with files := putFile place text tree.files }

/-- The tree with files at the given paths and the directories around them. -/
def ofFiles (files : List (String × String)) : FileTree :=
  files.foldl
    (fun tree file =>
      let place := names file.1
      let tree := (createFrom? tree [] place.dropLast).getD tree
      { tree with files := putFile place file.2 tree.files })
    ⟨[], []⟩

/-- The files inside the tree that are new or changed against an earlier one, with their paths. -/
def changes (earlier tree : FileTree) : List (String × String) :=
  (tree.files.filter fun file =>
    earlier.file? file.1 != some file.2 && !isOutside file.1).map
    fun file => ("/".intercalate file.1, file.2)

end FileTree

/-- Files in memory. -/
instance : Files (StateM FileTree) where
  read path := do
    let tree ← get
    pure (tree.readFile path)
  createDirectories path := do
    let tree ← get
    match tree.createDirectories? path with
    | some tree =>
        set tree
        pure true
    | none => pure false
  write path text := do
    let tree ← get
    match tree.writeFile? path text with
    | some tree =>
        set tree
        pure true
    | none => pure false

end SheetWire
