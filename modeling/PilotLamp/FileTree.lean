/-!
# Files below a directory

A tree of files and directories, known by their paths, in which a path is looked up as an
operating system does. Every part of a path but the last must be a directory; a part that is
empty or a dot stays where it is, and two dots go up. A path that starts with a slash is looked up
among the directories that every system has.
-/

namespace PilotLamp

/-- Why a file cannot be read as text. -/
inductive ReadFailure
  /-- There is nothing under the path. -/
  | notFound
  /-- The path leads to a directory. -/
  | isDirectory
  /-- The path goes on below a file. -/
  | notDirectory
  /-- The path, or a part of it, is too long. -/
  | nameTooLong
  /-- The path holds a character that no path may hold. -/
  | invalidPath
  /-- The file is not UTF-8 text. -/
  | notText
deriving DecidableEq, Repr

/-- What is under a path. -/
inductive FileEntry
  /-- A file with its bytes. -/
  | file (bytes : ByteArray)
  /-- A directory. -/
  | directory

/-- Files and directories below a directory, each with the parts of its path. -/
structure FileTree where
  /-- The entries. -/
  entries : List (List String × FileEntry)

namespace FileTree

/-- A tree without entries. -/
def empty : FileTree := ⟨[]⟩

/-- The directories that every system has, and the device that reads as nothing. -/
def system : FileTree where
  entries := [(["dev", "null"], .file .empty), (["bin"], .directory), (["etc"], .directory),
    (["home"], .directory), (["proc"], .directory), (["root"], .directory),
    (["sys"], .directory), (["tmp"], .directory), (["usr"], .directory), (["var"], .directory)]

/-- Where a path leads. -/
inductive Place
  /-- To what is under a path inside the tree. -/
  | inside (path : List String) (entry : FileEntry)
  /-- To what is under a path of the system. -/
  | ofSystem (path : List String) (entry : FileEntry)
  /-- To a directory above the tree. -/
  | above

/-- What is under the parts of a path; a directory with entries below it needs no entry. -/
def find? (tree : FileTree) (path : List String) : Option FileEntry :=
  if path.isEmpty then some .directory
  else
    match tree.entries.lookup path with
    | some entry => some entry
    | none =>
      if tree.entries.any fun entry => path.isPrefixOf entry.1 then some .directory else none

/-- The most bytes that a part of a path may have. -/
def maxPartSize : Nat := 255

/-- The most bytes that a path may have. -/
def maxPathSize : Nat := 4095

/-- What is under a part of a path below a directory. -/
def enter (tree : FileTree) (path : List String) (part : String) :
    Except ReadFailure FileEntry :=
  if maxPartSize < part.utf8ByteSize then .error .nameTooLong
  else
    match tree.find? (path ++ [part]) with
    | some entry => .ok entry
    | none => .error .notFound

/-- Goes on from a place by one part of a path. -/
def step (tree : FileTree) (place : Place) (part : String) : Except ReadFailure Place :=
  match place with
  | .inside _ (.file _) | .ofSystem _ (.file _) => .error .notDirectory
  | .inside path .directory =>
    if part = "" ∨ part = "." then .ok place
    else if part = ".." then
      if path.isEmpty then .ok .above else .ok (.inside path.dropLast .directory)
    else (tree.enter path part).map (.inside (path ++ [part]))
  | .ofSystem path .directory =>
    if part = "" ∨ part = "." then .ok place
    else if part = ".." then .ok (.ofSystem path.dropLast .directory)
    else (system.enter path part).map (.ofSystem (path ++ [part]))
  | .above =>
    if part = "" ∨ part = "." ∨ part = ".." then .ok .above
    else (empty.enter [] part).map fun _ => .above

/-- The parts of a path between slashes. -/
def parts (path : String) : List String :=
  (path.toList.splitOn '/').map String.ofList

/-- Where a path leads. -/
def locate (tree : FileTree) (path : String) : Except ReadFailure Place :=
  if path.toList.contains '\x00' then .error .invalidPath
  else if path.isEmpty then .error .notFound
  else if maxPathSize < path.utf8ByteSize then .error .nameTooLong
  else
    let start :=
      if path.toList.head? = some '/' then Place.ofSystem [] .directory
      else .inside [] .directory
    (parts path).foldlM tree.step start

/-- Reads the text of the file under a path. -/
def readText (tree : FileTree) (path : String) : Except ReadFailure String := do
  match ← tree.locate path with
  | .inside _ (.file bytes) | .ofSystem _ (.file bytes) =>
    match String.fromUTF8? bytes with
    | some text => .ok text
    | none => .error .notText
  | .inside _ .directory | .ofSystem _ .directory | .above => .error .isDirectory

end FileTree

end PilotLamp
